import HttpExchange.Text.Utf8

/-!
# Reading back what was written in UTF-8

The bytes of a character lead the reader from between two characters through as
many states as there are bytes and back, and the bits it collects on the way are
those of the character. So reading a written text gives that text.

## Main results

* `decodeFrom_charBytes` — the bytes of one character give that character.
* `decode_encode` — reading inverts writing.
-/

namespace HttpExchange.Utf8

/-- A byte after the first of a character, with the last six bits of a number. -/
def tailByte (v : Nat) : UInt8 := UInt8.ofNat (v % 64 + 0x80)

theorem toNat_tailByte (v : Nat) : (tailByte v).toNat = v % 64 + 0x80 := by
  rw [tailByte, UInt8.toNat_ofNat']
  omega

theorem toNat_ofNat_of_lt {n : Nat} (h : n < 256) : (UInt8.ofNat n).toNat = n := by
  rw [UInt8.toNat_ofNat']
  omega

/-! ## Single bytes -/

theorem tail_low (v : Nat) : (0x80 : UInt8).toNat ≤ v % 64 + 0x80 := Nat.le_add_left _ _

theorem tail_high (v : Nat) : v % 64 + 0x80 ≤ (0xBF : UInt8).toNat := by
  show v % 64 + 0x80 ≤ 0xBF
  omega

/-- The last byte of a character. -/
theorem decodeFrom_last {bits v : Nat} {low high : UInt8} (hlow : low.toNat ≤ v % 64 + 0x80)
    (hhigh : v % 64 + 0x80 ≤ high.toNat) (rest : List UInt8) :
    decodeFrom (.within bits 0 low high) (tailByte v :: rest) =
      Char.ofNat (bits * 64 + v % 64) :: decodeFrom .start rest := by
  have hbounds : low ≤ tailByte v ∧ tailByte v ≤ high := by
    rw [UInt8.le_iff_toNat_le, UInt8.le_iff_toNat_le, toNat_tailByte]
    exact ⟨hlow, hhigh⟩
  rw [decodeFrom, step, if_pos hbounds, toNat_tailByte, Nat.add_sub_cancel]
  rfl

/-- A byte inside a character. -/
theorem decodeFrom_inner {bits left v : Nat} {low high : UInt8}
    (hlow : low.toNat ≤ v % 64 + 0x80) (hhigh : v % 64 + 0x80 ≤ high.toNat)
    (rest : List UInt8) :
    decodeFrom (.within bits (left + 1) low high) (tailByte v :: rest) =
      decodeFrom (.within (bits * 64 + v % 64) left 0x80 0xBF) rest := by
  have hbounds : low ≤ tailByte v ∧ tailByte v ≤ high := by
    rw [UInt8.le_iff_toNat_le, UInt8.le_iff_toNat_le, toNat_tailByte]
    exact ⟨hlow, hhigh⟩
  rw [decodeFrom, step, if_pos hbounds, toNat_tailByte, Nat.add_sub_cancel]
  rfl

theorem decodeFrom_lead {b : UInt8} {s : State} (h : State.ofLead b = some (.inr s))
    (rest : List UInt8) : decodeFrom .start (b :: rest) = decodeFrom s rest := by
  rw [decodeFrom, step, lead, h]
  rfl

/-! ## Characters -/

/-- The bytes of the character with some number. -/
def charBytes (v : Nat) : List UInt8 :=
  if v ≤ 0x7F then [UInt8.ofNat v]
  else if v ≤ 0x7FF then [UInt8.ofNat (v / 64 % 32 + 0xC0), tailByte v]
  else if v ≤ 0xFFFF then
    [UInt8.ofNat (v / 4096 % 16 + 0xE0), tailByte (v / 64), tailByte v]
  else
    [UInt8.ofNat (v / 262144 % 8 + 0xF0), tailByte (v / 4096), tailByte (v / 64), tailByte v]

theorem utf8EncodeChar_eq (c : Char) : String.utf8EncodeChar c = charBytes c.toNat := rfl

theorem decodeFrom_one {v : Nat} (h : v ≤ 0x7F) (rest : List UInt8) :
    decodeFrom .start (UInt8.ofNat v :: rest) = Char.ofNat v :: decodeFrom .start rest := by
  have hlead : State.ofLead (UInt8.ofNat v) = some (.inl (Char.ofNat v)) := by
    rw [State.ofLead, toNat_ofNat_of_lt (by omega)]
    exact if_pos (by omega)
  rw [decodeFrom, step, lead, hlead]
  rfl

theorem decodeFrom_two {v : Nat} (hmin : 0x7F < v) (hmax : v ≤ 0x7FF) (rest : List UInt8) :
    decodeFrom .start (UInt8.ofNat (v / 64 % 32 + 0xC0) :: tailByte v :: rest) =
      Char.ofNat v :: decodeFrom .start rest := by
  have hlead : State.ofLead (UInt8.ofNat (v / 64 % 32 + 0xC0)) =
      some (.inr (.within (v / 64) 0 0x80 0xBF)) := by
    simp only [State.ofLead, toNat_ofNat_of_lt (by omega : v / 64 % 32 + 0xC0 < 256)]
    rw [if_neg (by omega), if_neg (by omega), if_pos (by omega),
      (by omega : v / 64 % 32 + 0xC0 - 0xC0 = v / 64)]
  rw [decodeFrom_lead hlead, decodeFrom_last (tail_low v) (tail_high v),
    (by omega : v / 64 * 64 + v % 64 = v)]

/-- The first of three bytes allows the second one, surrogates being no characters. -/
theorem exists_lead_three {v : Nat} (hmin : 0x7FF < v) (hmax : v ≤ 0xFFFF)
    (hvalid : v < 0xD800 ∨ 0xDFFF < v) :
    ∃ low high : UInt8,
      State.ofLead (UInt8.ofNat (v / 4096 % 16 + 0xE0)) =
        some (.inr (.within (v / 4096) 1 low high)) ∧
      low.toNat ≤ v / 64 % 64 + 0x80 ∧ v / 64 % 64 + 0x80 ≤ high.toNat := by
  simp only [State.ofLead, toNat_ofNat_of_lt (by omega : v / 4096 % 16 + 0xE0 < 256)]
  rw [if_neg (by omega), if_neg (by omega), if_neg (by omega)]
  by_cases hzero : v / 4096 = 0
  · refine ⟨0xA0, 0xBF, ?_, ?_, ?_⟩
    · rw [if_pos (by omega), hzero]
    · show 0xA0 ≤ v / 64 % 64 + 0x80
      omega
    · show v / 64 % 64 + 0x80 ≤ 0xBF
      omega
  · rw [if_neg (by omega)]
    by_cases hsurrogate : v / 4096 = 0xD
    · refine ⟨0x80, 0x9F, ?_, ?_, ?_⟩
      · rw [if_pos (by omega), hsurrogate]
      · exact Nat.le_add_left _ _
      · show v / 64 % 64 + 0x80 ≤ 0x9F
        omega
    · refine ⟨0x80, 0xBF, ?_, ?_, ?_⟩
      · rw [if_neg (by omega), if_pos (by omega),
          (by omega : v / 4096 % 16 + 0xE0 - 0xE0 = v / 4096)]
      · exact Nat.le_add_left _ _
      · show v / 64 % 64 + 0x80 ≤ 0xBF
        omega

/-- The first of four bytes allows the second one. -/
theorem exists_lead_four {v : Nat} (hmin : 0xFFFF < v) (hmax : v < 0x110000) :
    ∃ low high : UInt8,
      State.ofLead (UInt8.ofNat (v / 262144 % 8 + 0xF0)) =
        some (.inr (.within (v / 262144) 2 low high)) ∧
      low.toNat ≤ v / 4096 % 64 + 0x80 ∧ v / 4096 % 64 + 0x80 ≤ high.toNat := by
  simp only [State.ofLead, toNat_ofNat_of_lt (by omega : v / 262144 % 8 + 0xF0 < 256)]
  rw [if_neg (by omega), if_neg (by omega), if_neg (by omega), if_neg (by omega),
    if_neg (by omega), if_neg (by omega)]
  by_cases hzero : v / 262144 = 0
  · refine ⟨0x90, 0xBF, ?_, ?_, ?_⟩
    · rw [if_pos (by omega), hzero]
    · show 0x90 ≤ v / 4096 % 64 + 0x80
      omega
    · show v / 4096 % 64 + 0x80 ≤ 0xBF
      omega
  · rw [if_neg (by omega)]
    by_cases hlast : v / 262144 = 4
    · refine ⟨0x80, 0x8F, ?_, ?_, ?_⟩
      · rw [if_neg (by omega), if_pos (by omega), hlast]
      · exact Nat.le_add_left _ _
      · show v / 4096 % 64 + 0x80 ≤ 0x8F
        omega
    · refine ⟨0x80, 0xBF, ?_, ?_, ?_⟩
      · rw [if_pos (by omega), (by omega : v / 262144 % 8 + 0xF0 - 0xF0 = v / 262144)]
      · exact Nat.le_add_left _ _
      · show v / 4096 % 64 + 0x80 ≤ 0xBF
        omega

/-- **The bytes of one character give that character**, whatever follows them. -/
theorem decodeFrom_charBytes {v : Nat} (hvalid : v.isValidChar) (rest : List UInt8) :
    decodeFrom .start (charBytes v ++ rest) = Char.ofNat v :: decodeFrom .start rest := by
  have hrange : v < 0xD800 ∨ 0xDFFF < v ∧ v < 0x110000 := hvalid
  unfold charBytes
  split
  · next hone => exact decodeFrom_one hone rest
  · split
    · next hone htwo => exact decodeFrom_two (by omega) htwo rest
    · split
      · next hone htwo hthree =>
          obtain ⟨low, high, hlead, hlow, hhigh⟩ :=
            exists_lead_three (v := v) (by omega) hthree (by omega)
          simp only [List.cons_append, List.nil_append]
          rw [decodeFrom_lead hlead, decodeFrom_inner hlow hhigh,
            decodeFrom_last (tail_low v) (tail_high v),
            (by omega : (v / 4096 * 64 + v / 64 % 64) * 64 + v % 64 = v)]
      · next hone htwo hthree =>
          obtain ⟨low, high, hlead, hlow, hhigh⟩ :=
            exists_lead_four (v := v) (by omega) (by omega)
          simp only [List.cons_append, List.nil_append]
          rw [decodeFrom_lead hlead, decodeFrom_inner hlow hhigh,
            decodeFrom_inner (tail_low (v / 64)) (tail_high (v / 64)),
            decodeFrom_last (tail_low v) (tail_high v),
            (by omega : ((v / 262144 * 64 + v / 4096 % 64) * 64 + v / 64 % 64) * 64 + v % 64 = v)]

/-- **Reading inverts writing.** -/
theorem decode_encode (t : Text) : decode (encode t) = t := by
  unfold decode encode
  induction t with
  | nil => rfl
  | cons c t ih =>
      have hvalid : c.toNat.isValidChar := c.valid
      rw [List.flatMap_cons, utf8EncodeChar_eq, decodeFrom_charBytes hvalid, ih, Char.ofNat_toNat]

end HttpExchange.Utf8
