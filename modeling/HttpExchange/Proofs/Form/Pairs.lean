import HttpExchange.Form.Pairs
import HttpExchange.Proofs.Text.Split
import HttpExchange.Proofs.Text.Utf8
import HttpExchange.Text.Blank

/-!
# Pairs read back as they were written

A component is written byte by byte in characters that mean nothing between
components, so the separators that are found are those that were put. Each byte
is read back from what it was written as, and the bytes give the component.

## Main results

* `decodeComponent_encodeComponent` — reading a component inverts writing it.
* `readPairs_writePairs` — the pairs of a written form are those that were written.
-/

namespace HttpExchange

/-- The characters that mean something in a form text. -/
def Form.marks : List Char := ['+', '&', '=']

/-! ## Single bytes -/

namespace Utf8

@[simp] theorem encode_append (s t : Text) : encode (s ++ t) = encode s ++ encode t :=
  List.flatMap_append

/-- An ASCII character is one byte. -/
theorem encode_singleton {c : Char} (h : c.toNat < 128) : encode [c] = [UInt8.ofNat c.toNat] := by
  rw [encode, List.flatMap_singleton, utf8EncodeChar_eq, charBytes, if_pos (by omega)]

end Utf8

namespace Percent

theorem decode_cons_of_ne {b : UInt8} (h : b ≠ sign) (rest : List UInt8) :
    decode (b :: rest) = b :: decode rest := by
  match rest with
  | [] => rfl
  | [_] => rfl
  | high :: low :: rest => rw [decode, if_neg h]

theorem decode_escape {high low b : UInt8} (h : byte? high low = some b) (rest : List UInt8) :
    decode (sign :: high :: low :: rest) = b :: decode rest := by
  rw [decode, if_pos rfl, h]

/-- A digit of an escape is an ASCII character of its own and has the value it was made from. -/
theorem hexDigit_spec {d : Nat} (h : d < 16) :
    (hexDigit d).toNat < 128 ∧ hexDigit d ∉ Form.marks ∧
      hexValue? (UInt8.ofNat (hexDigit d).toNat) = some (UInt8.ofNat d) := by
  revert d
  decide

theorem byte?_hexDigit (b : UInt8) :
    byte? (UInt8.ofNat (hexDigit (b.toNat / 16)).toNat)
      (UInt8.ofNat (hexDigit (b.toNat % 16)).toNat) = some b := by
  have hb : b.toNat < 256 := b.toNat_lt
  obtain ⟨-, -, hhigh⟩ := hexDigit_spec (by omega : b.toNat / 16 < 16)
  obtain ⟨-, -, hlow⟩ := hexDigit_spec (by omega : b.toNat % 16 < 16)
  rw [byte?, hhigh, hlow]
  refine congrArg some (UInt8.toNat_inj.mp ?_)
  simp only [UInt8.toNat_add, UInt8.toNat_mul, UInt8.toNat_ofNat']
  show (b.toNat / 16 % 256 * 16 % 256 + b.toNat % 16 % 256) % 256 = b.toNat
  omega

end Percent

namespace Form

/-- What a character of a component stands for. -/
def spaced (t : Text) : Text := t.map fun c => if c = '+' then ' ' else c

/-- A byte that stands for itself is an ASCII character and none that means something else. -/
theorem isPlain_spec {b : UInt8} (h : isPlain b = true) :
    (Char.ofNat b.toNat).toNat = b.toNat ∧ b.toNat < 128 ∧ Char.ofNat b.toNat ∉ marks ∧
      b ≠ Percent.sign := by
  have hall : ∀ n < 256, isPlain (UInt8.ofNat n) = true →
      (Char.ofNat n).toNat = n ∧ n < 128 ∧ Char.ofNat n ∉ marks ∧
        UInt8.ofNat n ≠ Percent.sign := by
    decide +kernel
  have hb := hall b.toNat b.toNat_lt
  rw [UInt8.ofNat_toNat] at hb
  exact hb h

theorem ne_plus_of_not_mem_marks {c : Char} (h : c ∉ marks) : c ≠ '+' := by
  rintro rfl
  exact h (by decide)

theorem spaced_escape (b : UInt8) : spaced (Percent.escape b) = Percent.escape b := by
  have hb : b.toNat < 256 := b.toNat_lt
  have hhigh := ne_plus_of_not_mem_marks (Percent.hexDigit_spec (by omega : b.toNat / 16 < 16)).2.1
  have hlow := ne_plus_of_not_mem_marks (Percent.hexDigit_spec (by omega : b.toNat % 16 < 16)).2.1
  simp only [spaced, Percent.escape, List.map_cons, List.map_nil, if_neg hhigh, if_neg hlow]
  rfl

theorem decode_encodeByte (b : UInt8) (rest : List UInt8) :
    Percent.decode (Utf8.encode (spaced (encodeByte b)) ++ rest) = b :: Percent.decode rest := by
  unfold encodeByte
  split
  · next hblank =>
      subst hblank
      exact Percent.decode_cons_of_ne (by decide) rest
  · split
    · next hplain =>
        obtain ⟨hnat, hlt, hmarks, hsign⟩ := isPlain_spec hplain
        have hplus := ne_plus_of_not_mem_marks hmarks
        rw [spaced, List.map_singleton, if_neg hplus, Utf8.encode_singleton (by omega), hnat,
          UInt8.ofNat_toNat, List.singleton_append, Percent.decode_cons_of_ne hsign]
    · have hb : b.toNat < 256 := b.toNat_lt
      have hhigh := (Percent.hexDigit_spec (by omega : b.toNat / 16 < 16)).1
      have hlow := (Percent.hexDigit_spec (by omega : b.toNat % 16 < 16)).1
      have hbytes : Utf8.encode (Percent.escape b) = [Percent.sign,
          UInt8.ofNat (Percent.hexDigit (b.toNat / 16)).toNat,
          UInt8.ofNat (Percent.hexDigit (b.toNat % 16)).toNat] := by
        show Utf8.encode (['%'] ++ ([_] ++ [_])) = _
        rw [Utf8.encode_append, Utf8.encode_append, Utf8.encode_singleton hhigh,
          Utf8.encode_singleton hlow]
        rfl
      rw [spaced_escape, hbytes]
      exact Percent.decode_escape (Percent.byte?_hexDigit b) rest

/-! ## Components and pairs -/

/-- **Reading a component inverts writing it.** -/
theorem decodeComponent_encodeComponent (t : Text) : decodeComponent (encodeComponent t) = t := by
  have hbytes : ∀ bytes : List UInt8,
      Percent.decode (Utf8.encode (spaced (bytes.flatMap encodeByte))) = bytes := by
    intro bytes
    induction bytes with
    | nil => rfl
    | cons b bytes ih =>
        have happend : spaced ((b :: bytes).flatMap encodeByte) =
            spaced (encodeByte b) ++ spaced (bytes.flatMap encodeByte) := List.map_append
        rw [happend, Utf8.encode_append, decode_encodeByte, ih]
  show Utf8.decode (Percent.decode (Utf8.encode (spaced (encodeComponent t)))) = t
  rw [encodeComponent, hbytes, Utf8.decode_encode]

/-- A component is written without separators. -/
theorem not_mem_encodeComponent {c : Char} (hc : c ∈ marks) (hplus : c ≠ '+') (t : Text) :
    c ∉ encodeComponent t := by
  intro hmem
  obtain ⟨b, -, hb⟩ := List.mem_flatMap.mp hmem
  unfold encodeByte at hb
  split at hb
  · exact hplus (List.mem_singleton.mp hb)
  · split at hb
    · next hplain =>
        obtain ⟨-, -, hmarks, -⟩ := isPlain_spec hplain
        exact hmarks (List.mem_singleton.mp hb ▸ hc)
    · have hlt : b.toNat < 256 := b.toNat_lt
      have hhigh := (Percent.hexDigit_spec (by omega : b.toNat / 16 < 16)).2.1
      have hlow := (Percent.hexDigit_spec (by omega : b.toNat % 16 < 16)).2.1
      simp only [Percent.escape, List.mem_cons, List.not_mem_nil, or_false] at hb
      rcases hb with rfl | rfl | rfl
      · exact absurd hc (by decide)
      · exact hhigh hc
      · exact hlow hc

theorem readPair_writePair (p : Text × Text) : readPair (writePair p) = p := by
  have hequals := not_mem_encodeComponent (c := '=') (by decide) (by decide) p.1
  rw [readPair, writePair, Text.splitFirst_append hequals]
  simp only [Option.getD_some, decodeComponent_encodeComponent]

theorem not_mem_writePair (p : Text × Text) : '&' ∉ writePair p := by
  have hand : ∀ t, '&' ∉ encodeComponent t := not_mem_encodeComponent (by decide) (by decide)
  rw [writePair, List.mem_append, List.mem_cons, not_or, not_or]
  exact ⟨hand p.1, by decide, hand p.2⟩

theorem pieces_writePairs (ps : List (Text × Text)) :
    pieces (writePairs ps) = ps.map writePair := by
  have hfilter : (ps.map writePair).filter (!·.isEmpty) = ps.map writePair := by
    refine List.filter_eq_self.mpr fun piece hpiece => ?_
    obtain ⟨p, -, rfl⟩ := List.mem_map.mp hpiece
    rw [writePair]
    cases encodeComponent p.1 <;> rfl
  cases ps with
  | nil => rfl
  | cons p ps =>
      have hsplit : Text.splitOn '&' (writePairs (p :: ps)) = (p :: ps).map writePair := by
        refine Text.splitOn_joinWith (List.cons_ne_nil _ _) fun piece hpiece => ?_
        obtain ⟨q, -, rfl⟩ := List.mem_map.mp hpiece
        exact not_mem_writePair q
      rw [pieces, hsplit, hfilter]

/-- A form is written without blanks. -/
theorem unblank_writePairs (ps : List (Text × Text)) :
    ∀ c ∈ writePairs ps, Text.isBlank c = false := by
  have hbyte : ∀ n < 256, ∀ c ∈ encodeByte (UInt8.ofNat n), Text.isBlank c = false := by
    decide +kernel
  have hcomponent : ∀ t, ∀ c ∈ encodeComponent t, Text.isBlank c = false := by
    intro t c hc
    obtain ⟨b, -, hb⟩ := List.mem_flatMap.mp hc
    have hplain := hbyte b.toNat b.toNat_lt
    rw [UInt8.ofNat_toNat] at hplain
    exact hplain c hb
  have hpair : ∀ p, ∀ c ∈ writePair p, Text.isBlank c = false := by
    intro p c hc
    rcases List.mem_append.mp hc with hc | hc
    · exact hcomponent p.1 c hc
    · rcases List.mem_cons.mp hc with rfl | hc
      · decide
      · exact hcomponent p.2 c hc
  intro c hc
  rcases Text.mem_joinWith hc with hc | ⟨piece, hpiece, hc⟩
  · obtain rfl := List.mem_singleton.mp hc
    decide
  · obtain ⟨p, -, rfl⟩ := List.mem_map.mp hpiece
    exact hpair p c hc

/-- **The pairs of a written form are those that were written.** -/
theorem readPairs_writePairs (ps : List (Text × Text)) : readPairs (writePairs ps) = ps := by
  rw [readPairs, pieces_writePairs, List.map_map]
  exact List.map_id'' readPair_writePair ps

end Form

end HttpExchange
