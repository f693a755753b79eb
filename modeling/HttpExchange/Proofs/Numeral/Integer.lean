import HttpExchange.Numeral.Integer
import Mathlib.Algebra.Group.Nat.Defs
import Mathlib.Data.List.Induction

/-!
# Integers read back as they were written

The decimal digits of a number determine it, also when they are filled up with
zeros to a width. So different integers have different numerals, and a reader
with bounds gives back every integer within them.

## Main results

* `value_ofNat`, `value_padded` — the digits of a number denote it.
* `value_lt` — how large a number is that so many digits denote.
* `ofInt_injective` — an integer has one numeral.
* `readNat?_ofNat`, `readUInt16?_ofNat`, `readInt64?_ofInt` — the readers invert the writers.
* `le_of_readNat?`, `bounds_of_readInt64?` — what is read lies within the bounds.
-/

namespace HttpExchange.Numeral

/-! ## Digits -/

theorem isDigit_digitChar {d : Nat} (h : d < 10) : (digitChar d).isDigit = true := by
  revert d
  decide

theorem digitValue_digitChar {d : Nat} (h : d < 10) : digitValue (digitChar d) = d := by
  revert d
  decide

theorem value_concat (digits : Text) (c : Char) :
    value (digits ++ [c]) = value digits * 10 + digitValue c := by
  simp [value, List.foldl_append]

theorem digitValue_lt {c : Char} (h : c.isDigit = true) : digitValue c < 10 := by
  simp only [Char.isDigit, Bool.and_eq_true, decide_eq_true_eq] at h
  have hmax : c.toNat ≤ 57 := h.2
  show c.toNat - 48 < 10
  omega

/-- So many digits denote a number below that power of ten. -/
theorem value_lt {digits : Text} (h : ∀ c ∈ digits, c.isDigit = true) :
    value digits < 10 ^ digits.length := by
  induction digits using List.reverseRecOn with
  | nil => decide
  | append_singleton digits c ih =>
      have hdigits := ih fun d hd => h d (List.mem_append_left _ hd)
      have hlast := digitValue_lt (h c (List.mem_append_right _ List.mem_cons_self))
      rw [value_concat, List.length_append, List.length_singleton, Nat.pow_succ]
      omega

theorem ofNat_of_lt {n : Nat} (h : n < 10) : ofNat n = [digitChar n] := by
  rw [ofNat, if_pos h]

theorem ofNat_of_ge {n : Nat} (h : 10 ≤ n) :
    ofNat n = ofNat (n / 10) ++ [digitChar (n % 10)] := by
  rw [ofNat, if_neg (by omega)]

theorem value_ofNat (n : Nat) : value (ofNat n) = n := by
  induction n using Nat.strongRecOn with
  | ind n ih =>
      by_cases h : n < 10
      · rw [ofNat_of_lt h]
        show 0 * 10 + digitValue (digitChar n) = n
        rw [digitValue_digitChar h]
        omega
      · rw [ofNat_of_ge (by omega), value_concat, ih (n / 10) (by omega),
          digitValue_digitChar (Nat.mod_lt n (by decide))]
        omega

theorem isDigit_of_mem_ofNat {n : Nat} {c : Char} (h : c ∈ ofNat n) : c.isDigit = true := by
  induction n using Nat.strongRecOn with
  | ind n ih =>
      by_cases hn : n < 10
      · rw [ofNat_of_lt hn, List.mem_singleton] at h
        rw [h]
        exact isDigit_digitChar hn
      · rw [ofNat_of_ge (by omega), List.mem_append, List.mem_singleton] at h
        rcases h with h | rfl
        · exact ih (n / 10) (by omega) h
        · exact isDigit_digitChar (Nat.mod_lt n (by decide))

theorem ofNat_ne_nil (n : Nat) : ofNat n ≠ [] := by
  rw [ofNat]
  split <;> simp

theorem isDigits_ofNat (n : Nat) : isDigits (ofNat n) = true := by
  have hne : (ofNat n).isEmpty = false := by simp [ofNat_ne_nil n]
  rw [isDigits, hne, Bool.not_false, Bool.true_and, List.all_eq_true]
  exact fun c hc => isDigit_of_mem_ofNat hc

/-- A sign is no digit. -/
theorem not_mem_ofNat {c : Char} (h : c.isDigit = false) (n : Nat) : c ∉ ofNat n := by
  intro hc
  rw [isDigit_of_mem_ofNat hc] at h
  cases h

/-! ## One numeral for each integer -/

theorem ofNat_injective {m n : Nat} (h : ofNat m = ofNat n) : m = n := by
  rw [← value_ofNat m, h, value_ofNat]

private theorem minus_cons_ne_ofNat (digits : Text) (n : Nat) : '-' :: digits ≠ ofNat n := by
  intro h
  exact not_mem_ofNat (c := '-') (by decide) n (h ▸ List.mem_cons_self)

@[simp] theorem ofInt_natCast (n : Nat) : ofInt n = ofNat n := by
  rw [ofInt, if_neg (Int.not_lt.mpr (Int.natCast_nonneg n)), Int.natAbs_natCast]

theorem ofInt_injective {i j : Int} (h : ofInt i = ofInt j) : i = j := by
  unfold ofInt at h
  split at h <;> split at h
  · have habs := ofNat_injective (List.cons.inj h).2
    omega
  · exact absurd h (minus_cons_ne_ofNat _ _)
  · exact absurd h.symm (minus_cons_ne_ofNat _ _)
  · have habs := ofNat_injective h
    omega

/-! ## Reading -/

theorem readNat?_of_isDigits {bound : Nat} {t : Text} (hdigits : isDigits t = true) :
    readNat? bound t = if value t ≤ bound then some (value t) else none := by
  have hplus : ∀ rest, t ≠ '+' :: rest := by
    rintro rest rfl
    simp [isDigits] at hdigits
  unfold readNat?
  split
  · next rest => exact absurd rfl (hplus rest)
  · simp only [hdigits, Bool.true_and, decide_eq_true_eq]

theorem readNat?_ofNat {bound n : Nat} (h : n ≤ bound) : readNat? bound (ofNat n) = some n := by
  rw [readNat?_of_isDigits (isDigits_ofNat n), value_ofNat, if_pos h]

/-- Within whatever bound, a number that was written reads as no other one. -/
theorem eq_of_readNat?_ofNat {bound m n : Nat} (h : readNat? bound (ofNat n) = some m) : m = n := by
  rw [readNat?_of_isDigits (isDigits_ofNat n), value_ofNat] at h
  split at h
  · exact (Option.some.inj h).symm
  · cases h

/-- What is read lies within the bound. -/
theorem le_of_readNat? {bound n : Nat} {t : Text} (h : readNat? bound t = some n) : n ≤ bound := by
  have hdigits : ∀ digits : Text, (if isDigits digits && value digits ≤ bound then
      some (value digits) else none) = some n → n ≤ bound := by
    intro digits hread
    split at hread
    · next hbound =>
        rw [Bool.and_eq_true, decide_eq_true_eq] at hbound
        exact Option.some.inj hread ▸ hbound.2
    · cases hread
  exact hdigits _ h

/-- What is read has nothing but digits after its sign. -/
theorem isDigit_of_readNat? {bound n : Nat} {t : Text} (h : readNat? bound t = some n) {c : Char}
    (hc : c ∈ t) : c = '+' ∨ c.isDigit = true := by
  have hdigits : ∀ digits : Text, (if isDigits digits && value digits ≤ bound then
      some (value digits) else none) = some n → ∀ c ∈ digits, c.isDigit = true := by
    intro digits hread
    split at hread
    · next hheld =>
        rw [isDigits, Bool.and_eq_true, Bool.and_eq_true] at hheld
        exact List.all_eq_true.mp hheld.1.2
    · cases hread
  unfold readNat? at h
  split at h
  · rcases List.mem_cons.mp hc with rfl | hc
    · exact .inl rfl
    · exact .inr (hdigits _ h c hc)
  · exact .inr (hdigits _ h c hc)

theorem readUInt16?_ofNat (n : UInt16) : readUInt16? (ofNat n.toNat) = some n := by
  have hbound : n.toNat ≤ 65535 := by have := n.toNat_lt; omega
  rw [readUInt16?, readNat?_ofNat hbound, Option.map_some, UInt16.ofNat_toNat]

theorem readInt64?_ofInt {i : Int} (hmin : minInt64 ≤ i) (hmax : i ≤ maxInt64) :
    readInt64? (ofInt i) = some i := by
  unfold ofInt
  split
  · next hneg =>
      have habs : -(i.natAbs : Int) = i := by omega
      simp only [readInt64?, isDigits_ofNat, value_ofNat, habs, Bool.true_and]
      rw [if_pos (decide_eq_true hmin)]
  · next hpos =>
      have habs : (i.natAbs : Int) = i := by omega
      have hread : readInt64? (ofNat i.natAbs) =
          (readNat? maxInt64.toNat (ofNat i.natAbs)).map Int.ofNat := by
        unfold readInt64?
        split
        · next digits heq => exact absurd heq.symm (minus_cons_ne_ofNat _ _)
        · rfl
      rw [hread, readNat?_ofNat (by omega), Option.map_some]
      exact congrArg some habs

/-- What is read as an integer of 64 bits is one. -/
theorem bounds_of_readInt64? {t : Text} {i : Int} (h : readInt64? t = some i) :
    minInt64 ≤ i ∧ i ≤ maxInt64 := by
  unfold readInt64? at h
  split at h
  · split at h
    · next digits hheld =>
        rw [Bool.and_eq_true, decide_eq_true_eq] at hheld
        have hmin := hheld.2
        rw [← Option.some.inj h]
        refine ⟨hmin, ?_⟩
        simp only [maxInt64]
        omega
    · cases h
  · obtain ⟨n, hn, rfl⟩ := Option.map_eq_some_iff.mp h
    have hmax := le_of_readNat? hn
    simp only [minInt64, maxInt64, Int.ofNat_eq_natCast] at hmax ⊢
    omega

/-! ## Padding -/

private theorem value_zeros_append (k : Nat) (digits : Text) :
    value (List.replicate k '0' ++ digits) = value digits := by
  induction k with
  | zero => rfl
  | succ k ih =>
      rw [List.replicate_succ, List.cons_append, ← ih]
      rfl

theorem value_padded (width n : Nat) : value (padded width n) = n := by
  rw [padded, value_zeros_append, value_ofNat]

theorem isDigit_of_mem_padded {width n : Nat} {c : Char} (h : c ∈ padded width n) :
    c.isDigit = true := by
  rcases List.mem_append.mp h with h | h
  · rw [List.eq_of_mem_replicate h]
    decide
  · exact isDigit_of_mem_ofNat h

theorem length_ofNat_le {n width : Nat} (hpos : 0 < width) (h : n < 10 ^ width) :
    (ofNat n).length ≤ width := by
  induction width generalizing n with
  | zero => omega
  | succ width ih =>
      by_cases hn : n < 10
      · rw [ofNat_of_lt hn, List.length_singleton]
        omega
      · rw [ofNat_of_ge (by omega), List.length_append, List.length_singleton]
        have hdiv : n / 10 < 10 ^ width := by
          rw [Nat.pow_succ] at h
          omega
        have hwidth : 0 < width := by
          rcases Nat.eq_zero_or_pos width with rfl | hw
          · omega
          · exact hw
        have := ih hwidth hdiv
        omega

theorem length_padded {width n : Nat} (hpos : 0 < width) (h : n < 10 ^ width) :
    (padded width n).length = width := by
  have := length_ofNat_le hpos h
  rw [padded, List.length_append, List.length_replicate]
  omega

end HttpExchange.Numeral
