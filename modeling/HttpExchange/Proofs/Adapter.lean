import HttpExchange.Adapter.Basic
import HttpExchange.Proofs.Calendar.Timestamp
import HttpExchange.Proofs.Numeral.Binary
import HttpExchange.Store.Schema

/-!
# What adapters show of numbers and stamps

The number of an object and the stamp of its last change are integers in the
store. Both can always be shown, and the text that a stamp is shown as is taken
back to that stamp.

## Main results

* `Json.exists_toInteger?_ofNat` — a natural number of 64 bits counts as an integer.
* `Json.toInteger?_ofInt`, `Json.bounds_of_toInteger?` — a number that is an integer of 64 bits
  counts as itself, and whatever counts as an integer counts as one of 64 bits.
* `Adapter.dateTime_adaptIn_of_isRfc3339` — a timestamp is stored as the seconds it denotes.
* `Adapter.dateTime_adaptOut`, `Adapter.dateTime_adaptIn` — a stamp goes out as a
  text and comes back from it.
-/

namespace HttpExchange

namespace Json

/-- A natural number of 64 bits counts as an integer, though perhaps not as itself. -/
theorem exists_toInteger?_ofNat {n : Nat} (h : n ≤ Numeral.maxNat64) :
    ∃ i, (Json.ofNat n).toInteger? = some i := by
  show ∃ i, integerOfNumeral? (Numeral.ofNat n) = some i
  unfold integerOfNumeral?
  by_cases hmin : 2 ^ 63 ≤ n
  · cases Numeral.readInt64? (Numeral.ofNat n) with
    | some i => exact ⟨i, rfl⟩
    | none =>
        have hmax : Numeral.maxNat64 < Numeral.double.bound := by decide +kernel
        refine ⟨Numeral.maxInt64, ?_⟩
        show (Numeral.Decimal.read? (Numeral.ofNat n)).bind Numeral.truncate64 = _
        rw [Numeral.Decimal.read?_of_isDigits (Numeral.isDigits_ofNat n), Numeral.value_ofNat,
          Option.bind_some, Numeral.truncate64_of_ge hmin, if_pos (Nat.lt_of_le_of_lt h hmax)]
        rfl
  · have hread := Numeral.readInt64?_ofInt (i := n) (by simp only [Numeral.minInt64]; omega)
      (by simp only [Numeral.maxInt64]; omega)
    rw [Numeral.ofInt_natCast] at hread
    rw [hread]
    exact ⟨_, rfl⟩

theorem toInteger?_ofInt {i : Int} (hmin : Numeral.minInt64 ≤ i) (hmax : i ≤ Numeral.maxInt64) :
    (Json.ofInt i).toInteger? = some i := by
  show integerOfNumeral? (Numeral.ofInt i) = some i
  rw [integerOfNumeral?, Numeral.readInt64?_ofInt hmin hmax]

/-- What counts as an integer counts as one of 64 bits. -/
theorem bounds_of_integerOfNumeral? {t : Text} {i : Int} (h : integerOfNumeral? t = some i) :
    Numeral.minInt64 ≤ i ∧ i ≤ Numeral.maxInt64 := by
  unfold integerOfNumeral? at h
  split at h
  · next i' hread => exact Option.some.inj h ▸ Numeral.bounds_of_readInt64? hread
  · obtain ⟨d, -, hd⟩ := Option.bind_eq_some_iff.mp h
    exact Numeral.bounds_of_truncate64 hd

theorem bounds_of_toInteger? {v : Json} {i : Int} (h : v.toInteger? = some i) :
    Numeral.minInt64 ≤ i ∧ i ≤ Numeral.maxInt64 := by
  cases v with
  | num t => exact bounds_of_integerOfNumeral? h
  | str t => exact bounds_of_integerOfNumeral? h
  | null | bool b | arr items | obj members => cases h

/-! ### Numerals that count as something -/

theorem isFinite_eq (t : Text) :
    isFinite t = ((Numeral.Decimal.read? t).bind Numeral.double.round).isSome := by
  unfold isFinite
  cases Numeral.Decimal.read? t <;> rfl

theorem isSome_nonzeroOfNumeral? (t : Text) : (nonzeroOfNumeral? t).isSome = isFinite t := by
  rw [nonzeroOfNumeral?, Option.isSome_map, isFinite_eq]

/-- A numeral counts as an integer if 64 bits hold it or double precision does. -/
theorem isSome_integerOfNumeral? (t : Text) :
    (integerOfNumeral? t).isSome = ((Numeral.readInt64? t).isSome || isFinite t) := by
  unfold integerOfNumeral?
  cases Numeral.readInt64? t with
  | some i => rfl
  | none =>
      rw [isFinite_eq]
      cases Numeral.Decimal.read? t with
      | none => rfl
      | some d => exact Option.isSome_map

end Json

/-! ## Adapters of the fields that every entity has -/

namespace Registry

variable (registry : Registry)

theorem resolveFor_integer : registry.resolveFor "json" "number.integer" = .integer := by
  rcases registry with ⟨_ | _⟩ <;> decide

theorem resolveFor_datetime : registry.resolveFor "json" "datetime" = .dateTime := by
  rcases registry with ⟨_ | _⟩ <;> decide

theorem resolveFor_string : registry.resolveFor "json" "string" = .passthrough := by
  rcases registry with ⟨_ | _⟩ <;> decide

end Registry

namespace Adapter

theorem orInvalid_eq_ok_iff {code : Text} {v? : Option Json} {w : Json} :
    orInvalid code v? = .ok w ↔ v? = some w := by
  cases v? with
  | none => exact iff_of_false nofun nofun
  | some v => simp [orInvalid]

theorem exists_integer_adaptOut {n : Nat} (h : n ≤ Numeral.maxNat64) :
    ∃ v, Adapter.integer.adaptOut (.ofNat n) = .ok v := by
  obtain ⟨i, hi⟩ := Json.exists_toInteger?_ofNat h
  refine ⟨.ofInt i, ?_⟩
  show orInvalid "invalid_integer" ((Json.ofNat n).toInteger?.map .ofInt) = _
  rw [hi]
  rfl

/-- A number that is signed too is shown as itself. -/
theorem integer_adaptOut {n : Nat} (h : (n : Int) ≤ Numeral.maxInt64) :
    Adapter.integer.adaptOut (.ofNat n) = .ok (.ofNat n) := by
  have hinteger := Json.toInteger?_ofInt (i := n) (by simp only [Numeral.minInt64]; omega) h
  have hsame : Json.ofInt n = .ofNat n := by rw [Json.ofInt, Numeral.ofInt_natCast, Json.ofNat]
  rw [hsame] at hinteger
  show orInvalid "invalid_integer" ((Json.ofNat n).toInteger?.map .ofInt) = _
  rw [hinteger, Option.map_some, hsame]
  rfl

theorem passthrough_adaptOut (v : Json) : Adapter.passthrough.adaptOut v = .ok v := by
  unfold adaptOut
  split <;> rfl

/-- A stamp is shown as its timestamp. -/
theorem dateTime_adaptOut {s : Int} (h : DateTime.InFourDigits s) :
    Adapter.dateTime.adaptOut (.ofInt s) =
      .ok (.str (Timestamp.text (DateTime.ofSeconds s))) := by
  have hs : (Json.ofInt s).toInteger? = some s := by
    obtain ⟨hmin, hmax⟩ := h
    exact Json.toInteger?_ofInt (by simp only [Numeral.minInt64]; omega)
      (by simp only [Numeral.maxInt64]; omega)
  show orInvalid "invalid_datetime" (dateTimeOut? (.ofInt s)) = _
  rw [dateTimeOut?, hs, Option.bind_some, DateTime.ofSeconds?_eq h, Option.map_some, orInvalid]

theorem dateTime_adaptIn_str (t : Text) :
    Adapter.dateTime.adaptIn (.str t) =
      orInvalid "invalid_datetime" ((Moment.read? t).map .ofInt) := rfl

/-- A timestamp is stored as the seconds it denotes. -/
theorem dateTime_adaptIn_of_isRfc3339 {t : Text} {s : Int} (h : Timestamp.IsRfc3339 t s) :
    Adapter.dateTime.adaptIn (.str t) = .ok (.ofInt s) := by
  rw [dateTime_adaptIn_str, Moment.read?_of_isRfc3339 h, Option.map_some, orInvalid]

/-- The timestamp of a stamp stands for that stamp. -/
theorem dateTime_adaptIn {s : Int} (h : DateTime.InFourDigits s) :
    Adapter.dateTime.adaptIn (.str (Timestamp.text (DateTime.ofSeconds s))) =
      .ok (.ofInt s) :=
  dateTime_adaptIn_of_isRfc3339 (Timestamp.isRfc3339_text_ofSeconds h)

end Adapter

end HttpExchange
