import HttpExchange.Proofs.Adapter
import HttpExchange.Proofs.Calendar.Moment

/-!
# What is stored is stored as it is

An adapter converts what it is given into a value of the type that it declares:
an integer of 64 bits or a truth value, and null for null alone. The value may
come from a number with a fraction, from a text, from a date or from a number
that was brought into the range of 64 bits. A value of that type is no longer
changed by the adapter, so it makes no difference how often it is converted.

## Main definitions

* `Json.IsOfType` — the values of a type that adapters declare.

## Main results

* `Adapter.isOfType_of_convertIn` — what an adapter converts to has its type.
* `Adapter.convertIn_of_isOfType` — what has the type of an adapter is left alone.
* `Adapter.adaptIn_stable` — converting a value twice is converting it once.
-/

namespace HttpExchange

/-- The values of a type that adapters declare: integers of 64 bits and truth values. -/
inductive Json.IsOfType (type : Text) : Json → Prop where
  | integer {i : Int} (htype : type = "integer") (hmin : Numeral.minInt64 ≤ i)
      (hmax : i ≤ Numeral.maxInt64) : IsOfType type (.ofInt i)
  | boolean (htype : type = "boolean") (b : Bool) : IsOfType type (.bool b)

theorem Json.IsOfType.ne_null {type : Text} {v : Json} (h : v.IsOfType type) : v ≠ .null := by
  cases h with
  | integer => nofun
  | boolean => nofun

theorem Json.isNull_iff {v : Json} : v.isNull = true ↔ v = .null := by
  cases v <;> simp [isNull]

namespace Adapter

/-! ## Conversions give the type -/

section Types

variable {v w : Json}

theorem isOfType_of_toInteger? (h : v.toInteger?.map .ofInt = some w) :
    w.IsOfType "integer" := by
  obtain ⟨i, hi, rfl⟩ := Option.map_eq_some_iff.mp h
  obtain ⟨hmin, hmax⟩ := Json.bounds_of_toInteger? hi
  exact .integer rfl hmin hmax

theorem isOfType_of_toBoolean? (h : v.toBoolean?.map .bool = some w) :
    w.IsOfType "boolean" := by
  obtain ⟨b, -, rfl⟩ := Option.map_eq_some_iff.mp h
  exact .boolean rfl b

theorem isOfType_of_yearIn? (h : yearIn? v = some w) : w.IsOfType "integer" := by
  unfold yearIn? at h
  split at h
  · next i _ hi =>
      obtain ⟨hmin, hmax⟩ := Json.bounds_of_toInteger? hi
      exact Option.some.inj h ▸ .integer rfl hmin hmax
  · obtain ⟨s, hs, rfl⟩ := Option.map_eq_some_iff.mp h
    obtain ⟨p, hp, rfl⟩ := Moment.exists_of_read? hs
    rw [yearOf, DateTime.ofSeconds_seconds hp]
    obtain ⟨hmin, hmax⟩ := DateTime.year_bounds hp
    exact .integer rfl hmin hmax
  · cases h

theorem isOfType_of_dateTimeIn? (h : dateTimeIn? v = some w) : w.IsOfType "integer" := by
  cases v with
  | num t => exact isOfType_of_toInteger? (v := .num t) h
  | str t =>
      obtain ⟨s, hs, rfl⟩ := Option.map_eq_some_iff.mp h
      obtain ⟨p, hp, rfl⟩ := Moment.exists_of_read? hs
      obtain ⟨hmin, hmax⟩ := DateTime.seconds_bounds hp
      exact .integer rfl hmin hmax
  | null | bool b | arr items | obj members => cases h

theorem isOfType_of_sqlBooleanIn? (h : sqlBooleanIn? v = some w) : w.IsOfType "boolean" := by
  unfold sqlBooleanIn? at h
  split at h
  · exact Option.some.inj h ▸ .boolean rfl _
  · exact isOfType_of_toBoolean? h

/-- **What an adapter converts to has its type.** -/
theorem isOfType_of_convertIn {a : Adapter} (ha : a ≠ .passthrough)
    (h : convertIn v a = .ok w) : w.IsOfType a.castIn := by
  cases a with
  | passthrough => exact absurd rfl ha
  | year => exact isOfType_of_yearIn? (orInvalid_eq_ok_iff.mp h)
  | dateTime => exact isOfType_of_dateTimeIn? (orInvalid_eq_ok_iff.mp h)
  | boolean => exact isOfType_of_toBoolean? (orInvalid_eq_ok_iff.mp h)
  | integer => exact isOfType_of_toInteger? (orInvalid_eq_ok_iff.mp h)
  | sqlBoolean dbms => exact isOfType_of_sqlBooleanIn? (orInvalid_eq_ok_iff.mp h)

end Types

/-! ## The type is left alone -/

/-- **What has the type of an adapter is left alone.** -/
theorem convertIn_of_isOfType {a : Adapter} {w : Json} (h : w.IsOfType a.castIn) :
    convertIn w a = .ok w := by
  have hother : ("boolean" : Text) ≠ "integer" := by decide
  cases h with
  | @integer i htype hmin hmax =>
      have hread : (Json.ofInt i).toInteger? = some i := Json.toInteger?_ofInt hmin hmax
      cases a with
      | passthrough => rfl
      | year => rw [convertIn, yearIn?, hread, orInvalid]
      | dateTime =>
          show orInvalid "invalid_datetime" ((Json.ofInt i).toInteger?.map .ofInt) = _
          rw [hread, Option.map_some, orInvalid]
      | integer => rw [convertIn, hread, Option.map_some, orInvalid]
      | boolean | sqlBoolean dbms => exact absurd htype hother
  | boolean htype b =>
      cases a with
      | passthrough | boolean | sqlBoolean dbms => rfl
      | year | dateTime | integer => exact absurd htype.symm hother

/-- **Converting a value twice is converting it once.** What an adapter stores for a value it stores
as it is. Null is stored for null alone, and anything else as an integer of 64 bits or as a truth
value, whichever the adapter declares, unless the adapter leaves all values as they are. -/
theorem adaptIn_stable {a : Adapter} {v w : Json} (h : a.adaptIn v = .ok w) :
    a.adaptIn w = .ok w ∧
      (a ≠ .passthrough →
        (w = .null ↔ v = .null) ∧ (v ≠ .null → w.IsOfType a.castIn)) := by
  by_cases hnull : v.isNull = true
  · have hsame : a.adaptIn v = .ok v := by rw [adaptIn, if_pos hnull]
    obtain rfl : v = w := Except.ok.inj (hsame.symm.trans h)
    exact ⟨h, fun _ => ⟨Iff.rfl, fun hne => absurd (Json.isNull_iff.mp hnull) hne⟩⟩
  · rw [adaptIn, if_neg hnull] at h
    by_cases ha : a = .passthrough
    · obtain rfl := ha
      obtain rfl := Except.ok.inj h
      exact ⟨by rw [adaptIn, if_neg hnull, h], fun hne => absurd rfl hne⟩
    · have htype := isOfType_of_convertIn ha h
      refine ⟨?_, fun _ => ⟨iff_of_false htype.ne_null (mt Json.isNull_iff.mpr hnull),
        fun _ => htype⟩⟩
      rw [adaptIn, if_neg (mt Json.isNull_iff.mp htype.ne_null), convertIn_of_isOfType htype]

/-- A power of ten beyond 64 bits, a date of a far year, a day before 1970, a fraction that a
database takes for its integer part, and null. -/
theorem adaptIn_stable_of_extremes :
    Adapter.integer.adaptIn (.ofInt Numeral.maxInt64) = .ok (.ofInt Numeral.maxInt64) ∧
      (Json.ofInt Numeral.maxInt64).IsOfType "integer" ∧
    Adapter.year.adaptIn (.ofInt 120000) = .ok (.ofInt 120000) ∧
    Adapter.dateTime.adaptIn (.ofInt (-86400)) = .ok (.ofInt (-86400)) ∧
    (Adapter.sqlBoolean .sqlite).adaptIn (.bool false) = .ok (.bool false) ∧
      (Json.bool false).IsOfType "boolean" ∧
    Adapter.boolean.adaptIn .null = .ok .null := by
  have hpower : Adapter.integer.adaptIn (.str " 1e30 ") = .ok (.ofInt Numeral.maxInt64) := by
    decide +kernel
  have hyear : Adapter.year.adaptIn (.str "+120000-02-29") = .ok (.ofInt 120000) := by
    decide +kernel
  have hday : Adapter.dateTime.adaptIn (.str "31/12/1969") = .ok (.ofInt (-86400)) := by
    decide +kernel
  have hfraction : (Adapter.sqlBoolean .sqlite).adaptIn (.num "0.5") = .ok (.bool false) := by
    decide +kernel
  have hnull : Adapter.boolean.adaptIn .null = .ok .null := rfl
  obtain ⟨hpower', htype⟩ := adaptIn_stable hpower
  obtain ⟨hfraction', htype'⟩ := adaptIn_stable hfraction
  exact ⟨hpower', (htype nofun).2 nofun, (adaptIn_stable hyear).1, (adaptIn_stable hday).1,
    hfraction', (htype' nofun).2 nofun, (adaptIn_stable hnull).1⟩

end Adapter

end HttpExchange
