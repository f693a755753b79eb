import HttpExchange.Action.Announcement
import HttpExchange.Proofs.Adapter
import HttpExchange.Proofs.Body.RoundTrip
import HttpExchange.Proofs.Text.Blank

/-!
# Integers that were sent

An integer is sent as a number or as a string, and what spells it is the same
text. 64 bits hold the integers up to a bound, and those are taken as they are.
Double precision has a bound of its own, far beyond, and what is not below that is
refused. The integers between the two bounds are rounded and then brought to the
end of the range of 64 bits, so each of them is taken for another integer.

## Main definitions

* `Json.KeepsInteger` — a value is taken for one integer, or refused.

## Main results

* `Json.toInteger?_of_isSpelling` — the integer that a value which spells one counts as.
* `Adapter.integer_of_sent` — the integers that are kept, and what becomes of the others.
* `Adapter.integer_of_first_beyond` — the first integer that is not kept.
-/

namespace HttpExchange

namespace Json

/-- A number or a string with a given text. -/
def IsSpelling (t : Text) (w : Json) : Prop := w = .num t ∨ w = .str t

theorem IsSpelling.portable {t : Text} {w : Json} (h : IsSpelling t w) :
    IsSpelling t w.portable := by
  rcases h with rfl | rfl
  · rw [Json.portable]
    split
    · exact .inl rfl
    · exact .inr rfl
  · exact .inr rfl

/-- A number or a string stands for itself alone. -/
theorem IsSpelling.toItems {t : Text} {w : Json} (h : IsSpelling t w) : w.toItems = [w] := by
  rcases h with rfl | rfl <;> rfl

theorem IsSpelling.isNull {t : Text} {w : Json} (h : IsSpelling t w) : w.isNull = false := by
  rcases h with rfl | rfl <;> rfl

theorem IsSpelling.ne_null {t : Text} {w : Json} (h : IsSpelling t w) : w ≠ .null := by
  rcases h with rfl | rfl <;> nofun

section Spelled

variable {t : Text} (ht : SpellsInteger t)

include ht

theorem SpellsInteger.unblank : ∀ c ∈ t, Text.isBlank c = false := by
  obtain ⟨digits, hdigits, ht⟩ := ht
  rw [Numeral.isDigits, Bool.and_eq_true, List.all_eq_true] at hdigits
  have hunblank : ∀ c ∈ digits, Text.isBlank c = false := fun c hc =>
    Text.isBlank_of_isDigit (hdigits.2 c hc)
  rcases ht with rfl | rfl
  · exact hunblank
  · intro c hc
    rcases List.mem_cons.mp hc with rfl | hc
    · decide
    · exact hunblank c hc

/-- The decimal number that the text denotes is the integer. -/
theorem SpellsInteger.read? :
    ∃ negative, Numeral.Decimal.read? t = some ⟨negative, (integerOf t).natAbs, 0⟩ ∧
      (0 < (integerOf t).natAbs → (negative = true ↔ integerOf t < 0)) := by
  obtain ⟨digits, hdigits, rfl | rfl⟩ := ht
  · have hinteger : integerOf t = Numeral.value t := integerOf_of_isDigits hdigits
    refine ⟨false, ?_, ?_⟩
    · rw [Numeral.Decimal.read?_of_isDigits hdigits, hinteger, Int.natAbs_natCast]
    · simp [hinteger]
  · have hinteger : integerOf ('-' :: digits) = -(Numeral.value digits : Int) := rfl
    refine ⟨true, ?_, ?_⟩
    · rw [Numeral.Decimal.read?_minus hdigits, hinteger, Int.natAbs_neg, Int.natAbs_natCast]
    · rw [hinteger, Int.natAbs_neg, Int.natAbs_natCast]
      intro hpos
      exact ⟨fun _ => by omega, fun _ => rfl⟩

/-- **An integer is brought into the range of 64 bits**, unless it is beyond double precision. -/
theorem integerOfNumeral?_of_spellsInteger :
    integerOfNumeral? t =
      if (integerOf t).natAbs < Numeral.double.bound then some (Numeral.clamp64 (integerOf t))
      else none := by
  have hbound : 2 ^ 63 < Numeral.double.bound := by decide +kernel
  rw [integerOfNumeral?, readInt64?_of_spellsInteger ht]
  by_cases hheld : Numeral.minInt64 ≤ integerOf t ∧ integerOf t ≤ Numeral.maxInt64
  · have hclamp : Numeral.clamp64 (integerOf t) = integerOf t := by
      rw [Numeral.clamp64]
      omega
    rw [if_pos hheld, if_pos, hclamp]
    simp only [Numeral.minInt64, Numeral.maxInt64] at hheld
    omega
  · obtain ⟨negative, hread, hsign⟩ := ht.read?
    have hlarge : 2 ^ 63 ≤ (integerOf t).natAbs := by
      simp only [Numeral.minInt64, Numeral.maxInt64] at hheld
      omega
    have hclamp : Numeral.clamp64 (integerOf t) =
        if negative then Numeral.minInt64 else Numeral.maxInt64 := by
      simp only [Numeral.clamp64, Numeral.minInt64, Numeral.maxInt64] at hheld ⊢
      cases negative with
      | true =>
          have hneg := (hsign (by omega)).mp rfl
          rw [if_pos rfl]
          omega
      | false =>
          have hpos : ¬ integerOf t < 0 := fun hneg =>
            Bool.false_ne_true ((hsign (by omega)).mpr hneg)
          rw [if_neg Bool.false_ne_true]
          omega
    rw [if_neg hheld]
    show (Numeral.Decimal.read? t).bind Numeral.truncate64 = _
    rw [hread, Option.bind_some, Numeral.truncate64_of_ge hlarge, hclamp]

/-- A number and a string count as the same integer. -/
theorem toInteger?_of_isSpelling {w : Json} (hw : IsSpelling t w) :
    w.toInteger? =
      if (integerOf t).natAbs < Numeral.double.bound then some (Numeral.clamp64 (integerOf t))
      else none := by
  rw [← integerOfNumeral?_of_spellsInteger ht]
  rcases hw with rfl | rfl
  · rfl
  · rw [toInteger?, integerOfText?, Text.trim_of_unblank ht.unblank]

end Spelled

end Json

/-! ## What reads an integer -/

section Readers

variable {t : Text} (ht : Json.SpellsInteger t) {w : Json} (hw : Json.IsSpelling t w)

include ht hw

theorem Adapter.integer_adaptIn_of_isSpelling :
    Adapter.integer.adaptIn w =
      if (Json.integerOf t).natAbs < Numeral.double.bound then
        .ok (.ofInt (Numeral.clamp64 (Json.integerOf t)))
      else .error (.invalid "invalid_integer") := by
  rw [adaptIn, if_neg (by rw [hw.isNull]; exact Bool.false_ne_true), convertIn,
    Json.toInteger?_of_isSpelling ht hw]
  split <;> rfl

theorem identifiers_of_isSpelling (name : Text) :
    identifiers name w =
      if 0 < Json.integerOf t ∧ (Json.integerOf t).natAbs < Numeral.double.bound then
        .ok [(Numeral.clamp64 (Json.integerOf t)).toNat]
      else .error (.invalidParam name) := by
  have hone : identifiers name w = (identifier name w).map ([·]) := by
    rw [identifiers, hw.toItems, List.mapM_cons, List.mapM_nil]
    cases identifier name w <;> rfl
  have hsign : 0 < Numeral.clamp64 (Json.integerOf t) ↔ 0 < Json.integerOf t := by
    simp only [Numeral.clamp64, Numeral.minInt64, Numeral.maxInt64]
    omega
  rw [hone, identifier, Json.toInteger?_of_isSpelling ht hw]
  by_cases hbelow : (Json.integerOf t).natAbs < Numeral.double.bound
  · by_cases hpos : 0 < Json.integerOf t
    · simp only [if_pos hbelow, if_pos (hsign.mpr hpos), if_pos (And.intro hpos hbelow)]
      rfl
    · simp only [if_pos hbelow, if_neg (mt hsign.mp hpos), if_neg fun h => hpos (And.left h)]
      rfl
  · simp only [if_neg hbelow, if_neg fun h => hbelow (And.right h)]
    rfl

end Readers

/-- A value is taken for one integer, as the value of a field and as the number of an object, or it
is refused. -/
structure Json.KeepsInteger (w : Json) (i : Int) : Prop where
  adapter : ∀ v, Adapter.integer.adaptIn w = .ok v → v = .ofInt i
  identifiers : ∀ name ids, identifiers name w = .ok ids → ids.map Int.ofNat = [i]

/-- **The integers that are kept** are those that 64 bits hold and those that are refused. -/
theorem Json.keepsInteger_iff {t : Text} (ht : SpellsInteger t) {w : Json}
    (hw : IsSpelling t w) :
    w.KeepsInteger (integerOf t) ↔
      Numeral.minInt64 ≤ integerOf t ∧ integerOf t ≤ Numeral.maxInt64 ∨
        Numeral.double.bound ≤ (integerOf t).natAbs := by
  have hadapter := Adapter.integer_adaptIn_of_isSpelling ht hw
  have hidentifiers := identifiers_of_isSpelling ht hw
  have hclamp : Numeral.clamp64 (integerOf t) = integerOf t ↔
      Numeral.minInt64 ≤ integerOf t ∧ integerOf t ≤ Numeral.maxInt64 := by
    simp only [Numeral.clamp64, Numeral.minInt64, Numeral.maxInt64]
    omega
  by_cases hbelow : (integerOf t).natAbs < Numeral.double.bound
  · rw [if_pos hbelow] at hadapter
    constructor
    · intro h
      have hsame := h.adapter _ hadapter
      exact .inl (hclamp.mp (Numeral.ofInt_injective (Json.num.inj hsame)))
    · intro h
      have hkept : Numeral.clamp64 (integerOf t) = integerOf t :=
        hclamp.mpr (h.resolve_right (Nat.not_le.mpr hbelow))
      refine ⟨fun v hv => ?_, fun name ids hids => ?_⟩
      · rw [hadapter, hkept] at hv
        exact (Except.ok.inj hv).symm
      · rw [hidentifiers, hkept] at hids
        split at hids
        · next hpos =>
            rw [← Except.ok.inj hids, List.map_singleton, Int.ofNat_eq_natCast,
              Int.toNat_of_nonneg (Int.le_of_lt hpos.1)]
        · cases hids
  · rw [if_neg hbelow] at hadapter
    refine ⟨fun _ => .inr (Nat.not_lt.mp hbelow), fun _ => ?_⟩
    refine ⟨fun v hv => ?_, fun name ids hids => ?_⟩
    · rw [hadapter] at hv
      cases hv
    · rw [hidentifiers, if_neg fun h => hbelow (And.right h)] at hids
      cases hids

/-- What was sent as JSON is read with the same spelling. -/
theorem Decoder.exists_isSpelling_decode {hs : Headers} (htype : IsJsonType (contentTypeOf hs))
    (d : Decoder) {raw t : Text} {source w : Json} (hread : Json.read? raw = some source)
    {place : List Json.Step} (hplace : source.at? place = some w) (hw : Json.IsSpelling t w) :
    ∃ v w', d.decode raw hs = .structured v ∧ v.at? place = some w' ∧ Json.IsSpelling t w' := by
  have hnull : source ≠ .null := by
    rintro rfl
    cases place with
    | nil => exact hw.ne_null (Option.some.inj hplace).symm
    | cons step place => cases step <;> cases hplace
  rcases readJson?_cases raw with ⟨source', hread', -, hsource⟩ | ⟨hnothing, -⟩
  · obtain rfl : source = source' := Option.some.inj (hread.symm.trans hread')
    refine ⟨source.portable, w.portable, ?_, ?_, hw.portable⟩
    · rw [decode_of_isJsonType htype, hsource]
    · rw [Json.at?_portable, hplace, Option.map_some]
  · rw [hread] at hnothing
    rcases hnothing with hnothing | hnothing
    · cases hnothing
    · exact absurd (Option.some.inj hnothing) hnull

namespace Adapter

/-- **Integers that were sent.** What spells an integer, in a JSON payload or as a string, is taken
for the integer of 64 bits that is nearest, unless it is beyond double precision: then it is
refused. So an integer is never changed if 64 bits hold it or double precision does not, and only
then. -/
theorem integer_of_sent {t : Text} (ht : Json.SpellsInteger t) :
    (∀ w, Json.IsSpelling t w →
      Adapter.integer.adaptIn w =
        (if (Json.integerOf t).natAbs < Numeral.double.bound then
          .ok (.ofInt (Numeral.clamp64 (Json.integerOf t)))
        else .error (.invalid "invalid_integer")) ∧
      (∀ name, identifiers name w =
        if 0 < Json.integerOf t ∧ (Json.integerOf t).natAbs < Numeral.double.bound then
          .ok [(Numeral.clamp64 (Json.integerOf t)).toNat]
        else .error (.invalidParam name)) ∧
      (w.KeepsInteger (Json.integerOf t) ↔
        Numeral.minInt64 ≤ Json.integerOf t ∧ Json.integerOf t ≤ Numeral.maxInt64 ∨
          Numeral.double.bound ≤ (Json.integerOf t).natAbs)) ∧
    ∀ (d : Decoder) (hs : Headers) (raw : Text) (source : Json) (place : List Json.Step)
      (sent : Json), Decoder.IsJsonType (Decoder.contentTypeOf hs) →
      Json.read? raw = some source → source.at? place = some sent → Json.IsSpelling t sent →
      ∃ v w, d.decode raw hs = .structured v ∧ v.at? place = some w ∧ Json.IsSpelling t w := by
  constructor
  · intro w hw
    exact ⟨integer_adaptIn_of_isSpelling ht hw, identifiers_of_isSpelling ht hw,
      Json.keepsInteger_iff ht hw⟩
  · intro d hs raw source place sent htype hread hplace hsent
    exact Decoder.exists_isSpelling_decode htype d hread hplace hsent

/-- The least integer of 64 bits, as a number of a payload, and a power of ten that is beyond double
precision, as a string. -/
theorem integer_of_least_and_power :
    let hs : Headers := [⟨"Content-Type", ["application/json"]⟩]
    let least : Text := "-9223372036854775808"
    let power : Text := '1' :: List.replicate 309 '0'
    (∃ v w, Decoder.decode ⟨1000⟩ "\x7b\"ids\": [1, -9223372036854775808]\x7d" hs = .structured v ∧
      v.at? [.member "ids", .item 1] = some w ∧
      Adapter.integer.adaptIn w = .ok (.ofInt Numeral.minInt64) ∧
      w.KeepsInteger (Json.integerOf least)) ∧
    Adapter.integer.adaptIn (.str power) = .error (.invalid "invalid_integer") ∧
    (Json.str power).KeepsInteger (Json.integerOf power) := by
  intro hs least power
  have htype : Decoder.IsJsonType (Decoder.contentTypeOf hs) := .inl (by decide +kernel)
  have hleast : Json.SpellsInteger least := ⟨"9223372036854775808", by decide, .inr rfl⟩
  have hpower : Json.SpellsInteger power := ⟨power, by decide +kernel, .inl rfl⟩
  have hbelow : (Json.integerOf least).natAbs < Numeral.double.bound := by decide +kernel
  have hbeyond : Numeral.double.bound ≤ (Json.integerOf power).natAbs := by decide +kernel
  refine ⟨?_, ?_⟩
  · obtain ⟨hvalues, hsent⟩ := integer_of_sent hleast
    obtain ⟨v, w, hv, hplace, hw⟩ := hsent ⟨1000⟩ hs "\x7b\"ids\": [1, -9223372036854775808]\x7d"
      (.obj [("ids", .arr [.num "1", .num least])]) [.member "ids", .item 1] (.num least) htype
      (by decide +kernel) rfl (.inl rfl)
    obtain ⟨hadapter, -, hkept⟩ := hvalues w hw
    rw [if_pos hbelow] at hadapter
    exact ⟨v, w, hv, hplace, hadapter, hkept.mpr (.inl (by decide))⟩
  · obtain ⟨hadapter, -, hkept⟩ := (integer_of_sent hpower).1 (.str power) (.inr rfl)
    rw [if_neg (Nat.not_lt.mpr hbeyond)] at hadapter
    exact ⟨hadapter, hkept.mpr (.inr hbeyond)⟩

/-- **The first integer beyond 64 bits is taken for the one before it**: it is neither kept nor
refused. -/
theorem integer_of_first_beyond :
    let hs : Headers := [⟨"Content-Type", ["application/json"]⟩]
    let w : Json := .str "9223372036854775808"
    Decoder.decode ⟨1000⟩ "\x7b\"n\": 9223372036854775808\x7d" hs = .structured (.obj [("n", w)]) ∧
      Adapter.integer.adaptIn w = .ok (.num "9223372036854775807") ∧
      identifiers "n" w = .ok [9223372036854775807] ∧
      ¬ w.KeepsInteger (Json.integerOf "9223372036854775808") := by
  intro hs w
  have hadapter : Adapter.integer.adaptIn w = .ok (.num "9223372036854775807") := by
    decide +kernel
  refine ⟨by decide +kernel, hadapter, by decide +kernel, fun h => ?_⟩
  have hsame := h.adapter _ hadapter
  revert hsame
  decide +kernel

end Adapter

end HttpExchange
