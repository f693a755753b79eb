import HttpExchange.Json.Number
import HttpExchange.Proofs.Assoc
import HttpExchange.Proofs.Json.Reader
import HttpExchange.Proofs.Numeral.Integer

/-!
# Portable values

A number stays a number where 64 bits can hold the integer that it spells, or
double precision a number with a point or an exponent. Any other becomes a string
with its numeral. Nothing else changes: the places of a value and what stands at
them remain, so what was portable already stays as it is.

## Main definitions

* `at?` — the value at a place inside another.
* `IsHeld` — the numerals that may stay numbers.

## Main results

* `isPortable_iff` — the numerals that stay numbers are those.
* `at?_portable` — every place has the portable form of what was there.
* `IsReadable.portable`, `portable_portable` — the portable form can be read, and is portable.
-/

namespace HttpExchange.Json

/-! ## Places -/

/-- A way from a collection to a value in it. -/
inductive Step where
  | item (index : Nat)
  | member (name : Text)
  deriving DecidableEq, Repr

/-- The value at a place, which is the way to it from outside to inside. -/
def at? : List Step → Json → Option Json
  | [], v => some v
  | .item i :: place, .arr items => items[i]?.bind (at? place)
  | .member k :: place, .obj members => (Assoc.get? k members).bind (at? place)
  | _ :: _, _ => none

/-- What can be read has at each place what can be read. -/
theorem IsReadable.at? {n : Nat} {v w : Json} (h : IsReadable n v) {place : List Step}
    (hw : v.at? place = some w) : ∃ m, IsReadable m w := by
  induction place generalizing n v with
  | nil => exact ⟨n, Option.some.inj hw ▸ h⟩
  | cons step place ih =>
      cases h with
      | arr hitems =>
          cases step with
          | member k => cases hw
          | item i =>
              obtain ⟨item, hitem, hrest⟩ := Option.bind_eq_some_iff.mp hw
              exact ih (hitems item (List.mem_of_getElem? hitem)) hrest
      | obj _ hmembers =>
          cases step with
          | item i => cases hw
          | member k =>
              obtain ⟨value, hvalue, hrest⟩ := Option.bind_eq_some_iff.mp hw
              exact ih (hmembers (k, value) (Assoc.mem_of_get? hvalue)) hrest
      | _ => cases step <;> cases hw

/-! ## Numerals that are held -/

/-- The integer that a numeral without point and exponent spells. -/
def integerOf : Text → Int
  | '-' :: digits => -(Numeral.value digits : Int)
  | digits => Numeral.value digits

/-- A numeral of an integer that 64 bits hold, or of a number with a point or an exponent that
double precision holds. -/
def IsHeld (numeral : Text) : Prop :=
  (isFractional numeral = false ∧ Numeral.minInt64 ≤ integerOf numeral ∧
      integerOf numeral ≤ Numeral.maxInt64) ∨
    (isFractional numeral = true ∧ isFinite numeral = true)

theorem isFractional_of_digits {t : Text} (h : ∀ c ∈ t, c.isDigit = true) :
    isFractional t = false := by
  refine List.any_eq_false.mpr fun c hc => ?_
  have hother : ∀ d : Char, d.isDigit = false → c ≠ d := by
    rintro d hd rfl
    rw [h c hc] at hd
    cases hd
  simp [hother '.' rfl, hother 'e' rfl, hother 'E' rfl]

theorem isFractional_append (a b : Text) :
    isFractional (a ++ b) = (isFractional a || isFractional b) := List.any_append

/-- Without a point and an exponent, a numeral is a run of digits behind its sign. -/
theorem IsUnsigned.isDigits {numeral : Text} (h : IsUnsigned numeral)
    (hplain : isFractional numeral = false) : Numeral.isDigits numeral = true := by
  obtain ⟨whole, fraction, exponent, hwhole, hfraction, hexponent, rfl⟩ := h
  rw [isFractional_append, isFractional_append, Bool.or_eq_false_iff,
    Bool.or_eq_false_iff] at hplain
  obtain rfl : fraction = [] := by
    rcases hfraction with rfl | ⟨digits, -, rfl⟩
    · rfl
    · cases hplain.1.2
  obtain rfl : exponent = [] := by
    rcases hexponent with rfl | ⟨sign, digits, -, -, rfl⟩
    · rfl
    · cases hplain.2
  rw [List.append_nil, List.append_nil, Numeral.isDigits, Bool.and_eq_true]
  rcases hwhole with rfl | ⟨hrun, -⟩
  · decide
  · exact ⟨by simpa using hrun.nonempty, List.all_eq_true.mpr hrun.digits⟩

/-- What reads as an integer has no point and no exponent. -/
theorem isFractional_of_readInt64? {numeral : Text}
    (h : (Numeral.readInt64? numeral).isSome = true) : isFractional numeral = false := by
  have hdigits : ∀ t, Numeral.isDigits t = true → isFractional t = false := by
    intro t ht
    rw [Numeral.isDigits, Bool.and_eq_true] at ht
    exact isFractional_of_digits (List.all_eq_true.mp ht.2)
  have hread : ∀ {α : Type} {t : Text} {p : Bool} {a : α},
      (if Numeral.isDigits t && p then some a else none).isSome = true →
        isFractional t = false := by
    intro α t p a hsome
    split at hsome
    · next htest => exact hdigits t (Bool.and_eq_true_iff.mp htest).1
    · cases hsome
  unfold Numeral.readInt64? at h
  split at h
  · have hrest := hread h
    exact hrest
  · rw [Option.isSome_map] at h
    unfold Numeral.readNat? at h
    dsimp only at h
    split at h
    · have hrest := hread h
      exact hrest
    · exact hread h

/-- A run of digits, perhaps behind a minus sign, spells an integer. -/
def SpellsInteger (t : Text) : Prop :=
  ∃ digits, Numeral.isDigits digits = true ∧ (t = digits ∨ t = '-' :: digits)

theorem IsNumeral.spellsInteger {numeral : Text} (h : IsNumeral numeral)
    (hplain : isFractional numeral = false) : SpellsInteger numeral := by
  rcases h with hunsigned | ⟨digits, hunsigned, rfl⟩
  · exact ⟨numeral, hunsigned.isDigits hplain, .inl rfl⟩
  · exact ⟨digits, hunsigned.isDigits hplain, .inr rfl⟩

theorem ne_minus_of_isDigits {digits : Text} (h : Numeral.isDigits digits = true)
    (rest : Text) : digits ≠ '-' :: rest := by
  rintro rfl
  simp [Numeral.isDigits] at h

theorem integerOf_of_isDigits {digits : Text} (h : Numeral.isDigits digits = true) :
    integerOf digits = Numeral.value digits := by
  unfold integerOf
  split
  · exact absurd rfl (ne_minus_of_isDigits h _)
  · rfl

/-- **What spells an integer reads as it**, if 64 bits hold it. -/
theorem readInt64?_of_spellsInteger {t : Text} (h : SpellsInteger t) :
    Numeral.readInt64? t =
      if Numeral.minInt64 ≤ integerOf t ∧ integerOf t ≤ Numeral.maxInt64 then
        some (integerOf t)
      else none := by
  have hbounds : Numeral.minInt64 ≤ 0 ∧ 0 ≤ Numeral.maxInt64 := by decide
  obtain ⟨digits, hdigits, rfl | rfl⟩ := h
  · have hread : Numeral.readInt64? t =
        (Numeral.readNat? Numeral.maxInt64.toNat t).map Int.ofNat := by
      unfold Numeral.readInt64?
      split
      · exact absurd rfl (ne_minus_of_isDigits hdigits _)
      · rfl
    rw [hread, Numeral.readNat?_of_isDigits hdigits, integerOf_of_isDigits hdigits]
    by_cases hmax : Numeral.value t ≤ Numeral.maxInt64.toNat
    · rw [if_pos hmax, if_pos (by omega)]
      rfl
    · rw [if_neg hmax, if_neg (by omega)]
      rfl
  · have hinteger : integerOf ('-' :: digits) = -(Numeral.value digits : Int) := rfl
    rw [Numeral.readInt64?, hdigits, Bool.true_and, hinteger]
    by_cases hmin : Numeral.minInt64 ≤ -(Numeral.value digits : Int)
    · rw [if_pos (decide_eq_true hmin), if_pos (by omega)]
    · rw [if_neg (by simpa using hmin), if_neg (by omega)]

theorem readInt64?_isSome_iff {numeral : Text} (h : IsNumeral numeral)
    (hplain : isFractional numeral = false) :
    (Numeral.readInt64? numeral).isSome = true ↔
      Numeral.minInt64 ≤ integerOf numeral ∧ integerOf numeral ≤ Numeral.maxInt64 := by
  rw [readInt64?_of_spellsInteger (h.spellsInteger hplain)]
  split
  · next hbounds => exact ⟨fun _ => hbounds, fun _ => rfl⟩
  · next hbounds => exact ⟨nofun, fun h => absurd h hbounds⟩

/-- **The numerals that stay numbers** are those that 64 bits or double precision hold. -/
theorem isPortable_iff {numeral : Text} (h : IsNumeral numeral) :
    isPortable numeral = true ↔ IsHeld numeral := by
  rw [isPortable, Bool.or_eq_true, Bool.and_eq_true, IsHeld]
  cases hfractional : isFractional numeral with
  | false => simp [readInt64?_isSome_iff h hfractional]
  | true =>
      have hinteger : (Numeral.readInt64? numeral).isSome = false := by
        refine Bool.eq_false_iff.mpr fun hsome => ?_
        rw [isFractional_of_readInt64? hsome] at hfractional
        cases hfractional
      simp [hinteger]

/-! ## The portable form -/

theorem portableItems_eq (items : List Json) : portableItems items = items.map portable := by
  induction items with
  | nil => rw [portableItems, List.map_nil]
  | cons v items ih => rw [portableItems, ih, List.map_cons]

theorem portableMembers_eq (members : Members) :
    portableMembers members = Assoc.mapValues portable members := by
  induction members with
  | nil => rw [portableMembers, Assoc.mapValues, List.map_nil]
  | cons e members ih =>
      obtain ⟨k, v⟩ := e
      rw [portableMembers, ih, Assoc.mapValues, Assoc.mapValues, List.map_cons]

/-- **Every place has the portable form of what was there.** -/
theorem at?_portable (place : List Step) (v : Json) :
    v.portable.at? place = (v.at? place).map portable := by
  induction place generalizing v with
  | nil => rfl
  | cons step place ih =>
      have hstep : ∀ o : Option Json, (o.map portable).bind (at? place) =
          (o.bind (at? place)).map portable := by
        intro o
        cases o with
        | none => rfl
        | some w => exact ih w
      cases v with
      | num numeral =>
          rw [portable]
          split <;> cases step <;> rfl
      | arr items =>
          cases step with
          | item i =>
              rw [portable, at?, at?, portableItems_eq, List.getElem?_map]
              exact hstep _
          | member k => rfl
      | obj members =>
          cases step with
          | item i => rfl
          | member k =>
              rw [portable, at?, at?, portableMembers_eq, Assoc.get?_mapValues]
              exact hstep _
      | _ => cases step <;> rfl

/-- **The portable form of what can be read can be read.** -/
theorem IsReadable.portable {n : Nat} {v : Json} (h : IsReadable n v) :
    IsReadable n v.portable := by
  induction h with
  | null n => exact .null n
  | bool n b => exact .bool n b
  | num n h =>
      rw [Json.portable]
      split
      · exact .num n h
      · exact .str n _
  | str n t => exact .str n t
  | arr h ih =>
      rw [Json.portable, portableItems_eq]
      refine .arr fun v hv => ?_
      obtain ⟨w, hw, rfl⟩ := List.mem_map.mp hv
      exact ih w hw
  | obj hdistinct h ih =>
      rw [Json.portable, portableMembers_eq]
      refine .obj (by rwa [Assoc.keys_mapValues]) fun e he => ?_
      obtain ⟨x, hx, rfl⟩ := Assoc.mem_mapValues he
      exact ih x hx

/-- **What is portable stays as it is.** -/
theorem portable_portable {n : Nat} {v : Json} (h : IsReadable n v) :
    v.portable.portable = v.portable := by
  induction h with
  | null n => rfl
  | bool n b => rfl
  | @num n numeral h =>
      by_cases hportable : isPortable numeral
      · rw [Json.portable, if_pos hportable, Json.portable, if_pos hportable]
      · rw [Json.portable, if_neg hportable]
        rfl
  | str n t => rfl
  | arr h ih =>
      rw [Json.portable, Json.portable, portableItems_eq, portableItems_eq, List.map_map]
      exact congrArg Json.arr (List.map_congr_left ih)
  | obj hdistinct h ih =>
      rw [Json.portable, Json.portable, portableMembers_eq, portableMembers_eq, Assoc.mapValues,
        Assoc.mapValues, List.map_map]
      exact congrArg Json.obj (List.map_congr_left fun e he => congrArg (e.1, ·) (ih e he))

theorem portable_ne_null {v : Json} (h : v ≠ .null) : v.portable ≠ .null := by
  cases v with
  | null => exact absurd rfl h
  | num numeral =>
      rw [portable]
      split <;> nofun
  | _ => nofun

/-! ## Numbers -/

/-- Two values with the same places, where the second one has as numbers those numbers of the first
that are held, and as strings the numerals of the others. -/
structure NumbersHeld (v w : Json) : Prop where
  places : ∀ place, (w.at? place).isSome = (v.at? place).isSome
  numbers : ∀ place numeral,
    w.at? place = some (.num numeral) ↔ v.at? place = some (.num numeral) ∧ IsHeld numeral
  strings : ∀ place numeral,
    v.at? place = some (.num numeral) → ¬ IsHeld numeral → w.at? place = some (.str numeral)

theorem portable_eq_num_iff {v : Json} {numeral : Text} :
    v.portable = .num numeral ↔ v = .num numeral ∧ isPortable numeral = true := by
  cases v with
  | num n =>
      by_cases hn : isPortable n
      · rw [portable, if_pos hn]
        refine ⟨fun heq => ⟨heq, ?_⟩, fun h => h.1⟩
        obtain rfl := Json.num.inj heq
        exact hn
      · rw [portable, if_neg hn]
        refine ⟨nofun, ?_⟩
        rintro ⟨heq, hportable⟩
        obtain rfl := Json.num.inj heq
        exact absurd hportable hn
  | _ => exact ⟨nofun, nofun⟩

/-- The portable form is a string where one was, and in place of a number that is not held. -/
theorem portable_eq_str_iff {v : Json} {t : Text} :
    v.portable = .str t ↔ v = .str t ∨ v = .num t ∧ isPortable t = false := by
  cases v with
  | num numeral =>
      rw [portable]
      split
      · next hportable =>
          refine ⟨fun heq => (by cases heq), ?_⟩
          rintro (heq | ⟨heq, hnot⟩)
          · cases heq
          · rw [← Json.num.inj heq, hportable] at hnot
            cases hnot
      · next hnot =>
          constructor
          · rintro heq
            obtain rfl := Json.str.inj heq
            exact .inr ⟨rfl, Bool.not_eq_true _ |>.mp hnot⟩
          · rintro (heq | ⟨heq, -⟩)
            · cases heq
            · rw [Json.num.inj heq]
  | _ => simp [portable]

/-- **The numbers of the portable form.** -/
theorem numbersHeld_portable {n : Nat} {v : Json} (h : IsReadable n v) :
    NumbersHeld v v.portable := by
  have hheld : ∀ {place numeral}, v.at? place = some (.num numeral) →
      (isPortable numeral = true ↔ IsHeld numeral) := by
    intro place numeral hplace
    obtain ⟨m, hm⟩ := h.at? hplace
    cases hm with
    | num _ hnumeral => exact isPortable_iff hnumeral
  refine ⟨fun place => ?_, fun place numeral => ?_, fun place numeral hplace hnot => ?_⟩
  · rw [at?_portable, Option.isSome_map]
  · rw [at?_portable, Option.map_eq_some_iff]
    constructor
    · rintro ⟨w, hplace, hw⟩
      obtain ⟨rfl, hportable⟩ := portable_eq_num_iff.mp hw
      exact ⟨hplace, (hheld hplace).mp hportable⟩
    · rintro ⟨hplace, hnumeral⟩
      exact ⟨_, hplace, portable_eq_num_iff.mpr ⟨rfl, (hheld hplace).mpr hnumeral⟩⟩
  · rw [at?_portable, hplace, Option.map_some, portable, if_neg (mt (hheld hplace).mp hnot)]

end HttpExchange.Json
