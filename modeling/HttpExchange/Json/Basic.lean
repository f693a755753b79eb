import HttpExchange.Assoc
import HttpExchange.Numeral.Integer

/-!
# JSON values

A value is what a JSON text denotes, with two things kept that a number type or
an unordered mapping would lose: the digits a number was written with, and the
order of the members of an object.

Two notions of equality are used. `=` compares everything, order included;
`Json.equiv` compares objects as mappings, so the order of their members does
not count.
-/

namespace HttpExchange

/-- A JSON value. A number is the text of its numeral. -/
inductive Json where
  | null
  | bool (b : Bool)
  | num (numeral : Text)
  | str (text : Text)
  | arr (items : List Json)
  | obj (members : List (Text × Json))
  deriving Inhabited

/-- The members of an object. -/
abbrev Members := Assoc Json

namespace Json

/-! ## Equality -/

mutual

/-- Whether two values are the same, the order of members included. -/
def same : Json → Json → Bool
  | .null, .null => true
  | .bool a, .bool b => a == b
  | .num a, .num b => a == b
  | .str a, .str b => a == b
  | .arr a, .arr b => sameItems a b
  | .obj a, .obj b => sameMembers a b
  | _, _ => false

/-- Whether two sequences of values are the same. -/
def sameItems : List Json → List Json → Bool
  | [], [] => true
  | a :: as, b :: bs => same a b && sameItems as bs
  | _, _ => false

/-- Whether two sequences of members are the same. -/
def sameMembers : List (Text × Json) → List (Text × Json) → Bool
  | [], [] => true
  | (k, a) :: as, (l, b) :: bs => k == l && same a b && sameMembers as bs
  | _, _ => false

end

mutual

theorem eq_of_same : ∀ (a b : Json), same a b = true → a = b
  | .null, b => by cases b <;> simp [same]
  | .bool _, b => by cases b <;> simp [same]
  | .num _, b => by cases b <;> simp [same]
  | .str _, b => by cases b <;> simp [same]
  | .arr as, b => by
    cases b <;> simp only [same, reduceCtorEq, Bool.false_eq_true, false_implies]
    next bs => exact fun h => congrArg Json.arr (eq_of_sameItems as bs h)
  | .obj as, b => by
    cases b <;> simp only [same, reduceCtorEq, Bool.false_eq_true, false_implies]
    next bs => exact fun h => congrArg Json.obj (eq_of_sameMembers as bs h)

theorem eq_of_sameItems : ∀ (as bs : List Json), sameItems as bs = true → as = bs
  | [], bs => by cases bs <;> simp [sameItems]
  | a :: as, bs => by
    cases bs with
    | nil => simp [sameItems]
    | cons b bs =>
      simp only [sameItems, Bool.and_eq_true, List.cons.injEq]
      exact fun ⟨h, hs⟩ => ⟨eq_of_same a b h, eq_of_sameItems as bs hs⟩

theorem eq_of_sameMembers : ∀ (as bs : List (Text × Json)), sameMembers as bs = true → as = bs
  | [], bs => by cases bs <;> simp [sameMembers]
  | (k, a) :: as, bs => by
    cases bs with
    | nil => simp [sameMembers]
    | cons b bs =>
      obtain ⟨l, b⟩ := b
      simp only [sameMembers, Bool.and_eq_true, beq_iff_eq, List.cons.injEq, Prod.mk.injEq]
      exact fun ⟨⟨hk, h⟩, hs⟩ => ⟨⟨hk, eq_of_same a b h⟩, eq_of_sameMembers as bs hs⟩

end

mutual

theorem same_refl : ∀ a : Json, same a a = true
  | .null | .bool _ | .num _ | .str _ => by simp [same]
  | .arr as => by simpa [same] using sameItems_refl as
  | .obj as => by simpa [same] using sameMembers_refl as

theorem sameItems_refl : ∀ as : List Json, sameItems as as = true
  | [] => rfl
  | a :: as => by simp [sameItems, same_refl a, sameItems_refl as]

theorem sameMembers_refl : ∀ as : List (Text × Json), sameMembers as as = true
  | [] => rfl
  | (k, a) :: as => by simp [sameMembers, same_refl a, sameMembers_refl as]

end

instance : DecidableEq Json := fun a b =>
  decidable_of_iff (same a b = true) ⟨eq_of_same a b, fun h => h ▸ same_refl a⟩

mutual

/-- Whether two values are equal when the order of members does not count. -/
def equiv : Json → Json → Bool
  | .null, .null => true
  | .bool a, .bool b => a == b
  | .num a, .num b => a == b
  | .str a, .str b => a == b
  | .arr a, .arr b => equivItems a b
  | .obj a, .obj b => a.length == b.length && equivMembers a b
  | _, _ => false

/-- Whether two sequences of values are equivalent item by item. -/
def equivItems : List Json → List Json → Bool
  | [], [] => true
  | a :: as, b :: bs => equiv a b && equivItems as bs
  | _, _ => false

/-- Whether every member of the first object is, up to equivalence, one of the second. -/
def equivMembers : List (Text × Json) → Members → Bool
  | [], _ => true
  | (k, a) :: as, bs =>
    (match Assoc.get? k bs with
      | some b => equiv a b
      | none => false) && equivMembers as bs

end

/-! ## Values of the simple kinds -/

/-- The number with the decimal text of an integer. -/
def ofInt (i : Int) : Json := .num (Numeral.ofInt i)

/-- The number with the decimal text of a natural number. -/
def ofNat (n : Nat) : Json := .num (Numeral.ofNat n)

/-- Whether the value is null. -/
def isNull : Json → Bool
  | .null => true
  | _ => false

/-- The text of a string. -/
def asText? : Json → Option Text
  | .str t => some t
  | _ => none

/-- The truth value of a boolean. -/
def asBool? : Json → Option Bool
  | .bool b => some b
  | _ => none

/-- The members of an object. -/
def asObject? : Json → Option Members
  | .obj m => some m
  | _ => none

/-- Whether the value is an array or an object. -/
def isCollection : Json → Bool
  | .arr _ | .obj _ => true
  | _ => false

/-- Items as members, each named by its index. -/
def indexed (items : List Json) : Members :=
  items.zipIdx.map fun (v, i) => (Numeral.ofNat i, v)

end Json

end HttpExchange
