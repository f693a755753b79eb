import HttpExchange.Form.Pairs
import HttpExchange.Json.Basic
import HttpExchange.Text.Blank

/-!
# Nested form values

Brackets in a name say where in a nested value the pair belongs: `a[b][c]` is the
member `c` of the member `b` of `a`, and an empty bracket stands for the next
free index. Objects whose names count from zero are arrays in the end.

## Main definitions

- `Form.Key.read?`: takes a name apart.
- `Form.insert`: puts a value at its place.
- `Form.parse`: the value of a form text.
- `Form.render`: the form text of a value.
-/

namespace HttpExchange.Form

/-- Where a pair belongs. -/
structure Key where
  /-- The member of the whole form. -/
  base : Text
  /-- The members below it, outermost first. -/
  path : List Text
  deriving DecidableEq, Repr

namespace Key

/-- The texts in the brackets that a text begins with, up to the first thing that is no complete
bracket. -/
def segments : Text → List Text
  | '[' :: rest =>
    match _h : Text.splitFirst ']' rest with
    | some (inside, rest') => inside :: segments rest'
    | none => []
  | _ => []
termination_by t => t.length
decreasing_by
  have := congrArg List.length (Text.eq_of_splitFirst _h)
  simp only [List.length_append, List.length_cons] at this ⊢
  omega

/-- Characters that a base must not have become underscores. -/
def baseChar (c : Char) : Char := if c = '.' ∨ c = ' ' ∨ c = '[' then '_' else c

/-- Takes a name apart. Brackets count only when one of them is closed. A name that is blank, or
that begins with a bracket, has no place. -/
def read? (name : Text) : Option Key :=
  let name := Text.trimStart name
  let before := name.takeWhile (· != '[')
  let after := name.dropWhile (· != '[')
  if before.isEmpty then none
  else if after.contains ']' then some ⟨before.map baseChar, segments after⟩
  else some ⟨name.map baseChar, []⟩

end Key

/-! ## Insertion -/

/-- The index after the greatest name that reads as one. Names read as numbers of 64 bits, and one
is added among the natural numbers. An addition in 64 bits agrees with this only as long as the
greatest name reads as less than `Numeral.maxNat64`: at that number it overflows. -/
def nextIndex (m : Members) : Nat :=
  match (m.filterMap fun (k, _) => Numeral.readNat64? k).max? with
  | some n => n + 1
  | none => 0

/-- A name, or the next index when it is empty. -/
def resolve (name : Text) (m : Members) : Text :=
  if name.isEmpty then Numeral.ofNat (nextIndex m) else name

/-- The object under a name; a value of another kind gives way to an empty one. -/
def childOf (name : Text) (m : Members) : Members :=
  match Assoc.get? name m with
  | some (.obj child) => child
  | _ => []

/-- Puts a value at its place. -/
def insertAt (value : Json) : (path : List Text) → (name : Text) → Members → Members
  | [], name, m => Assoc.set (resolve name m) value m
  | next :: path, name, m =>
    let name := resolve name m
    Assoc.set name (.obj (insertAt value path next (childOf name m))) m

/-- Adds a pair. -/
def insert (m : Members) (p : Text × Text) : Members :=
  match Key.read? p.1 with
  | some key => insertAt (.str p.2) key.path key.base m
  | none => m

/-! ## Arrays -/

/-- Whether the names of some members count from `n`. -/
def countsFrom (n : Nat) : Members → Bool
  | [] => true
  | (k, _) :: rest => Numeral.readNat64? k == some n && countsFrom (n + 1) rest

/-- An object, or an array when the names count from zero. -/
def listed (m : Members) : Json :=
  if !m.isEmpty && countsFrom 0 m then .arr m.values else .obj m

mutual

/-- The value in which every object that counts from zero is an array. -/
def withLists : Json → Json
  | .obj members => listed (withListsMembers members)
  | .arr items => .arr (withListsItems items)
  | v => v

/-- `withLists` at every item. -/
def withListsItems : List Json → List Json
  | [] => []
  | v :: rest => withLists v :: withListsItems rest

/-- `withLists` at every member. -/
def withListsMembers : List (Text × Json) → List (Text × Json)
  | [] => []
  | (k, v) :: rest => (k, withLists v) :: withListsMembers rest

end

/-- The object of some pairs before arrays are recognised. -/
def collect (ps : List (Text × Text)) : Members := ps.foldl insert []

/-- The value of a form text, of which only the first `limit` pairs count. -/
def parse (limit : Nat) (t : Text) : Members :=
  withListsMembers (collect ((readPairs t).take limit))

/-! ## Writing -/

/-- The text of a value that is no collection. Null has none. -/
def scalarText? : Json → Option Text
  | .bool true => some ['1']
  | .bool false => some ['0']
  | .num numeral => some numeral
  | .str t => some t
  | .null | .arr _ | .obj _ => none

/-- The name of a member below another. -/
def below (name member : Text) : Text := name ++ '[' :: member ++ [']']

mutual

/-- The pairs of a value under a name. -/
def flatten (name : Text) : Json → List (Text × Text)
  | .obj members => flattenMembers name members
  | .arr items => flattenItems name 0 items
  | v => (scalarText? v).toList.map (name, ·)

/-- The pairs of the items from index `i` on. -/
def flattenItems (name : Text) (i : Nat) : List Json → List (Text × Text)
  | [] => []
  | v :: rest => flatten (below name (Numeral.ofNat i)) v ++ flattenItems name (i + 1) rest

/-- The pairs of some members. -/
def flattenMembers (name : Text) : List (Text × Json) → List (Text × Text)
  | [] => []
  | (k, v) :: rest => flatten (below name k) v ++ flattenMembers name rest

end

/-- The pairs of an object. -/
def pairsOf (m : Members) : List (Text × Text) := m.flatMap fun (k, v) => flatten k v

/-- The form text of an object. -/
def render (m : Members) : Text := writePairs (pairsOf m)

end HttpExchange.Form
