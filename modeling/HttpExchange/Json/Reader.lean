import HttpExchange.Json.Token

/-!
# Reading JSON

The value that a sequence of tokens denotes is found by a machine with a stack
of open collections. Each token moves the machine once, so reading is a
recursion on the tokens, and the nesting of a text is the height of the stack.

No name has a meaning of its own: an object whose first name is
`$serde_json::private::Number` is an object like any other. This is where the reader
differs from one that passes numbers of any length on under that name. Such a reader
takes the object for the number that the text under the name spells, and it refuses
the object if the text spells none or if another member follows.

## Main definitions

- `Reader.step`: what one token does.
- `Json.read?`: the value of a text.
-/

namespace HttpExchange.Json

/-- The greatest number of collections that may be open at once. -/
def maxDepth : Nat := 127

namespace Reader

/-- An open collection. The items of an array are kept last first. -/
inductive Frame where
  | arr (itemsRev : List Json)
  | obj (members : Members) (name : Text)

/-- What may come next, inside the collections that are open. -/
inductive State where
  /-- A value. -/
  | value (stack : List Frame)
  /-- A value, or the end of an array that is empty so far. -/
  | firstItem (stack : List Frame)
  /-- A comma, or the end of an array. -/
  | afterItem (itemsRev : List Json) (stack : List Frame)
  /-- A name, or the end of an object that is empty so far. -/
  | firstName (stack : List Frame)
  /-- A name. -/
  | name (members : Members) (stack : List Frame)
  /-- The colon after a name. -/
  | colon (members : Members) (name : Text) (stack : List Frame)
  /-- A comma, or the end of an object. -/
  | afterMember (members : Members) (stack : List Frame)
  /-- Nothing: the text is complete. -/
  | done (v : Json)

/-- Gives a complete value to the collection that awaits it. -/
def complete (v : Json) : List Frame → State
  | [] => .done v
  | .arr itemsRev :: stack => .afterItem (v :: itemsRev) stack
  | .obj members name :: stack => .afterMember (Assoc.set name v members) stack

/-- Begins a value. -/
def beginValue (stack : List Frame) : Token → Option State
  | .null => some (complete .null stack)
  | .bool b => some (complete (.bool b) stack)
  | .num t => some (complete (.num t) stack)
  | .str t => some (complete (.str t) stack)
  | .openArray => if stack.length < maxDepth then some (.firstItem stack) else none
  | .openObject => if stack.length < maxDepth then some (.firstName stack) else none
  | _ => none

/-- Takes one token. -/
def step : State → Token → Option State
  | .value stack, t => beginValue stack t
  | .firstItem stack, .closeArray => some (complete (.arr []) stack)
  | .firstItem stack, t => beginValue (.arr [] :: stack) t
  | .afterItem itemsRev stack, .comma => some (.value (.arr itemsRev :: stack))
  | .afterItem itemsRev stack, .closeArray => some (complete (.arr itemsRev.reverse) stack)
  | .firstName stack, .closeObject => some (complete (.obj []) stack)
  | .firstName stack, .str n => some (.colon [] n stack)
  | .name members stack, .str n => some (.colon members n stack)
  | .colon members n stack, .colon => some (.value (.obj members n :: stack))
  | .afterMember members stack, .comma => some (.name members stack)
  | .afterMember members stack, .closeObject => some (complete (.obj members) stack)
  | _, _ => none

/-- Takes some tokens. -/
def run (s : State) (ts : List Token) : Option State := ts.foldlM step s

end Reader

/-- The value that a sequence of tokens denotes. -/
def ofTokens? (ts : List Token) : Option Json :=
  match Reader.run (.value []) ts with
  | some (.done v) => some v
  | _ => none

/-- The value that a text denotes. -/
def read? (t : Text) : Option Json := (Token.readAll? t).bind ofTokens?

end HttpExchange.Json
