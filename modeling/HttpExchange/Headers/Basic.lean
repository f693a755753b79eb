import HttpExchange.Assoc
import HttpExchange.Text.Blank

/-!
# Header fields

The fields of a message in the order in which their names were first used. Two
names are the same field when they differ only in case or in the blanks around
them; the first spelling is the one that is written. A field has one or more
values.

## Main definitions

- `Headers.set`, `Headers.append`, `Headers.remove`: the edits.
- `Headers.valuesOf`, `Headers.get?`, `Headers.contains`: reading.
- `Headers.pairs`, `Headers.ofPairs`: the fields as one pair per value.
-/

namespace HttpExchange

/-- A header field: its name as first written, without blanks around it, and its values. -/
structure Header where
  name : Text
  values : List Text
  deriving DecidableEq, Repr

/-- The header fields of a message. -/
abbrev Headers := List Header

/-- What identifies a field: its name without regard to case. -/
def Header.key (h : Header) : Text := Text.lower h.name

namespace Headers

/-- What a spelling of a name identifies. -/
def keyOf (name : Text) : Text := Text.lower (Text.trim name)

/-- Gives a field one value in place of all it has. -/
def set (name value : Text) : Headers → Headers
  | [] => [⟨Text.trim name, [value]⟩]
  | h :: hs =>
    if h.key = keyOf name then { h with values := [value] } :: hs else h :: set name value hs

/-- Adds a value to a field. -/
def append (name value : Text) : Headers → Headers
  | [] => [⟨Text.trim name, [value]⟩]
  | h :: hs =>
    if h.key = keyOf name then { h with values := h.values ++ [value] } :: hs
    else h :: append name value hs

/-- The field of a name. -/
def field? (name : Text) (hs : Headers) : Option Header := hs.find? (·.key == keyOf name)

/-- The values of a field; there are none when the field is absent. -/
def valuesOf (name : Text) (hs : Headers) : List Text :=
  match field? name hs with
  | some h => h.values
  | none => []

/-- The first value of a field. -/
def get? (name : Text) (hs : Headers) : Option Text := (valuesOf name hs).head?

/-- Whether a field is present. -/
def contains (name : Text) (hs : Headers) : Bool := (field? name hs).isSome

/-- The values of a field that is removed; there are none to give back when the field is absent. -/
def removed? (name : Text) (hs : Headers) : Option (List Text) := (field? name hs).map (·.values)

/-- Removes a field; the others keep their order. -/
def remove (name : Text) : Headers → Headers
  | [] => []
  | h :: hs => if h.key = keyOf name then hs else h :: remove name hs

/-- One pair for each value. -/
def pairs (hs : Headers) : List (Text × Text) := hs.flatMap fun h => h.values.map (h.name, ·)

/-- The fields that result from adding some values one after the other. -/
def ofPairs (pairs : List (Text × Text)) : Headers :=
  pairs.foldl (fun hs (name, value) => append name value hs) []

/-- Each name with its values, joined by commas. -/
def toMap (hs : Headers) : Assoc Text :=
  Assoc.ofList (hs.map fun h => (h.name, Text.joinWith ", " h.values))

end Headers

end HttpExchange
