import HttpExchange.Json.Writer
import HttpExchange.Text.Blank
import HttpExchange.Xml.Tree

/-!
# XML documents as values

An element becomes an object of five members: its name, its text, its
attributes, whether it has child elements, and those children. A child is found
under its name when the name is its own among its siblings, and when it has no
children itself or no siblings; otherwise it has a place in the sequence of
children.

## Main definitions

- `Record.ofElement`: the record of an element.
- `Record.toJson`: the value of a record.
- `Xml.read?`: the value of a document.
- `Xml.write?`: the document of a value.
-/

namespace HttpExchange.Xml

/-- What is kept of an element. A child has a name to be found under, or none. -/
inductive Record where
  | mk (name : Text) (value : Option Text) (attributes : Assoc Text) (hasChildren : Bool)
    (children : List (Option Text × Record))
  deriving Inhabited

namespace Record

/-- The name of an element. -/
def name : Record → Text
  | .mk name _ _ _ _ => name

/-- The text of an element without child elements. -/
def value : Record → Option Text
  | .mk _ value _ _ _ => value

/-- The attributes of an element. -/
def attributes : Record → Assoc Text
  | .mk _ _ attributes _ _ => attributes

/-- Whether an element has child elements. -/
def hasChildren : Record → Bool
  | .mk _ _ _ hasChildren _ => hasChildren

/-- The child elements. -/
def children : Record → List (Option Text × Record)
  | .mk _ _ _ _ children => children

/-- The attributes of a tag by their names with qualifiers. -/
def attributesOf (tag : Tag) : Assoc Text :=
  Assoc.ofList (tag.attributes.map fun a =>
    (Text.trim (a.name.qualified tag.scope), Text.trim a.value))

/-- The text of a node. -/
def textOf : Node → Text
  | .text t => t
  | .element _ _ => []

/-- The text among some nodes, unless it is blank. -/
def valueOf (nodes : List Node) : Option Text :=
  let t := Text.trim (nodes.flatMap textOf)
  if t.isEmpty then none else some t

/-- Whether a child is found by its place: one that has siblings and children of its own, or
shares its name with a sibling. -/
def isPositional (names : List Text) (child : Text × Record) : Bool :=
  (1 < names.length && child.2.hasChildren) || 1 < names.count child.1

/-- The children of an element, each with the name it is found under if it has one. -/
def place (children : List (Text × Record)) : List (Option Text × Record) :=
  let names := children.map Prod.fst
  children.map fun child => (if isPositional names child then none else some child.1, child.2)

mutual

/-- The record of an element. -/
def ofElement (tag : Tag) (nodes : List Node) : Record :=
  match elementsOf nodes with
  | [] => .mk tag.name.name (valueOf nodes) (attributesOf tag) false []
  | children => .mk tag.name.name none (attributesOf tag) true (place children)

/-- The records of the elements among some nodes, each with its name. -/
def elementsOf : List Node → List (Text × Record)
  | [] => []
  | .text _ :: rest => elementsOf rest
  | .element tag nodes :: rest => (tag.qualified, ofElement tag nodes) :: elementsOf rest

end

/-- The names under which the children are members: a child without a name of its own gets the
next number. -/
def keysFrom (next : Nat) : List (Option Text) → List Text
  | [] => []
  | some name :: rest => name :: keysFrom next rest
  | none :: rest => Numeral.ofNat next :: keysFrom (next + 1) rest

/-- The children of an element as a value: an array when none of them has a name. -/
def childrenJson (names : List (Option Text)) (values : List Json) : Json :=
  let members := Assoc.ofList ((keysFrom 0 names).zip values)
  if names.all (·.isNone) then .arr members.values else .obj members

mutual

/-- The value of a record. -/
def toJson : Record → Json
  | .mk name value attributes hasChildren children =>
    .obj [
      ("name", .str name),
      ("value", (value.map Json.str).getD .null),
      ("attributes", .obj (Assoc.ofList (attributes.mapValues Json.str))),
      ("has_children", .bool hasChildren),
      ("children", childrenJson (children.map Prod.fst) (childValues children))]

/-- The values of the children. -/
def childValues : List (Option Text × Record) → List Json
  | [] => []
  | (_, child) :: rest => toJson child :: childValues rest

end

end Record

/-- The value of a document. -/
def read? (t : Text) : Option Json :=
  (Tree.read? (Text.trimStart t)).map fun (tag, nodes) => (Record.ofElement tag nodes).toJson

/-! ## Writing -/

/-- A character as it is written. -/
def escape (c : Char) : Text :=
  match c with
  | '&' => "&amp;"
  | '<' => "&lt;"
  | '>' => "&gt;"
  | '"' => "&quot;"
  | '\'' => "&apos;"
  | c => [c]

/-- A text as it is written. -/
def escapeText (t : Text) : Text := t.flatMap escape

/-- The text that a value has as an attribute. -/
def attributeText : Json → Text
  | .str t => t
  | v => v.write

/-- The attributes of a tag as they are written. -/
def writeAttributes (attributes : Option Json) : Text :=
  match attributes with
  | some (.obj members) => members.flatMap fun (k, v) =>
    ' ' :: k ++ "=\"".toList ++ escapeText (attributeText v) ++ ['"']
  | _ => []

/-- The text of an element without children as it is written. -/
def writeValue (value : Option Json) : Text :=
  match value with
  | some (.str t) => escapeText t
  | _ => []

/-- The name of an element, if an object has one. -/
def elementName? (members : Members) : Option Text := (Assoc.get? "name" members).bind Json.asText?

/-- An element around what is inside of it. -/
def writeTag (name : Text) (members : Members) (inside : Text) : Text :=
  '<' :: name ++ writeAttributes (Assoc.get? "attributes" members) ++ '>' :: inside ++
    "</".toList ++ name ++ ['>']

mutual

/-- The document of a value; `none` when the value is no element. -/
def write? : Json → Option Text
  | .obj members => do
    let name ← elementName? members
    let inside ← writeChildren? members
    some (writeTag name members (inside.getD (writeValue (Assoc.get? "value" members))))
  | _ => none

/-- What the first member of the name `children` holds when it is a collection that is not empty:
its elements as they are written. -/
def writeChildren? : List (Text × Json) → Option (Option Text)
  | [] => some none
  | (k, v) :: rest => if k = "children" then writeCollection? v else writeChildren? rest

/-- The elements of a collection that is not empty. -/
def writeCollection? : Json → Option (Option Text)
  | .arr (v :: items) => do
    let first ← write? v
    let others ← writeItems? items
    some (some (first ++ others))
  | .obj ((_, v) :: members) => do
    let first ← write? v
    let others ← writeMembers? members
    some (some (first ++ others))
  | _ => some none

/-- Elements one after the other. -/
def writeItems? : List Json → Option Text
  | [] => some []
  | v :: rest => do
    let first ← write? v
    let others ← writeItems? rest
    some (first ++ others)

/-- The elements of an object one after the other. -/
def writeMembers? : List (Text × Json) → Option Text
  | [] => some []
  | (_, v) :: rest => do
    let first ← write? v
    let others ← writeMembers? rest
    some (first ++ others)

end

end HttpExchange.Xml
