import HttpExchange.Xml.Event
import HttpExchange.Xml.Node
import HttpExchange.Xml.Reference

/-!
# The tree of a document

Events make up a tree: end tags have to match start tags, qualifiers have to be
declared, attributes have to differ, and references are replaced by what they
stand for. The text of an entity is itself a sequence of events, so building is
a recursion on how deep entities may still refer to each other.

## Main definitions

- `Tree.valueText?`: the value of an attribute.
- `Tree.step?`, `Tree.run?`: what events do to a tree under construction.
- `Tree.read?`: the root element of a document.
-/

namespace HttpExchange.Xml.Tree

/-- How deep entities may refer to each other. -/
def maxNesting : Nat := 10

/-- The number of references that may occur inside the entities of one outermost reference. -/
def maxReferences : Nat := 255

/-- Counts a reference to an entity, at the top or inside of another entity. -/
def countReference? (nested : Bool) (references : Nat) : Option Nat :=
  if !nested then some references
  else if references < maxReferences then some (references + 1)
  else none

/-- The count after an entity: at the top it starts anew. -/
def countAfter (nested : Bool) (references : Nat) : Nat := if nested then references else 0

/-! ## Values of attributes -/

/-- A written character of a value: line breaks and tabs are blanks, and a carriage return before
a line feed does not count. -/
def valueChar (c : Char) (next : Option Char) : Text :=
  if c = '\r' ∧ next = some '\n' then []
  else if c = '\n' ∨ c = '\r' ∨ c = '\t' then [' ']
  else [c]

/-- The character at the beginning of some pieces, as it is written. -/
def nextWritten? : List Piece → Option Char
  | .written c :: _ => some c
  | .referred _ :: _ | .entity _ :: _ => some '&'
  | [] => none

/-- The value that some pieces add to `acc`, and the count of references after them. At the top, a
character that is referred to stands as it is; inside an entity it is like a written one, and may
not begin markup. What an entity adds is up to `enter`. -/
def valueOf? (enter : Text → Nat → Option (Text × Nat)) (nested : Bool) :
    List Piece → (acc : Text) → (references : Nat) → Option (Text × Nat)
  | [], acc, references => some (acc, references)
  | .written c :: rest, acc, references =>
    valueOf? enter nested rest (acc ++ valueChar c (nextWritten? rest)) references
  | .referred c :: rest, acc, references =>
    if !nested then valueOf? enter nested rest (acc ++ [c]) references
    else if c = '<' then none
    else valueOf? enter nested rest (acc ++ valueChar c none) references
  | .entity t :: rest, acc, references => do
    let references ← countReference? nested references
    let (inner, references) ← enter t references
    valueOf? enter nested rest (acc ++ inner) (countAfter nested references)

/-- The value of an attribute, and the count of references after it. -/
def valueText? (entities : Entities) :
    (nesting : Nat) → (nested : Bool) → Text → (references : Nat) → Option (Text × Nat)
  | 0, nested, t, references =>
    (Piece.readAll? entities t).bind (valueOf? (fun _ _ => none) nested · [] references)
  | nesting + 1, nested, t, references =>
    (Piece.readAll? entities t).bind
      (valueOf? (valueText? entities nesting true) nested · [] references)

/-! ## Runs of text -/

/-- A run of text under construction: its characters, last first, and whether the next written
character is to be taken as it is. -/
structure Run where
  charsRev : Text
  verbatim : Bool
  deriving DecidableEq, Repr

namespace Run

/-- The run without characters. -/
def empty : Run := ⟨[], false⟩

/-- A character with line breaks normalised: a carriage return becomes a line feed when it is
known what follows it, and one that a line feed follows is dropped. -/
def push (c : Char) (isLast : Bool) (charsRev : Text) : Text :=
  let c' := if isLast && c == '\r' then '\n' else c
  match charsRev with
  | '\r' :: before => if c = '\n' then '\n' :: before else c' :: '\n' :: before
  | before => c' :: before

/-- Adds a written character. -/
def written (c : Char) (isLast : Bool) (r : Run) : Run :=
  if r.verbatim then ⟨c :: r.charsRev, false⟩ else ⟨push c isLast r.charsRev, false⟩

/-- Adds a character that is referred to. -/
def referred (nested : Bool) (c : Char) (isLast : Bool) (r : Run) : Run :=
  if nested then { r with charsRev := push c isLast r.charsRev } else ⟨c :: r.charsRev, true⟩

/-- The text of a run, as a node unless it is empty. -/
def nodes (r : Run) : List Node :=
  if r.charsRev.isEmpty then [] else [.text r.charsRev.reverse]

/-- The run of a text without references. -/
def ofLiteral : Text → Run → Run
  | [], r => r
  | c :: cs, r => ofLiteral cs (written c cs.isEmpty r)

end Run

/-! ## Trees under construction -/

/-- An element that is open. -/
structure Frame where
  /-- The name as it was written. -/
  written : QName
  tag : Tag
  childrenRev : List Node

/-- A tree under construction. -/
structure State where
  /-- The last start tag of the text that is being read, if it has one yet. -/
  current : Option QName
  /-- The declarations of the start tag. -/
  declared : Scope
  /-- The attributes of the start tag. -/
  attributes : List (QName × Text)
  /-- The elements that are open, innermost first. -/
  stack : List Frame
  /-- The nodes outside of all elements, last first. -/
  rootsRev : List Node
  /-- The references met inside the outermost entity. -/
  references : Nat

/-- The tree before the first event. -/
def State.empty : State := ⟨none, [], [], [], [], 0⟩

/-- Adds nodes to the innermost open element. -/
def State.add (nodes : List Node) (s : State) : State :=
  match s.stack with
  | [] => { s with rootsRev := nodes.reverse ++ s.rootsRev }
  | f :: fs => { s with stack := { f with childrenRev := nodes.reverse ++ f.childrenRev } :: fs }

/-- Whether a declaration of a qualifier is allowed. -/
def mayBind (s : State) (qualifier uri : Text) : Bool :=
  uri != xmlnsUri && ((qualifier == "xml".toList) == (uri == xmlUri)) &&
    !Scope.declares (some qualifier) s.declared

/-- Takes an attribute. Some attributes are namespace declarations. -/
def takeAttribute? (s : State) (q : QName) (value : Text) : Option State :=
  if q.qualifier = "xmlns" then
    if !mayBind s q.name value then none
    else if value = xmlUri then some s
    else some { s with declared := s.declared ++ [⟨some q.name, value⟩] }
  else if q.name = "xmlns" then
    if value = xmlUri || value = xmlnsUri then none
    else some { s with declared := s.declared ++ [⟨none, value⟩] }
  else some { s with attributes := s.attributes ++ [(q, value)] }

/-- The name that a written name stands for. Only a default may be undeclared. -/
def elementName? (scope : Scope) (q : QName) : Option ExpandedName :=
  if q.qualifier.isEmpty then some ⟨scope.uri? none, q.name⟩
  else (scope.uri? (some q.qualifier)).map fun uri => ⟨some uri, q.name⟩

/-- The name that the written name of an attribute stands for. Without a qualifier it belongs to
no namespace. -/
def attributeName? (scope : Scope) (q : QName) : Option ExpandedName :=
  if q.qualifier = "xml" then some ⟨some xmlUri, q.name⟩
  else if q.qualifier.isEmpty then some ⟨none, q.name⟩
  else (scope.uri? (some q.qualifier)).map fun uri => ⟨some uri, q.name⟩

/-- Adds an attribute to others, from which its name has to differ. -/
def addAttribute? (scope : Scope) (as : List Attribute) (a : QName × Text) :
    Option (List Attribute) :=
  (attributeName? scope a.1).bind fun name =>
    if as.any (·.name == name) then none else some (as ++ [⟨name, a.2⟩])

/-- The scope at the end of a tag. -/
def State.scope (s : State) : Scope :=
  match s.stack with
  | [] => s.declared
  | f :: _ => if s.declared.isEmpty then f.tag.scope else f.tag.scope.extend s.declared

/-- The attributes at the end of a tag. -/
def State.resolved? (s : State) : Option (List Attribute) :=
  s.attributes.foldlM (addAttribute? s.scope) []

/-- The state after a tag. -/
def State.clear (s : State) : State := { s with declared := [], attributes := [] }

/-- Takes the end of a start tag. -/
def takeTagEnd? (s : State) (isEmpty : Bool) : Option State := do
  let q ← s.current
  let attributes ← s.resolved?
  let name ← elementName? s.scope q
  let tag : Tag := ⟨name, s.scope, attributes⟩
  if isEmpty then some (s.clear.add [.element tag []])
  else some { s.clear with stack := ⟨q, tag, []⟩ :: s.stack }

/-- Takes an end tag, which has to match the innermost start tag as it was written. -/
def takeClose? (s : State) (q : QName) : Option State := do
  let _ ← s.current
  let _ ← s.resolved?
  match s.stack with
  | [] => none
  | f :: fs =>
    if f.written = q then
      some ({ s.clear with stack := fs }.add [.element f.tag f.childrenRev.reverse])
    else none

/-- Takes the pieces of a run of text. What an entity does is up to `enter`. -/
def takePieces? (enter : Text → State → Option State) (nested : Bool) :
    List Piece → Run → State → Option State
  | [], run, s => some (s.add run.nodes)
  | .written c :: rest, run, s => takePieces? enter nested rest (run.written c rest.isEmpty) s
  | .referred c :: rest, run, s =>
    takePieces? enter nested rest (run.referred nested c rest.isEmpty) s
  | .entity t :: rest, run, s => do
    let s := s.add run.nodes
    let references ← countReference? nested s.references
    let inner ← enter t { s with current := none, references }
    let references := countAfter nested inner.references
    takePieces? enter nested rest .empty { inner with current := s.current, references }

/-- Takes one event, given how values are read and what entities do. -/
def takeEvent? (entities : Entities) (value? : Text → Nat → Option (Text × Nat))
    (enter : Text → State → Option State) (nested : Bool) (s : State) : Event → Option State
  | .start q => if q.qualifier = "xmlns" then none else some { s with current := some q }
  | .attr q t => do
    let (value, references) ← value? t s.references
    takeAttribute? { s with references } q value
  | .tagEnd isEmpty => takeTagEnd? s isEmpty
  | .close q => takeClose? s q
  | .literal t => some (s.add (Run.ofLiteral t .empty).nodes)
  | .text t => (Piece.readAll? entities t).bind (takePieces? enter nested · .empty s)

/-- Takes one event at the top or inside an entity. -/
def step? (entities : Entities) :
    (nesting : Nat) → (nested : Bool) → State → Event → Option State
  | 0, nested, s, e =>
    takeEvent? entities (valueText? entities 0 nested) (fun _ _ => none) nested s e
  | nesting + 1, nested, s, e =>
    takeEvent? entities (valueText? entities (nesting + 1) nested)
      (fun t s => (Event.ofContent? t).bind (·.foldlM (step? entities nesting true) s)) nested s e

/-- Takes the events of a document. -/
def run? (entities : Entities) (es : List Event) : Option State :=
  es.foldlM (step? entities maxNesting false) .empty

/-- The tag and the children of the first element among some nodes. -/
def firstElement? (nodes : List Node) : Option (Tag × List Node) :=
  nodes.findSome? fun
    | .element tag children => some (tag, children)
    | .text _ => none

/-- The root element of a document. -/
def read? (t : Text) : Option (Tag × List Node) := do
  let (entities, es) ← Event.ofDocument? t
  let s ← run? entities es
  if s.stack.isEmpty then firstElement? s.rootsRev.reverse else none

end HttpExchange.Xml.Tree
