import HttpExchange.Xml.Name

/-!
# Element trees

A document as a tree of elements and text. Names are local names with the URI of
the namespace they belong to. An element also keeps the namespace declarations
in its scope, its own ones first, from which a qualifier for a namespace can be
found again.
-/

namespace HttpExchange.Xml

/-- A namespace declaration; without a qualifier it is the default one. -/
structure Binding where
  qualifier : Option Text
  uri : Text
  deriving DecidableEq, Repr

/-- The declarations that hold at an element. -/
abbrev Scope := List Binding

/-- The namespace that the qualifier `xml` stands for. -/
def xmlUri : Text := "http://www.w3.org/XML/1998/namespace"

/-- The namespace that the qualifier `xmlns` stands for. -/
def xmlnsUri : Text := "http://www.w3.org/2000/xmlns/"

/-- The name of an element or an attribute: its local name and its namespace. -/
structure ExpandedName where
  uri : Option Text
  name : Text
  deriving DecidableEq, Repr

/-- An attribute with its value. -/
structure Attribute where
  name : ExpandedName
  value : Text
  deriving DecidableEq, Repr

/-- What a start tag says. -/
structure Tag where
  name : ExpandedName
  scope : Scope
  attributes : List Attribute
  deriving DecidableEq, Repr

/-- A node of a document. -/
inductive Node where
  | text (t : Text)
  | element (tag : Tag) (children : List Node)
  deriving Inhabited

namespace Node

mutual

/-- Whether two nodes are the same. -/
def decideEq : (a b : Node) → Decidable (a = b)
  | .text a, .text b => decidable_of_iff (a = b) ⟨congrArg Node.text, Node.text.inj⟩
  | .element tag as, .element tag' bs =>
    have := decideEqAll as bs
    decidable_of_iff (tag = tag' ∧ as = bs) ⟨fun ⟨h, hs⟩ => h ▸ hs ▸ rfl, Node.element.inj⟩
  | .text _, .element _ _ => isFalse nofun
  | .element _ _, .text _ => isFalse nofun

/-- Whether two sequences of nodes are the same. -/
def decideEqAll : (as bs : List Node) → Decidable (as = bs)
  | [], [] => isTrue rfl
  | a :: as, b :: bs =>
    have := decideEq a b
    have := decideEqAll as bs
    decidable_of_iff (a = b ∧ as = bs) ⟨fun ⟨h, hs⟩ => h ▸ hs ▸ rfl, List.cons.inj⟩
  | [], _ :: _ => isFalse nofun
  | _ :: _, [] => isFalse nofun

end

instance : DecidableEq Node := decideEq

end Node

namespace Scope

/-- Whether a qualifier is declared. -/
def declares (qualifier : Option Text) (s : Scope) : Bool := s.any (·.qualifier == qualifier)

/-- The URI that a qualifier stands for. -/
def uri? (qualifier : Option Text) (s : Scope) : Option Text :=
  (s.find? (·.qualifier == qualifier)).map (·.uri)

/-- The qualifier of the first declaration of a URI. A default declaration has none. -/
def qualifier? (uri : Text) (s : Scope) : Option Text :=
  if uri = xmlUri then some "xml"
  else (s.find? (·.uri == uri)).bind (·.qualifier)

/-- The declarations at a child that has `own` declarations itself. -/
def extend (outer own : Scope) : Scope :=
  outer.foldl (fun s b => if declares b.qualifier s then s else s ++ [b]) own

end Scope

/-- A name as it is written with a qualifier that the scope knows, if there is one. -/
def ExpandedName.qualified (n : ExpandedName) (s : Scope) : Text :=
  match n.uri.bind (Scope.qualifier? · s) with
  | some qualifier => if qualifier.isEmpty then n.name else qualifier ++ ':' :: n.name
  | none => n.name

/-- The name of an element with a qualifier. -/
def Tag.qualified (tag : Tag) : Text := tag.name.qualified tag.scope

end HttpExchange.Xml
