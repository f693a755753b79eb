import HttpExchange.Text.Basic

/-!
# Characters and names of XML

Which characters a document may hold, which of them are blanks, and which make
up names. A name may have a qualifier before a colon, which says by what
namespace declaration it is to be understood.
-/

namespace HttpExchange.Xml

/-- Whether a document may hold a character. -/
def isChar (c : Char) : Bool :=
  if c < ' ' then c == '\t' || c == '\n' || c == '\r' else c != '\uFFFE' && c != '\uFFFF'

/-- The blanks of markup. -/
def isSpace (c : Char) : Bool := c == ' ' || c == '\t' || c == '\n' || c == '\r'

/-- The characters beyond ASCII that may begin a name. -/
def nameStartRanges : List (Nat × Nat) :=
  [(0xC0, 0xD6), (0xD8, 0xF6), (0xF8, 0x2FF), (0x370, 0x37D), (0x37F, 0x1FFF), (0x200C, 0x200D),
    (0x2070, 0x218F), (0x2C00, 0x2FEF), (0x3001, 0xD7FF), (0xF900, 0xFDCF), (0xFDF0, 0xFFFD),
    (0x10000, 0xEFFFF)]

/-- The characters beyond ASCII that may only continue a name. -/
def nameOnlyRanges : List (Nat × Nat) := [(0xB7, 0xB7), (0x300, 0x36F), (0x203F, 0x2040)]

/-- Whether a character lies in one of some ranges. -/
def inRanges (ranges : List (Nat × Nat)) (c : Char) : Bool :=
  ranges.any fun (first, last) => first ≤ c.toNat && c.toNat ≤ last

/-- Whether a character may begin a name. -/
def isNameStart (c : Char) : Bool :=
  c.isAlpha || c == ':' || c == '_' || inRanges nameStartRanges c

/-- Whether a character may continue a name. -/
def isNameChar (c : Char) : Bool :=
  isNameStart c || c.isDigit || c == '-' || c == '.' || inRanges nameOnlyRanges c

/-- Whether a text is a name. -/
def isName : Text → Bool
  | [] => false
  | c :: cs => isNameStart c && cs.all isNameChar

/-- A name and what follows it. -/
def readName? (t : Text) : Option (Text × Text) :=
  let name := t.takeWhile isNameChar
  if isName name then some (name, t.dropWhile isNameChar) else none

/-- A name with its qualifier, which is empty when there is none. -/
structure QName where
  qualifier : Text
  name : Text
  deriving DecidableEq, Repr, Inhabited

/-- Whether a part of a qualified name is empty or begins as a name does. -/
def beginsName : Text → Bool
  | [] => true
  | c :: _ => isNameStart c

/-- The qualified name of a text, which may hold one colon at most. -/
def QName.ofText? (t : Text) : Option QName :=
  let q : QName := match Text.splitFirst ':' t with
    | some (qualifier, name) => ⟨qualifier, name⟩
    | none => ⟨[], t⟩
  if !q.name.isEmpty && !q.name.contains ':' && beginsName q.qualifier && beginsName q.name
  then some q else none

/-- A qualified name and what follows it. -/
def readQName? (t : Text) : Option (QName × Text) :=
  (QName.ofText? (t.takeWhile isNameChar)).map fun q => (q, t.dropWhile isNameChar)

/-! ## Blanks and fixed words -/

/-- What follows the blanks that a text begins with. -/
def skipSpaces (t : Text) : Text := t.dropWhile isSpace

/-- What follows the blanks that a text begins with; there has to be one. -/
def skipSpaces1? : Text → Option Text
  | [] => none
  | c :: cs => if isSpace c then some (skipSpaces cs) else none

/-- What follows a phrase, which has to come with legal characters before it. -/
def readUntil? (phrase t : Text) : Option (Text × Text) :=
  (Text.cut phrase t).filter fun (before, _) => before.all isChar

/-- A quoted text, and what follows its closing quote. -/
def readQuoted? : Text → Option (Text × Text)
  | '"' :: rest => Text.splitFirst '"' rest
  | '\'' :: rest => Text.splitFirst '\'' rest
  | _ => none

end HttpExchange.Xml
