import HttpExchange.Text.Percent

/-!
# Form text

A form is a sequence of pairs of a name and a value. Pairs are separated by `&`,
the name ends at the first `=`, a blank is written `+`, and every byte outside a
small set is percent-encoded. Empty pieces between separators are no pairs.
-/

namespace HttpExchange.Form

/-- A component as it was before it was written. -/
def decodeComponent (t : Text) : Text :=
  Utf8.decode (Percent.decode (Utf8.encode (t.map fun c => if c = '+' then ' ' else c)))

/-- The pair that a piece denotes. Without an equals sign it is a name with the empty value. -/
def readPair (piece : Text) : Text × Text :=
  let (name, value) := (Text.splitFirst '=' piece).getD (piece, [])
  (decodeComponent name, decodeComponent value)

/-- The pieces of a form text. -/
def pieces (t : Text) : List Text := (Text.splitOn '&' t).filter (!·.isEmpty)

/-- The pairs of a form text. -/
def readPairs (t : Text) : List (Text × Text) := (pieces t).map readPair

/-- Whether a byte stands for itself. -/
def isPlain (b : UInt8) : Bool :=
  let c := Char.ofNat b.toNat
  c.isAlphanum || c == '*' || c == '-' || c == '.' || c == '_'

/-- A byte as it is written. -/
def encodeByte (b : UInt8) : Text :=
  if b = 0x20 then ['+']
  else if isPlain b then [Char.ofNat b.toNat]
  else Percent.escape b

/-- A component as it is written. -/
def encodeComponent (t : Text) : Text := (Utf8.encode t).flatMap encodeByte

/-- A pair as it is written. -/
def writePair (p : Text × Text) : Text := encodeComponent p.1 ++ '=' :: encodeComponent p.2

/-- The text of some pairs. -/
def writePairs (ps : List (Text × Text)) : Text := Text.joinWith "&" (ps.map writePair)

end HttpExchange.Form
