import HttpExchange.Json.Token

/-!
# Writing JSON

A value has a compact text without blanks and an indented one for readers. In a
string only the quote, the backslash and the control characters are escaped;
everything else stands for itself.
-/

namespace HttpExchange.Json

/-- A hexadecimal digit in lower case. -/
def hexDigit (n : Nat) : Char :=
  if n < 10 then Char.ofNat ('0'.toNat + n) else Char.ofNat ('a'.toNat + (n - 10))

/-- A character as it is written inside a string. -/
def escape (c : Char) : Text :=
  match c with
  | '"' => ['\\', '"']
  | '\\' => ['\\', '\\']
  | '\x08' => ['\\', 'b']
  | '\x0c' => ['\\', 'f']
  | '\n' => ['\\', 'n']
  | '\r' => ['\\', 'r']
  | '\t' => ['\\', 't']
  | c =>
    if c < ' ' then ['\\', 'u', '0', '0', hexDigit (c.toNat / 16), hexDigit (c.toNat % 16)]
    else [c]

/-- A text between quotes. -/
def quote (t : Text) : Text := '"' :: t.flatMap escape ++ ['"']

mutual

/-- The compact text of a value. -/
def write : Json → Text
  | .null => "null"
  | .bool true => "true"
  | .bool false => "false"
  | .num numeral => numeral
  | .str text => quote text
  | .arr items => '[' :: writeItems items ++ [']']
  | .obj members => '{' :: writeMembers members ++ ['}']

/-- The items of an array with commas between them. -/
def writeItems : List Json → Text
  | [] => []
  | [v] => write v
  | v :: w :: rest => write v ++ ',' :: writeItems (w :: rest)

/-- The members of an object with commas between them. -/
def writeMembers : List (Text × Json) → Text
  | [] => []
  | [(k, v)] => quote k ++ ':' :: write v
  | (k, v) :: m :: rest => quote k ++ ':' :: write v ++ ',' :: writeMembers (m :: rest)

end

/-- A new line that is indented by some steps of two blanks. -/
def newLine (depth : Nat) : Text := '\n' :: List.replicate (2 * depth) ' '

mutual

/-- The indented text of a value inside `depth` collections. Empty collections stay on one
line. -/
def writeIndented (depth : Nat) : Json → Text
  | .arr (v :: items) =>
    '[' :: newLine (depth + 1) ++ writeIndentedItems (depth + 1) (v :: items)
      ++ newLine depth ++ [']']
  | .obj (m :: members) =>
    '{' :: newLine (depth + 1) ++ writeIndentedMembers (depth + 1) (m :: members)
      ++ newLine depth ++ ['}']
  | v => write v

/-- The items of an array, each on lines of its own. -/
def writeIndentedItems (depth : Nat) : List Json → Text
  | [] => []
  | [v] => writeIndented depth v
  | v :: w :: rest =>
    writeIndented depth v ++ ',' :: newLine depth ++ writeIndentedItems depth (w :: rest)

/-- The members of an object, each on lines of its own. -/
def writeIndentedMembers (depth : Nat) : List (Text × Json) → Text
  | [] => []
  | [(k, v)] => quote k ++ ": ".toList ++ writeIndented depth v
  | (k, v) :: m :: rest =>
    quote k ++ ": ".toList ++ writeIndented depth v ++ ',' :: newLine depth
      ++ writeIndentedMembers depth (m :: rest)

end

end HttpExchange.Json
