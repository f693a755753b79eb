import HttpExchange.Calendar.Timestamp
import HttpExchange.Json.Token
import HttpExchange.Numeral.Binary
import HttpExchange.Toml.Basic

/-!
# Scalars of TOML

Strings in their four forms, numbers, truth values and dates.

## Main definitions

- `Toml.readString?`, `Toml.readKeyString?`: strings.
- `Toml.readNumber?`: what begins with a digit or a sign.
- `Toml.readWord?`: truth values and the names of special numbers.
-/

namespace HttpExchange.Toml

/-! ## Characters -/

/-- The blanks within a line. -/
def isBlank (c : Char) : Bool := c == ' ' || c == '\t'

/-- Whether a string may hold a character as it is. -/
def isTextChar (c : Char) : Bool := (' ' ≤ c && c != '\x7f') || c == '\t'

/-- What follows the blanks that a text begins with. -/
def skipBlanks (t : Text) : Text := t.dropWhile isBlank

/-- What follows a line break. -/
def lineBreak? : Text → Option Text
  | '\n' :: rest => some rest
  | '\r' :: '\n' :: rest => some rest
  | _ => none

/-- What follows a line break, if the text begins with one. -/
def skipLineBreak (t : Text) : Text := (lineBreak? t).getD t

/-! ## Strings -/

/-- The character of some hexadecimal digits. -/
def charOfHex? (digits : Text) : Option Char :=
  (digits.mapM Json.hexValue?).bind fun values =>
    let n := values.foldl (fun n d => n * 16 + d) 0
    if n.isValidChar then some (Char.ofNat n) else none

/-- The character that a one-letter escape stands for. -/
def escaped? : Char → Option Char
  | 'b' => some '\x08'
  | 't' => some '\t'
  | 'n' => some '\n'
  | 'f' => some '\x0c'
  | 'r' => some '\r'
  | '"' => some '"'
  | '\\' => some '\\'
  | _ => none

/-- The character of an escape, whose backslash has been read, and what follows it. -/
def readEscape? : Text → Option (Char × Text)
  | 'u' :: rest => if rest.length < 4 then none else (charOfHex? (rest.take 4)).map (·, rest.drop 4)
  | 'U' :: rest => if rest.length < 8 then none else (charOfHex? (rest.take 8)).map (·, rest.drop 8)
  | c :: rest => (escaped? c).map (·, rest)
  | [] => none

/-- A string in double quotes whose opening quote has been read, and what follows it. -/
def readBasic? : (fuel : Nat) → Text → Option (Text × Text)
  | 0, _ => none
  | _ + 1, [] => none
  | _ + 1, '"' :: rest => some ([], rest)
  | fuel + 1, '\\' :: rest => do
    let (c, rest) ← readEscape? rest
    Json.prepend c (readBasic? fuel rest)
  | fuel + 1, c :: rest => if isTextChar c then Json.prepend c (readBasic? fuel rest) else none

/-- A string in single quotes whose opening quote has been read, and what follows it. -/
def readLiteral? (t : Text) : Option (Text × Text) :=
  (Text.splitFirst '\'' t).filter fun (inside, _) => inside.all isTextChar

/-- The end of a string over several lines, if a text begins with it: up to two quotes that still
belong to the string, and what follows the three closing ones. -/
def closing? (quote : Char) (t : Text) : Option (Text × Text) :=
  let count := (t.takeWhile (· == quote)).length
  if count < 3 then none
  else
    let inside := min (count - 3) 2
    some (List.replicate inside quote, t.drop (inside + 3))

/-- What follows the blanks and the line breaks that a text begins with. -/
def skipSpace : Text → Text
  | ' ' :: rest | '\t' :: rest | '\n' :: rest | '\r' :: '\n' :: rest => skipSpace rest
  | rest => rest

/-- What follows a backslash at the end of a line: the blanks and line breaks up to the next
text. -/
def skipContinuation? (t : Text) : Option Text := (lineBreak? (skipBlanks t)).map skipSpace

/-- A string over several lines, in which backslashes escape or not, and what follows it. Every line
break in it is a line feed. -/
def readLines? (quote : Char) (escapes : Bool) : (fuel : Nat) → Text → Option (Text × Text)
  | 0, _ => none
  | fuel + 1, t =>
    match closing? quote t with
    | some (inside, rest) => some (inside, rest)
    | none =>
      match lineBreak? t, t with
      | some rest, _ => Json.prepend '\n' (readLines? quote escapes fuel rest)
      | none, [] => none
      | none, c :: rest =>
        if c = '\\' ∧ escapes then
          match skipContinuation? rest with
          | some rest => readLines? quote escapes fuel rest
          | none => do
            let (c, rest) ← readEscape? rest
            Json.prepend c (readLines? quote escapes fuel rest)
        else if isTextChar c then Json.prepend c (readLines? quote escapes fuel rest)
        else none

/-- A string on one line, and what follows it. -/
def readKeyString? : Text → Option (Text × Text)
  | '"' :: rest => readBasic? (rest.length + 1) rest
  | '\'' :: rest => readLiteral? rest
  | _ => none

/-- A string, and what follows it. -/
def readString? : Text → Option (Text × Text)
  | '"' :: '"' :: '"' :: rest =>
    let rest := skipLineBreak rest
    readLines? '"' true (rest.length + 1) rest
  | '\'' :: '\'' :: '\'' :: rest =>
    let rest := skipLineBreak rest
    readLines? '\'' false (rest.length + 1) rest
  | t => readKeyString? t

/-! ## Numbers -/

/-- Digits that satisfy `p`, in groups that single underscores separate, and what follows them. -/
def readGroups? (p : Char → Bool) (t : Text) : Option (Text × Text) :=
  let run := t.takeWhile fun c => p c || c == '_'
  let groups := Text.splitOn '_' run
  if groups.any (·.isEmpty) then none
  else some (groups.flatten, t.dropWhile fun c => p c || c == '_')

/-- Digits without superfluous zeros, and what follows them. -/
def readWhole? : Text → Option (Text × Text)
  | '0' :: rest => some (['0'], rest)
  | t => readGroups? Char.isDigit t

/-- The value of a digit in a base of at most sixteen. -/
def isDigitOf (base : Nat) (c : Char) : Bool := (Json.hexValue? c).any (· < base)

/-- A number in another base than ten, and what follows it. -/
def readBased? (base : Nat) (t : Text) : Option (Toml × Text) :=
  (readGroups? (isDigitOf base) t).bind fun (digits, rest) =>
    (digits.mapM Json.hexValue?).bind fun values =>
      let n := values.foldl (fun n d => n * base + d) 0
      if (n : Int) ≤ Numeral.maxInt64 then some (.integer n, rest) else none

/-- An exponent, and what follows it. -/
def readExponent? : Text → Option (Text × Text)
  | 'e' :: rest | 'E' :: rest =>
    let (negative, rest) := Numeral.splitSign rest
    (readGroups? Char.isDigit rest).map fun (digits, rest) =>
      ('e' :: (if negative then ['-'] else []) ++ digits, rest)
  | t => some ([], t)

/-- A fraction, and what follows it. -/
def readFraction? : Text → Option (Text × Text)
  | '.' :: rest => (readGroups? Char.isDigit rest).map fun (digits, rest) => ('.' :: digits, rest)
  | t => some ([], t)

/-- Whether a number can be held: only positive ones are too large for that. -/
def isHeld (numeral : Text) : Bool :=
  match Numeral.Decimal.read? numeral with
  | some d => d.negative || (Numeral.double.round d).isSome
  | none => false

/-- A special number, and what follows it. -/
def readSpecial? (t : Text) : Option (Toml × Text) :=
  ((Text.afterPrefix? "inf" t) <|> (Text.afterPrefix? "nan" t)).map fun rest => (.float, rest)

/-- A number in decimal after its sign, and what follows it. -/
def readDecimal? (negative : Bool) (t : Text) : Option (Toml × Text) := do
  let (whole, t) ← readWhole? t
  let (fraction, t) ← readFraction? t
  let (exponent, t) ← readExponent? t
  let sign : Text := if negative then ['-'] else []
  if fraction.isEmpty && exponent.isEmpty then
    let i ← Numeral.readInt64? (sign ++ whole)
    some (.integer i, t)
  else if isHeld (sign ++ whole ++ fraction ++ exponent) then some (.float, t)
  else none

/-- A number, and what follows it. -/
def readPlainNumber? : Text → Option (Toml × Text)
  | '0' :: 'x' :: rest => readBased? 16 rest
  | '0' :: 'o' :: rest => readBased? 8 rest
  | '0' :: 'b' :: rest => readBased? 2 rest
  | t =>
    let (negative, rest) := Numeral.splitSign t
    (readSpecial? rest) <|> (readDecimal? negative rest)

/-! ## Dates -/

/-- The time that a text begins with, and what follows it. -/
def readTime? (t : Text) : Option Text := do
  let (_, t) ← Timestamp.readTime? t
  Timestamp.skipFraction? t

/-- What follows the distance from universal time, if there is one. -/
def skipOffset? : Text → Option Text
  | 'Z' :: rest | 'z' :: rest => some rest
  | sign :: rest =>
    if sign = '+' ∨ sign = '-' then
      (Timestamp.readOffset? (sign :: rest.take 5)).map fun _ => rest.drop 5
    else some (sign :: rest)
  | [] => some []

/-- What follows a time after a date, if there is one. -/
def skipTime? : Text → Option Text
  | 'T' :: rest | 't' :: rest => (readTime? rest).bind skipOffset?
  | ' ' :: c :: rest =>
    if c.isDigit then (readTime? (c :: rest)).bind skipOffset? else some (' ' :: c :: rest)
  | t => some t

/-- Whether a text begins with a date rather than a number. -/
def beginsDate : Text → Bool
  | a :: b :: c :: d :: '-' :: _ => [a, b, c, d].all Char.isDigit
  | _ => false

/-- Whether a text begins with a time rather than a number. -/
def beginsTime : Text → Bool
  | a :: b :: ':' :: _ => a.isDigit && b.isDigit
  | _ => false

/-- A number or a date, and what follows it. -/
def readNumber? (t : Text) : Option (Toml × Text) :=
  if beginsDate t then
    ((Timestamp.readDate? t).bind fun (_, rest) => skipTime? rest).map fun rest => (.dateTime, rest)
  else if beginsTime t then (readTime? t).map fun rest => (.dateTime, rest)
  else readPlainNumber? t

/-- A truth value or a special number, and what follows it. -/
def readWord? (t : Text) : Option (Toml × Text) :=
  ((Text.afterPrefix? "true" t).map fun rest => (.boolean true, rest)) <|>
    ((Text.afterPrefix? "false" t).map fun rest => (.boolean false, rest)) <|>
    readSpecial? t

end HttpExchange.Toml
