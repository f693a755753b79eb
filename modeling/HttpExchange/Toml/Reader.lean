import HttpExchange.Toml.Scalar

/-!
# Reading TOML

A document is a sequence of lines: headers, which say to what table the next
lines belong, and assignments. Arrays may go over several lines; tables that are
written as values may not.

## Main definitions

- `Toml.readValue?`: a value.
- `Toml.Line.read?`: a line.
- `Toml.read?`: a document.
-/

namespace HttpExchange.Toml

/-- How deep values may be nested, and how many parts a name may have. -/
def maxDepth : Nat := 79

/-! ## Blanks and comments -/

/-- Whether a comment may hold a character. -/
def isCommentChar (c : Char) : Bool := ' ' ≤ c || c == '\t'

/-- What follows a comment, if there is one. -/
def skipComment : Text → Text
  | '#' :: rest => rest.dropWhile isCommentChar
  | t => t

/-- What follows the blanks, the comments and the line breaks that a text begins with. -/
def skipLines : (fuel : Nat) → Text → Text
  | 0, t => t
  | fuel + 1, t =>
    let t := skipComment (skipBlanks t)
    match lineBreak? t with
    | some rest => skipLines fuel rest
    | none => t

/-- What follows a line that says no more: blanks and a comment up to a line break or the end. -/
def endLine? (t : Text) : Option Text :=
  let t := skipComment (skipBlanks t)
  if t.isEmpty then some [] else lineBreak? t

/-! ## Names -/

/-- Whether a name may hold a character without quotes. -/
def isBareChar (c : Char) : Bool := c.isAlphanum || c == '-' || c == '_'

/-- A part of a name, and what follows it. -/
def readSimpleKey? (t : Text) : Option (Text × Text) :=
  match t with
  | '"' :: _ | '\'' :: _ => readKeyString? t
  | _ =>
    let bare := t.takeWhile isBareChar
    if bare.isEmpty then none else some (bare, t.dropWhile isBareChar)

/-- The parts of a dotted name, and what follows it and the blanks after it. -/
def readKey? : (fuel : Nat) → Text → Option (List Text × Text)
  | 0, _ => none
  | fuel + 1, t => do
    let (part, t) ← readSimpleKey? (skipBlanks t)
    match skipBlanks t with
    | '.' :: rest => (readKey? fuel rest).map fun (parts, rest) => (part :: parts, rest)
    | rest => some ([part], rest)

/-- The last part of a name and the parts before it. -/
def splitKey (parts : List Text) : List Text × Text := (parts.dropLast, parts.getLastD [])

/-- An assignment, and what follows it. -/
def readAssignment? (value : Text → Option (Toml × Text)) (t : Text) :
    Option ((List Text × Toml) × Text) := do
  let (key, t) ← readKey? maxDepth t
  let t ← Timestamp.expect? '=' t
  let (v, rest) ← value (skipBlanks t)
  some ((key, v), rest)

/-- Makes an assignment. -/
def assignKey? (t : Toml) (a : List Text × Toml) : Option Toml :=
  let (path, name) := splitKey a.1
  assign? path name a.2 t

/-! ## Values -/

/-- The items of an array up to its closing bracket, and what follows it. -/
def readItems? (value : Text → Option (Toml × Text)) :
    (fuel : Nat) → Text → Option (List Toml × Text)
  | 0, _ => none
  | fuel + 1, t =>
    match skipLines (t.length + 1) t with
    | ']' :: rest => some ([], rest)
    | t => do
      let (v, t) ← value t
      match skipLines (t.length + 1) t with
      | ']' :: rest => some ([v], rest)
      | ',' :: rest => (readItems? value fuel rest).map fun (vs, rest) => (v :: vs, rest)
      | _ => none

/-- The assignments of a table that is a value up to its closing brace, and what follows it. -/
def readEntries? (value : Text → Option (Toml × Text)) :
    (fuel : Nat) → Toml → Text → Option (Toml × Text)
  | 0, _, _ => none
  | fuel + 1, soFar, t => do
    let (a, t) ← readAssignment? value t
    let soFar ← assignKey? soFar a
    match skipBlanks t with
    | '}' :: rest => some (soFar.close, rest)
    | ',' :: rest => readEntries? value fuel soFar rest
    | _ => none

/-- A value, and what follows it. -/
def readValue? : (depth : Nat) → Text → Option (Toml × Text)
  | 0, _ => none
  | depth + 1, t =>
    match t with
    | '"' :: _ | '\'' :: _ => (readString? t).map fun (s, rest) => (.string s, rest)
    | '[' :: rest =>
      (readItems? (readValue? depth) (rest.length + 1) rest).map fun (vs, rest) => (.array vs, rest)
    | '{' :: rest =>
      match skipBlanks rest with
      | '}' :: rest => some (.table .closed [], rest)
      | rest => readEntries? (readValue? depth) (rest.length + 1) empty rest
    | c :: _ => if c.isDigit || c == '+' || c == '-' then readNumber? t else readWord? t
    | [] => none

/-! ## Documents -/

/-- A line that says something. -/
inductive Line where
  | assignment (key : List Text) (v : Toml)
  | header (key : List Text)
  | itemHeader (key : List Text)

/-- A line, and what follows it. -/
def Line.read? (t : Text) : Option (Line × Text) :=
  match t with
  | '[' :: '[' :: rest => do
    let (key, t) ← readKey? maxDepth rest
    let t ← Text.afterPrefix? "]]" t
    some (.itemHeader key, t)
  | '[' :: rest => do
    let (key, t) ← readKey? maxDepth rest
    let t ← Text.afterPrefix? "]" t
    some (.header key, t)
  | _ => (readAssignment? (readValue? maxDepth) t).map fun ((key, v), rest) =>
    (.assignment key v, rest)

/-- A document under construction: what it says so far, and the path of the table that the next
assignments belong to. -/
structure Draft where
  document : Toml
  path : List Text

/-- Takes a line. -/
def Draft.step? (d : Draft) : Line → Option Draft
  | .assignment key v =>
    (update? false (assignKey? · (key, v)) d.path d.document).map fun document =>
      { d with document }
  | .header key =>
    let (path, name) := splitKey key
    (update? false (beginTable? name) path d.document).map fun document => ⟨document, key⟩
  | .itemHeader key =>
    let (path, name) := splitKey key
    (update? false (beginItem? name) path d.document).map fun document => ⟨document, key⟩

/-- Takes the lines of a text. -/
def Draft.readAll? : (fuel : Nat) → Draft → Text → Option Draft
  | 0, _, _ => none
  | fuel + 1, d, t =>
    let t := skipLines (t.length + 1) t
    if t.isEmpty then some d
    else do
      let (line, t) ← Line.read? t
      let d ← d.step? line
      let rest ← endLine? t
      readAll? fuel d rest

/-- What a document says. -/
def read? (t : Text) : Option Toml :=
  let t := (Text.afterPrefix? ['\uFEFF'] t).getD t
  (Draft.readAll? (t.length + 1) ⟨empty, []⟩ t).map (·.document)

end HttpExchange.Toml
