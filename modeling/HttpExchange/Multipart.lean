import HttpExchange.Assoc
import HttpExchange.Text.Blank

/-!
# Multipart form data

A body of several parts, each with a small header block that names it, between
lines that repeat a boundary. The reader goes through the lines once. A part
counts only when the delimiter after it has been seen, and the line break before
a delimiter belongs to the delimiter.

## Main definitions

- `Multipart.boundary?`: the boundary that a media type announces.
- `Multipart.step`, `Multipart.State`: what one line does.
- `Multipart.fields`: the named values of a body.
-/

namespace HttpExchange.Multipart

/-- The boundary that a media type announces. -/
def boundary? (mediaType : Text) : Option Text :=
  let mark : Text := "boundary="
  (Text.cut mark (Text.lower mediaType)).bind fun (before, _) =>
    let value := (mediaType.drop (before.length + mark.length)).takeWhile (· != ';')
    let value := Text.unquote (Text.trim value)
    if value.isEmpty then none else some value

/-- What a line is to the reader. -/
inductive Line where
  /-- The line before a part. -/
  | delimiter
  /-- The line after the last part. -/
  | terminator
  /-- A line that holds no more than its line break. -/
  | empty
  /-- Any other line, without its line break. -/
  | other (bare : Text)
  deriving DecidableEq, Repr

/-- A line without its line break. -/
def bare (line : Text) : Text := Text.dropEndWhile (fun c => c == '\r' || c == '\n') line

/-- What a line is to the reader. Blanks after a delimiter do not count. -/
def Line.ofText (boundary line : Text) : Line :=
  let bare := bare line
  let trimmed := Text.trimEnd bare
  if trimmed = "--".toList ++ boundary ++ "--".toList then .terminator
  else if trimmed = "--".toList ++ boundary then .delimiter
  else if bare.isEmpty then .empty
  else .other bare

/-- The value of a parameter of a header. -/
def parameter? (param value : Text) : Option Text :=
  (Text.splitOn ';' value).findSome? fun segment =>
    match Text.splitFirst '=' (Text.trim segment) with
    | some (k, v) =>
      if Text.eqIgnoreCase (Text.trim k) param then some (Text.unquote (Text.trim v)) else none
    | none => none

/-- The name of the part after one more header. -/
def readHeader (name : Option Text) (line : Text) : Option Text :=
  match Text.splitFirst ':' line with
  | some (header, value) =>
    if Text.eqIgnoreCase (Text.trim header) "content-disposition" then parameter? "name" value
    else name
  | none => name

/-- Where the reader stands between two lines. -/
inductive State where
  /-- Before the first delimiter. -/
  | before
  /-- In the headers of a part, which name it or not. -/
  | headers (name : Option Text)
  /-- In the content of a part. -/
  | content (name : Option Text) (soFar : Text)
  /-- After the terminator. -/
  | done
  deriving DecidableEq, Repr

/-- A content without the line break that belongs to the delimiter after it. -/
def dropLineBreak (t : Text) : Text :=
  match t.reverse with
  | '\n' :: '\r' :: rest => rest.reverse
  | '\n' :: rest => rest.reverse
  | _ => t

/-- Keeps a complete part, unless it has no name. -/
def store (name : Option Text) (content : Text) (fields : Assoc Text) : Assoc Text :=
  match name with
  | some name => Assoc.set name (dropLineBreak content) fields
  | none => fields

/-- What one line does. -/
def step (boundary : Text) (s : State × Assoc Text) (line : Text) : State × Assoc Text :=
  let (state, fields) := s
  match state, Line.ofText boundary line with
  | .before, .terminator => (.done, fields)
  | .before, .delimiter => (.headers none, fields)
  | .before, _ => (.before, fields)
  | .headers _, .terminator => (.done, fields)
  | .headers _, .delimiter => (.headers none, fields)
  | .headers name, .empty => (.content name [], fields)
  | .headers name, .other bare => (.headers (readHeader name bare), fields)
  | .content name soFar, .terminator => (.done, store name soFar fields)
  | .content name soFar, .delimiter => (.headers none, store name soFar fields)
  | .content name soFar, _ => (.content name (soFar ++ line), fields)
  | .done, _ => (.done, fields)

/-- The named values of a body. A repeated name keeps its first place and its last value. -/
def fields (boundary body : Text) : Assoc Text :=
  ((Text.lines body).foldl (step boundary) (.before, [])).2

end HttpExchange.Multipart
