import HttpExchange.Host
import HttpExchange.Numeral.Integer
import HttpExchange.Text.Blank

/-!
# URIs

A URI is the record of its components, each as it is written: nothing is
normalised, no default is filled in. A component that is written but empty
counts as absent. A text that is no URI gives the empty one.

## Main definitions

- `Uri.parse`: reads a URI.
- `Uri.text`: writes it.
- `Uri.authority?`, `Uri.setAuthority`: the host with its port, as a `Host`
  field carries it.
-/

namespace HttpExchange

/-- The components of a URI. -/
structure Uri where
  scheme : Option Text := none
  user : Option Text := none
  password : Option Text := none
  host : Option Text := none
  port : Option UInt16 := none
  path : Option Text := none
  query : Option Text := none
  fragment : Option Text := none
  deriving DecidableEq, Repr, Inhabited

namespace Uri

/-- A component, unless it is empty. -/
def nonEmpty (t : Text) : Option Text := if t.isEmpty then none else some t

/-- The URI without components. -/
def empty : Uri := {}

/-- Whether a URI says neither what it is, nor where, nor which. -/
def isEmpty (u : Uri) : Bool := u.scheme.isNone && u.host.isNone && u.path.isNone

/-! ## Reading -/

/-- A character of a scheme after the first one. -/
def isSchemeChar (c : Char) : Bool := c.isAlphanum || c == '+' || c == '-' || c == '.'

/-- Whether a text can be a scheme. -/
def isScheme : Text → Bool
  | [] => false
  | c :: cs => c.isAlpha && cs.all isSchemeChar

/-- Whether a character ends an authority. -/
def endsAuthority (c : Char) : Bool := c == '/' || c == '?' || c == '#'

/-- A port: digits within 16 bits, or nothing at all. -/
def readPort? (t : Text) : Option (Option UInt16) :=
  if t.isEmpty then some none
  else if t.all Char.isDigit then (Numeral.readUInt16? t).map some
  else none

/-- A bracketed host up to its closing bracket, and what follows a colon after it. -/
def splitBracketed? (t : Text) : Option (Text × Text) :=
  (Text.splitFirst ']' t).bind fun (inside, rest) =>
    match rest with
    | [] => some (inside ++ [']'], [])
    | ':' :: port => some (inside ++ [']'], port)
    | _ => none

/-- A host and a port. -/
def splitHostPort? (t : Text) : Option (Text × Option UInt16) :=
  let parts := if Text.startsWith t "[" then splitBracketed? t
    else some ((Text.splitLast ':' t).getD (t, []))
  parts.bind fun (host, port) => (readPort? port).map fun port => (host, port)

/-- The user and the password that precede a host. -/
def splitUser (t : Text) : Option Text × Option Text :=
  match Text.splitFirst ':' t with
  | some (user, password) => (nonEmpty user, nonEmpty password)
  | none => (nonEmpty t, none)

/-- A URI that begins with an authority, and what follows it. The host has to be a valid one. -/
def readAuthority? (u : Uri) (t : Text) : Option (Uri × Text) := do
  let authority := t.takeWhile (!endsAuthority ·)
  let rest := t.dropWhile (!endsAuthority ·)
  let ((user, password), hostPort) := match Text.splitLast '@' authority with
    | some (info, hostPort) => (splitUser info, hostPort)
    | none => ((none, none), authority)
  let (host, port) ← splitHostPort? hostPort
  if Host.isValid host then
    some ({ u with user, password, host := some host, port }, rest)
  else none

/-- What precedes the path of a URI without slashes in front: a host with a port, which wins, or
a scheme. -/
def readLead? (t : Text) : Option (Uri × Text) :=
  match Text.splitFirst ':' (t.takeWhile (!endsAuthority ·)) with
  | none => none
  | some (scheme, port) =>
    if !port.isEmpty && port.all Char.isDigit then readAuthority? {} t
    else if isScheme scheme then some ({ scheme := some scheme }, t.drop (scheme.length + 1))
    else none

/-- What precedes the path of a URI. -/
def readHead? (t : Text) : Option (Uri × Text) :=
  let slashed := match Text.afterPrefix? "//" t with
    | some rest => readAuthority? {} rest
    | none => readLead? t
  match Text.cut "://" t with
  | some (scheme, rest) =>
    if isScheme scheme then readAuthority? { scheme := some scheme } rest else slashed
  | none => slashed

/-- A text up to a delimiter, and what follows it unless it is empty. -/
def splitTail (sep : Char) (t : Text) : Text × Option Text :=
  match Text.splitFirst sep t with
  | some (before, after) => (before, nonEmpty after)
  | none => (t, none)

/-- Adds path, query and fragment. -/
def readTail (u : Uri) (t : Text) : Uri :=
  let (t, fragment) := splitTail '#' t
  let (path, query) := splitTail '?' t
  { u with path := nonEmpty path, query, fragment }

/-- Reads a URI that has no blanks around it. -/
def parse? (t : Text) : Option Uri :=
  if t.isEmpty || t.any Text.isBlank then none
  else (readHead? t).map fun (u, rest) => readTail u rest

/-- Reads a URI; what is none gives the empty URI. -/
def parse (t : Text) : Uri := (parse? (Text.trim t)).getD empty

/-! ## Writing -/

/-- A component with what comes before and after it, when it is present. -/
def around (before : Text) (component : Option Text) (after : Text) : Text :=
  match component with
  | some t => before ++ t ++ after
  | none => []

/-- The text of a port. -/
def portText (port : UInt16) : Text := Numeral.ofNat port.toNat

/-- The host with its port. -/
def authority? (u : Uri) : Option Text :=
  u.host.map fun host => host ++ around ":" (u.port.map portText) []

/-- The user with the password. A password without a user is not written. -/
def userText (u : Uri) : Text :=
  around [] (u.user.map fun user => user ++ around ":" u.password []) "@"

/-- The path; between a host and a path there is a slash. -/
def pathText (u : Uri) : Text :=
  match u.path with
  | none => []
  | some path => if u.host.isSome && !Text.startsWith path "/" then '/' :: path else path

/-- The text of a URI. -/
def text (u : Uri) : Text :=
  around [] u.scheme ":" ++ around ("//" ++ u.userText) u.authority? [] ++ u.pathText ++
    around "?" u.query [] ++ around "#" u.fragment []

/-! ## Edits -/

/-- Changes the scheme. -/
def setScheme (t : Option Text) (u : Uri) : Uri := { u with scheme := t.bind nonEmpty }

/-- Changes the host. -/
def setHost (t : Option Text) (u : Uri) : Uri := { u with host := t.bind nonEmpty }

/-- Changes the port. -/
def setPort (port : Option UInt16) (u : Uri) : Uri := { u with port }

/-- Changes the path. -/
def setPath (t : Option Text) (u : Uri) : Uri := { u with path := t.bind nonEmpty }

/-- Changes the query. -/
def setQuery (t : Option Text) (u : Uri) : Uri := { u with query := t.bind nonEmpty }

/-- Changes the fragment. -/
def setFragment (t : Option Text) (u : Uri) : Uri := { u with fragment := t.bind nonEmpty }

/-- Changes host and port to those of a `Host` field. A value that has no valid port is a host as
a whole. -/
def setAuthority (t : Text) (u : Uri) : Uri :=
  let t := Text.trim t
  let (host, port) := (splitHostPort? t).getD (t, none)
  { u with host := nonEmpty host, port }

end Uri

end HttpExchange
