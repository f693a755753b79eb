import HttpExchange.Xml.Prolog

/-!
# Events of a document

The content of an element, or of an entity, as a sequence of events: starts and
ends of tags, attributes, runs of text. References are not looked into, and
names are not checked against each other; that is left to whoever reads the
events.

The reader keeps the number of contents it is inside of. It stops when that
number reaches zero, which for a document is the end of the root element.

## Main definitions

- `Event`: what a reader of a document meets.
- `Reader.step?`: one event and where the reader stands after it.
- `Event.readAll?`: all events, and what follows them.
-/

namespace HttpExchange.Xml

/-- What a reader of a document meets. -/
inductive Event where
  /-- The name of a start tag. -/
  | start (name : QName)
  /-- An attribute, its value as it is written. -/
  | attr (name : QName) (value : Text)
  /-- The end of a start tag; of an empty element, it is its end too. -/
  | tagEnd (empty : Bool)
  /-- An end tag. -/
  | close (name : QName)
  /-- A run of text as it is written. -/
  | text (t : Text)
  /-- A run of text in which nothing is markup. -/
  | literal (t : Text)
  deriving DecidableEq, Repr

/-- Where a reader stands. -/
structure Reader where
  /-- Whether it is inside a start tag. -/
  inTag : Bool
  /-- The number of contents it is inside of. -/
  depth : Nat
  deriving DecidableEq, Repr

namespace Reader

/-- Whether there is nothing left to read. -/
def isDone (r : Reader) : Bool := !r.inTag && r.depth == 0

/-- Inside a start tag: an attribute, before which there has to be a blank, or the end of the
tag. -/
def stepTag? (r : Reader) (t : Text) : Option (Event × Reader × Text) :=
  match skipSpaces t with
  | '/' :: '>' :: rest => some (.tagEnd true, { r with inTag := false }, rest)
  | '>' :: rest => some (.tagEnd false, ⟨false, r.depth + 1⟩, rest)
  | next => do
    let _ ← skipSpaces1? t
    let ((name, value), rest) ← readAttribute? next
    some (.attr name value, r, rest)

/-- A run of text up to the next tag. -/
def stepText? (r : Reader) (t : Text) : Option (Event × Reader × Text) :=
  let run := t.takeWhile (· != '<')
  if run.all isChar && !Text.hasPhrase run "]]>" then
    some (.text run, r, t.dropWhile (· != '<'))
  else none

/-- An end tag. -/
def stepClose? (r : Reader) (t : Text) : Option (Event × Reader × Text) := do
  let (name, t) ← readQName? t
  let rest ← Text.afterPrefix? ">" (skipSpaces t)
  some (.close name, ⟨false, r.depth - 1⟩, rest)

/-- In content: what is met next, if it is an event, and where the reader stands after it. -/
def stepContent? (r : Reader) (t : Text) : Option (Option Event × Reader × Text) :=
  let one := Option.map fun (e, r, rest) => (some e, r, rest)
  match t with
  | '<' :: '!' :: _ =>
    if Text.startsWith t "<!--" then (skipComment? t).map (none, r, ·)
    else do
      let t ← Text.afterPrefix? "<![CDATA[" t
      let (run, rest) ← readUntil? "]]>" t
      some (some (.literal run), r, rest)
  | '<' :: '?' :: _ => (skipInstruction? t).map (none, r, ·)
  | '<' :: '/' :: rest => one (stepClose? r rest)
  | '<' :: rest =>
    (readQName? rest).map fun (name, rest) => (some (.start name), { r with inTag := true }, rest)
  | t => one (stepText? r t)

/-- What is met next, if it is an event, and where the reader stands after it. -/
def step? (r : Reader) (t : Text) : Option (Option Event × Reader × Text) :=
  if r.inTag then (stepTag? r t).map fun (e, r, rest) => (some e, r, rest)
  else stepContent? r t

end Reader

/-- The events up to where the reader is done or the text ends, and what follows them. -/
def Event.readAll? : (fuel : Nat) → Reader → Text → Option (List Event × Text)
  | 0, _, _ => none
  | fuel + 1, r, t =>
    if r.isDone || t.isEmpty then some ([], t)
    else do
      let (e, r, rest) ← r.step? t
      let (es, rest) ← readAll? fuel r rest
      some (e.toList ++ es, rest)

/-- The events of the content of an entity. What follows its end is ignored. -/
def Event.ofContent? (t : Text) : Option (List Event) :=
  (readAll? (t.length + 1) ⟨false, 1⟩ t).map (·.1)

/-- The entities of a document and the events of its root element. Nothing but comments,
processing instructions and blanks may follow. -/
def Event.ofDocument? (t : Text) : Option (Entities × List Event) := do
  let (entities, t) ← readProlog? t
  match t with
  | '<' :: rest =>
    let (name, rest) ← readQName? rest
    let (es, rest) ← readAll? (rest.length + 1) ⟨true, 0⟩ rest
    let rest ← skipMisc? (rest.length + 1) rest
    if rest.isEmpty then some (entities, .start name :: es) else none
  | _ => none

end HttpExchange.Xml
