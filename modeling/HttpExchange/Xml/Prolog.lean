import HttpExchange.Assoc
import HttpExchange.Xml.Name

/-!
# The prolog of a document

What comes before the root element: the declaration, comments, processing
instructions, and the document type, of which only the entities matter. What
comes after the root element is of the same kind, without the first and the last.

## Main definitions

- `readPiece?`: a comment or a processing instruction.
- `skipMisc?`: as many of them as there are.
- `readProlog?`: the entities that the prolog declares.
-/

namespace HttpExchange.Xml

/-- The entities that a document declares: the name and the text of each. -/
abbrev Entities := Assoc Text

/-! ## Comments and processing instructions -/

/-- What follows a comment, which may not hold two hyphens in a row, nor end in one. -/
def skipComment? (t : Text) : Option Text := do
  let t ← Text.afterPrefix? "<!--" t
  let (comment, rest) ← readUntil? "-->" t
  if Text.hasPhrase comment "--" || Text.endsWith comment "-" then none else some rest

/-- What follows a processing instruction. A declaration is none. -/
def skipInstruction? (t : Text) : Option Text := do
  if Text.startsWith t "<?xml " then none
  let t ← Text.afterPrefix? "<?" t
  let (_, t) ← readName? t
  let (_, rest) ← readUntil? "?>" (skipSpaces t)
  some rest

/-- What follows the comments, the processing instructions and the blanks that a text begins
with. -/
def skipMisc? : (fuel : Nat) → Text → Option Text
  | 0, _ => none
  | fuel + 1, t =>
    let t := skipSpaces t
    if Text.startsWith t "<!--" then (skipComment? t).bind (skipMisc? fuel)
    else if Text.startsWith t "<?" then (skipInstruction? t).bind (skipMisc? fuel)
    else some t

/-! ## The declaration -/

/-- An attribute as it is written, and what follows it. -/
def readAttribute? (t : Text) : Option ((QName × Text) × Text) := do
  let (name, t) ← readQName? t
  let t ← Text.afterPrefix? "=" (skipSpaces t)
  let (value, rest) ← readQuoted? (skipSpaces t)
  if value.all fun c => isChar c && c != '<' then some ((name, value), rest) else none

/-- What follows an attribute of the declaration: blanks, or its end. -/
def skipDeclared? (t : Text) : Option Text := do
  let (_, t) ← readAttribute? t
  if Text.startsWith t "?>" || t.isEmpty then some t else skipSpaces1? t

/-- What follows the declaration, if there is one. Only the version is mandatory. -/
def skipDeclaration? (t : Text) : Option Text :=
  if Text.startsWith t "<?xml " then do
    let t := skipSpaces (t.drop 5)
    let t ← if Text.startsWith t "version" then skipDeclared? t else none
    let t ← if Text.startsWith t "encoding" then skipDeclared? t else some t
    let t ← if Text.startsWith t "standalone" then (readAttribute? t).map (·.2) else some t
    Text.afterPrefix? "?>" (skipSpaces t)
  else some t

/-! ## The document type -/

/-- What follows an external identifier. -/
def skipExternalId? (t : Text) : Option Text :=
  if Text.startsWith t "SYSTEM" then do
    let t ← skipSpaces1? (t.drop 6)
    let (_, t) ← readQuoted? t
    some t
  else if Text.startsWith t "PUBLIC" then do
    let t ← skipSpaces1? (t.drop 6)
    let (_, t) ← readQuoted? t
    let t ← skipSpaces1? t
    let (_, t) ← readQuoted? t
    some t
  else none

/-- What follows the notation of an external entity, if it has one. -/
def skipUnparsed? (t : Text) : Option Text :=
  let t := skipSpaces t
  if Text.startsWith t "NDATA" then do
    let t ← skipSpaces1? (t.drop 5)
    let (_, t) ← readName? t
    some t
  else some t

/-- The text of an entity unless it is external, and what follows. -/
def readEntityText? (isParameter : Bool) (t : Text) : Option (Option Text × Text) :=
  if Text.startsWith t "\"" || Text.startsWith t "'" then
    (readQuoted? t).map fun (value, rest) => (some value, rest)
  else do
    let t ← skipExternalId? t
    let t ← if isParameter then some t else skipUnparsed? t
    some (none, t)

/-- A declaration of an entity. The first declaration of a name counts. -/
def readEntity? (entities : Entities) (t : Text) : Option (Entities × Text) := do
  let t ← Text.afterPrefix? "<!ENTITY" t
  let t ← skipSpaces1? t
  let isParameter := Text.startsWith t "%"
  let t ← if isParameter then skipSpaces1? (t.drop 1) else some t
  let (name, t) ← readName? t
  let t ← skipSpaces1? t
  let (value, t) ← readEntityText? isParameter t
  let rest ← Text.afterPrefix? ">" (skipSpaces t)
  some (entities ++ value.toList.map (name, ·), rest)

/-- Whether a text begins with a declaration that has no meaning here. -/
def beginsIgnored (t : Text) : Bool :=
  Text.startsWith t "<!ELEMENT" || Text.startsWith t "<!ATTLIST" || Text.startsWith t "<!NOTATION"

/-- The entities of the declarations between the brackets of a document type, and what follows
it. -/
def readSubset? : (fuel : Nat) → Entities → Text → Option (Entities × Text)
  | 0, _, _ => none
  | fuel + 1, entities, t =>
    let t := skipSpaces t
    if Text.startsWith t "<!ENTITY" then
      (readEntity? entities t).bind fun (entities, rest) => readSubset? fuel entities rest
    else if Text.startsWith t "<!--" then (skipComment? t).bind (readSubset? fuel entities)
    else if Text.startsWith t "<?" then (skipInstruction? t).bind (readSubset? fuel entities)
    else if beginsIgnored t then
      (Text.splitFirst '>' t).bind fun (_, rest) => readSubset? fuel entities rest
    else do
      let t ← Text.afterPrefix? "]" t
      let rest ← Text.afterPrefix? ">" (skipSpaces t)
      some (entities, rest)

/-- The entities of a document type, if there is one, and what follows it. -/
def readDocumentType? (t : Text) : Option (Entities × Text) :=
  match Text.afterPrefix? "<!DOCTYPE" t with
  | none => some ([], t)
  | some t => do
    let t ← skipSpaces1? t
    let (_, t) ← readName? t
    let t := skipSpaces t
    let t ← if Text.startsWith t "SYSTEM" || Text.startsWith t "PUBLIC" then skipExternalId? t
      else some t
    match skipSpaces t with
    | '>' :: rest => some ([], rest)
    | '[' :: rest => readSubset? (rest.length + 1) [] rest
    | _ => none

/-- The entities that the prolog declares, and what follows it. -/
def readProlog? (t : Text) : Option (Entities × Text) := do
  let t := (Text.afterPrefix? ['\uFEFF'] t).getD t
  let t ← skipDeclaration? t
  let t ← skipMisc? (t.length + 1) t
  let (entities, t) ← readDocumentType? t
  let t ← skipMisc? (t.length + 1) t
  some (entities, t)

end HttpExchange.Xml
