import HttpExchange.Headers.Basic

/-!
# Media types

The value of a `Content-Type` field: a media type and parameters, separated by
semicolons. Either may be missing. The field is taken apart and put together
again at every edit, so the media type and its parameters never overwrite each
other.
-/

namespace HttpExchange

/-- A media type with its parameters. -/
structure MediaType where
  /-- The type, as in `text/html`. -/
  essence : Option Text
  /-- The parameters, their names in lower case. -/
  params : Assoc Text
  deriving DecidableEq, Repr

namespace MediaType

/-- A segment with an equals sign is a parameter. -/
def parameter? (segment : Text) : Option (Text × Text) :=
  (Text.splitFirst '=' segment).map fun (name, value) =>
    (Text.lower (Text.trim name), Text.trim value)

/-- The first segment is the type unless it is empty or a parameter. -/
def essence? (segment : Text) : Option Text :=
  if segment.isEmpty || (parameter? segment).isSome then none else some segment

/-- Reads a media type. -/
def read (t : Text) : MediaType :=
  let segments := (Text.splitOn ';' t).map Text.trim
  ⟨segments.head?.bind essence?, segments.filterMap parameter?⟩

/-- Writes a media type. -/
def text (m : MediaType) : Text :=
  Text.joinWith "; " (m.essence.toList ++ m.params.map fun (name, value) => name ++ '=' :: value)

/-- What is written when nothing is known. -/
def empty : MediaType := ⟨none, []⟩

/-- The parts of `new` in place of those of `m`; what `new` lacks is kept. -/
def update (m new : MediaType) : MediaType :=
  ⟨new.essence <|> m.essence, Assoc.setAll m.params new.params⟩

end MediaType

namespace Headers

/-- The media type of a message. -/
def mediaType? (hs : Headers) : Option MediaType := (get? "Content-Type" hs).map MediaType.read

/-- The media type of a message in lower case, without its parameters. -/
def contentType? (hs : Headers) : Option Text :=
  (mediaType? hs).bind fun m => m.essence.map Text.lower

/-- The character set that the media type names. -/
def charset? (hs : Headers) : Option Text :=
  (mediaType? hs).bind fun m => (Assoc.get? "charset" m.params).map Text.unquote

/-- Changes the media type. -/
def updateMediaType (new : MediaType) (hs : Headers) : Headers :=
  set "Content-Type" (((mediaType? hs).getD .empty).update new).text hs

/-- Changes the media type and keeps the parameters that the new one does not name. -/
def setContentType (t : Text) (hs : Headers) : Headers := updateMediaType (MediaType.read t) hs

/-- Changes the character set and keeps the media type. -/
def setCharset (charset : Text) (hs : Headers) : Headers :=
  updateMediaType ⟨none, [("charset", Text.trim charset)]⟩ hs

end Headers

end HttpExchange
