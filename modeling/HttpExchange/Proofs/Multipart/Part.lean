import HttpExchange.Proofs.Multipart.Reading

/-!
# Parts that are written are read back

A part is written as a delimiter, a few header lines, a blank line and its value;
the line break behind the value belongs to the delimiter that follows. The header
lines name the part, whatever media type they give it. Reading a part settles the
one before it and leaves the new one open, with its name and its whole value.

## Main definitions

* `Part`, `Part.text` — parts, and how they are written.
* `Part.IsPlain`, `Part.IsFramed` — what a part has to be like to be read back.

## Main results

* `readHeader_disposition` — the line that names a part names it.
* `read_head` — what the header lines do.
* `read_part` — what a whole part does.
-/

namespace HttpExchange.Multipart

/-- What ends a line that is written. -/
def lineEnd : Text := ['\r', '\n']

/-- A part as it is given to a writer. -/
structure Part where
  name : Text
  mediaType : Option Text := none
  value : Text
  deriving DecidableEq, Repr

namespace Part

/-- The header that names a part. -/
def dispositionHeader : Text := "Content-Disposition"

/-- What the value of that header begins with. -/
def formData : Text := " form-data"

/-- The parameter of that header that is the name. -/
def nameParameter : Text := " name"

/-- The header that says what the value of a part is. -/
def typeHeader : Text := "Content-Type"

/-- The value of the header that names a part. -/
def dispositionValue (name : Text) : Text :=
  formData ++ ';' :: (nameParameter ++ '=' :: ('"' :: name ++ ['"']))

/-- The line that names a part, without its end. -/
def disposition (p : Part) : Text := dispositionHeader ++ ':' :: dispositionValue p.name

example : disposition ⟨"a b".toList, none, []⟩ =
    "Content-Disposition: form-data; name=\"a b\"".toList := by decide

/-- The line of a media type, without its end. -/
def typeLine (mediaType : Text) : Text := typeHeader ++ ':' :: ' ' :: mediaType

/-- The line of the media type, if there is one. -/
def mediaTypeLine (p : Part) : Text :=
  match p.mediaType with
  | some t => typeLine t ++ lineEnd
  | none => []

/-- The header lines with the blank line that ends them. -/
def head (p : Part) : Text := p.disposition ++ lineEnd ++ p.mediaTypeLine ++ lineEnd

/-- The value with the line break that belongs to the delimiter behind it. -/
def content (p : Part) : Text := p.value ++ lineEnd

/-- A part as it is written. -/
def text (boundary : Text) (p : Part) : Text :=
  delimiter boundary ++ lineEnd ++ (p.head ++ p.content)

/-- The named value that a part is. -/
def entry (p : Part) : Text × Text := (p.name, p.value)

/-- Parts that fit on their header lines: the name contains nothing that ends it there, and no
quotes at its ends, and the media type is on one line. -/
structure IsPlain (p : Part) : Prop where
  lineFeed : '\n' ∉ p.name
  semicolon : ';' ∉ p.name
  first : ∀ c ∈ p.name.head?, c ≠ '"'
  last : ∀ c ∈ p.name.getLast?, c ≠ '"'
  mediaType : ∀ t ∈ p.mediaType, '\n' ∉ t

/-- Plain parts with values in which no line is a delimiter or the terminator. -/
structure IsFramed (boundary : Text) (p : Part) : Prop where
  plain : p.IsPlain
  inner : ∀ line ∈ Text.lines p.value, IsInner boundary line

instance (p : Part) : Decidable p.IsPlain :=
  decidable_of_iff ('\n' ∉ p.name ∧ ';' ∉ p.name ∧ (∀ c ∈ p.name.head?, c ≠ '"') ∧
      (∀ c ∈ p.name.getLast?, c ≠ '"') ∧ ∀ t ∈ p.mediaType, '\n' ∉ t)
    ⟨fun h => ⟨h.1, h.2.1, h.2.2.1, h.2.2.2.1, h.2.2.2.2⟩,
      fun h => ⟨h.lineFeed, h.semicolon, h.first, h.last, h.mediaType⟩⟩

instance (boundary : Text) (p : Part) : Decidable (p.IsFramed boundary) :=
  decidable_of_iff (p.IsPlain ∧ ∀ line ∈ Text.lines p.value, IsInner boundary line)
    ⟨fun h => ⟨h.1, h.2⟩, fun h => ⟨h.plain, h.inner⟩⟩

end Part

variable {b : Text}

/-! ## Names -/

theorem unquote_quoted {name : Text} (hfirst : ∀ c ∈ name.head?, c ≠ '"')
    (hlast : ∀ c ∈ name.getLast?, c ≠ '"') : Text.unquote ('"' :: name ++ ['"']) = name := by
  have hquote : ∀ c ∈ ['"'], (c == '"') = true := by decide
  have hstart : ('"' :: name ++ ['"']).dropWhile (· == '"') =
      (name ++ ['"']).dropWhile (· == '"') := rfl
  rw [Text.unquote, Text.stripWhile, hstart]
  cases name with
  | nil => rfl
  | cons c name =>
      have hc : (c == '"') = false := beq_eq_false_iff_ne.mpr (hfirst c rfl)
      have hend : ∀ d ∈ (c :: name).getLast?, (d == '"') = false := by
        intro d hd
        exact beq_eq_false_iff_ne.mpr (hlast d hd)
      have hkept : (c :: name ++ ['"']).dropWhile (· == '"') = c :: name ++ ['"'] :=
        Text.dropWhile_eq_self fun d hd => Option.some.inj hd ▸ hc
      rw [hkept, Text.dropEndWhile_append_of_forall _ hquote, Text.dropEndWhile_eq_self hend]

/-- A text between characters that are not blank has no blanks at its ends. -/
theorem trim_between {first last : Char} (hfirst : Text.isBlank first = false)
    (hlast : Text.isBlank last = false) (t : Text) :
    Text.trim (first :: t ++ [last]) = first :: t ++ [last] := by
  refine Text.trim_eq_self ?_ ?_
  · intro c hc
    obtain rfl : first = c := Option.some.inj hc
    exact hfirst
  · intro c hc
    rw [List.getLast?_concat] at hc
    obtain rfl : last = c := Option.some.inj hc
    exact hlast

/-- **The name is read back** from the header that names a part. -/
theorem parameter?_dispositionValue {name : Text} (hsemicolon : ';' ∉ name)
    (hfirst : ∀ c ∈ name.head?, c ≠ '"') (hlast : ∀ c ∈ name.getLast?, c ≠ '"') :
    parameter? "name" (Part.dispositionValue name) = some name := by
  have hsegment : ';' ∉ Part.nameParameter ++ '=' :: ('"' :: name ++ ['"']) := by
    rw [List.mem_append, not_or]
    exact ⟨by decide, by simp [hsemicolon]⟩
  have hpieces : Text.splitOn ';' (Part.dispositionValue name) =
      [Part.formData, Part.nameParameter ++ '=' :: ('"' :: name ++ ['"'])] := by
    rw [← Text.splitOn_of_not_mem hsegment]
    exact Text.splitOn_append (t := Part.formData) (by decide) _
  have htrim : Text.trim (Part.nameParameter ++ '=' :: ('"' :: name ++ ['"'])) =
      "name".toList ++ '=' :: ('"' :: name ++ ['"']) :=
    trim_between (show Text.isBlank 'n' = false by decide) (show Text.isBlank '"' = false by decide)
      ("ame".toList ++ '=' :: '"' :: name)
  have hequals : Text.splitFirst '=' ("name".toList ++ '=' :: ('"' :: name ++ ['"'])) =
      some ("name".toList, '"' :: name ++ ['"']) :=
    Text.splitFirst_append (a := "name".toList) (by decide) _
  have hother : Text.splitFirst '=' (Text.trim Part.formData) = none := by decide
  have hname : Text.eqIgnoreCase (Text.trim "name".toList) "name" = true := by decide
  have hquoted : Text.trim ('"' :: name ++ ['"']) = '"' :: name ++ ['"'] :=
    trim_between (by decide) (by decide) name
  unfold parameter?
  rw [hpieces, List.findSome?_cons, List.findSome?_cons]
  simp only [hother, htrim, hequals, hname, if_true, hquoted, unquote_quoted hfirst hlast]

theorem readHeader_disposition {p : Part} (h : p.IsPlain) (name : Option Text) :
    readHeader name p.disposition = some p.name := by
  have hsplit : Text.splitFirst ':' p.disposition =
      some (Part.dispositionHeader, Part.dispositionValue p.name) :=
    Text.splitFirst_append (a := Part.dispositionHeader) (by decide) _
  have hheader : Text.eqIgnoreCase (Text.trim Part.dispositionHeader) "content-disposition" =
      true := by decide
  unfold readHeader
  simp only [hsplit, hheader, if_true]
  exact parameter?_dispositionValue h.semicolon h.first h.last

/-- A media type does not name a part. -/
theorem readHeader_typeLine (name : Option Text) (t : Text) :
    readHeader name (Part.typeLine t) = name := by
  have hsplit : Text.splitFirst ':' (Part.typeLine t) = some (Part.typeHeader, ' ' :: t) :=
    Text.splitFirst_append (a := Part.typeHeader) (by decide) _
  have hheader : Text.eqIgnoreCase (Text.trim Part.typeHeader) "content-disposition" = false := by
    decide
  unfold readHeader
  simp only [hsplit, hheader, Bool.false_eq_true, if_false]

/-! ## Lines that are written -/

theorem bare_lineEnd (line : Text) : bare (line ++ lineEnd) = bare line :=
  Text.dropEndWhile_append_of_forall line (by decide)

theorem isEnded_append_lineEnd (t : Text) : Text.IsEnded (t ++ lineEnd) := by
  have hshape : t ++ lineEnd = (t ++ ['\r']) ++ ['\n'] := by simp [lineEnd]
  rw [hshape]
  exact Text.isEnded_append_lineFeed _

/-- A line that is written is one line. -/
theorem lines_append_lineEnd {line : Text} (h : '\n' ∉ line) :
    Text.lines (line ++ lineEnd) = [line ++ lineEnd] := by
  have hfeed : '\n' ∉ line ++ ['\r'] := by simp [h]
  have hshape : line ++ lineEnd = line ++ ['\r'] ++ '\n' :: [] := by simp [lineEnd]
  rw [hshape, Text.lines_append hfeed]
  rfl

theorem read_append_lineEnd {line : Text} (h : '\n' ∉ line) (s : State × Assoc Text) :
    read b s (line ++ lineEnd) = step b s (line ++ lineEnd) := by
  rw [read, lines_append_lineEnd h]
  rfl

theorem trimEnd_append_lineEnd (t : Text) : Text.trimEnd (t ++ lineEnd) = Text.trimEnd t :=
  Text.trimEnd_append_of_blank t (by decide)

/-- Only a line that begins with a dash begins as a delimiter does. -/
theorem not_prefix_of_head {line : Text} (h : line.head? ≠ some '-') : ¬ delimiter b <+: line := by
  rintro ⟨rest, rfl⟩
  exact h rfl

theorem isInner_of_head {line : Text} (h : line.head? ≠ some '-') : IsInner b line :=
  isInner_of_not_prefix (not_prefix_of_head h)

theorem read_header {line : Text} (hdash : line.head? ≠ some '-') (hfeed : '\n' ∉ line)
    (hbare : bare line ≠ []) (name : Option Text) (found : Assoc Text) :
    read b (.headers name, found) (line ++ lineEnd) =
      (.headers (readHeader name (bare line)), found) := by
  have hinner : IsInner b (line ++ lineEnd) := by
    refine isInner_of_head ?_
    cases line with
    | nil => exact absurd rfl hbare
    | cons c line => exact hdash
  have hempty : (bare line).isEmpty = false := List.isEmpty_eq_false_iff.mpr hbare
  rw [read_append_lineEnd hfeed]
  simp only [step, hinner.ofText, bare_lineEnd, hempty, Bool.false_eq_true, if_false]

theorem read_blank (name : Option Text) (found : Assoc Text) :
    read b (.headers name, found) lineEnd = (.content name [], found) := by
  have hinner : IsInner b ([] ++ lineEnd) := isInner_of_head (by decide)
  have hbare : (bare ([] ++ lineEnd)).isEmpty = true := by decide
  rw [← List.nil_append lineEnd, read_append_lineEnd List.not_mem_nil]
  simp only [step, hinner.ofText, hbare, if_true]

/-! ## Parts -/

/-- A line that begins with the name of a header does not begin with a dash. -/
theorem head?_append_ne {header : Text} (hne : header ≠ []) (hdash : header.head? ≠ some '-')
    (t : Text) : (header ++ t).head? ≠ some '-' := by
  obtain ⟨c, rest, rfl⟩ := List.exists_cons_of_ne_nil hne
  exact hdash

theorem head?_disposition (p : Part) : p.disposition.head? ≠ some '-' :=
  head?_append_ne (by decide) (by decide) _

theorem head?_typeLine (t : Text) : (Part.typeLine t).head? ≠ some '-' :=
  head?_append_ne (by decide) (by decide) _

theorem lineFeed_not_mem_disposition {p : Part} (h : p.IsPlain) : '\n' ∉ p.disposition := by
  have hheader : '\n' ∉ Part.dispositionHeader := by decide
  have hform : '\n' ∉ Part.formData := by decide
  have hparameter : '\n' ∉ Part.nameParameter := by decide
  simp [Part.disposition, Part.dispositionValue, hheader, hform, hparameter, h.lineFeed]

theorem lineFeed_not_mem_typeLine {t : Text} (h : '\n' ∉ t) : '\n' ∉ Part.typeLine t := by
  have hheader : '\n' ∉ Part.typeHeader := by decide
  simp [Part.typeLine, hheader, h]

theorem read_disposition {p : Part} (h : p.IsPlain) (name : Option Text) (found : Assoc Text) :
    read b (.headers name, found) (p.disposition ++ lineEnd) =
      (.headers (some p.name), found) := by
  have hquote : ∃ lead, p.disposition = lead ++ ['"'] := by
    refine ⟨Part.dispositionHeader ++ ':' :: (Part.formData ++ ';' :: (Part.nameParameter ++
      '=' :: '"' :: p.name)), ?_⟩
    simp [Part.disposition, Part.dispositionValue]
  have hbare : bare p.disposition = p.disposition := by
    obtain ⟨lead, hlead⟩ := hquote
    refine Text.dropEndWhile_eq_self ?_
    intro c hc
    rw [hlead, List.getLast?_concat] at hc
    obtain rfl : '"' = c := Option.some.inj hc
    decide
  have hne : bare p.disposition ≠ [] := by
    rw [hbare]
    simp [Part.disposition]
  rw [read_header (head?_disposition p) (lineFeed_not_mem_disposition h) hne, hbare,
    readHeader_disposition h]

theorem read_mediaTypeLine {p : Part} (h : p.IsPlain) (name : Option Text) (found : Assoc Text) :
    read b (.headers name, found) p.mediaTypeLine = (.headers name, found) := by
  unfold Part.mediaTypeLine
  cases hmedia : p.mediaType with
  | none => rfl
  | some t =>
      have hshape : ∀ u, Part.typeLine u = (Part.typeHeader ++ [':', ' ']) ++ u := by
        intro u
        simp [Part.typeLine]
      have hbare : bare (Part.typeLine t) = Part.typeLine (bare t) := by
        rw [hshape, hshape]
        exact Text.dropEndWhile_append (by decide) t
      have hne : bare (Part.typeLine t) ≠ [] := by
        rw [hbare]
        simp [Part.typeLine]
      dsimp only
      rw [read_header (head?_typeLine t) (lineFeed_not_mem_typeLine (h.mediaType t hmedia)) hne,
        hbare, readHeader_typeLine]

theorem isEnded_mediaTypeLine (p : Part) : Text.IsEnded p.mediaTypeLine := by
  unfold Part.mediaTypeLine
  split
  · exact isEnded_append_lineEnd _
  · exact Text.isEnded_nil

theorem read_head {p : Part} (h : p.IsPlain) (found : Assoc Text) :
    read b (.headers none, found) p.head = (.content (some p.name) [], found) := by
  have hended := (isEnded_append_lineEnd p.disposition).append (isEnded_mediaTypeLine p)
  rw [Part.head, read_append hended, read_append (isEnded_append_lineEnd _), read_disposition h,
    read_mediaTypeLine h, read_blank]

theorem isEnded_head (p : Part) : Text.IsEnded p.head := isEnded_append_lineEnd _

theorem isEnded_content (p : Part) : Text.IsEnded p.content := isEnded_append_lineEnd _

theorem isEnded_text (p : Part) : Text.IsEnded (p.text b) :=
  (isEnded_append_lineEnd _).append ((isEnded_head p).append (isEnded_content p))

/-- A line of a content is a line of the value, or the line break behind the value ends it. -/
theorem mem_lines_content {p : Part} {line : Text} (h : line ∈ Text.lines p.content) :
    line ∈ Text.lines p.value ∨
      ∃ piece, line = piece ++ lineEnd ∧ (piece = [] ∨ piece ∈ Text.lines p.value) :=
  Text.mem_lines_append (show '\n' ∉ ['\r'] by decide) h

/-- The line break behind a value makes no delimiter of its last line. -/
theorem Part.IsFramed.isInner_content {p : Part} (h : p.IsFramed b) :
    ∀ line ∈ Text.lines p.content, IsInner b line := by
  intro line hline
  rcases mem_lines_content hline with hline | ⟨piece, rfl, rfl | hpiece⟩
  · exact h.inner line hline
  · exact isInner_of_head (by decide)
  · have hinner := h.inner piece hpiece
    constructor
    · rw [trimEnd_append_lineEnd]
      exact hinner.ne_delimiter
    · rw [trimEnd_append_lineEnd]
      exact hinner.ne_terminator

theorem read_delimiter (hb : IsBoundary b) {s : State × Assoc Text} (hopen : s.1 ≠ .done) :
    read b s (delimiter b ++ lineEnd) = (.headers none, settled s) := by
  have hfeed : '\n' ∉ delimiter b := by simp [delimiter, hb.lineFeed]
  have htrim : Text.trimEnd (delimiter b ++ lineEnd) = delimiter b := by
    rw [trimEnd_append_lineEnd]
    exact Text.dropEndWhile_eq_self hb.isBlank_getLast_delimiter
  rw [read_append_lineEnd hfeed, step_delimiter hopen htrim]

/-- **What a part does**: it settles the part before it and stands open itself, with its name and
its whole value. -/
theorem read_part (hb : IsBoundary b) {p : Part} (h : p.IsFramed b) {s : State × Assoc Text}
    (hopen : s.1 ≠ .done) :
    read b s (p.text b) = (.content (some p.name) p.content, settled s) := by
  rw [Part.text, read_append (isEnded_append_lineEnd _), read_delimiter hb hopen,
    read_append (isEnded_head p), read_head h.plain, read_content h.isInner_content,
    List.nil_append]

theorem dropLineBreak_append_lineEnd (t : Text) : dropLineBreak (t ++ lineEnd) = t := by
  have hreverse : (t ++ lineEnd).reverse = '\n' :: '\r' :: t.reverse := by
    simp [lineEnd]
  rw [dropLineBreak, hreverse]
  exact List.reverse_reverse t

/-- A part that stands open is settled with its value. -/
theorem settled_part (p : Part) (found : Assoc Text) :
    settled (.content (some p.name) p.content, found) = Assoc.set p.name p.value found := by
  rw [settled, store, Part.content, dropLineBreak_append_lineEnd]

end HttpExchange.Multipart
