import HttpExchange.Proofs.Except
import HttpExchange.Proofs.Headers.Pairs
import HttpExchange.Proofs.Text.Blank
import HttpExchange.Request

/-!
# The head of a request

The lines of a head that was written begin with something that is not blank, and a
line break ends each. So none of them is a blank line, and the first blank line is
the one that ends the head. The field that stands on a line is the field that was
written there.

## Main results

* `splitHead_block`, `lines_block` — lines that were written are found again.
* `readFields_fieldLines` — and so are the fields on them.
* `wellFormed_of_readFields` — fields that were read can be written.
-/

namespace HttpExchange.Request

/-! ## The first line -/

/-- The first line that names a method, a target and a protocol. -/
def firstLine (method target protocol : Text) : Text :=
  method ++ ' ' :: (target ++ ' ' :: protocol)

theorem words_firstLine {method target protocol : Text} (hmethod : Text.IsWord method)
    (htarget : Text.IsWord target) (hprotocol : Text.IsWord protocol) :
    Text.words (firstLine method target protocol) = [method, target, protocol] := by
  have hspace : Text.isBlank ' ' = true := by decide
  rw [firstLine, Text.words_cons hmethod hspace, Text.words_cons htarget hspace,
    Text.words_word hprotocol]

/-! ## Where a head ends -/

/-- What ends a line. -/
def lineBreak : Text := ['\r', '\n']

/-- A line of a head: it does not begin with a blank, and there is no line feed in it. -/
structure IsHeadLine (line : Text) : Prop where
  first : ∃ c ∈ line.head?, Text.isBlank c = false
  lineFeed : '\n' ∉ line

theorem splitHead_cons {c : Char} {rest : Text}
    (hlineBreak : ∀ t, c :: rest ≠ '\r' :: '\n' :: '\r' :: '\n' :: t)
    (hlineFeed : ∀ t, c :: rest ≠ '\n' :: '\n' :: t) :
    splitHead (c :: rest) = (c :: (splitHead rest).1, (splitHead rest).2) := by
  rw [splitHead]
  · exact fun t hc hrest => hlineBreak t (by rw [hc, hrest])
  · exact fun t hc hrest => hlineFeed t (by rw [hc, hrest])

/-- No blank line is found before the end of a line. -/
theorem splitHead_append {line : Text} (h : '\n' ∉ line) (rest : Text) :
    splitHead (line ++ '\r' :: rest) =
      (line ++ (splitHead ('\r' :: rest)).1, (splitHead ('\r' :: rest)).2) := by
  induction line with
  | nil => rfl
  | cons c line ih =>
      rw [List.mem_cons, not_or] at h
      have hnext : ∀ t, line ++ '\r' :: rest ≠ '\n' :: t := by
        intro t heq
        cases line with
        | nil => cases heq
        | cons d line => exact h.2 (by simp [(List.cons.inj heq).1])
      rw [List.cons_append, splitHead_cons, ih h.2]
      · rfl
      · exact fun t heq => hnext _ (List.cons.inj heq).2
      · exact fun t heq => h.1 (List.cons.inj heq).1.symm

/-- A line break before something that is not blank is no blank line. -/
theorem splitHead_lineBreak {rest : Text} (h : ∃ c ∈ rest.head?, Text.isBlank c = false) :
    splitHead (lineBreak ++ rest) = (lineBreak ++ (splitHead rest).1, (splitHead rest).2) := by
  obtain ⟨c, hc, hblank⟩ := h
  obtain ⟨rest, rfl⟩ := List.head?_eq_some_iff.mp hc
  have hreturn : c ≠ '\r' := by
    rintro rfl
    cases hblank
  have hlineFeed : c ≠ '\n' := by
    rintro rfl
    cases hblank
  show splitHead ('\r' :: '\n' :: c :: rest) = _
  rw [splitHead_cons, splitHead_cons]
  · rfl
  · exact fun t heq => by cases heq
  · exact fun t heq => hlineFeed (List.cons.inj (List.cons.inj heq).2).1
  · exact fun t heq => hreturn (List.cons.inj (List.cons.inj (List.cons.inj heq).2).2).1
  · exact fun t heq => by cases heq

/-- **The head ends at the blank line that was written after it.** -/
theorem splitHead_block {lines : List Text} (hne : lines ≠ [])
    (hlines : ∀ line ∈ lines, IsHeadLine line) (body : Text) :
    splitHead (lines.flatMap (· ++ lineBreak) ++ lineBreak ++ body) =
      (Text.joinWith lineBreak lines, body) := by
  -- on the lines: each is followed by another one or by the blank line, and another one does not
  -- begin with a line feed, so the break before it ends no head
  induction lines with
  | nil => exact absurd rfl hne
  | cons line lines ih =>
      obtain ⟨hline, hlines⟩ := List.forall_mem_cons.mp hlines
      cases lines with
      | nil =>
          have hshape : [line].flatMap (· ++ lineBreak) ++ lineBreak ++ body =
              line ++ '\r' :: ('\n' :: '\r' :: '\n' :: body) := by
            simp [lineBreak]
          rw [hshape, splitHead_append hline.lineFeed, splitHead, List.append_nil]
          rfl
      | cons next lines =>
          have hrest := ih (List.cons_ne_nil next lines) hlines
          have hshape : (line :: next :: lines).flatMap (· ++ lineBreak) ++ lineBreak ++ body =
              line ++ (lineBreak ++ ((next :: lines).flatMap (· ++ lineBreak) ++ lineBreak ++
                body)) := by
            simp
          have hfirst : ∃ c ∈ ((next :: lines).flatMap (· ++ lineBreak) ++ lineBreak ++
              body).head?, Text.isBlank c = false := by
            obtain ⟨c, hc, hblank⟩ := (hlines next List.mem_cons_self).first
            obtain ⟨tail, rfl⟩ := List.head?_eq_some_iff.mp hc
            exact ⟨c, rfl, hblank⟩
          have hbreak := splitHead_lineBreak hfirst
          rw [hrest] at hbreak
          rw [hshape]
          refine (splitHead_append hline.lineFeed _).trans ?_
          change (line ++ (splitHead (lineBreak ++ _)).1, (splitHead (lineBreak ++ _)).2) = _
          rw [hbreak, Text.joinWith, List.append_assoc]

/-! ## Lines -/

theorem dropLineBreak_append (line : Text) : dropLineBreak (line ++ lineBreak) = line := by
  have hreverse : (line ++ lineBreak).reverse = '\n' :: '\r' :: line.reverse := by
    simp [lineBreak]
  rw [dropLineBreak, hreverse]
  exact List.reverse_reverse line

theorem dropLineBreak_of_not_mem {line : Text} (h : '\n' ∉ line) : dropLineBreak line = line := by
  have hfirst : ∀ rest, line.reverse ≠ '\n' :: rest := by
    intro rest heq
    exact h (List.mem_reverse.mp (heq ▸ List.mem_cons_self))
  unfold dropLineBreak
  split
  · next heq => exact absurd heq (hfirst _)
  · next heq => exact absurd heq (hfirst _)
  · rfl

/-- Without the line break that ends it, a line has no line feed. -/
theorem not_mem_dropLineBreak {t line : Text} (h : line ∈ Text.lines t) :
    '\n' ∉ dropLineBreak line := by
  obtain ⟨a, ha, rfl | rfl⟩ := Text.exists_of_mem_lines h
  · rwa [dropLineBreak_of_not_mem ha]
  · have hreverse : (a ++ ['\n']).reverse = '\n' :: a.reverse := by simp
    have hsub : ∀ rest, rest <:+ a.reverse → '\n' ∉ rest.reverse := fun rest htail hmem =>
      ha (List.mem_reverse.mp (htail.subset (List.mem_reverse.mp hmem)))
    rw [dropLineBreak, hreverse]
    split
    · next heq => exact hsub _ ⟨['\r'], (List.cons.inj heq).2.symm⟩
    · next heq => exact hsub _ ⟨[], (List.cons.inj heq).2.symm⟩
    · next hother => exact absurd rfl (hother _)

/-- Lines that were written are found again. -/
theorem lines_block {lines : List Text} (hlines : ∀ line ∈ lines, IsHeadLine line) :
    (Text.lines (Text.joinWith lineBreak lines)).map dropLineBreak = lines := by
  induction lines with
  | nil => rfl
  | cons line lines ih =>
      obtain ⟨hline, hlines⟩ := List.forall_mem_cons.mp hlines
      cases lines with
      | nil =>
          have hne : line ≠ [] := by
            rintro rfl
            obtain ⟨c, hc, -⟩ := hline.first
            cases hc
          rw [Text.joinWith, Text.lines_of_not_mem hne hline.lineFeed, List.map_singleton,
            dropLineBreak_of_not_mem hline.lineFeed]
      | cons next lines =>
          have hshape : Text.joinWith lineBreak (line :: next :: lines) =
              (line ++ ['\r']) ++ '\n' :: Text.joinWith lineBreak (next :: lines) := by
            simp [Text.joinWith, lineBreak]
          have hlineFeed : '\n' ∉ line ++ ['\r'] := by
            simp [hline.lineFeed]
          have hbreak : line ++ ['\r'] ++ ['\n'] = line ++ lineBreak := by simp [lineBreak]
          rw [hshape, Text.lines_append hlineFeed, List.map_cons, ih hlines, hbreak,
            dropLineBreak_append]

/-! ## Fields -/

/-- The line of a field. -/
def fieldLine (field : Text × Text) : Text := field.1 ++ ": ".toList ++ field.2

section FieldLine

variable {field : Text × Text} (hname : IsFieldName field.1) (hvalue : IsFieldValue field.2)

include hname in
theorem isHeadLine_fieldLine (hlineFeed : '\n' ∉ field.2) : IsHeadLine (fieldLine field) where
  first := by
    obtain ⟨c, rest, hcons⟩ := List.exists_cons_of_ne_nil hname.nonempty
    refine ⟨c, ?_, Text.isBlank_head_trim (t := field.1) ?_⟩
    · rw [fieldLine, hcons]
      rfl
    · rw [hname.trimmed, hcons]
      rfl
  lineFeed := by
    rw [fieldLine, List.mem_append, List.mem_append, not_or, not_or]
    exact ⟨⟨hname.lineFeed, by decide⟩, hlineFeed⟩

include hvalue in
/-- There is no carriage return at the end of the line of a field. -/
theorem dropEndWhile_fieldLine :
    Text.dropEndWhile (· == '\r') (fieldLine field) = fieldLine field := by
  refine Text.dropEndWhile_eq_self fun c hc => ?_
  rw [fieldLine, List.getLast?_append] at hc
  cases hlast : field.2.getLast? with
  | none =>
      rw [hlast, List.getLast?_append] at hc
      obtain rfl : ' ' = c := Option.some.inj hc
      rfl
  | some d =>
      rw [hlast] at hc
      obtain rfl : d = c := Option.some.inj hc
      have hblank : Text.isBlank d = false := by
        refine Text.isBlank_getLast_trim (t := field.2) ?_
        rw [hvalue.trimmed, hlast]
        rfl
      refine beq_eq_false_iff_ne.mpr ?_
      rintro rfl
      cases hblank

include hname hvalue in
/-- The field that stands on its line. -/
theorem readField_fieldLine : readField (fieldLine field) = .ok field := by
  have hshape : fieldLine field = field.1 ++ ':' :: ' ' :: field.2 := by simp [fieldLine]
  have hempty : field.1.isEmpty = false := List.isEmpty_eq_false_iff.mpr hname.nonempty
  have htrim : Text.trim (' ' :: field.2) = field.2 := hvalue.trimmed
  rw [readField, hshape, Text.splitFirst_append hname.colon]
  simp only [hname.trimmed, htrim, hempty, Bool.false_eq_true, if_false]

end FieldLine

/-- **Fields that were written are read again.** -/
theorem readFields_fieldLines {fields : List (Text × Text)}
    (hfields : ∀ field ∈ fields, IsFieldName field.1 ∧ IsFieldValue field.2) :
    readFields (fields.map fieldLine) = .ok (Headers.ofPairs fields) := by
  have hkept : ((fields.map fieldLine).map (Text.dropEndWhile (· == '\r'))).filter (!·.isEmpty) =
      fields.map fieldLine := by
    have hends : (fields.map fieldLine).map (Text.dropEndWhile (· == '\r')) =
        fields.map fieldLine := by
      rw [List.map_map]
      exact List.map_congr_left fun field hfield => dropEndWhile_fieldLine (hfields field hfield).2
    rw [hends]
    refine List.filter_eq_self.mpr fun line hline => ?_
    obtain ⟨field, -, rfl⟩ := List.mem_map.mp hline
    simp [fieldLine]
  unfold readFields
  dsimp only
  rw [hkept, List.foldlM_map]
  refine foldlM_eq_ok (fun field hfield hs => ?_) []
  obtain ⟨hname, hvalue⟩ := hfields field hfield
  rw [readField_fieldLine hname hvalue]
  rfl

/-- What a line without line feeds gives as a field can be written. -/
theorem isField_of_readField {line : Text} (hline : '\n' ∉ line) {field : Text × Text}
    (h : readField line = .ok field) : IsFieldName field.1 ∧ IsFieldValue field.2 := by
  unfold readField at h
  split at h
  · next name value hsplit =>
      split at h
      · cases h
      · next hname =>
          obtain rfl := Except.ok.inj h
          have hcolon := Text.not_mem_of_splitFirst hsplit
          rw [Text.eq_of_splitFirst hsplit, List.mem_append, List.mem_cons, not_or, not_or] at hline
          exact ⟨⟨by simpa using hname, Text.trim_trim name, mt Text.trim_subset hcolon,
            mt Text.trim_subset hline.1⟩, Text.trim_trim value, mt Text.trim_subset hline.2.2⟩
  · cases h

/-- **Fields that were read can be written.** -/
theorem wellFormed_of_readFields {lines : List Text} (hlines : ∀ line ∈ lines, '\n' ∉ line)
    {hs : Headers} (h : readFields lines = .ok hs) : hs.WellFormed := by
  refine foldlM_induction h Headers.WellFormed.nil fun line hline old new hold hstep => ?_
  obtain ⟨field, hfield, hnew⟩ := bind_eq_ok_iff.mp hstep
  obtain rfl := Except.ok.inj hnew
  obtain ⟨source, hsource, rfl⟩ := List.mem_map.mp (List.mem_filter.mp hline).1
  have hplain : '\n' ∉ Text.dropEndWhile (· == '\r') source := by
    obtain ⟨tail, heq, -⟩ := Text.exists_dropEndWhile (· == '\r') source
    exact fun hmem => hlines source hsource (heq ▸ List.mem_append_left tail hmem)
  obtain ⟨hname, hvalue⟩ := isField_of_readField hplain hfield
  exact hold.append (hname.trimmed.symm ▸ hname) hvalue

end HttpExchange.Request
