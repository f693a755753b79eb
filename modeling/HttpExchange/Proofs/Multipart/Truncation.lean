import HttpExchange.Proofs.Multipart.Framing

/-!
# Parts that are cut off

A body that is cut off anywhere ends in the middle of something: of the lines
before the first part, of a delimiter, of the header lines of a part, of its
value, or of the terminator. Only a delimiter or a terminator settles a part, and
what is left of any other line is neither, as long as no line of a value begins
as a delimiter does. So the parts that are found are the first ones, and each of
them is whole.

## Main definitions

* `Part.IsGuarded` — what a part has to be like not to be taken for its end.

## Main results

* `read_part_prefix` — what a part that is cut off does.
* `read_parts_prefix` — what several parts do that are cut off.
* `exists_fields_prefix` — what is found of framed parts that are cut off.
* `fields_of_prefix` — the first parts are found, and they are whole.
-/

namespace HttpExchange.Multipart

/-- Plain parts with values in which no line begins as a delimiter does. -/
structure Part.IsGuarded (boundary : Text) (p : Part) : Prop where
  plain : p.IsPlain
  clear : ∀ line ∈ Text.lines p.value, ¬ delimiter boundary <+: line

instance (boundary : Text) (p : Part) : Decidable (p.IsGuarded boundary) :=
  decidable_of_iff (p.IsPlain ∧ ∀ line ∈ Text.lines p.value, ¬ delimiter boundary <+: line)
    ⟨fun h => ⟨h.1, h.2⟩, fun h => ⟨h.plain, h.clear⟩⟩

variable {b : Text}

theorem Part.IsGuarded.isFramed {p : Part} (h : p.IsGuarded b) : p.IsFramed b where
  plain := h.plain
  inner := fun line hline => isInner_of_not_prefix (h.clear line hline)

/-! ## One line that is cut off -/

/-- What is left of one line settles a part or changes nothing. -/
theorem snd_read_line_cases {cut t : Text} (h : cut <+: t) (hline : (Text.lines t).length ≤ 1)
    (s : State × Assoc Text) : (read b s cut).2 = s.2 ∨ (read b s cut).2 = settled s := by
  have hlength := Nat.le_trans (Text.length_lines_le_of_prefix h) hline
  unfold read
  cases hlines : Text.lines cut with
  | nil => exact .inl rfl
  | cons line rest =>
      rw [hlines] at hlength
      have hrest : rest = [] := by
        rw [List.length_cons] at hlength
        exact List.length_eq_zero_iff.mp (by omega)
      rw [hrest]
      exact snd_step_cases b s line

/-- A text that begins with another one is cut off within that one or behind it. -/
theorem prefix_append_cases {cut s t : Text} (h : cut <+: s ++ t) :
    cut <+: s ∨ ∃ rest, cut = s ++ rest ∧ rest <+: t := by
  rcases List.prefix_or_prefix_of_prefix h (List.prefix_append s t) with hcut | ⟨rest, rfl⟩
  · exact .inl hcut
  · exact .inr ⟨rest, rfl, (List.prefix_append_right_inj s).mp h⟩

/-! ## One part that is cut off -/

/-- No line of a head begins as a delimiter does. -/
theorem not_prefix_of_mem_lines_head {p : Part} (h : p.IsPlain) :
    ∀ line ∈ Text.lines p.head, ¬ delimiter b <+: line := by
  have hnamed : Text.IsEnded (p.disposition ++ lineEnd) := isEnded_append_lineEnd _
  have htyped := hnamed.append (isEnded_mediaTypeLine p)
  intro line hline
  rw [Part.head, Text.lines_append_of_isEnded htyped, Text.lines_append_of_isEnded hnamed,
    lines_append_lineEnd (lineFeed_not_mem_disposition h), List.mem_append,
    List.mem_append] at hline
  refine not_prefix_of_head ?_
  rcases hline with (hline | hline) | hline
  · rw [List.mem_singleton.mp hline, Part.disposition, List.append_assoc]
    exact head?_append_ne (by decide) (by decide) _
  · unfold Part.mediaTypeLine at hline
    cases hmedia : p.mediaType with
    | none =>
        rw [hmedia] at hline
        cases hline
    | some t =>
        simp only [hmedia, lines_append_lineEnd (lineFeed_not_mem_typeLine (h.mediaType t hmedia)),
          List.mem_singleton] at hline
        rw [hline, Part.typeLine, List.append_assoc]
        exact head?_append_ne (by decide) (by decide) _
  · have hblank : Text.lines lineEnd = [lineEnd] := by decide
    rw [hblank, List.mem_singleton] at hline
    rw [hline]
    decide

/-- No line of a content begins as a delimiter does. -/
theorem Part.IsGuarded.not_prefix_content (hb : IsBoundary b) {p : Part} (h : p.IsGuarded b) :
    ∀ line ∈ Text.lines p.content, ¬ delimiter b <+: line := by
  have hbreak : ∀ c ∈ lineEnd, Text.isBlank c = true := by decide
  intro line hline hbegins
  rcases mem_lines_content hline with hline | ⟨piece, rfl, hpiece⟩
  · exact h.clear line hline hbegins
  · have hdelimiter := Text.prefix_of_prefix_append hb.isBlank_getLast_delimiter hbreak hbegins
    rcases hpiece with rfl | hpiece
    · exact delimiter_ne_nil b (List.prefix_nil.mp hdelimiter)
    · exact h.clear piece hpiece hdelimiter

/-- Whatever is left of a part behind its delimiter changes nothing. -/
theorem Part.IsGuarded.snd_read_prefix (hb : IsBoundary b) {p : Part} (h : p.IsGuarded b)
    {cut : Text} (hcut : cut <+: p.head ++ p.content) (s : State × Assoc Text) :
    (read b s cut).2 = s.2 := by
  refine snd_read_of_inner ?_ s
  intro line hline
  obtain ⟨whole, hwhole, hbegins⟩ := Text.exists_of_mem_lines_of_prefix hcut hline
  refine isInner_of_not_prefix fun hdelimiter => ?_
  rw [Text.lines_append_of_isEnded (isEnded_head p), List.mem_append] at hwhole
  rcases hwhole with hwhole | hwhole
  · exact not_prefix_of_mem_lines_head h.plain whole hwhole (hdelimiter.trans hbegins)
  · exact h.not_prefix_content hb whole hwhole (hdelimiter.trans hbegins)

/-- **What a part that is cut off does**: it settles the part before it or changes nothing. -/
theorem read_part_prefix (hb : IsBoundary b) {p : Part} (h : p.IsGuarded b) {cut : Text}
    (hcut : cut <+: p.text b) {s : State × Assoc Text} (hopen : s.1 ≠ .done) :
    (read b s cut).2 = s.2 ∨ (read b s cut).2 = settled s := by
  have hfeed : '\n' ∉ delimiter b := by simp [delimiter, hb.lineFeed]
  rcases prefix_append_cases hcut with hcut | ⟨rest, rfl, hrest⟩
  · refine snd_read_line_cases hcut ?_ s
    rw [lines_append_lineEnd hfeed]
    exact Nat.le_refl 1
  · right
    rw [read_append (isEnded_append_lineEnd _), read_delimiter hb hopen,
      h.snd_read_prefix hb hrest]

/-! ## Several parts that are cut off -/

/-- **What several parts do that are cut off**: they settle the part before them and some of the
first of them, or change nothing. -/
theorem read_parts_prefix (hb : IsBoundary b) {parts : List Part}
    (h : ∀ p ∈ parts, p.IsGuarded b) {cut : Text} (hcut : cut <+: parts.flatMap (Part.text b))
    {s : State × Assoc Text} (hopen : s.1 ≠ .done) :
    (read b s cut).2 = s.2 ∨ ∃ k ≤ parts.length,
      (read b s cut).2 = Assoc.setAll (settled s) ((parts.take k).map Part.entry) := by
  induction parts generalizing cut s with
  | nil =>
      rw [List.prefix_nil.mp hcut]
      exact .inl rfl
  | cons p parts ih =>
      obtain ⟨hp, hparts⟩ := List.forall_mem_cons.mp h
      rw [List.flatMap_cons] at hcut
      rcases prefix_append_cases hcut with hcut | ⟨rest, rfl, hrest⟩
      · rcases read_part_prefix hb hp hcut hopen with hkept | hsettled
        · exact .inl hkept
        · exact .inr ⟨0, Nat.zero_le _, hsettled⟩
      · right
        have hread := read_part hb hp.isFramed hopen
        rw [read_append (isEnded_text p), hread]
        have hstill : (State.content (some p.name) p.content) ≠ .done := by simp
        rcases ih hparts hrest (s := (.content (some p.name) p.content, settled s)) hstill with
          hkept | ⟨k, hk, hfound⟩
        · exact ⟨0, Nat.zero_le _, hkept⟩
        · refine ⟨k + 1, Nat.succ_le_succ hk, ?_⟩
          rw [hfound, settled_part]
          rfl

/-! ## Framed parts that are cut off -/

theorem read_preamble_prefix {preamble cut : Text} (h : IsPreamble b preamble)
    (hcut : cut <+: preamble) : (read b (.before, []) cut).2 = [] := by
  rcases Text.lines_of_prefix hcut with hlines | ⟨whole, piece, line, hlines, hwhole, -⟩
  · rw [read, foldl_step_before fun line hline => h.inner line (hlines.subset hline)]
  · have hinner : ∀ line ∈ whole, IsInner b line := by
      intro line hline
      exact h.inner line (hwhole.subset (List.mem_append_left _ hline))
    rw [read, hlines, List.foldl_append, foldl_step_before hinner]
    rcases snd_step_cases b (.before, []) piece with hkept | hsettled
    · exact hkept
    · exact hsettled

/-- The terminator that is cut off settles the last part or changes nothing. -/
theorem read_terminator_prefix (hb : IsBoundary b) {epilogue cut : Text}
    (h : IsEpilogue epilogue) (hcut : cut <+: terminator b ++ epilogue)
    {s : State × Assoc Text} (hopen : s.1 ≠ .done) :
    (read b s cut).2 = s.2 ∨ (read b s cut).2 = settled s := by
  obtain ⟨line, rest, hshape, htrim, hlines, hrest⟩ := exists_terminator_line hb h
  have hone : (Text.lines line).length ≤ 1 := by
    rw [hlines]
    exact Nat.le_refl 1
  rw [hshape] at hcut
  rcases prefix_append_cases hcut with hcut | ⟨behind, rfl, hbehind⟩
  · exact snd_read_line_cases hcut hone s
  · rcases hrest with rfl | hended
    · rw [List.prefix_nil.mp hbehind, List.append_nil]
      exact snd_read_line_cases (List.prefix_refl line) hone s
    · right
      have hline : read b s line = (.done, settled s) := by
        rw [read, hlines]
        exact step_terminator hopen htrim
      rw [read_append hended, hline, read_done]

/-- What is found of framed parts that are cut off are the first of them. -/
theorem exists_fields_prefix (hb : IsBoundary b) {parts : List Part}
    (h : ∀ p ∈ parts, p.IsGuarded b) {preamble epilogue : Text}
    (hpreamble : IsPreamble b preamble) (hepilogue : IsEpilogue epilogue) {cut : Text}
    (hcut : cut <+: preamble ++ frame b parts ++ epilogue) :
    ∃ k ≤ parts.length, fields b cut = Assoc.ofList ((parts.take k).map Part.entry) := by
  have hopen : (State.before, ([] : Assoc Text)).1 ≠ .done := by decide
  have hparts : ∀ {cut}, cut <+: parts.flatMap (Part.text b) → ∃ k ≤ parts.length,
      (read b (.before, []) cut).2 = Assoc.ofList ((parts.take k).map Part.entry) := by
    intro cut hcut
    rcases read_parts_prefix hb h hcut hopen with hkept | hfound
    · exact ⟨0, Nat.zero_le _, hkept⟩
    · exact hfound
  rw [frame, List.append_assoc, List.append_assoc] at hcut
  rw [fields_eq]
  rcases prefix_append_cases hcut with hcut | ⟨behind, rfl, hbehind⟩
  · exact ⟨0, Nat.zero_le _, read_preamble_prefix hpreamble hcut⟩
  rw [read_append hpreamble.ended, read_preamble hpreamble]
  rcases prefix_append_cases hbehind with hcut | ⟨closing, rfl, hclosing⟩
  · exact hparts hcut
  obtain ⟨hstill, hsettled⟩ := read_parts hb (fun p hp => (h p hp).isFramed) hopen
  rw [read_append (isEnded_parts parts)]
  rcases read_terminator_prefix hb hepilogue hclosing hstill with hkept | hall
  · rw [hkept]
    exact hparts (List.prefix_refl _)
  · refine ⟨parts.length, Nat.le_refl _, ?_⟩
    rw [hall, hsettled, List.take_length]
    rfl

/-- **The first parts are found, and they are whole**, wherever framed parts are cut off. -/
theorem fields_of_prefix (hb : IsBoundary b) {parts : List Part}
    (h : ∀ p ∈ parts, p.IsGuarded b) {preamble epilogue : Text}
    (hpreamble : IsPreamble b preamble) (hepilogue : IsEpilogue epilogue) {cut : Text}
    (hcut : cut <+: preamble ++ frame b parts ++ epilogue) :
    (∃ k ≤ parts.length, fields b cut = fields b (frame b (parts.take k))) ∧
      ∀ name value, (name, value) ∈ fields b cut →
        ∃ p ∈ parts, p.name = name ∧ p.value = value := by
  obtain ⟨k, hk, hfound⟩ := exists_fields_prefix hb h hpreamble hepilogue hcut
  constructor
  · have htaken : ∀ p ∈ parts.take k, p.IsFramed b := by
      intro p hp
      exact (h p (List.mem_of_mem_take hp)).isFramed
    have hbefore : IsPreamble b [] := ⟨Text.isEnded_nil, fun line hline => nomatch hline⟩
    have hbehind : IsEpilogue [] := fun c hc => nomatch hc
    have hframe := fields_frame hb htaken hbefore hbehind
    rw [List.nil_append, List.append_nil] at hframe
    exact ⟨k, hk, hfound.trans hframe.symm⟩
  · intro name value hmem
    rw [hfound] at hmem
    obtain ⟨p, hp, hentry⟩ := List.mem_map.mp (Assoc.mem_ofList hmem)
    obtain ⟨hname, hvalue⟩ := Prod.mk.inj hentry
    exact ⟨p, List.mem_of_mem_take hp, hname, hvalue⟩

/-- Two parts, cut off within the terminator: the value of the second is there as a whole, but
nothing has shown yet that it is, so only the first is found. -/
theorem notes_fields_of_prefix :
    let b : Text := "AaB03x"
    let parts : List Part := [⟨"note", none, "first\r\n"⟩, ⟨"other", some "text/plain", "--A\n"⟩]
    let cut : Text := parts.flatMap (Part.text b) ++ "--AaB03".toList
    IsBoundary b ∧ (∀ p ∈ parts, p.IsGuarded b) ∧ cut <+: [] ++ frame b parts ++ "\r\n".toList ∧
      (∃ k ≤ 2, fields b cut = fields b (frame b (parts.take k))) ∧
      (∀ name value, (name, value) ∈ fields b cut → ∃ p ∈ parts, p.name = name ∧ p.value = value) ∧
      fields b cut = [("note".toList, "first\r\n".toList)] := by
  intro b parts cut
  have hboundary : IsBoundary b := ⟨by decide, by decide⟩
  have hparts : ∀ p ∈ parts, p.IsGuarded b := by decide +kernel
  have hpreamble : IsPreamble b [] := ⟨by decide, by decide⟩
  have hepilogue : IsEpilogue "\r\n".toList := by decide
  have hcut : cut <+: [] ++ frame b parts ++ "\r\n".toList := by decide +kernel
  obtain ⟨hfirst, hwhole⟩ := fields_of_prefix hboundary hparts hpreamble hepilogue hcut
  exact ⟨hboundary, hparts, hcut, hfirst, hwhole, by decide +kernel⟩

end HttpExchange.Multipart
