import HttpExchange.Proofs.Assoc
import HttpExchange.Proofs.Multipart.Part
import Mathlib.Data.List.TakeWhile

/-!
# Framed parts are found again

Parts that are written one after the other, with a terminator behind the last
one, are read one after the other: each settles the one before it, and the
terminator settles the last. So each of them is found with its whole value. What
stands before the first delimiter does not matter, and neither does what stands
behind the terminator.

## Main definitions

* `frame` — how parts are written.
* `IsPreamble`, `IsEpilogue` — what may stand around them.

## Main results

* `read_parts` — what several parts do.
* `read_terminator` — what the terminator does.
* `fields_of_framed` — framed parts are found again.
-/

namespace HttpExchange.Multipart

/-- Parts as they are written, up to the end of the terminator. -/
def frame (boundary : Text) (parts : List Part) : Text :=
  parts.flatMap (Part.text boundary) ++ terminator boundary

variable {b : Text}

/-! ## Several parts -/

/-- **What several parts do**: once the last of them is complete, each of them has been found. -/
theorem read_parts (hb : IsBoundary b) {parts : List Part} (h : ∀ p ∈ parts, p.IsFramed b)
    {s : State × Assoc Text} (hopen : s.1 ≠ .done) :
    (read b s (parts.flatMap (Part.text b))).1 ≠ .done ∧
      settled (read b s (parts.flatMap (Part.text b))) =
        Assoc.setAll (settled s) (parts.map Part.entry) := by
  induction parts generalizing s with
  | nil => exact ⟨hopen, rfl⟩
  | cons p parts ih =>
      obtain ⟨hp, hparts⟩ := List.forall_mem_cons.mp h
      have hrest := ih (s := read b s (p.text b)) hparts (by rw [read_part hb hp hopen]; simp)
      rw [List.flatMap_cons, read_append (isEnded_text p)]
      refine ⟨hrest.1, hrest.2.trans ?_⟩
      rw [read_part hb hp hopen, settled_part]
      rfl

theorem isEnded_parts (parts : List Part) : Text.IsEnded (parts.flatMap (Part.text b)) := by
  induction parts with
  | nil => exact Text.isEnded_nil
  | cons p parts ih =>
      rw [List.flatMap_cons]
      exact (isEnded_text p).append ih

/-! ## Framed parts -/

/-- What may stand before the first delimiter: whole lines, none of which is a delimiter or the
terminator. -/
structure IsPreamble (b t : Text) : Prop where
  ended : Text.IsEnded t
  inner : ∀ line ∈ Text.lines t, IsInner b line

/-- What may stand behind the terminator: blanks up to the end of its line, and then anything. -/
def IsEpilogue (t : Text) : Prop := ∀ c ∈ t.takeWhile (· != '\n'), Text.isBlank c = true

instance (t : Text) : Decidable (IsEpilogue t) := by
  unfold IsEpilogue
  infer_instance

theorem read_preamble {preamble : Text} (h : IsPreamble b preamble) :
    read b (.before, []) preamble = (.before, []) :=
  foldl_step_before h.inner []

/-- Behind the terminator there are blanks to the end, or to the end of its line. -/
theorem IsEpilogue.cases {t : Text} (h : IsEpilogue t) :
    ∃ blanks, (∀ c ∈ blanks, Text.isBlank c = true) ∧ '\n' ∉ blanks ∧
      (t = blanks ∨ ∃ rest, t = blanks ++ '\n' :: rest) := by
  unfold IsEpilogue at h
  cases hsplit : Text.splitFirst '\n' t with
  | none =>
      have hfeed := Text.splitFirst_eq_none_iff.mp hsplit
      have hkept : ∀ c ∈ t, (c != '\n') = true := by
        intro c hc
        exact bne_iff_ne.mpr fun heq => hfeed (heq ▸ hc)
      rw [List.takeWhile_eq_self_iff.mpr hkept] at h
      exact ⟨t, h, hfeed, .inl rfl⟩
  | some parts =>
      obtain ⟨blanks, rest⟩ := parts
      have hfeed := Text.not_mem_of_splitFirst hsplit
      have hkept : ∀ c ∈ blanks, (c != '\n') = true := by
        intro c hc
        exact bne_iff_ne.mpr fun heq => hfeed (heq ▸ hc)
      rw [Text.eq_of_splitFirst hsplit, Text.takeWhile_append_cons hkept (by decide)] at h
      exact ⟨blanks, h, hfeed, .inr ⟨rest, Text.eq_of_splitFirst hsplit⟩⟩

/-- The line of the terminator, and what is behind it. -/
theorem exists_terminator_line (hb : IsBoundary b) {epilogue : Text} (h : IsEpilogue epilogue) :
    ∃ line rest, terminator b ++ epilogue = line ++ rest ∧
      Text.trimEnd line = terminator b ∧ Text.lines line = [line] ∧
      (rest = [] ∨ Text.IsEnded line) := by
  obtain ⟨blanks, hblanks, hfeed, hcases⟩ := h.cases
  have hline : '\n' ∉ terminator b ++ blanks := by
    simp [terminator, delimiter, hb.lineFeed, hfeed]
  have htrim : Text.trimEnd (terminator b ++ blanks) = terminator b := by
    rw [Text.trimEnd_append_of_blank _ hblanks]
    refine Text.dropEndWhile_eq_self ?_
    intro c hc
    rw [terminator, List.getLast?_append] at hc
    obtain rfl : '-' = c := Option.some.inj hc
    decide
  rcases hcases with rfl | ⟨rest, rfl⟩
  · refine ⟨terminator b ++ epilogue, [], (List.append_nil _).symm, htrim, ?_, .inl rfl⟩
    exact Text.lines_of_not_mem (List.cons_ne_nil _ _) hline
  · refine ⟨terminator b ++ blanks ++ ['\n'], rest, ?_, ?_, Text.lines_append hline [],
      .inr (Text.isEnded_append_lineFeed _)⟩
    · rw [List.append_assoc, List.append_assoc, List.singleton_append]
    · rw [Text.trimEnd_append_of_blank _ (by decide), htrim]

/-- The terminator settles the last part, and nothing behind it is read. -/
theorem read_terminator (hb : IsBoundary b) {epilogue : Text} (h : IsEpilogue epilogue)
    {s : State × Assoc Text} (hopen : s.1 ≠ .done) :
    read b s (terminator b ++ epilogue) = (.done, settled s) := by
  obtain ⟨line, rest, hshape, htrim, hlines, hrest⟩ := exists_terminator_line hb h
  have hline : read b s line = (.done, settled s) := by
    rw [read, hlines]
    exact step_terminator hopen htrim
  rw [hshape]
  rcases hrest with rfl | hended
  · rw [List.append_nil, hline]
  · rw [read_append hended, hline, read_done]

/-- Framed parts give their entries, written one after the other. -/
theorem fields_frame (hb : IsBoundary b) {parts : List Part} (h : ∀ p ∈ parts, p.IsFramed b)
    {preamble epilogue : Text} (hpreamble : IsPreamble b preamble)
    (hepilogue : IsEpilogue epilogue) :
    fields b (preamble ++ frame b parts ++ epilogue) = Assoc.ofList (parts.map Part.entry) := by
  have hopen : (State.before, ([] : Assoc Text)).1 ≠ .done := by decide
  obtain ⟨hstill, hsettled⟩ := read_parts hb h hopen
  rw [frame, fields_eq, List.append_assoc, List.append_assoc, read_append hpreamble.ended,
    read_preamble hpreamble, read_append (isEnded_parts parts), read_terminator hb hepilogue hstill]
  exact hsettled

/-- **Framed parts are found again.** Each name is found once, in the order in which the names
first appear, and with exactly the value of the last part that has it. -/
theorem fields_of_framed (hb : IsBoundary b) {parts : List Part} (h : ∀ p ∈ parts, p.IsFramed b)
    {preamble epilogue : Text} (hpreamble : IsPreamble b preamble)
    (hepilogue : IsEpilogue epilogue) :
    let found := fields b (preamble ++ frame b parts ++ epilogue)
    (Assoc.keys found).Nodup ∧ Assoc.keys found = (parts.map Part.name).eraseDups ∧
      ∀ before p after, parts = before ++ p :: after → (∀ q ∈ after, q.name ≠ p.name) →
        Assoc.get? p.name found = some p.value := by
  have hentries : Assoc.keys (parts.map Part.entry) = parts.map Part.name := by
    rw [Assoc.keys, List.map_map]
    rfl
  dsimp only
  rw [fields_frame hb h hpreamble hepilogue]
  refine ⟨Assoc.nodup_keys_setAll (m := []) List.nodup_nil _, ?_, ?_⟩
  · rw [Assoc.keys_ofList, hentries]
  · rintro before p after rfl hlast
    rw [List.map_append, List.map_cons]
    refine Assoc.get?_ofList_append ?_ p.value _
    rw [Assoc.keys, List.map_map]
    intro hmem
    obtain ⟨q, hq, hname⟩ := List.mem_map.mp hmem
    exact hlast q hq hname

/-- A form with a note that is written twice and a value of several lines, in which a line begins as
a delimiter does. There are more such lines before the first delimiter, and behind the terminator a
part that comes too late. -/
theorem notes_fields_of_framed :
    let b : Text := "AaB03x"
    let parts : List Part := [⟨"note", none, "first"⟩,
      ⟨"a=b: c", some "text/plain", "\r\n--AaB03x?\r\rlast\n"⟩, ⟨"note", none, ""⟩]
    let preamble : Text := "No part.\n--AaB03x-\r\n"
    let epilogue : Text :=
      " \r\n--AaB03x\r\nContent-Disposition: form-data; name=\"late\"\r\n\r\n1\r\n--AaB03x--"
    let found := fields b (preamble ++ frame b parts ++ epilogue)
    IsBoundary b ∧ (∀ p ∈ parts, p.IsFramed b) ∧ IsPreamble b preamble ∧ IsEpilogue epilogue ∧
      Assoc.keys found = ["note".toList, "a=b: c".toList] ∧
      Assoc.get? "a=b: c" found = some "\r\n--AaB03x?\r\rlast\n".toList ∧
      Assoc.get? "note" found = some [] := by
  intro b parts preamble epilogue found
  have hboundary : IsBoundary b := ⟨by decide, by decide⟩
  have hparts : ∀ p ∈ parts, p.IsFramed b := by decide +kernel
  have hpreamble : IsPreamble b preamble := ⟨by decide, by decide +kernel⟩
  have hepilogue : IsEpilogue epilogue := by decide +kernel
  obtain ⟨-, hkeys, hvalues⟩ := fields_of_framed hboundary hparts hpreamble hepilogue
  refine ⟨hboundary, hparts, hpreamble, hepilogue, hkeys.trans (by decide), ?_, ?_⟩
  · exact hvalues [⟨"note", none, "first"⟩] ⟨"a=b: c", some "text/plain", _⟩
      [⟨"note", none, ""⟩] rfl (by decide)
  · exact hvalues (parts.take 2) ⟨"note", none, ""⟩ [] rfl (by decide)

end HttpExchange.Multipart
