import HttpExchange.Proofs.Text.Blank

/-!
# Lines of a text

A text is its lines one after the other, and every line but the last one is
ended. Lines that are ended stay what they are whatever comes after them. A text
that is cut off has the lines that it had before the cut, and then perhaps the
beginning of another one.

## Main definitions

* `IsEnded` — texts whose last line is ended.

## Main results

* `lines_append_of_isEnded` — what follows an ended line begins a line.
* `exists_isEnded_append` — every text is ended lines and a piece of one line.
* `lines_of_prefix` — the lines of a text that was cut off.
* `mem_lines_append` — the lines of a text with a line end behind it.
-/

namespace HttpExchange.Text

/-- Whether the last line of a text is ended. An empty text has no line that is not. -/
def IsEnded (t : Text) : Prop := ∀ c ∈ t.getLast?, c = '\n'

instance (t : Text) : Decidable (IsEnded t) := by
  unfold IsEnded
  infer_instance

theorem isEnded_nil : IsEnded [] := by
  intro c hc
  cases hc

theorem isEnded_append_lineFeed (t : Text) : IsEnded (t ++ ['\n']) := by
  intro c hc
  rw [List.getLast?_concat] at hc
  exact (Option.some.inj hc).symm

theorem IsEnded.append {s t : Text} (hs : IsEnded s) (ht : IsEnded t) : IsEnded (s ++ t) := by
  intro c hc
  rw [List.getLast?_append] at hc
  cases hlast : t.getLast? with
  | none =>
      rw [hlast] at hc
      exact hs c hc
  | some d =>
      rw [hlast] at hc
      obtain rfl : d = c := Option.some.inj hc
      exact ht d hlast

/-! ## Lines one after the other -/

theorem lines_ne_nil {t : Text} (h : t ≠ []) : lines t ≠ [] := by
  cases t with
  | nil => exact absurd rfl h
  | cons c t =>
      rw [lines]
      split
      · exact List.cons_ne_nil _ _
      · split <;> exact List.cons_ne_nil _ _

theorem flatten_lines (t : Text) : (lines t).flatten = t := by
  induction t with
  | nil => rfl
  | cons c t ih =>
      rw [lines]
      split
      · next hc => rw [List.flatten_cons, ih, hc, List.singleton_append]
      · split
        · next hlines =>
            rw [hlines] at ih
            rw [← ih]
            rfl
        · next first others hlines =>
            rw [hlines] at ih
            rw [← ih]
            rfl

/-- **What follows an ended line begins a line.** -/
theorem lines_append_of_isEnded {t : Text} (h : IsEnded t) (rest : Text) :
    lines (t ++ rest) = lines t ++ lines rest := by
  induction t with
  | nil => rfl
  | cons c t ih =>
      by_cases ht : t = []
      · subst ht
        obtain rfl : c = '\n' := h c rfl
        exact lines_append List.not_mem_nil rest
      · have htail : IsEnded t := by
          intro d hd
          refine h d ?_
          obtain ⟨e, u, rfl⟩ := List.exists_cons_of_ne_nil ht
          exact hd
        obtain ⟨first, others, hlines⟩ := List.exists_cons_of_ne_nil (lines_ne_nil ht)
        rw [List.cons_append, lines, lines, ih htail, hlines]
        by_cases hc : c = '\n'
        · rw [if_pos hc, if_pos hc]
          rfl
        · rw [if_neg hc, if_neg hc]
          rfl

/-- **Every text is ended lines and a piece of one line.** -/
theorem exists_isEnded_append (t : Text) :
    ∃ whole piece, t = whole ++ piece ∧ IsEnded whole ∧ '\n' ∉ piece := by
  cases hsplit : splitLast '\n' t with
  | none => exact ⟨[], t, rfl, isEnded_nil, splitLast_eq_none_iff.mp hsplit⟩
  | some parts =>
      obtain ⟨before, piece⟩ := parts
      obtain ⟨ht, hpiece⟩ := eq_of_splitLast hsplit
      refine ⟨before ++ ['\n'], piece, ?_, isEnded_append_lineFeed before, hpiece⟩
      rw [ht, List.append_assoc, List.singleton_append]

/-- A piece of one line begins the first line of every text that it begins. -/
theorem lines_append_of_not_mem {piece : Text} (hne : piece ≠ []) (h : '\n' ∉ piece)
    (rest : Text) : ∃ line others, lines (piece ++ rest) = line :: others ∧ piece <+: line := by
  cases hsplit : splitFirst '\n' rest with
  | none =>
      have hrest : '\n' ∉ piece ++ rest := by
        rw [List.mem_append, not_or]
        exact ⟨h, splitFirst_eq_none_iff.mp hsplit⟩
      have hall : piece ++ rest ≠ [] := List.append_ne_nil_of_left_ne_nil hne rest
      exact ⟨piece ++ rest, [], lines_of_not_mem hall hrest, List.prefix_append piece rest⟩
  | some parts =>
      obtain ⟨before, after⟩ := parts
      have hline : '\n' ∉ piece ++ before := by
        rw [List.mem_append, not_or]
        exact ⟨h, not_mem_of_splitFirst hsplit⟩
      refine ⟨piece ++ before ++ ['\n'], lines after, ?_, ?_⟩
      · rw [eq_of_splitFirst hsplit, ← List.append_assoc, lines_append hline]
      · rw [List.append_assoc]
        exact List.prefix_append piece _

/-- **The lines of a text that was cut off** are lines that it had, and then perhaps the beginning
of the next one. -/
theorem lines_of_prefix {cut t : Text} (h : cut <+: t) :
    lines cut <+: lines t ∨
      ∃ whole piece line, lines cut = whole ++ [piece] ∧ whole ++ [line] <+: lines t ∧
        piece <+: line := by
  obtain ⟨rest, rfl⟩ := h
  obtain ⟨whole, piece, rfl, hwhole, hpiece⟩ := exists_isEnded_append cut
  have hall : lines (whole ++ piece ++ rest) = lines whole ++ lines (piece ++ rest) := by
    rw [List.append_assoc, lines_append_of_isEnded hwhole]
  rw [hall, lines_append_of_isEnded hwhole]
  by_cases hne : piece = []
  · left
    rw [hne]
    exact (List.prefix_append_right_inj _).mpr List.nil_prefix
  · right
    obtain ⟨line, others, hlines, hbegins⟩ := lines_append_of_not_mem hne hpiece rest
    refine ⟨lines whole, piece, line, ?_, ?_, hbegins⟩
    · rw [lines_of_not_mem hne hpiece]
    · rw [hlines]
      exact (List.prefix_append_right_inj _).mpr ⟨others, rfl⟩

/-- Every line of a text that was cut off begins a line that the text had. -/
theorem exists_of_mem_lines_of_prefix {cut t line : Text} (h : cut <+: t)
    (hline : line ∈ lines cut) : ∃ l ∈ lines t, line <+: l := by
  rcases lines_of_prefix h with hlines | ⟨whole, piece, last, hlines, hwhole, hbegins⟩
  · exact ⟨line, hlines.subset hline, List.prefix_refl line⟩
  · rw [hlines] at hline
    rcases List.mem_append.mp hline with hline | hline
    · exact ⟨line, hwhole.subset (List.mem_append_left _ hline), List.prefix_refl line⟩
    · rw [List.mem_singleton.mp hline]
      exact ⟨last, hwhole.subset (List.mem_append_right _ List.mem_cons_self), hbegins⟩

theorem length_lines_le_of_prefix {cut t : Text} (h : cut <+: t) :
    (lines cut).length ≤ (lines t).length := by
  rcases lines_of_prefix h with hlines | ⟨whole, piece, line, hlines, hwhole, -⟩
  · exact hlines.length_le
  · have hlength := hwhole.length_le
    rw [List.length_append, List.length_singleton] at hlength
    rw [hlines, List.length_append, List.length_singleton]
    exact hlength

/-- A line end behind a text makes a line of its own, or it ends the last line of the text. -/
theorem mem_lines_append {t tail line : Text} (hfeed : '\n' ∉ tail)
    (h : line ∈ lines (t ++ (tail ++ ['\n']))) :
    line ∈ lines t ∨
      ∃ piece, line = piece ++ (tail ++ ['\n']) ∧ (piece = [] ∨ piece ∈ lines t) := by
  obtain ⟨whole, piece, rfl, hwhole, hpiece⟩ := exists_isEnded_append t
  have hlast : '\n' ∉ piece ++ tail := by
    rw [List.mem_append, not_or]
    exact ⟨hpiece, hfeed⟩
  have hshape : whole ++ piece ++ (tail ++ ['\n']) = whole ++ (piece ++ tail ++ '\n' :: []) := by
    simp
  rw [hshape, lines_append_of_isEnded hwhole, lines_append hlast, List.mem_append] at h
  rw [lines_append_of_isEnded hwhole]
  rcases h with h | h
  · exact .inl (List.mem_append_left _ h)
  · refine .inr ⟨piece, ?_, ?_⟩
    · rw [List.mem_singleton.mp h, List.append_assoc]
    · by_cases hne : piece = []
      · exact .inl hne
      · right
        rw [lines_of_not_mem hne hpiece]
        exact List.mem_append_right _ (List.mem_singleton_self piece)

end HttpExchange.Text
