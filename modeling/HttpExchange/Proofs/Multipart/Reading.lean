import HttpExchange.Multipart
import HttpExchange.Proofs.Text.Lines

/-!
# Reading the lines of parts

To the reader a line is a delimiter, the terminator, or neither, and that shows
in what is left of it without the blanks at its end. A delimiter settles the part
before it, and so does the terminator; nothing else changes what has been found.

## Main definitions

* `delimiter`, `terminator` — what stands on the lines between parts.
* `IsInner` — lines that are neither.
* `read` — what a text does, line by line.
* `settled` — what has been found once the part that is being read is complete.

## Main results

* `read_append` — ended lines are read before what follows them.
* `step_delimiter`, `step_terminator` — the lines that settle a part.
* `snd_step_cases` — a line settles a part or changes nothing.
* `snd_read_of_inner` — lines within a part change nothing.
* `fields_of_not_mem` — a text of a single line has no parts.
-/

namespace HttpExchange.Multipart

/-- What stands on the line before a part. -/
def delimiter (boundary : Text) : Text := "--".toList ++ boundary

/-- What stands on the line after the last part. -/
def terminator (boundary : Text) : Text := delimiter boundary ++ "--".toList

/-- What a boundary looks like: it fits on a line, and no blank ends it. -/
structure IsBoundary (boundary : Text) : Prop where
  lineFeed : '\n' ∉ boundary
  last : ∀ c ∈ boundary.getLast?, Text.isBlank c = false

/-- Lines that neither end a part nor begin one, whatever blanks are at their ends. -/
structure IsInner (boundary line : Text) : Prop where
  ne_delimiter : Text.trimEnd line ≠ delimiter boundary
  ne_terminator : Text.trimEnd line ≠ terminator boundary

instance (boundary line : Text) : Decidable (IsInner boundary line) :=
  decidable_of_iff
    (Text.trimEnd line ≠ delimiter boundary ∧ Text.trimEnd line ≠ terminator boundary)
    ⟨fun h => ⟨h.1, h.2⟩, fun h => ⟨h.1, h.2⟩⟩

variable {b : Text}

/-! ## Single lines -/

theorem delimiter_ne_nil (b : Text) : delimiter b ≠ [] := List.cons_ne_nil _ _

theorem delimiter_ne_terminator (b : Text) : delimiter b ≠ terminator b := by
  intro heq
  have hlength := congrArg List.length heq
  rw [terminator, List.length_append] at hlength
  exact absurd hlength (Nat.ne_of_lt (Nat.lt_add_of_pos_right (by decide)))

theorem IsBoundary.isBlank_getLast_delimiter (h : IsBoundary b) :
    ∀ c ∈ (delimiter b).getLast?, Text.isBlank c = false := by
  intro c hc
  rw [delimiter, List.getLast?_append] at hc
  cases hlast : b.getLast? with
  | none =>
      rw [hlast] at hc
      obtain rfl : '-' = c := Option.some.inj hc
      decide
  | some d =>
      rw [hlast] at hc
      obtain rfl : d = c := Option.some.inj hc
      exact h.last d hlast

/-- A line that does not begin as a delimiter does is neither a delimiter nor the terminator. -/
theorem isInner_of_not_prefix {line : Text} (h : ¬ delimiter b <+: line) : IsInner b line := by
  have hbegins : Text.trimEnd line <+: line := Text.dropEndWhile_prefix Text.isBlank line
  constructor
  · intro heq
    rw [heq] at hbegins
    exact h hbegins
  · intro heq
    rw [heq] at hbegins
    exact h ((List.prefix_append _ _).trans hbegins)

/-- The line break at the end of a line does not count among the blanks there. -/
theorem trimEnd_bare (line : Text) : Text.trimEnd (bare line) = Text.trimEnd line := by
  obtain ⟨tail, heq, htail⟩ := Text.exists_dropEndWhile (fun c => c == '\r' || c == '\n') line
  have hblank : ∀ c ∈ tail, Text.isBlank c = true := by
    intro c hc
    have hbreak := htail c hc
    rw [Bool.or_eq_true, beq_iff_eq, beq_iff_eq] at hbreak
    rcases hbreak with rfl | rfl <;> decide
  have htrim := Text.trimEnd_append_of_blank (bare line) hblank
  change line = bare line ++ tail at heq
  rw [← heq] at htrim
  exact htrim.symm

theorem ofText_eq (b line : Text) :
    Line.ofText b line =
      if Text.trimEnd line = terminator b then .terminator
      else if Text.trimEnd line = delimiter b then .delimiter
      else if (bare line).isEmpty then .empty
      else .other (bare line) := by
  rw [← trimEnd_bare]
  rfl

theorem ofText_of_delimiter {line : Text} (h : Text.trimEnd line = delimiter b) :
    Line.ofText b line = .delimiter := by
  rw [ofText_eq, h, if_neg (delimiter_ne_terminator b), if_pos rfl]

theorem ofText_of_terminator {line : Text} (h : Text.trimEnd line = terminator b) :
    Line.ofText b line = .terminator := by
  rw [ofText_eq, if_pos h]

theorem IsInner.ofText {line : Text} (h : IsInner b line) :
    Line.ofText b line = if (bare line).isEmpty then .empty else .other (bare line) := by
  rw [ofText_eq, if_neg h.ne_terminator, if_neg h.ne_delimiter]

/-! ## Steps -/

/-- What has been found once the part that is being read is complete. -/
def settled : State × Assoc Text → Assoc Text
  | (.content name soFar, found) => store name soFar found
  | (_, found) => found

section Step

variable {s : State × Assoc Text} {line : Text}

theorem step_done (b : Text) (found : Assoc Text) (line : Text) :
    step b (.done, found) line = (.done, found) := rfl

theorem step_delimiter (hopen : s.1 ≠ .done) (h : Text.trimEnd line = delimiter b) :
    step b s line = (.headers none, settled s) := by
  obtain ⟨state, found⟩ := s
  cases state with
  | done => exact absurd rfl hopen
  | _ => simp only [step, ofText_of_delimiter h, settled]

theorem step_terminator (hopen : s.1 ≠ .done) (h : Text.trimEnd line = terminator b) :
    step b s line = (.done, settled s) := by
  obtain ⟨state, found⟩ := s
  cases state with
  | done => exact absurd rfl hopen
  | _ => simp only [step, ofText_of_terminator h, settled]

/-- **A line settles a part or changes nothing** of what has been found. -/
theorem snd_step_cases (b : Text) (s : State × Assoc Text) (line : Text) :
    (step b s line).2 = s.2 ∨ (step b s line).2 = settled s := by
  obtain ⟨state, found⟩ := s
  cases state <;> cases hline : Line.ofText b line <;> simp [step, settled, hline]

theorem IsInner.snd_step (h : IsInner b line) (s : State × Assoc Text) :
    (step b s line).2 = s.2 := by
  obtain ⟨state, found⟩ := s
  by_cases hbare : (bare line).isEmpty
  · cases state <;> simp [step, h.ofText, hbare]
  · cases state <;> simp [step, h.ofText, hbare]

theorem IsInner.step_before (h : IsInner b line) (found : Assoc Text) :
    step b (.before, found) line = (.before, found) := by
  by_cases hbare : (bare line).isEmpty <;> simp [step, h.ofText, hbare]

theorem IsInner.step_content (h : IsInner b line) (name : Option Text) (soFar : Text)
    (found : Assoc Text) :
    step b (.content name soFar, found) line = (.content name (soFar ++ line), found) := by
  by_cases hbare : (bare line).isEmpty <;> simp [step, h.ofText, hbare]

end Step

/-! ## Whole texts -/

/-- What the lines of a text do, one after the other. -/
def read (boundary : Text) (s : State × Assoc Text) (t : Text) : State × Assoc Text :=
  (Text.lines t).foldl (step boundary) s

theorem fields_eq (b body : Text) : fields b body = (read b (.before, []) body).2 := rfl

/-- **Ended lines are read before what follows them.** -/
theorem read_append {t : Text} (h : Text.IsEnded t) (s : State × Assoc Text) (rest : Text) :
    read b s (t ++ rest) = read b (read b s t) rest := by
  rw [read, Text.lines_append_of_isEnded h, List.foldl_append]
  rfl

theorem read_done (b : Text) (found : Assoc Text) (t : Text) :
    read b (.done, found) t = (.done, found) := by
  unfold read
  induction Text.lines t with
  | nil => rfl
  | cons line rest ih => rw [List.foldl_cons, step_done, ih]

/-- Before the first delimiter nothing is read. -/
theorem foldl_step_before {ls : List Text} (h : ∀ line ∈ ls, IsInner b line)
    (found : Assoc Text) : ls.foldl (step b) (.before, found) = (.before, found) := by
  induction ls with
  | nil => rfl
  | cons line ls ih =>
      obtain ⟨hline, hls⟩ := List.forall_mem_cons.mp h
      rw [List.foldl_cons, hline.step_before, ih hls]

/-- **Lines within a part change nothing** of what has been found. -/
theorem snd_read_of_inner {t : Text} (h : ∀ line ∈ Text.lines t, IsInner b line)
    (s : State × Assoc Text) : (read b s t).2 = s.2 := by
  have hfold : ∀ ls : List Text, (∀ line ∈ ls, IsInner b line) → ∀ s : State × Assoc Text,
      (ls.foldl (step b) s).2 = s.2 := by
    intro ls
    induction ls with
    | nil =>
        intro _ s
        rfl
    | cons line ls ih =>
        intro hls s
        obtain ⟨hline, hrest⟩ := List.forall_mem_cons.mp hls
        rw [List.foldl_cons, ih hrest, hline.snd_step]
  exact hfold _ h s

/-- **A text of a single line has no parts.** -/
theorem fields_of_not_mem {t : Text} (h : '\n' ∉ t) : fields b t = [] := by
  rw [fields_eq, read]
  by_cases hnil : t = []
  · rw [hnil]
    rfl
  · rw [Text.lines_of_not_mem hnil h, List.foldl_cons, List.foldl_nil]
    rcases snd_step_cases b (.before, []) t with hkept | hsettled
    · exact hkept
    · exact hsettled

/-- The lines of a content are kept as they are. -/
theorem read_content {t : Text} (h : ∀ line ∈ Text.lines t, IsInner b line) (name : Option Text)
    (soFar : Text) (found : Assoc Text) :
    read b (.content name soFar, found) t = (.content name (soFar ++ t), found) := by
  have hfold : ∀ ls : List Text, (∀ line ∈ ls, IsInner b line) → ∀ soFar,
      ls.foldl (step b) (.content name soFar, found) =
        (.content name (soFar ++ ls.flatten), found) := by
    intro ls
    induction ls with
    | nil =>
        intro _ soFar
        rw [List.flatten_nil, List.append_nil]
        rfl
    | cons line ls ih =>
        intro hls soFar
        obtain ⟨hline, hrest⟩ := List.forall_mem_cons.mp hls
        rw [List.foldl_cons, hline.step_content, ih hrest, List.flatten_cons, List.append_assoc]
  rw [read, hfold _ h, Text.flatten_lines]

end HttpExchange.Multipart
