import HttpExchange.Proofs.Request.Head
import HttpExchange.Proofs.Text.Lines

/-!
# The head of a request line by line

Where a head ends is looked for as a phrase, of two line feeds or of two line
breaks with carriage returns. Lines may end either way, and a line is empty if
there is nothing before its end. So the first empty line is not always found: one
that ends with a carriage return and a line feed is missed if the line before it
ends with a line feed only. This is the only way to miss it, and then some of the
payload is taken for head, if there is any.

## Main definitions

* `linesBeforeEmpty`, `afterHead` — the lines before the first empty one, the text after it.
* `IsSeparated` — when the first empty line is found.

## Main results

* `splitHead_line` — a line that ends no head is passed over.
* `splitHead_eq_afterHead_iff` — the payload is what follows the first empty line just when that
  is found.
* `readParts_eq_ok` — the parts of a request, line by line.
-/

namespace HttpExchange.Request

/-- Whether there is nothing on a line but the line break that ends it. -/
def isEmptyLine (line : Text) : Bool := (dropLineBreak line).isEmpty

/-- The lines before the first empty one. -/
def linesBeforeEmpty (t : Text) : List Text := (Text.lines t).takeWhile (!isEmptyLine ·)

/-- The first empty line and all lines after it. -/
def linesFromEmpty (t : Text) : List Text := (Text.lines t).dropWhile (!isEmptyLine ·)

/-- The text after the first empty line. -/
def afterHead (t : Text) : Text := (linesFromEmpty t).tail.flatten

/-- The first empty line is no carriage return and line feed behind a line that ends with a line
feed only, or nothing follows it. -/
def IsSeparated (t : Text) : Prop :=
  (linesFromEmpty t).head? = some lineBreak → afterHead t ≠ [] →
    ∀ line ∈ (linesBeforeEmpty t).getLast?, lineBreak <:+ line

instance (t : Text) : Decidable (IsSeparated t) := by
  unfold IsSeparated
  infer_instance

/-- The text of a line, where a field may stand. -/
def fieldText (line : Text) : Text := Text.dropEndWhile (· == '\r') (dropLineBreak line)

/-! ## Lines that are empty and lines that are not -/

section Lines

variable {a : Text} (ha : '\n' ∉ a)

include ha in
theorem isEmptyLine_of_not_mem (hne : a ≠ []) : isEmptyLine a = false := by
  rw [isEmptyLine, dropLineBreak_of_not_mem ha]
  exact List.isEmpty_eq_false_iff.mpr hne

theorem isEmptyLine_append_iff : isEmptyLine (a ++ ['\n']) = true ↔ a = [] ∨ a = ['\r'] := by
  have hreverse : (a ++ ['\n']).reverse = '\n' :: a.reverse := by simp
  rw [isEmptyLine, List.isEmpty_iff, dropLineBreak, hreverse]
  split
  · next rest heq =>
      have hshape : a = rest.reverse ++ ['\r'] := by
        rw [← List.reverse_cons, ← (List.cons.inj heq).2, List.reverse_reverse]
      rw [hshape]
      simp
  · next rest hother heq =>
      obtain rfl := (List.cons.inj heq).2
      have hne : a ≠ ['\r'] := fun h => hother [] (by rw [h]; rfl)
      rw [List.reverse_reverse]
      exact ⟨.inl, fun h => h.resolve_right hne⟩
  · next hother => exact absurd rfl (hother a.reverse)

include ha in
/-- What is done about carriage returns at the end of a line does not depend on whether one of them
belongs to the line break. -/
theorem fieldText_append : fieldText (a ++ ['\n']) = fieldText a := by
  have hreverse : (a ++ ['\n']).reverse = '\n' :: a.reverse := by simp
  rw [fieldText, fieldText, dropLineBreak_of_not_mem ha, dropLineBreak, hreverse]
  split
  · next rest heq =>
      have hshape : a = rest.reverse ++ ['\r'] := by
        rw [← List.reverse_cons, ← (List.cons.inj heq).2, List.reverse_reverse]
      rw [hshape, Text.dropEndWhile_append_of_forall]
      simp
  · next rest _ heq =>
      rw [← (List.cons.inj heq).2, List.reverse_reverse]
  · next hother => exact absurd rfl (hother a.reverse)

theorem fieldText_carriageReturn (b : Text) (hb : '\n' ∉ b) :
    fieldText (b ++ ['\r']) = fieldText b := by
  have hplain : '\n' ∉ b ++ ['\r'] := by simp [hb]
  rw [fieldText, fieldText, dropLineBreak_of_not_mem hb, dropLineBreak_of_not_mem hplain,
    Text.dropEndWhile_append_of_forall]
  simp

include ha in
theorem linesBeforeEmpty_append (hline : isEmptyLine (a ++ ['\n']) = false) (rest : Text) :
    linesBeforeEmpty (a ++ '\n' :: rest) = (a ++ ['\n']) :: linesBeforeEmpty rest := by
  rw [linesBeforeEmpty, Text.lines_append ha, List.takeWhile_cons_of_pos (by rw [hline]; rfl),
    linesBeforeEmpty]

include ha in
theorem linesFromEmpty_append (hline : isEmptyLine (a ++ ['\n']) = false) (rest : Text) :
    linesFromEmpty (a ++ '\n' :: rest) = linesFromEmpty rest := by
  rw [linesFromEmpty, Text.lines_append ha, List.dropWhile_cons_of_pos (by rw [hline]; rfl),
    linesFromEmpty]

include ha in
theorem linesBeforeEmpty_of_isEmptyLine (hline : isEmptyLine (a ++ ['\n']) = true) (rest : Text) :
    linesBeforeEmpty (a ++ '\n' :: rest) = [] := by
  rw [linesBeforeEmpty, Text.lines_append ha, List.takeWhile_cons_of_neg (by rw [hline]; decide)]

include ha in
theorem linesFromEmpty_of_isEmptyLine (hline : isEmptyLine (a ++ ['\n']) = true) (rest : Text) :
    linesFromEmpty (a ++ '\n' :: rest) = (a ++ ['\n']) :: Text.lines rest := by
  rw [linesFromEmpty, Text.lines_append ha, List.dropWhile_cons_of_neg (by rw [hline]; decide)]

include ha in
theorem afterHead_of_isEmptyLine (hline : isEmptyLine (a ++ ['\n']) = true) (rest : Text) :
    afterHead (a ++ '\n' :: rest) = rest := by
  rw [afterHead, linesFromEmpty_of_isEmptyLine ha hline, List.tail_cons, Text.flatten_lines]

end Lines

/-- A text that does not begin with an empty line, taken apart up to its first empty line. -/
inductive HasHead : Text → Prop
  /-- A line that is not ended, or nothing. -/
  | last {a : Text} : '\n' ∉ a → HasHead a
  /-- A line before a line feed. -/
  | lineFeed {a : Text} (rest : Text) : '\n' ∉ a → isEmptyLine (a ++ ['\n']) = false →
      HasHead (a ++ '\n' :: '\n' :: rest)
  /-- A line before a carriage return and a line feed. -/
  | lineBreak {a : Text} (rest : Text) : '\n' ∉ a → isEmptyLine (a ++ ['\n']) = false →
      HasHead (a ++ '\n' :: '\r' :: '\n' :: rest)
  /-- A line before another one. -/
  | line {a rest : Text} : '\n' ∉ a → isEmptyLine (a ++ ['\n']) = false → HasHead rest →
      HasHead (a ++ '\n' :: rest)

theorem HasHead.first {t : Text} (h : HasHead t) :
    ∀ line ∈ (Text.lines t).head?, isEmptyLine line = false := by
  have hended : ∀ {a : Text}, '\n' ∉ a → isEmptyLine (a ++ ['\n']) = false → ∀ rest,
      ∀ line ∈ (Text.lines (a ++ '\n' :: rest)).head?, isEmptyLine line = false := by
    intro a ha hline rest line hmem
    rw [Text.lines_append ha] at hmem
    exact Option.some.inj hmem ▸ hline
  cases h with
  | last ha =>
      intro line hmem
      by_cases hne : t = []
      · rw [hne] at hmem
        cases hmem
      · rw [Text.lines_of_not_mem hne ha] at hmem
        exact Option.some.inj hmem ▸ isEmptyLine_of_not_mem ha hne
  | lineFeed rest ha hline => exact hended ha hline _
  | lineBreak rest ha hline => exact hended ha hline _
  | line ha hline _ => exact hended ha hline _

/-- What is taken apart does not begin with an empty line. -/
theorem HasHead.ne_append {t : Text} (h : HasHead t) {a : Text} (ha : '\n' ∉ a)
    (hline : isEmptyLine (a ++ ['\n']) = true) (rest : Text) : t ≠ a ++ '\n' :: rest := by
  rintro rfl
  have hfirst := h.first (a ++ ['\n']) (by rw [Text.lines_append ha]; rfl)
  rw [hline] at hfirst
  cases hfirst

/-- There is a line before the first empty one, unless there is no text. -/
theorem HasHead.exists_linesBeforeEmpty {t : Text} (h : HasHead t) (hne : t ≠ []) :
    ∃ first others, linesBeforeEmpty t = first :: others := by
  obtain ⟨first, others, hlines⟩ := List.exists_cons_of_ne_nil (Text.lines_ne_nil hne)
  have hfirst : isEmptyLine first = false := h.first first (by rw [hlines]; rfl)
  exact ⟨first, others.takeWhile (!isEmptyLine ·), by
    rw [linesBeforeEmpty, hlines, List.takeWhile_cons_of_pos (by rw [hfirst]; rfl)]⟩

theorem hasHead_of_first {t : Text} (h : ∀ line ∈ (Text.lines t).head?, isEmptyLine line = false) :
    HasHead t := by
  -- on the length: the lines behind the first one are fewer
  induction hn : t.length using Nat.strongRecOn generalizing t with
  | ind n ih =>
      cases hsplit : Text.splitFirst '\n' t with
      | none => exact .last (Text.splitFirst_eq_none_iff.mp hsplit)
      | some parts =>
          obtain ⟨a, rest⟩ := parts
          have ha := Text.not_mem_of_splitFirst hsplit
          obtain rfl := Text.eq_of_splitFirst hsplit
          have hline : isEmptyLine (a ++ ['\n']) = false :=
            h (a ++ ['\n']) (by rw [Text.lines_append ha]; rfl)
          by_cases hfirst : ∀ line ∈ (Text.lines rest).head?, isEmptyLine line = false
          · have hlength : rest.length < n := by
              rw [← hn, List.length_append, List.length_cons]
              omega
            exact .line ha hline (ih rest.length hlength hfirst rfl)
          · -- the second line is empty, so it is one of two
            simp only [Classical.not_forall] at hfirst
            obtain ⟨line, hmem, hempty⟩ := hfirst
            rw [Bool.not_eq_false] at hempty
            cases hsplit' : Text.splitFirst '\n' rest with
            | none =>
                have hnext : HasHead rest := .last (Text.splitFirst_eq_none_iff.mp hsplit')
                rw [hnext.first line hmem] at hempty
                cases hempty
            | some parts =>
                obtain ⟨b, rest'⟩ := parts
                have hb := Text.not_mem_of_splitFirst hsplit'
                obtain rfl := Text.eq_of_splitFirst hsplit'
                rw [Text.lines_append hb] at hmem
                obtain rfl : b ++ ['\n'] = line := Option.some.inj hmem
                rcases isEmptyLine_append_iff.mp hempty with rfl | rfl
                · exact .lineFeed rest' ha hline
                · exact .lineBreak rest' ha hline

/-! ## Where the head ends -/

theorem splitHead_of_not_mem {a : Text} (ha : '\n' ∉ a) : splitHead a = (a, []) := by
  induction a with
  | nil => rfl
  | cons c a ih =>
      rw [List.mem_cons, not_or] at ha
      rw [splitHead_cons, ih ha.2]
      · intro t heq
        exact ha.2 (by rw [(List.cons.inj heq).2]; simp)
      · exact fun t heq => ha.1 (List.cons.inj heq).1.symm

theorem splitHead_lineFeed {a : Text} (ha : '\n' ∉ a) (rest : Text) :
    splitHead (a ++ '\n' :: '\n' :: rest) = (a, rest) := by
  induction a with
  | nil => rfl
  | cons c a ih =>
      rw [List.mem_cons, not_or] at ha
      rw [List.cons_append, splitHead_cons, ih ha.2]
      · intro t heq
        -- a line break would begin before the line feeds, but there is only one line feed in it
        cases a with
        | nil => cases (List.cons.inj heq).2
        | cons d a => exact ha.2 (by rw [(List.cons.inj (List.cons.inj heq).2).1]; simp)
      · exact fun t heq => ha.1 (List.cons.inj heq).1.symm

/-- **A line that ends no head is passed over.** -/
theorem splitHead_line {a : Text} (ha : '\n' ∉ a) {rest : Text}
    (hfeed : ∀ t, rest ≠ '\n' :: t)
    (hbreak : ∀ t, rest = '\r' :: '\n' :: t → ¬ ['\r'] <:+ a) :
    splitHead (a ++ '\n' :: rest) = (a ++ '\n' :: (splitHead rest).1, (splitHead rest).2) := by
  induction a with
  | nil =>
      rw [List.nil_append, splitHead_cons]
      · rfl
      · exact fun t heq => by cases heq
      · exact fun t heq => hfeed t (List.cons.inj heq).2
  | cons c a ih =>
      rw [List.mem_cons, not_or] at ha
      have hrest : ∀ t, rest = '\r' :: '\n' :: t → ¬ ['\r'] <:+ a := fun t heq hends =>
        hbreak t heq (hends.trans (List.suffix_cons c a))
      rw [List.cons_append, splitHead_cons, ih ha.2 hrest]
      · rfl
      · intro t heq
        obtain ⟨rfl, htail⟩ := List.cons.inj heq
        cases a with
        | nil => exact hbreak t (List.cons.inj htail).2 (List.suffix_refl _)
        | cons d a => exact ha.2 (by rw [(List.cons.inj htail).1]; simp)
      · exact fun t heq => ha.1 (List.cons.inj heq).1.symm

/-- A line that ends with a carriage return and a line feed, before an empty one that does too. -/
theorem splitHead_lineBreak_lineBreak {b : Text} (hb : '\n' ∉ b) (rest : Text) :
    splitHead (b ++ ['\r'] ++ '\n' :: '\r' :: '\n' :: rest) = (b, rest) := by
  have hshape : b ++ ['\r'] ++ '\n' :: '\r' :: '\n' :: rest =
      b ++ '\r' :: ('\n' :: '\r' :: '\n' :: rest) := by simp
  rw [hshape, splitHead_append hb, splitHead, List.append_nil]

theorem length_splitHead_lt {t : Text} (hne : t ≠ []) : (splitHead t).2.length < t.length := by
  induction t using splitHead.induct with
  | case1 => exact absurd rfl hne
  | case2 rest =>
      rw [splitHead]
      simp only [List.length_cons]
      omega
  | case3 rest =>
      rw [splitHead]
      simp only [List.length_cons]
      omega
  | case4 c rest hbreak hfeed _ _ _ ih =>
      rw [splitHead_cons (fun t heq => hbreak t (List.cons.inj heq).1 (List.cons.inj heq).2)
        (fun t heq => hfeed t (List.cons.inj heq).1 (List.cons.inj heq).2), List.length_cons]
      by_cases hrest : rest = []
      · rw [hrest]
        exact Nat.zero_lt_one
      · exact Nat.lt_succ_of_lt (ih hrest)

/-- Behind a line break some of the text is taken for head, if there is any. -/
theorem length_splitHead_lineBreak_lt {rest : Text} (hne : rest ≠ []) :
    (splitHead ('\r' :: '\n' :: rest)).2.length < rest.length := by
  by_cases hbreak : ∃ t, rest = '\r' :: '\n' :: t
  · obtain ⟨t, rfl⟩ := hbreak
    rw [splitHead]
    simp only [List.length_cons]
    omega
  rw [splitHead_cons]
  · by_cases hfeed : ∃ t, rest = '\n' :: t
    · obtain ⟨t, rfl⟩ := hfeed
      rw [splitHead]
      exact Nat.lt_succ_self t.length
    · rw [splitHead_cons]
      · exact length_splitHead_lt hne
      · exact fun t heq => by cases heq
      · exact fun t heq => hfeed ⟨t, (List.cons.inj heq).2⟩
  · exact fun t heq => hbreak ⟨t, (List.cons.inj (List.cons.inj heq).2).2⟩
  · exact fun t heq => by cases heq

/-! ## When the first empty line is found -/

section Separated

variable {a : Text} (ha : '\n' ∉ a)

include ha in
theorem afterHead_append (hline : isEmptyLine (a ++ ['\n']) = false) (rest : Text) :
    afterHead (a ++ '\n' :: rest) = afterHead rest := by
  rw [afterHead, linesFromEmpty_append ha hline, afterHead]

include ha in
theorem linesFromEmpty_of_not_mem : linesFromEmpty a = [] := by
  by_cases hne : a = []
  · rw [hne]
    rfl
  · rw [linesFromEmpty, Text.lines_of_not_mem hne ha,
      List.dropWhile_cons_of_pos (by rw [isEmptyLine_of_not_mem ha hne]; rfl), List.dropWhile_nil]

include ha in
theorem linesBeforeEmpty_of_not_mem : linesBeforeEmpty a = Text.lines a := by
  have hall := List.takeWhile_append_dropWhile (p := (!isEmptyLine ·)) (l := Text.lines a)
  change linesBeforeEmpty a ++ linesFromEmpty a = _ at hall
  rwa [linesFromEmpty_of_not_mem ha, List.append_nil] at hall

include ha in
theorem isSeparated_of_not_mem : IsSeparated a := by
  intro hfirst
  rw [linesFromEmpty_of_not_mem ha] at hfirst
  cases hfirst

include ha in
theorem isSeparated_lineFeed (hline : isEmptyLine (a ++ ['\n']) = false) (rest : Text) :
    IsSeparated (a ++ '\n' :: '\n' :: rest) := by
  intro hfirst
  have hempty : linesFromEmpty ('\n' :: rest) = ['\n'] :: Text.lines rest :=
    linesFromEmpty_of_isEmptyLine (a := []) List.not_mem_nil rfl rest
  rw [linesFromEmpty_append ha hline, hempty] at hfirst
  cases hfirst

include ha in
theorem isSeparated_lineBreak_iff (hline : isEmptyLine (a ++ ['\n']) = false) (rest : Text) :
    IsSeparated (a ++ '\n' :: '\r' :: '\n' :: rest) ↔ (rest ≠ [] → ['\r'] <:+ a) := by
  have hplain : '\n' ∉ ['\r'] := by decide
  have hbreak : isEmptyLine (['\r'] ++ ['\n']) = true := rfl
  have hempty : linesFromEmpty ('\r' :: '\n' :: rest) = lineBreak :: Text.lines rest :=
    linesFromEmpty_of_isEmptyLine hplain hbreak rest
  have hafter : afterHead ('\r' :: '\n' :: rest) = rest :=
    afterHead_of_isEmptyLine hplain hbreak rest
  have hhead : linesBeforeEmpty ('\r' :: '\n' :: rest) = [] :=
    linesBeforeEmpty_of_isEmptyLine hplain hbreak rest
  have hends : ['\r'] ++ ['\n'] <:+ a ++ ['\n'] ↔ ['\r'] <:+ a := List.suffix_append_self_iff
  rw [IsSeparated, linesFromEmpty_append ha hline, hempty, afterHead_append ha hline, hafter,
    linesBeforeEmpty_append ha hline, hhead, ← hends]
  constructor
  · exact fun h hne => h rfl hne _ rfl
  · exact fun h _ hne line hmem => Option.some.inj hmem ▸ h hne

include ha in
theorem isSeparated_append_iff (hline : isEmptyLine (a ++ ['\n']) = false) {rest : Text}
    (hrest : HasHead rest) : IsSeparated (a ++ '\n' :: rest) ↔ IsSeparated rest := by
  rw [IsSeparated, IsSeparated, linesFromEmpty_append ha hline, afterHead_append ha hline,
    linesBeforeEmpty_append ha hline]
  cases hlines : Text.lines rest with
  | nil =>
      have hnone : (linesFromEmpty rest).head? ≠ some lineBreak := by
        rw [linesFromEmpty, hlines]
        exact fun h => nomatch h
      exact ⟨fun _ hfirst => absurd hfirst hnone, fun _ hfirst => absurd hfirst hnone⟩
  | cons first others =>
      have hfirst : isEmptyLine first = false := hrest.first first (by rw [hlines]; rfl)
      have hhead : linesBeforeEmpty rest = first :: others.takeWhile (!isEmptyLine ·) := by
        rw [linesBeforeEmpty, hlines, List.takeWhile_cons_of_pos (by rw [hfirst]; rfl)]
      rw [hhead, List.getLast?_cons_cons]

end Separated

/-- **Where the first empty line is found**, the payload is the text after it, and the head has the
lines before it, apart from carriage returns at their ends and from nothing behind them. -/
theorem HasHead.splitHead_of_isSeparated {t : Text} (h : HasHead t) (hsep : IsSeparated t) :
    (splitHead t).2 = afterHead t ∧ ∃ pad : List Text, (∀ text ∈ pad, text = []) ∧
      (Text.lines (splitHead t).1).map fieldText = (linesBeforeEmpty t).map fieldText ++ pad := by
  induction h with
  | @last a ha =>
      rw [splitHead_of_not_mem ha, afterHead, linesFromEmpty_of_not_mem ha,
        linesBeforeEmpty_of_not_mem ha]
      exact ⟨rfl, [], List.forall_mem_nil _, (List.append_nil _).symm⟩
  | @lineFeed a rest ha hline =>
      have hne : a ≠ [] := fun hnil => by simp [hnil, isEmptyLine, dropLineBreak] at hline
      have hempty : isEmptyLine ([] ++ ['\n']) = true := rfl
      have hafter : afterHead ('\n' :: rest) = rest :=
        afterHead_of_isEmptyLine List.not_mem_nil hempty rest
      have hhead : linesBeforeEmpty ('\n' :: rest) = [] :=
        linesBeforeEmpty_of_isEmptyLine List.not_mem_nil hempty rest
      rw [splitHead_lineFeed ha, afterHead_append ha hline, hafter,
        linesBeforeEmpty_append ha hline, hhead, Text.lines_of_not_mem hne ha]
      refine ⟨rfl, [], List.forall_mem_nil _, ?_⟩
      rw [List.map_singleton, List.map_singleton, fieldText_append ha, List.append_nil]
  | @lineBreak a rest ha hline =>
      have hplain : '\n' ∉ ['\r'] := by decide
      have hempty : isEmptyLine (['\r'] ++ ['\n']) = true := rfl
      have hafter : afterHead ('\r' :: '\n' :: rest) = rest :=
        afterHead_of_isEmptyLine hplain hempty rest
      have hhead : linesBeforeEmpty ('\r' :: '\n' :: rest) = [] :=
        linesBeforeEmpty_of_isEmptyLine hplain hempty rest
      rw [afterHead_append ha hline, hafter, linesBeforeEmpty_append ha hline, hhead]
      by_cases hends : ['\r'] <:+ a
      · obtain ⟨b, rfl⟩ := hends
        have hb : '\n' ∉ b := fun hmem => ha (List.mem_append_left _ hmem)
        have hne : b ≠ [] := fun hnil => by simp [hnil, isEmptyLine, dropLineBreak] at hline
        rw [splitHead_lineBreak_lineBreak hb, Text.lines_of_not_mem hne hb]
        refine ⟨rfl, [], List.forall_mem_nil _, ?_⟩
        rw [List.map_singleton, List.map_singleton, fieldText_append ha,
          fieldText_carriageReturn b hb, List.append_nil]
      · -- nothing follows the empty line, so taking it for head does no harm
        obtain rfl : rest = [] := Classical.byContradiction fun hne =>
          hends ((isSeparated_lineBreak_iff ha hline rest).mp hsep hne)
        rw [splitHead_line ha (fun t heq => by cases heq) (fun _ _ => hends), Text.lines_append ha]
        exact ⟨rfl, [[]], fun text hmem => List.mem_singleton.mp hmem, rfl⟩
  | @line a rest ha hline hrest ih =>
      obtain ⟨hbody, pad, hpad, hlines⟩ := ih ((isSeparated_append_iff ha hline hrest).mp hsep)
      have hfeed : ∀ t, rest ≠ '\n' :: t := hrest.ne_append List.not_mem_nil rfl
      have hbreak : ∀ t, rest = '\r' :: '\n' :: t → ¬ ['\r'] <:+ a := fun t heq =>
        absurd heq (hrest.ne_append (a := ['\r']) (by decide) rfl t)
      rw [splitHead_line ha hfeed hbreak, afterHead_append ha hline,
        linesBeforeEmpty_append ha hline, Text.lines_append ha, List.map_cons, List.map_cons,
        hlines]
      exact ⟨hbody, pad, hpad, rfl⟩

/-- **Where it is not found**, some of the payload is taken for head. -/
theorem HasHead.length_splitHead_lt {t : Text} (h : HasHead t) (hsep : ¬ IsSeparated t) :
    (splitHead t).2.length < (afterHead t).length := by
  induction h with
  | last ha => exact absurd (isSeparated_of_not_mem ha) hsep
  | lineFeed rest ha hline => exact absurd (isSeparated_lineFeed ha hline rest) hsep
  | @lineBreak a rest ha hline =>
      rw [isSeparated_lineBreak_iff ha hline, Classical.not_imp] at hsep
      have hafter : afterHead ('\r' :: '\n' :: rest) = rest :=
        afterHead_of_isEmptyLine (a := ['\r']) (by decide) rfl rest
      rw [splitHead_line ha (fun t heq => by cases heq) (fun _ _ => hsep.2),
        afterHead_append ha hline, hafter]
      exact length_splitHead_lineBreak_lt hsep.1
  | @line a rest ha hline hrest ih =>
      have hfeed : ∀ t, rest ≠ '\n' :: t := hrest.ne_append List.not_mem_nil rfl
      have hbreak : ∀ t, rest = '\r' :: '\n' :: t → ¬ ['\r'] <:+ a := fun t heq =>
        absurd heq (hrest.ne_append (a := ['\r']) (by decide) rfl t)
      rw [splitHead_line ha hfeed hbreak, afterHead_append ha hline]
      exact ih fun hrest' => hsep ((isSeparated_append_iff ha hline hrest).mpr hrest')

/-- **The payload is what follows the first empty line just when that is found.** -/
theorem HasHead.splitHead_eq_afterHead_iff {t : Text} (h : HasHead t) :
    (splitHead t).2 = afterHead t ↔ IsSeparated t := by
  constructor
  · intro hbody
    refine Classical.byContradiction fun hsep => ?_
    have hlength := h.length_splitHead_lt hsep
    rw [hbody] at hlength
    exact Nat.lt_irrefl _ hlength
  · exact fun hsep => (h.splitHead_of_isSeparated hsep).1

/-! ## Requests -/

/-- A text without the line breaks that it begins with. -/
def afterBreaks (t : Text) : Text := t.dropWhile fun c => c == '\r' || c == '\n'

theorem hasHead_afterBreaks (t : Text) : HasHead (afterBreaks t) := by
  have hfirst : ∀ c ∈ (afterBreaks t).head?, (c == '\r' || c == '\n') = false := fun c hc =>
    Text.head?_dropWhile hc
  cases hsplit : Text.splitFirst '\n' (afterBreaks t) with
  | none => exact .last (Text.splitFirst_eq_none_iff.mp hsplit)
  | some parts =>
      obtain ⟨a, rest⟩ := parts
      have ha := Text.not_mem_of_splitFirst hsplit
      have hshape := Text.eq_of_splitFirst hsplit
      rw [hshape] at hfirst ⊢
      refine hasHead_of_first fun line hmem => ?_
      rw [Text.lines_append ha] at hmem
      obtain rfl : a ++ ['\n'] = line := Option.some.inj hmem
      refine Bool.eq_false_iff.mpr fun hempty => ?_
      rcases isEmptyLine_append_iff.mp hempty with rfl | rfl
      · cases hfirst '\n' rfl
      · cases hfirst '\r' rfl

theorem trim_fieldText (line : Text) :
    Text.trim (fieldText line) = Text.trim (dropLineBreak line) := by
  obtain ⟨tail, heq, htail⟩ := Text.exists_dropEndWhile (· == '\r') (dropLineBreak line)
  have hblank : ∀ c ∈ tail, Text.isBlank c = true := by
    intro c hc
    rw [beq_iff_eq.mp (htail c hc)]
    rfl
  have htrim := Text.trim_append_of_blank (fieldText line) hblank
  rw [fieldText, ← heq] at htrim
  exact htrim.symm

/-- Fields are read off the texts of lines, and empty texts do not count. -/
theorem readFields_congr {lines lines' pad : List Text} (hpad : ∀ text ∈ pad, text = [])
    (h : lines.map fieldText = lines'.map fieldText ++ pad) :
    readFields (lines.map dropLineBreak) = readFields (lines'.map dropLineBreak) := by
  have htexts : ∀ ls : List Text, (ls.map dropLineBreak).map (Text.dropEndWhile (· == '\r')) =
      ls.map fieldText := fun ls => List.map_map
  have hkept : pad.filter (!·.isEmpty) = [] := by
    rw [List.filter_eq_nil_iff]
    intro text hmem
    rw [hpad text hmem]
    decide
  unfold readFields
  dsimp only
  rw [htexts, htexts, h, List.filter_append, hkept, List.append_nil]

/-- The parts of a text, line by line: the first line, the fields on the lines before the first
empty one, and the text after that, as far as the announced length goes. -/
structure PartsByLine (t : Text) (parts : Parts) : Prop where
  headline :
    parts.headline = Text.trim (dropLineBreak ((linesBeforeEmpty (afterBreaks t)).headD []))
  headers :
    readFields ((linesBeforeEmpty (afterBreaks t)).tail.map dropLineBreak) = .ok parts.headers
  body : parts.body = cutBody parts.headers (afterHead (afterBreaks t))

theorem partsByLine_of_readParts {limit : Nat} {t : Text} {parts : Parts}
    (h : readParts limit t = .ok parts) (hsep : IsSeparated (afterBreaks t)) :
    PartsByLine t parts := by
  have hhead := hasHead_afterBreaks t
  obtain ⟨hbody, pad, hpad, hlines⟩ := hhead.splitHead_of_isSeparated hsep
  unfold readParts at h
  dsimp only at h
  split at h
  · cases h
  next hblank =>
    have hne : afterBreaks t ≠ [] := by
      intro hnil
      change ¬ (Text.trim (afterBreaks t)).isEmpty = true at hblank
      rw [hnil] at hblank
      exact hblank rfl
    obtain ⟨first, others, hbefore⟩ := hhead.exists_linesBeforeEmpty hne
    change (readFields ((Text.lines (splitHead (afterBreaks t)).1).map dropLineBreak).tail >>= _) =
      Except.ok parts at h
    obtain ⟨hs, hfields, hrest⟩ := bind_eq_ok_iff.mp h
    split at hrest
    · cases hrest
    obtain rfl := Except.ok.inj hrest
    rw [hbefore, List.map_cons, List.cons_append] at hlines
    obtain ⟨line, lines, hshape, hline, htail⟩ := List.map_eq_cons_iff.mp hlines
    rw [hshape, List.map_cons, List.tail_cons, readFields_congr hpad htail] at hfields
    refine ⟨?_, ?_, congrArg (cutBody hs) hbody⟩
    · change Text.trim (((Text.lines (splitHead (afterBreaks t)).1).map dropLineBreak).headD []) = _
      rw [hshape, hbefore, List.map_cons, List.headD_cons, List.headD_cons, ← trim_fieldText, hline,
        trim_fieldText]
    · rw [hbefore]
      exact hfields

/-- Whether a message is what a text says line by line. -/
def IsReadByLine (t : Text) (config : HttpConfig) (m : Message) : Prop :=
  ∃ parts, PartsByLine t parts ∧ m = create parts.headline parts.headers (.raw parts.body) config

/-- **The head of a request ends at its first empty line.** A text that is read as a request has its
first line, its fields and its payload where its lines say, whichever way each of them ends, if the
first empty line is not a carriage return and a line feed that come behind a single line feed. -/
theorem isReadByLine_of_read {t : Text} {config : HttpConfig} {m : Message}
    (h : read t config = .ok m) (hsep : IsSeparated (afterBreaks t)) : IsReadByLine t config m := by
  obtain ⟨parts, hparts, hcreate⟩ := bind_eq_ok_iff.mp h
  exact ⟨parts, partsByLine_of_readParts hparts hsep, (Except.ok.inj hcreate).symm⟩

/-- A request whose lines end in both ways. -/
def mixedRequest : Text := "POST / HTTP/1.1\r\nHost: a\n\nX-Admin: 1\r\n\r\n".toList

/-- Its parts. -/
def mixedParts : Parts :=
  ⟨"POST / HTTP/1.1".toList, Headers.ofPairs [("Host", "a")], "X-Admin: 1\r\n\r\n".toList⟩

theorem mixedRequest_isReadByLine :
    IsSeparated (afterBreaks mixedRequest) ∧ ∃ m, read mixedRequest {} = .ok m ∧
      IsReadByLine mixedRequest {} m :=
  have hsep : IsSeparated (afterBreaks mixedRequest) := by decide
  have hread : read mixedRequest {} = .ok
      (create mixedParts.headline mixedParts.headers (.raw mixedParts.body) {}) := by rfl
  ⟨hsep, _, hread, isReadByLine_of_read hread hsep⟩

/-- The same request, but the line feed that ends the head has a carriage return. -/
def smuggledRequest : Text := "POST / HTTP/1.1\nHost: a\n\r\nX-Admin: 1".toList

theorem not_isReadByLine_smuggledRequest :
    ∃ m, read smuggledRequest {} = .ok m ∧ ¬ IsReadByLine smuggledRequest {} m := by
  have hread : read smuggledRequest {} = .ok (create "POST / HTTP/1.1".toList
      (Headers.ofPairs [("Host", "a"), ("X-Admin", "1")]) (.raw []) {}) := by rfl
  refine ⟨_, hread, ?_⟩
  rintro ⟨⟨headline, headers, body⟩, hparts, hm⟩
  obtain rfl : headline = "POST / HTTP/1.1".toList := hparts.headline
  obtain rfl : Headers.ofPairs [("Host", "a")] = headers := Except.ok.inj hparts.headers
  obtain rfl : body = "X-Admin: 1".toList := hparts.body
  -- the payload is among the fields
  have hfield := congrArg (fun m => m.headers.get? "X-Admin") hm
  revert hfield
  decide

end HttpExchange.Request
