import HttpExchange.Text.Basic

/-!
# Taking apart what was put together

A text that does not contain a separator is one piece, and pieces joined by a
separator that none of them contains are found again. What is taken apart is put
together again from its pieces.

## Main results

* `splitFirst_append`, `splitLast_append` — the first and the last separator are
  found where they were put.
* `eq_of_splitLast`, `eq_of_cut` — the pieces make up the text.
* `cut_append` — a phrase is found where it was put.
* `splitOn_joinWith` — joined pieces are found again.
* `lines_append`, `exists_of_mem_lines` — the lines of a text.
-/

namespace HttpExchange.Text

/-! ## Conditions on characters -/

section Conditions

variable (P : Char → Prop) [DecidablePred P]

/-- A condition on the characters of a text is decided at these, not at all characters there
are. -/
instance (priority := high) decidableForallMem (t : Text) : Decidable (∀ c ∈ t, P c) :=
  List.decidableBAll P t

instance (priority := high) decidableForallMemOption (c? : Option Char) :
    Decidable (∀ c ∈ c?, P c) :=
  Option.decidableForallMem c?

end Conditions

variable {sep : Char}

/-! ## The first separator -/

theorem splitFirst_append {a : Text} (h : sep ∉ a) (b : Text) :
    splitFirst sep (a ++ sep :: b) = some (a, b) := by
  induction a with
  | nil => exact if_pos rfl
  | cons c a ih =>
      rw [List.mem_cons, not_or] at h
      rw [List.cons_append, splitFirst, if_neg (Ne.symm h.1), ih h.2, Option.map_some]

/-- What stands on either side of the first separator is found again. -/
theorem append_cons_inj {a a' b b' : Text} (h : sep ∉ a) (h' : sep ∉ a')
    (heq : a ++ sep :: b = a' ++ sep :: b') : a = a' ∧ b = b' := by
  have hsplit := congrArg (splitFirst sep) heq
  rw [splitFirst_append h, splitFirst_append h'] at hsplit
  exact Prod.mk.inj (Option.some.inj hsplit)

/-- What precedes the first separator does not contain it. -/
theorem not_mem_of_splitFirst {t a b : Text}
    (h : splitFirst sep t = some (a, b)) : sep ∉ a := by
  induction t generalizing a with
  | nil => cases h
  | cons c t ih =>
      rw [splitFirst] at h
      split at h
      · obtain ⟨rfl, -⟩ := Prod.mk.inj (Option.some.inj h)
        exact List.not_mem_nil
      · next hc =>
          obtain ⟨⟨a', b'⟩, hsplit, hpair⟩ := Option.map_eq_some_iff.mp h
          obtain ⟨rfl, rfl⟩ := Prod.mk.inj hpair
          rw [List.mem_cons, not_or]
          exact ⟨Ne.symm hc, ih hsplit⟩

theorem splitFirst_eq_none_iff {t : Text} : splitFirst sep t = none ↔ sep ∉ t := by
  induction t with
  | nil => simp [splitFirst]
  | cons c t ih =>
      by_cases hc : c = sep
      · simp [splitFirst, hc]
      · simp [splitFirst, hc, Ne.symm hc, ih]

/-! ## The last separator -/

theorem splitLast_eq_none_iff {t : Text} : splitLast sep t = none ↔ sep ∉ t := by
  induction t with
  | nil => simp [splitLast]
  | cons c t ih =>
      cases hrest : splitLast sep t with
      | some p =>
          have hmem : sep ∈ t := Classical.byContradiction fun hnot => by
            simp [ih.mpr hnot] at hrest
          simp [splitLast, hrest, hmem]
      | none =>
          by_cases hc : c = sep
          · simp [splitLast, hrest, hc]
          · simpa [splitLast, hrest, hc, Ne.symm hc] using ih.mp hrest

/-- The last separator is found where it was put. -/
theorem splitLast_append {b : Text} (h : sep ∉ b) (a : Text) :
    splitLast sep (a ++ sep :: b) = some (a, b) := by
  induction a with
  | nil => simp [splitLast, splitLast_eq_none_iff.mpr h]
  | cons c a ih => simp [splitLast, ih]

theorem eq_of_splitLast {t a b : Text} (h : splitLast sep t = some (a, b)) :
    t = a ++ sep :: b ∧ sep ∉ b := by
  induction t generalizing a with
  | nil => simp [splitLast] at h
  | cons c t ih =>
      cases hrest : splitLast sep t with
      | some p =>
          simp only [splitLast, hrest, Option.some.injEq, Prod.mk.injEq] at h
          obtain ⟨rfl, rfl⟩ := h
          obtain ⟨ht, hb⟩ := ih hrest
          exact ⟨congrArg (c :: ·) ht, hb⟩
      | none =>
          by_cases hc : c = sep
          · simp only [splitLast, hrest, hc, if_true, Option.some.injEq, Prod.mk.injEq] at h
            obtain ⟨rfl, rfl⟩ := h
            exact ⟨congrArg (· :: t) hc, splitLast_eq_none_iff.mp hrest⟩
          · simp [splitLast, hrest, hc] at h

/-! ## All separators -/

theorem splitWhere_of_forall {p : Char → Bool} {t : Text} (h : ∀ c ∈ t, p c = false) :
    splitWhere p t = [t] := by
  induction t with
  | nil => rfl
  | cons c t ih =>
      obtain ⟨hc, ht⟩ := List.forall_mem_cons.mp h
      rw [splitWhere, hc, ih ht]
      rfl

theorem splitWhere_append {p : Char → Bool} {t : Text} (h : ∀ c ∈ t, p c = false) {c : Char}
    (hc : p c = true) (rest : Text) :
    splitWhere p (t ++ c :: rest) = t :: splitWhere p rest := by
  induction t with
  | nil =>
      rw [List.nil_append, splitWhere, hc]
      rfl
  | cons d t ih =>
      obtain ⟨hd, ht⟩ := List.forall_mem_cons.mp h
      rw [List.cons_append, splitWhere, hd, ih ht]
      rfl

theorem splitWhere_ne_nil (p : Char → Bool) (t : Text) : splitWhere p t ≠ [] := by
  induction t with
  | nil => exact List.cons_ne_nil _ _
  | cons c t ih =>
      obtain ⟨piece, pieces, hpieces⟩ := List.exists_cons_of_ne_nil ih
      rw [splitWhere, hpieces]
      split
      · exact List.cons_ne_nil _ _
      · exact List.cons_ne_nil _ _

theorem splitWhere_concat {p : Char → Bool} {c : Char} (hc : p c = true) (t : Text) :
    splitWhere p (t ++ [c]) = splitWhere p t ++ [[]] := by
  induction t with
  | nil => simp [splitWhere, hc]
  | cons d t ih =>
      obtain ⟨piece, pieces, hpieces⟩ := List.exists_cons_of_ne_nil (splitWhere_ne_nil p t)
      rw [List.cons_append, splitWhere, splitWhere, ih, hpieces]
      split
      · rfl
      · rfl

/-- No piece has a character at which the text is split. -/
theorem forall_of_mem_splitWhere {p : Char → Bool} {t piece : Text} (h : piece ∈ splitWhere p t) :
    ∀ c ∈ piece, p c = false := by
  induction t generalizing piece with
  | nil =>
      rw [List.mem_singleton.mp h]
      exact fun _ hc => nomatch hc
  | cons d t ih =>
      obtain ⟨first, pieces, hpieces⟩ := List.exists_cons_of_ne_nil (splitWhere_ne_nil p t)
      rw [splitWhere] at h
      split at h
      · rcases List.mem_cons.mp h with rfl | h
        · exact fun _ hc => nomatch hc
        · exact ih h
      · next hd =>
          rw [hpieces] at h ih
          rcases List.mem_cons.mp h with rfl | h
          · exact List.forall_mem_cons.mpr ⟨by simpa using hd, ih List.mem_cons_self⟩
          · exact ih (List.mem_cons_of_mem first h)

private theorem beq_eq_false_of_not_mem {t : Text} (h : sep ∉ t) : ∀ c ∈ t, (c == sep) = false :=
  fun _ hc => beq_eq_false_iff_ne.mpr fun heq => h (heq ▸ hc)

theorem splitOn_of_not_mem {t : Text} (h : sep ∉ t) : splitOn sep t = [t] :=
  splitWhere_of_forall (beq_eq_false_of_not_mem h)

theorem splitOn_append {t : Text} (h : sep ∉ t) (rest : Text) :
    splitOn sep (t ++ sep :: rest) = t :: splitOn sep rest :=
  splitWhere_append (beq_eq_false_of_not_mem h) (beq_self_eq_true sep) rest

theorem splitOn_joinWith {ts : List Text} (hne : ts ≠ []) (h : ∀ t ∈ ts, sep ∉ t) :
    splitOn sep (joinWith [sep] ts) = ts := by
  induction ts with
  | nil => exact absurd rfl hne
  | cons t ts ih =>
      have ht : sep ∉ t := h t List.mem_cons_self
      cases ts with
      | nil => exact splitOn_of_not_mem ht
      | cons u us =>
          have hrest := ih (List.cons_ne_nil u us) fun v hv => h v (List.mem_cons_of_mem t hv)
          rw [joinWith, List.append_assoc, List.singleton_append, splitOn_append ht, hrest]

theorem mem_joinWith {sep : Text} {ts : List Text} {c : Char} (h : c ∈ joinWith sep ts) :
    c ∈ sep ∨ ∃ t ∈ ts, c ∈ t := by
  induction ts with
  | nil => cases h
  | cons t ts ih =>
      cases ts with
      | nil => exact .inr ⟨t, List.mem_cons_self, h⟩
      | cons u us =>
          rw [joinWith, List.mem_append, List.mem_append] at h
          rcases h with (h | h) | h
          · exact .inr ⟨t, List.mem_cons_self, h⟩
          · exact .inl h
          · exact (ih h).imp id fun ⟨v, hv, hc⟩ => ⟨v, List.mem_cons_of_mem t hv, hc⟩

/-! ## Lines -/

theorem lines_of_not_mem {t : Text} (hne : t ≠ []) (h : '\n' ∉ t) : lines t = [t] := by
  induction t with
  | nil => exact absurd rfl hne
  | cons c t ih =>
      rw [List.mem_cons, not_or] at h
      rw [lines, if_neg (Ne.symm h.1)]
      cases t with
      | nil => rfl
      | cons d t => rw [ih (List.cons_ne_nil d t) h.2]

/-- The first line ends with the first line feed. -/
theorem lines_append {t : Text} (h : '\n' ∉ t) (rest : Text) :
    lines (t ++ '\n' :: rest) = (t ++ ['\n']) :: lines rest := by
  induction t with
  | nil => exact if_pos rfl
  | cons c t ih =>
      rw [List.mem_cons, not_or] at h
      rw [List.cons_append, lines, if_neg (Ne.symm h.1), ih h.2]
      rfl

/-- A line has no line feed but at its end. -/
theorem exists_of_mem_lines {t line : Text} (h : line ∈ lines t) :
    ∃ a, '\n' ∉ a ∧ (line = a ∨ line = a ++ ['\n']) := by
  induction t generalizing line with
  | nil => cases h
  | cons c t ih =>
      by_cases hc : c = '\n'
      · rw [lines, if_pos hc] at h
        rcases List.mem_cons.mp h with rfl | h
        · exact ⟨[], List.not_mem_nil, .inr rfl⟩
        · exact ih h
      · rw [lines, if_neg hc] at h
        split at h
        · refine ⟨[c], ?_, .inl (List.mem_singleton.mp h)⟩
          exact fun hmem => hc (List.mem_singleton.mp hmem).symm
        · next first others hlines =>
            rcases List.mem_cons.mp h with rfl | h
            · obtain ⟨a, ha, hfirst⟩ := ih (hlines ▸ List.mem_cons_self)
              refine ⟨c :: a, ?_, hfirst.imp (congrArg (c :: ·)) (congrArg (c :: ·))⟩
              rw [List.mem_cons, not_or]
              exact ⟨Ne.symm hc, ha⟩
            · exact ih (hlines ▸ List.mem_cons_of_mem first h)

/-! ## Beginnings -/

section Beginnings

variable {p : Char → Bool} {a rest : Text} (h : ∀ c ∈ a, p c = true)
  (hrest : ∀ c ∈ rest.head?, p c = false)

include h hrest

theorem takeWhile_append : (a ++ rest).takeWhile p = a := by
  rw [List.takeWhile_append_of_pos h]
  cases rest with
  | nil => exact List.append_nil a
  | cons c rest =>
      rw [List.takeWhile_cons_of_neg (by simp [hrest c rfl]), List.append_nil]

theorem dropWhile_append : (a ++ rest).dropWhile p = rest := by
  rw [List.dropWhile_append_of_pos h]
  cases rest with
  | nil => rfl
  | cons c rest => rw [List.dropWhile_cons_of_neg (by simp [hrest c rfl])]

end Beginnings

theorem takeWhile_append_cons {p : Char → Bool} {a : Text} (h : ∀ c ∈ a, p c = true) {c : Char}
    (hc : p c = false) (rest : Text) : (a ++ c :: rest).takeWhile p = a :=
  takeWhile_append h fun _ hd => Option.some.inj hd ▸ hc

theorem dropWhile_append_cons {p : Char → Bool} {a : Text} (h : ∀ c ∈ a, p c = true) {c : Char}
    (hc : p c = false) (rest : Text) : (a ++ c :: rest).dropWhile p = c :: rest :=
  dropWhile_append h fun _ hd => Option.some.inj hd ▸ hc

/-- What is left of a text begins with something that is not dropped. -/
theorem head?_dropWhile {p : Char → Bool} {t : Text} {c : Char}
    (h : c ∈ (t.dropWhile p).head?) : p c = false := by
  have hnot := List.head?_dropWhile_not p t
  rw [Option.mem_def.mp h] at hnot
  simpa using hnot

/-- A phrase that is kept as a whole is looked for in what is kept. -/
theorem startsWith_takeWhile {p : Char → Bool} {phrase : Text} (h : ∀ c ∈ phrase, p c = true)
    (t : Text) : startsWith (t.takeWhile p) phrase = startsWith t phrase := by
  rw [Bool.eq_iff_iff, startsWith, startsWith, List.isPrefixOf_iff_prefix,
    List.isPrefixOf_iff_prefix]
  constructor
  · exact fun hlead => hlead.trans (List.takeWhile_prefix p)
  · rintro ⟨rest, rfl⟩
    rw [List.takeWhile_append_of_pos h]
    exact List.prefix_append phrase _

/-- Where the beginning of a text is split, the text is. -/
theorem exists_of_splitFirst_takeWhile {p : Char → Bool} {t a b : Text}
    (h : splitFirst sep (t.takeWhile p) = some (a, b)) :
    ∃ rest, t = a ++ sep :: rest ∧ rest.takeWhile p = b := by
  have hlead := eq_of_splitFirst h
  refine ⟨b ++ t.dropWhile p, ?_, takeWhile_append (fun c hc => ?_) fun _ => head?_dropWhile⟩
  · rw [← List.cons_append, ← List.append_assoc, ← hlead, List.takeWhile_append_dropWhile]
  · have hmem : c ∈ t.takeWhile p := by
      rw [hlead]
      exact List.mem_append_right a (List.mem_cons_of_mem sep hc)
    exact List.all_eq_true.mp List.all_takeWhile c hmem

/-! ## Phrases -/

theorem eq_of_afterPrefix? {p t rest : Text} (h : afterPrefix? p t = some rest) :
    t = p ++ rest := by
  induction p generalizing t with
  | nil => exact Option.some.inj h
  | cons c p ih =>
      cases t with
      | nil => simp [afterPrefix?] at h
      | cons d t =>
          by_cases hc : c = d
          · simp only [afterPrefix?, hc, if_true] at h
            rw [ih h, hc, List.cons_append]
          · simp [afterPrefix?, hc] at h

theorem afterPrefix?_append (p rest : Text) : afterPrefix? p (p ++ rest) = some rest := by
  induction p with
  | nil => rfl
  | cons c p ih => rw [List.cons_append, afterPrefix?, if_pos rfl, ih]

theorem afterPrefix?_cons_of_ne {c d : Char} (h : c ≠ d) (p t : Text) :
    afterPrefix? (c :: p) (d :: t) = none := if_neg h

/-- A phrase is found where it was put, if its first character does not occur before it. -/
theorem cut_append {c : Char} {a : Text} (h : c ∉ a) (phrase b : Text) :
    cut (c :: phrase) (a ++ c :: phrase ++ b) = some (a, b) := by
  induction a with
  | nil =>
      have hfound := afterPrefix?_append (c :: phrase) b
      rw [List.nil_append]
      rw [List.cons_append] at hfound ⊢
      rw [cut, hfound]
  | cons d a ih =>
      rw [List.mem_cons, not_or] at h
      rw [List.cons_append, List.cons_append, cut, afterPrefix?_cons_of_ne h.1, ih h.2]
      rfl

theorem eq_of_cut {phrase t a b : Text} (h : cut phrase t = some (a, b)) :
    t = a ++ phrase ++ b := by
  induction t generalizing a with
  | nil =>
      by_cases hp : phrase.isEmpty
      · simp_all [cut]
      · simp [cut, hp] at h
  | cons c t ih =>
      cases hfirst : afterPrefix? phrase (c :: t) with
      | some rest =>
          simp only [cut, hfirst, Option.some.injEq, Prod.mk.injEq] at h
          obtain ⟨rfl, rfl⟩ := h
          exact eq_of_afterPrefix? hfirst
      | none =>
          simp only [cut, hfirst, Option.map_eq_some_iff, Prod.mk.injEq] at h
          obtain ⟨⟨a', b'⟩, hcut, rfl, rfl⟩ := h
          rw [ih hcut]
          rfl

/-- A text has no phrase with a character that it does not have. -/
theorem hasPhrase_of_not_mem {phrase t : Text} {c : Char} (hc : c ∈ phrase) (h : c ∉ t) :
    hasPhrase t phrase = false := by
  rw [hasPhrase, Option.isSome_eq_false_iff, Option.isNone_iff_eq_none]
  refine Option.eq_none_iff_forall_ne_some.mpr fun parts hcut => h ?_
  rw [eq_of_cut (a := parts.1) (b := parts.2) hcut]
  exact List.mem_append_left _ (List.mem_append_right _ hc)

end HttpExchange.Text
