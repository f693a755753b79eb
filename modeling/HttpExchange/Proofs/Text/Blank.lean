import HttpExchange.Proofs.Text.Split
import HttpExchange.Text.Blank

/-!
# Blanks at the ends of a text and between its words

Trimming looks at the two ends of a text only, so it leaves a text alone whose
first and last characters are not blank. A word that a blank follows is the first
word of a text.

## Main results

* `trim_eq_self`, `trim_of_unblank` — what trimming leaves alone.
* `trim_trim` — trimming twice is trimming once.
* `trim_append_of_blank`, `trim_append_cons`, `trim_append_cons_eq_self` — what trimming makes of texts that are put together.
* `words_cons`, `words_word` — the words of a text that begins with a word.
* `words_trim` — blanks around a text do not change its words.
-/

namespace HttpExchange.Text

/-- No printable ASCII character but the space is blank. -/
theorem isBlank_of_printable {c : Char} (hmin : 0x21 ≤ c.toNat) (hmax : c.toNat ≤ 0x7E) :
    isBlank c = false := by
  simp only [isBlank, Bool.or_eq_false_iff, Bool.and_eq_false_iff, decide_eq_false_iff_not,
    beq_eq_false_iff_ne]
  omega

theorem isBlank_of_isDigit {c : Char} (h : c.isDigit = true) : isBlank c = false := by
  simp only [Char.isDigit, Bool.and_eq_true, decide_eq_true_eq] at h
  have hmin : 48 ≤ c.toNat := h.1
  have hmax : c.toNat ≤ 57 := h.2
  exact isBlank_of_printable (by omega) (by omega)

theorem isBlank_of_isAlpha {c : Char} (h : c.isAlpha = true) : isBlank c = false := by
  rcases (Bool.or_eq_true _ _).mp h with h | h
  · obtain ⟨hmin, hmax⟩ : 65 ≤ c.toNat ∧ c.toNat ≤ 90 := of_decide_eq_true h
    exact isBlank_of_printable (by omega) (by omega)
  · obtain ⟨hlow, hhigh⟩ : decide ('a'.val ≤ c.val) = true ∧ decide (c.val ≤ 'z'.val) = true :=
      (Bool.and_eq_true _ _).mp h
    have hmin : 97 ≤ c.toNat := of_decide_eq_true hlow
    have hmax : c.toNat ≤ 122 := of_decide_eq_true hhigh
    exact isBlank_of_printable (by omega) (by omega)

theorem dropWhile_eq_self {p : Char → Bool} {t : Text} (h : ∀ c ∈ t.head?, p c = false) :
    t.dropWhile p = t := by
  cases t with
  | nil => rfl
  | cons c t => rw [List.dropWhile_cons, h c rfl]; rfl

theorem dropEndWhile_eq_self {p : Char → Bool} {t : Text} (h : ∀ c ∈ t.getLast?, p c = false) :
    dropEndWhile p t = t := by
  rw [dropEndWhile, dropWhile_eq_self (by rwa [List.head?_reverse]), List.reverse_reverse]

/-- What is dropped at the end of a text. -/
theorem exists_dropEndWhile (p : Char → Bool) (t : Text) :
    ∃ tail, t = dropEndWhile p t ++ tail ∧ ∀ c ∈ tail, p c = true := by
  refine ⟨(t.reverse.takeWhile p).reverse, ?_, fun c hc => ?_⟩
  · rw [dropEndWhile, ← List.reverse_append, List.takeWhile_append_dropWhile, List.reverse_reverse]
  · exact List.all_eq_true.mp List.all_takeWhile c (List.mem_reverse.mp hc)

/-- What is left of a text ends with something that is kept. -/
theorem getLast?_dropEndWhile {p : Char → Bool} {t : Text} {c : Char}
    (h : c ∈ (dropEndWhile p t).getLast?) : p c = false := by
  rw [dropEndWhile, List.getLast?_reverse] at h
  exact head?_dropWhile h

theorem trimStart_eq_self {t : Text} (h : ∀ c ∈ t.head?, isBlank c = false) : trimStart t = t :=
  dropWhile_eq_self h

theorem trim_eq_self {t : Text} (hfirst : ∀ c ∈ t.head?, isBlank c = false)
    (hlast : ∀ c ∈ t.getLast?, isBlank c = false) : trim t = t := by
  rw [trim, trimStart_eq_self hfirst, trimEnd, dropEndWhile_eq_self hlast]

/-- A text without blanks has none at its ends. -/
theorem trim_of_unblank {t : Text} (h : ∀ c ∈ t, isBlank c = false) : trim t = t :=
  trim_eq_self (fun c hc => h c (List.mem_of_mem_head? hc))
    fun c hc => h c (List.mem_of_mem_getLast? hc)

/-- What is left of a text does not begin with a blank. -/
theorem isBlank_head_trimStart {t : Text} {c : Char} (h : c ∈ (trimStart t).head?) :
    isBlank c = false :=
  head?_dropWhile h

/-- What is left of a text does not begin with a blank. -/
theorem isBlank_head_trim {t : Text} {c : Char} (h : c ∈ (trim t).head?) : isBlank c = false := by
  obtain ⟨tail, heq, -⟩ := exists_dropEndWhile isBlank (trimStart t)
  obtain ⟨rest, hrest⟩ := List.head?_eq_some_iff.mp h
  refine isBlank_head_trimStart (t := t) ?_
  rw [heq]
  change (trim t ++ tail).head? = some c
  rw [hrest]
  rfl

/-- What is left of a text does not end with a blank. -/
theorem isBlank_getLast_trim {t : Text} {c : Char} (h : c ∈ (trim t).getLast?) :
    isBlank c = false :=
  getLast?_dropEndWhile h

theorem trim_trim (t : Text) : trim (trim t) = trim t :=
  trim_eq_self (fun _ => isBlank_head_trim) fun _ => isBlank_getLast_trim

theorem trimStart_eq_self_of_trim {t : Text} (h : trim t = t) : trimStart t = t :=
  trimStart_eq_self fun c hc => isBlank_head_trim (t := t) (by rwa [h])

theorem trimEnd_eq_self_of_trim {t : Text} (h : trim t = t) : trimEnd t = t :=
  dropEndWhile_eq_self fun c hc => isBlank_getLast_trim (t := t) (by rwa [h])

theorem trim_ne_nil {t : Text} (h : ∃ c ∈ t.head?, isBlank c = false) : trim t ≠ [] := by
  obtain ⟨c, hc, hblank⟩ := h
  obtain ⟨rest, rfl⟩ := List.head?_eq_some_iff.mp hc
  intro hnil
  obtain ⟨tail, heq, htail⟩ := exists_dropEndWhile isBlank (trimStart (c :: rest))
  have hfirst : trimStart (c :: rest) = c :: rest :=
    trimStart_eq_self fun d hd => Option.some.inj hd ▸ hblank
  change trimStart (c :: rest) = trim (c :: rest) ++ tail at heq
  rw [hnil, List.nil_append, hfirst] at heq
  rw [htail c (heq ▸ List.mem_cons_self)] at hblank
  cases hblank

theorem trim_subset {t : Text} {c : Char} (h : c ∈ trim t) : c ∈ t := by
  have hstart : c ∈ (trimStart t).reverse :=
    (List.dropWhile_suffix isBlank).subset (List.mem_reverse.mp h)
  exact (List.dropWhile_suffix isBlank).subset (List.mem_reverse.mp hstart)

/-! ## What is put together -/

theorem dropEndWhile_append_of_forall {p : Char → Bool} (t : Text) {tail : Text}
    (h : ∀ c ∈ tail, p c = true) : dropEndWhile p (t ++ tail) = dropEndWhile p t := by
  have hreverse : ∀ c ∈ tail.reverse, p c = true := by
    intro c hc
    exact h c (List.mem_reverse.mp hc)
  rw [dropEndWhile, List.reverse_append, List.dropWhile_append_of_pos hreverse, dropEndWhile]

/-- Something that is kept keeps all that is before it. -/
theorem dropEndWhile_append {p : Char → Bool} {s : Text} (h : ∀ c ∈ s.getLast?, p c = false)
    (t : Text) : dropEndWhile p (s ++ t) = s ++ dropEndWhile p t := by
  obtain ⟨tail, heq, htail⟩ := exists_dropEndWhile p t
  have hlast : ∀ c ∈ (s ++ dropEndWhile p t).getLast?, p c = false := by
    intro c hc
    rw [List.getLast?_append] at hc
    cases hkept : (dropEndWhile p t).getLast? with
    | none =>
        rw [hkept] at hc
        exact h c hc
    | some d =>
        rw [hkept] at hc
        obtain rfl : d = c := Option.some.inj hc
        exact getLast?_dropEndWhile hkept
  have hshape : s ++ t = (s ++ dropEndWhile p t) ++ tail := by
    rw [List.append_assoc, ← heq]
  rw [hshape, dropEndWhile_append_of_forall _ htail, dropEndWhile_eq_self hlast]

theorem dropEndWhile_prefix (p : Char → Bool) (t : Text) : dropEndWhile p t <+: t := by
  obtain ⟨tail, heq, -⟩ := exists_dropEndWhile p t
  exact ⟨tail, heq.symm⟩

theorem trim_sublist (t : Text) : List.Sublist (trim t) t := by
  have hkept := dropEndWhile_prefix isBlank (trimStart t)
  exact hkept.sublist.trans (List.dropWhile_sublist isBlank)

theorem trimEnd_append_of_blank (t : Text) {tail : Text} (h : ∀ c ∈ tail, isBlank c = true) :
    trimEnd (t ++ tail) = trimEnd t :=
  dropEndWhile_append_of_forall t h

theorem trim_append_of_blank (t : Text) {tail : Text} (h : ∀ c ∈ tail, isBlank c = true) :
    trim (t ++ tail) = trim t := by
  have hdropped : tail.dropWhile isBlank = [] := by
    rw [← List.append_nil tail, List.dropWhile_append_of_pos h, List.dropWhile_nil]
  rw [trim, trim, trimStart, trimStart, List.dropWhile_append]
  split
  · next hempty => rw [List.isEmpty_iff.mp hempty, hdropped]
  · exact trimEnd_append_of_blank _ h

theorem trim_trimEnd (t : Text) : trim (trimEnd t) = trim t := by
  obtain ⟨tail, heq, htail⟩ := exists_dropEndWhile isBlank t
  have hdropped := trim_append_of_blank (trimEnd t) htail
  rw [trimEnd, ← heq] at hdropped
  exact hdropped.symm

/-- Around a character that is not blank, only the outer ends are trimmed. -/
theorem trim_append_cons {c : Char} (hc : isBlank c = false) (s t : Text) :
    trim (s ++ c :: t) = trimStart s ++ c :: trimEnd t := by
  have hstart : trimStart (s ++ c :: t) = trimStart s ++ c :: t := by
    rw [trimStart, List.dropWhile_append]
    split
    · next hempty =>
        rw [trimStart, List.isEmpty_iff.mp hempty, List.dropWhile_cons_of_neg (by simp [hc])]
        rfl
    · rfl
  have hlast : ∀ d ∈ (trimStart s ++ [c]).getLast?, isBlank d = false := by
    intro d hd
    rw [List.getLast?_concat] at hd
    exact Option.some.inj hd ▸ hc
  rw [trim, hstart, List.append_cons, trimEnd, dropEndWhile_append hlast, List.append_assoc]
  rfl

/-- Texts without blanks around them are put together with something between them. -/
theorem trim_append_cons_eq_self {s t : Text} (hs : trim s = s) (ht : trim t = t) (hne : s ≠ [])
    (hne' : t ≠ []) (sep : Char) : trim (s ++ sep :: t) = s ++ sep :: t := by
  refine trim_eq_self (fun c hc => ?_) fun c hc => ?_
  · obtain ⟨first, rest, rfl⟩ := List.exists_cons_of_ne_nil hne
    have hfirst : c ∈ (first :: rest).head? := hc
    rw [← hs] at hfirst
    exact isBlank_head_trim hfirst
  · have hlast : (s ++ sep :: t).getLast? = t.getLast? := by
      rw [List.getLast?_append, List.getLast?_cons_of_ne_nil hne',
        List.getLast?_eq_some_getLast hne', Option.some_or]
    rw [hlast, ← ht] at hc
    exact isBlank_getLast_trim hc

/-- What does not end with a blank and begins a text with blanks behind it begins the text. -/
theorem prefix_of_prefix_append {s t tail : Text} (hlast : ∀ c ∈ s.getLast?, isBlank c = false)
    (hblank : ∀ c ∈ tail, isBlank c = true) (h : s <+: t ++ tail) : s <+: t := by
  rcases List.prefix_or_prefix_of_prefix h (List.prefix_append t tail) with hs | ⟨rest, rfl⟩
  · exact hs
  · have hrest : rest <+: tail := (List.prefix_append_right_inj t).mp h
    cases hend : rest.getLast? with
    | none =>
        have hnil := List.getLast?_eq_none_iff.mp hend
        simp [hnil]
    | some c =>
        have hc : isBlank c = false := by
          refine hlast c ?_
          rw [List.getLast?_append, hend]
          rfl
        have hmem : c ∈ tail := hrest.subset (List.mem_of_mem_getLast? hend)
        rw [hblank c hmem] at hc
        cases hc

/-! ## Words -/

/-- Whether a text has no blanks. -/
theorem unblank_iff {t : Text} : (∀ c ∈ t, isBlank c = false) ↔ t.any isBlank = false := by
  simp only [List.any_eq_false, Bool.not_eq_true]

/-- A word: something without blanks. -/
structure IsWord (t : Text) : Prop where
  nonempty : t ≠ []
  unblank : ∀ c ∈ t, isBlank c = false

theorem isWord_iff {t : Text} : IsWord t ↔ t.isEmpty = false ∧ t.any isBlank = false := by
  rw [List.isEmpty_eq_false_iff, ← unblank_iff]
  exact ⟨fun h => ⟨h.nonempty, h.unblank⟩, fun h => ⟨h.1, h.2⟩⟩

instance (t : Text) : Decidable (IsWord t) := decidable_of_iff _ isWord_iff.symm

theorem words_word {t : Text} (h : IsWord t) : words t = [t] := by
  have hempty : t.isEmpty = false := List.isEmpty_eq_false_iff.mpr h.nonempty
  rw [words, splitWhere_of_forall h.unblank]
  simp [hempty]

theorem words_cons {t : Text} (h : IsWord t) {c : Char} (hc : isBlank c = true) (rest : Text) :
    words (t ++ c :: rest) = t :: words rest := by
  have hempty : t.isEmpty = false := List.isEmpty_eq_false_iff.mpr h.nonempty
  rw [words, splitWhere_append h.unblank hc]
  simp [hempty, words]

theorem words_trimStart (t : Text) : words (trimStart t) = words t := by
  induction t with
  | nil => rfl
  | cons c t ih =>
      unfold trimStart at ih ⊢
      rw [List.dropWhile_cons]
      split
      · next hc =>
          rw [ih, words, words, splitWhere, if_pos hc]
          rfl
      · rfl

theorem words_append_of_blank (t : Text) {tail : Text} (h : ∀ c ∈ tail, isBlank c = true) :
    words (t ++ tail) = words t := by
  induction tail generalizing t with
  | nil => rw [List.append_nil]
  | cons c tail ih =>
      obtain ⟨hc, htail⟩ := List.forall_mem_cons.mp h
      rw [← List.singleton_append, ← List.append_assoc, ih (t ++ [c]) htail, words, words,
        splitWhere_concat hc, List.filter_append]
      exact List.append_nil _

theorem words_trimEnd (t : Text) : words (trimEnd t) = words t := by
  obtain ⟨tail, heq, htail⟩ := exists_dropEndWhile isBlank t
  have hdropped := words_append_of_blank (trimEnd t) htail
  rw [trimEnd, ← heq] at hdropped
  exact hdropped.symm

theorem words_trim (t : Text) : words (trim t) = words t := by
  rw [trim, words_trimEnd, words_trimStart]

theorem isWord_of_mem_words {t w : Text} (h : w ∈ words t) : IsWord w := by
  obtain ⟨hpiece, hne⟩ := List.mem_filter.mp h
  exact ⟨by simpa using hne, forall_of_mem_splitWhere hpiece⟩

end HttpExchange.Text
