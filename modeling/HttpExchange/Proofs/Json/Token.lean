import HttpExchange.Json.Writer
import HttpExchange.Proofs.Text.Split

/-!
# The words of a JSON text read back

A string that was quoted and a numeral that is kept are read as they were, and
reading goes on behind them: a string ends at its closing quote, and a numeral
where no digit, point or exponent follows. What reading keeps of a numeral is a
numeral of this kind, so a text that was read can be written and read again.

## Main definitions

* `IsNumeral` — the numerals that are kept.

## Main results

* `readString?_quoted`, `readNumeral?_append` — strings and numerals are read back.
* `isKept_of_readAll?` — what is kept of the numerals of a text.
* `length_lt_of_mem_readAll?` — every string of a text is shorter than the text.
-/

namespace HttpExchange.Json

/-! ## Strings -/

theorem readString?_plain {c : Char} (hquote : c ≠ '"') (hescape : c ≠ '\\') (hplain : ¬ c < ' ')
    (rest : Text) : readString? (c :: rest) = prepend c (readString? rest) := by
  rw [readString?]
  · rw [if_neg (by simp [hplain, hescape])]
  all_goals simp_all

/-- A unit that is no half of a pair is a character, whatever follows it. -/
theorem readString?_unit {a b c d : Char} {u : Nat} (hunit : hex4? a b c d = some u)
    (hhigh : isHighSurrogate u = false) (hlow : isLowSurrogate u = false) (rest : Text) :
    readString? ('\\' :: 'u' :: a :: b :: c :: d :: rest) =
      prepend (Char.ofNat u) (readString? rest) := by
  rw [readString?.eq_def]
  split
  · next heq => cases heq
  · next heq => cases heq
  · next heq =>
      cases heq
      simp only [hunit, hhigh, hlow, Bool.false_eq_true, if_false]
  · next heq =>
      cases heq
      simp only [hunit, hhigh, hlow, Bool.or_self, Bool.false_eq_true, if_false]
  · next hother heq =>
      cases heq
      exact absurd rfl (hother _ _ _ _ _ rfl)
  · next hother heq =>
      cases heq
      exact absurd rfl (hother _ _ rfl)

theorem readString?_escaped {c e : Char} (hescaped : escaped? c = some e) (rest : Text) :
    readString? ('\\' :: c :: rest) = prepend e (readString? rest) := by
  have hunit : c ≠ 'u' := by
    rintro rfl
    cases hescaped
  rw [readString?]
  · rw [hescaped]
  all_goals simp_all

theorem hex4?_control : ∀ n < 32,
    hex4? '0' '0' (hexDigit (n / 16)) (hexDigit (n % 16)) = some n := by
  decide

/-- **A character that was escaped is read back**, and what follows it is read on. -/
theorem readString?_escape (c : Char) (rest : Text) :
    readString? (escape c ++ rest) = prepend c (readString? rest) := by
  unfold escape
  split
  · exact readString?_escaped rfl rest
  · exact readString?_escaped rfl rest
  · exact readString?_escaped rfl rest
  · exact readString?_escaped rfl rest
  · exact readString?_escaped rfl rest
  · exact readString?_escaped rfl rest
  · exact readString?_escaped rfl rest
  · next hquote hescape _ _ _ _ _ =>
      split
      · next hcontrol =>
          have hsmall : c.toNat < 32 := hcontrol
          have hhigh : isHighSurrogate c.toNat = false := by
            simp only [isHighSurrogate, Bool.and_eq_false_iff, decide_eq_false_iff_not]
            omega
          have hlow : isLowSurrogate c.toNat = false := by
            simp only [isLowSurrogate, Bool.and_eq_false_iff, decide_eq_false_iff_not]
            omega
          have hread := readString?_unit (hex4?_control c.toNat hsmall) hhigh hlow rest
          rwa [Char.ofNat_toNat] at hread
      · next hplain => exact readString?_plain hquote hescape hplain rest

/-- **A string that was quoted is read back.** -/
theorem readString?_quoted (t rest : Text) :
    readString? (t.flatMap escape ++ '"' :: rest) = some (t, rest) := by
  induction t with
  | nil => rw [List.flatMap_nil, List.nil_append, readString?]
  | cons c t ih =>
      rw [List.flatMap_cons, List.append_assoc, readString?_escape, ih]
      rfl

/-! ## Numerals -/

/-- A run of digits. -/
structure IsRun (digits : Text) : Prop where
  nonempty : digits ≠ []
  digits : ∀ c ∈ digits, c.isDigit = true

/-- The digits before the point. -/
def IsWhole (whole : Text) : Prop := whole = ['0'] ∨ (IsRun whole ∧ whole.head? ≠ some '0')

/-- A fraction, or none. -/
def IsFraction (fraction : Text) : Prop :=
  fraction = [] ∨ ∃ digits, IsRun digits ∧ fraction = '.' :: digits

/-- An exponent with its sign, or none. -/
def IsExponent (exponent : Text) : Prop :=
  exponent = [] ∨ ∃ sign digits, (sign = '+' ∨ sign = '-') ∧ IsRun digits ∧
    exponent = 'e' :: sign :: digits

/-- A numeral without its sign. -/
def IsUnsigned (numeral : Text) : Prop :=
  ∃ whole fraction exponent, IsWhole whole ∧ IsFraction fraction ∧ IsExponent exponent ∧
    numeral = whole ++ fraction ++ exponent

/-- A numeral as it is kept. -/
def IsNumeral (numeral : Text) : Prop :=
  IsUnsigned numeral ∨ ∃ rest, IsUnsigned rest ∧ numeral = '-' :: rest

/-- Whether a numeral ends before a text. -/
def EndsNumeral (rest : Text) : Prop :=
  ∀ c ∈ rest.head?, c.isDigit = false ∧ c ≠ '.' ∧ c ≠ 'e' ∧ c ≠ 'E'

theorem readDigits?_append {digits : Text} (h : IsRun digits) {rest : Text}
    (hrest : ∀ c ∈ rest.head?, c.isDigit = false) :
    readDigits? (digits ++ rest) = some (digits, rest) := by
  have hne : digits.isEmpty = false := List.isEmpty_eq_false_iff.mpr h.nonempty
  simp only [readDigits?, Text.takeWhile_append h.digits hrest,
    Text.dropWhile_append h.digits hrest, hne, Bool.false_eq_true, if_false]

theorem isRun_of_readDigits? {t digits rest : Text} (h : readDigits? t = some (digits, rest)) :
    IsRun digits ∧ t = digits ++ rest := by
  unfold readDigits? at h
  dsimp only at h
  split at h
  · cases h
  · next hne =>
      obtain ⟨rfl, rfl⟩ := Prod.mk.inj (Option.some.inj h)
      exact ⟨⟨by simpa using hne, fun c hc => List.all_eq_true.mp List.all_takeWhile c hc⟩,
        List.takeWhile_append_dropWhile.symm⟩

theorem readWhole?_append {whole : Text} (h : IsWhole whole) {rest : Text}
    (hrest : ∀ c ∈ rest.head?, c.isDigit = false) :
    readWhole? (whole ++ rest) = some (whole, rest) := by
  rcases h with rfl | ⟨hrun, hzero⟩
  · rfl
  · have hother : ∀ t, whole ++ rest ≠ '0' :: t := by
      intro t heq
      obtain ⟨c, digits, rfl⟩ := List.exists_cons_of_ne_nil hrun.nonempty
      obtain rfl := (List.cons.inj heq).1
      exact hzero rfl
    rw [readWhole?, readDigits?_append hrun hrest]
    exact hother

theorem isWhole_of_readWhole? {t whole rest : Text} (h : readWhole? t = some (whole, rest)) :
    IsWhole whole := by
  unfold readWhole? at h
  split at h
  · obtain ⟨rfl, -⟩ := Prod.mk.inj (Option.some.inj h)
    exact .inl rfl
  · next hzero =>
      obtain ⟨hrun, rfl⟩ := isRun_of_readDigits? h
      refine .inr ⟨hrun, fun hhead => ?_⟩
      obtain ⟨digits, rfl⟩ := List.head?_eq_some_iff.mp hhead
      exact hzero _ rfl

theorem readFraction?_append {fraction : Text} (h : IsFraction fraction) {rest : Text}
    (hrest : ∀ c ∈ rest.head?, c.isDigit = false ∧ c ≠ '.') :
    readFraction? (fraction ++ rest) = some (fraction, rest) := by
  rcases h with rfl | ⟨digits, hrun, rfl⟩
  · have hother : ∀ t, rest ≠ '.' :: t := by
      rintro t rfl
      exact (hrest '.' rfl).2 rfl
    rw [List.nil_append, readFraction?]
    exact hother
  · rw [List.cons_append, readFraction?, readDigits?_append hrun fun c hc => (hrest c hc).1]
    rfl

theorem isFraction_of_readFraction? {t fraction rest : Text}
    (h : readFraction? t = some (fraction, rest)) : IsFraction fraction := by
  unfold readFraction? at h
  split at h
  · obtain ⟨⟨digits, rest'⟩, hdigits, hpair⟩ := Option.map_eq_some_iff.mp h
    obtain ⟨rfl, rfl⟩ := Prod.mk.inj hpair
    exact .inr ⟨digits, (isRun_of_readDigits? hdigits).1, rfl⟩
  · obtain ⟨rfl, -⟩ := Prod.mk.inj (Option.some.inj h)
    exact .inl rfl

theorem readExponent?_append {exponent : Text} (h : IsExponent exponent) {rest : Text}
    (hrest : EndsNumeral rest) : readExponent? (exponent ++ rest) = some (exponent, rest) := by
  rcases h with rfl | ⟨sign, digits, hsign, hrun, rfl⟩
  · have hsmall : ∀ t, rest ≠ 'e' :: t := by
      rintro t rfl
      exact (hrest 'e' rfl).2.2.1 rfl
    have hlarge : ∀ t, rest ≠ 'E' :: t := by
      rintro t rfl
      exact (hrest 'E' rfl).2.2.2 rfl
    rw [List.nil_append, readExponent?]
    · exact hsmall
    · exact hlarge
  · have hdigits := readDigits?_append hrun fun c hc => (hrest c hc).1
    rcases hsign with rfl | rfl
    · rw [List.cons_append, List.cons_append, readExponent?, readExponentSign]
      simp only [hdigits, Option.map_some]
    · rw [List.cons_append, List.cons_append, readExponent?, readExponentSign]
      simp only [hdigits, Option.map_some]

theorem readExponentSign_fst (t : Text) :
    (readExponentSign t).1 = '+' ∨ (readExponentSign t).1 = '-' := by
  unfold readExponentSign
  split
  · exact .inl rfl
  · exact .inr rfl
  · exact .inl rfl

theorem isExponent_of_readExponent? {t exponent rest : Text}
    (h : readExponent? t = some (exponent, rest)) : IsExponent exponent := by
  have hwritten : ∀ r : Text, ((readDigits? (readExponentSign r).2).map fun x : Text × Text =>
      ('e' :: (readExponentSign r).1 :: x.1, x.2)) = some (exponent, rest) →
        IsExponent exponent := by
    intro r hr
    obtain ⟨⟨digits, rest'⟩, hdigits, hpair⟩ := Option.map_eq_some_iff.mp hr
    obtain ⟨rfl, rfl⟩ := Prod.mk.inj hpair
    exact .inr ⟨_, digits, readExponentSign_fst r, (isRun_of_readDigits? hdigits).1, rfl⟩
  unfold readExponent? at h
  split at h
  · exact hwritten _ h
  · exact hwritten _ h
  · obtain ⟨rfl, -⟩ := Prod.mk.inj (Option.some.inj h)
    exact .inl rfl

/-! ### Whole numerals -/

/-- No digit begins what follows the whole digits, and no point what follows the fraction. -/
theorem IsExponent.head {exponent : Text} (h : IsExponent exponent) {rest : Text}
    (hrest : EndsNumeral rest) :
    ∀ c ∈ (exponent ++ rest).head?, c.isDigit = false ∧ c ≠ '.' := by
  rcases h with rfl | ⟨sign, digits, -, -, rfl⟩
  · exact fun c hc => ⟨(hrest c hc).1, (hrest c hc).2.1⟩
  · rintro c hc
    obtain rfl : 'e' = c := Option.some.inj hc
    decide

theorem IsFraction.head {fraction : Text} (h : IsFraction fraction) {rest : Text}
    (hrest : ∀ c ∈ rest.head?, c.isDigit = false) :
    ∀ c ∈ (fraction ++ rest).head?, c.isDigit = false := by
  rcases h with rfl | ⟨digits, -, rfl⟩
  · exact hrest
  · rintro c hc
    obtain rfl : '.' = c := Option.some.inj hc
    rfl

theorem readUnsigned?_append {numeral : Text} (h : IsUnsigned numeral) {rest : Text}
    (hrest : EndsNumeral rest) : readUnsigned? (numeral ++ rest) = some (numeral, rest) := by
  obtain ⟨whole, fraction, exponent, hwhole, hfraction, hexponent, rfl⟩ := h
  have hexp := hexponent.head hrest
  have hfrac := hfraction.head fun c hc => (hexp c hc).1
  rw [List.append_assoc, List.append_assoc]
  unfold readUnsigned?
  rw [readWhole?_append hwhole hfrac]
  simp only [Option.bind_eq_bind, Option.bind_some, readFraction?_append hfraction hexp,
    readExponent?_append hexponent hrest, Option.pure_def, List.append_assoc]

theorem isUnsigned_of_readUnsigned? {t numeral rest : Text}
    (h : readUnsigned? t = some (numeral, rest)) : IsUnsigned numeral := by
  simp only [readUnsigned?, Option.bind_eq_bind, Option.bind_eq_some_iff] at h
  obtain ⟨⟨whole, t₁⟩, hwhole, ⟨fraction, t₂⟩, hfraction, ⟨exponent, t₃⟩, hexponent, hpair⟩ := h
  obtain ⟨rfl, -⟩ := Prod.mk.inj (Option.some.inj hpair)
  exact ⟨whole, fraction, exponent, isWhole_of_readWhole? hwhole,
    isFraction_of_readFraction? hfraction, isExponent_of_readExponent? hexponent, rfl⟩

theorem IsWhole.head {whole : Text} (h : IsWhole whole) :
    ∃ c t, whole = c :: t ∧ c.isDigit = true := by
  rcases h with rfl | ⟨hrun, -⟩
  · exact ⟨'0', [], rfl, rfl⟩
  · obtain ⟨c, t, rfl⟩ := List.exists_cons_of_ne_nil hrun.nonempty
    exact ⟨c, t, rfl, hrun.digits c List.mem_cons_self⟩

theorem IsUnsigned.head {numeral : Text} (h : IsUnsigned numeral) :
    ∃ c t, numeral = c :: t ∧ c.isDigit = true := by
  obtain ⟨whole, fraction, exponent, hwhole, -, -, rfl⟩ := h
  obtain ⟨c, t, rfl, hc⟩ := hwhole.head
  exact ⟨c, t ++ fraction ++ exponent, rfl, hc⟩

/-- **A numeral that was written is read back** up to what ends it. -/
theorem readNumeral?_append {numeral : Text} (h : IsNumeral numeral) {rest : Text}
    (hrest : EndsNumeral rest) : readNumeral? (numeral ++ rest) = some (numeral, rest) := by
  rcases h with hplain | ⟨digits, hplain, rfl⟩
  · have hother : ∀ t, numeral ++ rest ≠ '-' :: t := by
      intro t heq
      obtain ⟨c, t', rfl, hc⟩ := hplain.head
      obtain rfl := (List.cons.inj heq).1
      cases hc
    rw [readNumeral?, readUnsigned?_append hplain hrest]
    exact hother
  · rw [List.cons_append, readNumeral?, readUnsigned?_append hplain hrest]
    rfl

theorem isNumeral_of_readNumeral? {t numeral rest : Text}
    (h : readNumeral? t = some (numeral, rest)) : IsNumeral numeral := by
  unfold readNumeral? at h
  split at h
  · obtain ⟨⟨digits, rest'⟩, hread, hpair⟩ := Option.map_eq_some_iff.mp h
    obtain ⟨rfl, rfl⟩ := Prod.mk.inj hpair
    exact .inr ⟨digits, isUnsigned_of_readUnsigned? hread, rfl⟩
  · exact .inl (isUnsigned_of_readUnsigned? h)

/-! ## Tokens -/

/-- A numeral begins with a digit or a sign. -/
theorem IsNumeral.head {numeral : Text} (h : IsNumeral numeral) :
    ∃ c t, numeral = c :: t ∧ (c = '-' ∨ c.isDigit = true) := by
  rcases h with hplain | ⟨digits, -, rfl⟩
  · obtain ⟨c, t, rfl, hc⟩ := hplain.head
    exact ⟨c, t, rfl, .inr hc⟩
  · exact ⟨'-', digits, rfl, .inl rfl⟩

theorem readAll?_string (t rest : Text) :
    Token.readAll? (quote t ++ rest) = (Token.readAll? rest).map (.str t :: ·) := by
  have hshape : quote t ++ rest = '"' :: (t.flatMap escape ++ '"' :: rest) := by simp [quote]
  have hread := readString?_quoted t rest
  rw [hshape, Token.readAll?]
  split
  · next hnone => rw [hread] at hnone; cases hnone
  · next hsome =>
      rw [hread] at hsome
      cases hsome
      rfl

theorem readAll?_numeral {numeral : Text} (h : IsNumeral numeral) {rest : Text}
    (hrest : EndsNumeral rest) :
    Token.readAll? (numeral ++ rest) = (Token.readAll? rest).map (.num numeral :: ·) := by
  have hread := readNumeral?_append h hrest
  obtain ⟨c, t, hcons, hc⟩ := h.head
  rw [hcons, List.cons_append] at hread ⊢
  have hother : ∀ d : Char, d ≠ '-' → d.isDigit = false → c ≠ d := by
    rintro d hminus hdigit rfl
    rcases hc with rfl | hc
    · exact hminus rfl
    · rw [hdigit] at hc
      cases hc
  have hspace : isSpace c = false := by
    simp [isSpace, hother ' ' (by decide) (by decide), hother '\t' (by decide) (by decide),
      hother '\n' (by decide) (by decide), hother '\r' (by decide) (by decide)]
  rw [Token.readAll?]
  · rw [if_neg (by simp [hspace])]
    split
    · next hnone => rw [hread] at hnone; cases hnone
    · next hsome =>
        rw [hread] at hsome
        cases hsome
        rfl
  all_goals first
    | exact hother _ (by decide) (by decide)
    | exact fun _ heq => absurd heq (hother _ (by decide) (by decide))

/-- A token whose numeral, if it is one, is kept as it is written. -/
def Token.IsKept : Token → Prop
  | .num numeral => IsNumeral numeral
  | _ => True

theorem isKept_of_map {token : Token} {r : Option (List Token)} {ts : List Token}
    (h : r.map (token :: ·) = some ts) (hr : ∀ {ts}, r = some ts → ∀ t ∈ ts, t.IsKept)
    (htoken : token.IsKept) : ∀ t ∈ ts, t.IsKept := by
  obtain ⟨rest, hrest, rfl⟩ := Option.map_eq_some_iff.mp h
  exact List.forall_mem_cons.mpr ⟨htoken, hr hrest⟩

/-- **The tokens of a text that was read are kept as they are written.** -/
theorem isKept_of_readAll? {t : Text} {ts : List Token} (h : Token.readAll? t = some ts) :
    ∀ token ∈ ts, token.IsKept := by
  -- only the last case, where a numeral is read, adds a token of which there is something to show
  fun_induction Token.readAll? t generalizing ts with
  | case1 => exact Option.some.inj h ▸ fun _ hmem => nomatch hmem
  | case2 rest ih => exact isKept_of_map h ih trivial
  | case3 rest ih => exact isKept_of_map h ih trivial
  | case4 rest ih => exact isKept_of_map h ih trivial
  | case5 rest ih => exact isKept_of_map h ih trivial
  | case6 rest ih => exact isKept_of_map h ih trivial
  | case7 rest ih => exact isKept_of_map h ih trivial
  | case8 rest ih => exact isKept_of_map h ih trivial
  | case9 rest ih => exact isKept_of_map h ih trivial
  | case10 rest ih => exact isKept_of_map h ih trivial
  | case11 => cases h
  | case12 rest text rest' hread ih => exact isKept_of_map h ih trivial
  | case13 =>
      rename_i ih
      exact ih h
  | case14 => cases h
  | case15 =>
      rename_i hread ih
      exact isKept_of_map h ih (isNumeral_of_readNumeral? hread)

/-! ## How long strings are -/

theorem length_lt_of_prepend {c : Char} {r : Option (Text × Text)} {s rest : Text} {n : Nat}
    (hr : ∀ {s' : Text}, r = some (s', rest) → s'.length < n)
    (h : prepend c r = some (s, rest)) : s.length < n + 1 := by
  obtain ⟨⟨s', rest'⟩, hsome, hpair⟩ := Option.map_eq_some_iff.mp h
  obtain ⟨rfl, rfl⟩ := Prod.mk.inj hpair
  exact Nat.succ_lt_succ (hr hsome)

/-- A string is shorter than the text behind its opening quote. -/
theorem length_lt_of_readString? {t s rest : Text} (h : readString? t = some (s, rest)) :
    s.length < t.length := by
  fun_induction readString? t generalizing s with
  | case1 => cases h
  | case2 rest' =>
      obtain ⟨rfl, -⟩ := Prod.mk.inj (Option.some.inj h)
      exact Nat.succ_pos _
  | case3 => cases h
  | case4 => cases h
  | case5 =>
      rename_i ih
      have hless := length_lt_of_prepend ih h
      simp only [List.length_cons]
      omega
  | case6 => cases h
  | case7 => cases h
  | case8 =>
      rename_i ih
      have hless := length_lt_of_prepend ih h
      simp only [List.length_cons] at hless ⊢
      omega
  | case9 => cases h
  | case10 => cases h
  | case11 =>
      rename_i ih
      have hless := length_lt_of_prepend ih h
      simp only [List.length_cons]
      omega
  | case12 => cases h
  | case13 =>
      rename_i ih
      have hless := length_lt_of_prepend ih h
      simp only [List.length_cons]
      omega
  | case14 => cases h
  | case15 =>
      rename_i ih
      exact length_lt_of_prepend ih h

/-- A string among some tokens is shorter than the text before which a token is put. -/
theorem length_lt_of_map {token : Token} {r : Option (List Token)} {ts : List Token} {s : Text}
    {n m : Nat} (h : r.map (token :: ·) = some ts) (hmem : .str s ∈ ts) (hn : n ≤ m)
    (hr : ∀ {ts}, r = some ts → .str s ∈ ts → s.length < n)
    (htoken : .str s = token → s.length < m) : s.length < m := by
  obtain ⟨rest, hrest, rfl⟩ := Option.map_eq_some_iff.mp h
  rcases List.mem_cons.mp hmem with heq | hmem
  · exact htoken heq
  · exact Nat.lt_of_lt_of_le (hr hrest hmem) hn

/-- **Every string of a text is shorter than the text.** -/
theorem length_lt_of_mem_readAll? {t s : Text} {ts : List Token} (h : Token.readAll? t = some ts)
    (hmem : .str s ∈ ts) : s.length < t.length := by
  fun_induction Token.readAll? t generalizing ts with
  | case1 =>
      obtain rfl := Option.some.inj h
      cases hmem
  | case2 rest ih => exact length_lt_of_map h hmem (Nat.le_succ _) ih nofun
  | case3 rest ih => exact length_lt_of_map h hmem (Nat.le_succ _) ih nofun
  | case4 rest ih => exact length_lt_of_map h hmem (Nat.le_succ _) ih nofun
  | case5 rest ih => exact length_lt_of_map h hmem (Nat.le_succ _) ih nofun
  | case6 rest ih => exact length_lt_of_map h hmem (Nat.le_succ _) ih nofun
  | case7 rest ih => exact length_lt_of_map h hmem (Nat.le_succ _) ih nofun
  | case8 rest ih => exact length_lt_of_map h hmem (by simp only [List.length_cons]; omega) ih nofun
  | case9 rest ih => exact length_lt_of_map h hmem (by simp only [List.length_cons]; omega) ih nofun
  | case10 rest ih => exact length_lt_of_map h hmem (by simp only [List.length_cons]; omega) ih nofun
  | case11 => cases h
  | case12 rest text rest' hread ih =>
      have hrest := readString?_length hread
      refine length_lt_of_map h hmem (Nat.le_succ_of_le (Nat.le_of_lt hrest)) ih fun heq => ?_
      obtain rfl := Token.str.inj heq
      exact Nat.lt_succ_of_lt (length_lt_of_readString? hread)
  | case13 =>
      rename_i ih
      exact Nat.lt_succ_of_lt (ih h hmem)
  | case14 => cases h
  | case15 =>
      rename_i hread ih
      exact length_lt_of_map h hmem (Nat.le_of_lt (readNumeral?_length hread)) ih nofun

end HttpExchange.Json
