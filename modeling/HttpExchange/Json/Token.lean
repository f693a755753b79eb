import HttpExchange.Json.Basic

/-!
# JSON tokens

The words of a JSON text: brackets, punctuation, the three constants, numerals
and strings, with blanks between them. A numeral is kept as it is written,
except that its exponent always gets a small `e` and an explicit sign.

## Main definitions

- `Token.readAll?`: the tokens of a text, `none` where a text has none.
-/

namespace HttpExchange.Json

/-- A word of a JSON text. -/
inductive Token where
  | openArray
  | closeArray
  | openObject
  | closeObject
  | comma
  | colon
  | null
  | bool (b : Bool)
  | num (numeral : Text)
  | str (text : Text)
  deriving DecidableEq, Repr

/-! ## Strings -/

/-- The value of a hexadecimal digit. -/
def hexValue? (c : Char) : Option Nat :=
  if c.isDigit then some (c.toNat - '0'.toNat)
  else if 'a' ≤ c ∧ c ≤ 'f' then some (c.toNat - 'a'.toNat + 10)
  else if 'A' ≤ c ∧ c ≤ 'F' then some (c.toNat - 'A'.toNat + 10)
  else none

/-- The number that four hexadecimal digits denote. -/
def hex4? (a b c d : Char) : Option Nat := do
  let a ← hexValue? a
  let b ← hexValue? b
  let c ← hexValue? c
  let d ← hexValue? d
  pure (((a * 16 + b) * 16 + c) * 16 + d)

/-- The character that a one-letter escape stands for. -/
def escaped? : Char → Option Char
  | '"' => some '"'
  | '\\' => some '\\'
  | '/' => some '/'
  | 'b' => some '\x08'
  | 'f' => some '\x0c'
  | 'n' => some '\n'
  | 'r' => some '\r'
  | 't' => some '\t'
  | _ => none

/-- Whether a UTF-16 unit begins a pair. -/
def isHighSurrogate (u : Nat) : Bool := 0xD800 ≤ u && u < 0xDC00

/-- Whether a UTF-16 unit ends a pair. -/
def isLowSurrogate (u : Nat) : Bool := 0xDC00 ≤ u && u < 0xE000

/-- The character of a pair of UTF-16 units. -/
def ofSurrogates (high low : Nat) : Char :=
  Char.ofNat (0x10000 + (high - 0xD800) * 0x400 + (low - 0xDC00))

/-- Puts a character before what has been read. -/
def prepend (c : Char) (r : Option (Text × Text)) : Option (Text × Text) :=
  r.map fun (t, rest) => (c :: t, rest)

/-- The string whose opening quote has been read, and what follows its closing quote. A unit of a
pair that stands alone is refused, and so is a control character. -/
def readString? : Text → Option (Text × Text)
  | [] => none
  | '"' :: rest => some ([], rest)
  | '\\' :: 'u' :: a :: b :: c :: d :: '\\' :: 'u' :: e :: f :: g :: h :: rest =>
    match hex4? a b c d with
    | none => none
    | some u =>
      if isHighSurrogate u then
        match hex4? e f g h with
        | none => none
        | some v => if isLowSurrogate v then prepend (ofSurrogates u v) (readString? rest) else none
      else if isLowSurrogate u then none
      else prepend (Char.ofNat u) (readString? ('\\' :: 'u' :: e :: f :: g :: h :: rest))
  | '\\' :: 'u' :: a :: b :: c :: d :: rest =>
    match hex4? a b c d with
    | none => none
    | some u =>
      if isHighSurrogate u || isLowSurrogate u then none
      else prepend (Char.ofNat u) (readString? rest)
  | '\\' :: c :: rest =>
    match escaped? c with
    | none => none
    | some e => prepend e (readString? rest)
  | c :: rest => if c < ' ' || c = '\\' then none else prepend c (readString? rest)

theorem prepend_eq_some {c : Char} {r : Option (Text × Text)} {t rest : Text}
    (h : prepend c r = some (t, rest)) : ∃ t', r = some (t', rest) := by
  match r, h with
  | some (t', _), h => exact ⟨t', by simp [prepend] at h; simp [h.2]⟩

theorem readString?_length {t s rest : Text} (h : readString? t = some (s, rest)) :
    rest.length < t.length := by
  fun_induction readString? t generalizing s with
  | case1 => simp at h
  | case2 r => simp_all
  | case3 => simp at h
  | case4 => simp at h
  | case5 =>
    rename_i ih
    obtain ⟨t', ht⟩ := prepend_eq_some h
    have := ih ht
    simp only [List.length_cons]
    omega
  | case6 => simp at h
  | case7 => simp at h
  | case8 =>
    rename_i ih
    obtain ⟨t', ht⟩ := prepend_eq_some h
    have := ih ht
    simp only [List.length_cons] at this ⊢
    omega
  | case9 => simp at h
  | case10 => simp at h
  | case11 =>
    rename_i ih
    obtain ⟨t', ht⟩ := prepend_eq_some h
    have := ih ht
    simp only [List.length_cons]
    omega
  | case12 => simp at h
  | case13 =>
    rename_i ih
    obtain ⟨t', ht⟩ := prepend_eq_some h
    have := ih ht
    simp only [List.length_cons]
    omega
  | case14 => simp at h
  | case15 =>
    rename_i ih
    obtain ⟨t', ht⟩ := prepend_eq_some h
    have := ih ht
    simp only [List.length_cons]
    omega

/-! ## Numerals -/

/-- A run of at least one digit, and what follows it. -/
def readDigits? (t : Text) : Option (Text × Text) :=
  let digits := t.takeWhile Char.isDigit
  if digits.isEmpty then none else some (digits, t.dropWhile Char.isDigit)

/-- The digits before the point: zero alone, or a run that does not begin with zero. -/
def readWhole? : Text → Option (Text × Text)
  | '0' :: rest => some (['0'], rest)
  | t => readDigits? t

/-- A fraction with its point, if there is one. -/
def readFraction? : Text → Option (Text × Text)
  | '.' :: rest => (readDigits? rest).map fun (digits, rest) => ('.' :: digits, rest)
  | t => some ([], t)

/-- The sign of an exponent, which is plus unless it is written. -/
def readExponentSign : Text → Char × Text
  | '+' :: rest => ('+', rest)
  | '-' :: rest => ('-', rest)
  | rest => ('+', rest)

/-- An exponent, if there is one, written with a small `e` and its sign. -/
def readExponent? : Text → Option (Text × Text)
  | 'e' :: rest | 'E' :: rest =>
    let (sign, rest) := readExponentSign rest
    (readDigits? rest).map fun (digits, rest) => ('e' :: sign :: digits, rest)
  | t => some ([], t)

/-- A numeral without its sign, and what follows it. -/
def readUnsigned? (t : Text) : Option (Text × Text) := do
  let (whole, t) ← readWhole? t
  let (fraction, t) ← readFraction? t
  let (exponent, t) ← readExponent? t
  pure (whole ++ fraction ++ exponent, t)

/-- A numeral, and what follows it. -/
def readNumeral? : Text → Option (Text × Text)
  | '-' :: rest => prepend '-' (readUnsigned? rest)
  | t => readUnsigned? t

theorem readDigits?_length {t d rest : Text} (h : readDigits? t = some (d, rest)) :
    rest.length < t.length := by
  simp only [readDigits?] at h
  split at h
  · simp at h
  · next hd =>
    have key : t.takeWhile Char.isDigit ++ t.dropWhile Char.isDigit = t :=
      List.takeWhile_append_dropWhile
    have hlen := congrArg List.length key
    simp only [Option.some.injEq, Prod.mk.injEq] at h
    obtain ⟨rfl, rfl⟩ := h
    have : 0 < (t.takeWhile Char.isDigit).length := by
      rw [List.length_pos_iff]
      simpa using hd
    simp only [List.length_append] at hlen
    omega

theorem readWhole?_length {t d rest : Text} (h : readWhole? t = some (d, rest)) :
    rest.length < t.length := by
  unfold readWhole? at h
  split at h
  · simp at h; simp [h.2]
  · exact readDigits?_length h

theorem readFraction?_length {t d rest : Text} (h : readFraction? t = some (d, rest)) :
    rest.length ≤ t.length := by
  unfold readFraction? at h
  split at h
  · next r =>
    simp only [Option.map_eq_some_iff] at h
    obtain ⟨⟨d', r'⟩, hr, he⟩ := h
    have := readDigits?_length hr
    simp only [Prod.mk.injEq] at he
    simp only [← he.2, List.length_cons]
    omega
  · simp at h; simp [h.2]

theorem readExponentSign_length (t : Text) : (readExponentSign t).2.length ≤ t.length := by
  unfold readExponentSign
  split <;> simp

theorem readExponent?_length {t d rest : Text} (h : readExponent? t = some (d, rest)) :
    rest.length ≤ t.length := by
  have aux : ∀ r : Text, ((readDigits? (readExponentSign r).2).map fun x : Text × Text =>
      ('e' :: (readExponentSign r).1 :: x.1, x.2)) = some (d, rest) → rest.length ≤ r.length := by
    intro r hr
    simp only [Option.map_eq_some_iff] at hr
    obtain ⟨⟨d', r'⟩, hr, he⟩ := hr
    have h₁ := readDigits?_length hr
    have h₂ := readExponentSign_length r
    simp only [Prod.mk.injEq] at he
    simp only [← he.2]
    omega
  unfold readExponent? at h
  split at h
  · next r => have := aux r h; simp only [List.length_cons]; omega
  · next r => have := aux r h; simp only [List.length_cons]; omega
  · simp at h; simp [h.2]

theorem readUnsigned?_length {t d rest : Text} (h : readUnsigned? t = some (d, rest)) :
    rest.length < t.length := by
  simp only [readUnsigned?, Option.bind_eq_bind, Option.bind_eq_some_iff] at h
  obtain ⟨⟨w, t₁⟩, h₁, ⟨f, t₂⟩, h₂, ⟨e, t₃⟩, h₃, he⟩ := h
  have := readWhole?_length h₁
  have := readFraction?_length h₂
  have := readExponent?_length h₃
  simp only [Option.pure_def, Option.some.injEq, Prod.mk.injEq] at he
  simp only [← he.2]
  simp only at *
  omega

theorem readNumeral?_length {t d rest : Text} (h : readNumeral? t = some (d, rest)) :
    rest.length < t.length := by
  unfold readNumeral? at h
  split at h
  · obtain ⟨_, h⟩ := prepend_eq_some h
    have := readUnsigned?_length h
    simp only [List.length_cons]
    omega
  · exact readUnsigned?_length h

/-! ## Tokens -/

/-- The blanks between tokens. -/
def isSpace (c : Char) : Bool := c == ' ' || c == '\t' || c == '\n' || c == '\r'

/-- The tokens of a text. -/
def Token.readAll? : Text → Option (List Token)
  | [] => some []
  | '[' :: rest => (readAll? rest).map (.openArray :: ·)
  | ']' :: rest => (readAll? rest).map (.closeArray :: ·)
  | '{' :: rest => (readAll? rest).map (.openObject :: ·)
  | '}' :: rest => (readAll? rest).map (.closeObject :: ·)
  | ',' :: rest => (readAll? rest).map (.comma :: ·)
  | ':' :: rest => (readAll? rest).map (.colon :: ·)
  | 'n' :: 'u' :: 'l' :: 'l' :: rest => (readAll? rest).map (.null :: ·)
  | 't' :: 'r' :: 'u' :: 'e' :: rest => (readAll? rest).map (.bool true :: ·)
  | 'f' :: 'a' :: 'l' :: 's' :: 'e' :: rest => (readAll? rest).map (.bool false :: ·)
  | '"' :: rest =>
    match _h : readString? rest with
    | none => none
    | some (text, rest') => (readAll? rest').map (.str text :: ·)
  | c :: rest =>
    if isSpace c then readAll? rest
    else
      match _h : readNumeral? (c :: rest) with
      | none => none
      | some (numeral, rest') => (readAll? rest').map (.num numeral :: ·)
termination_by t => t.length
decreasing_by
  all_goals first
    | (have h := readString?_length _h; simp only [List.length_cons]; omega)
    | exact readNumeral?_length _h
    | (simp only [List.length_cons]; omega)

end HttpExchange.Json
