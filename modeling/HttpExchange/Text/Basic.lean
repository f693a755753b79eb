/-!
# Text

Every text of the library is the list of its characters, so that the readers
and writers of the other modules are recursions on lists. A `String` stands in
for a text wherever one is expected, which keeps literals readable.

## Main definitions

- `Text`: a list of characters.
- `Text.splitFirst`, `Text.splitLast`, `Text.splitOn`, `Text.cut`: the ways a
  text is taken apart at a character or at a phrase.
- `Text.lines`: the lines of a text, each with the line feed that ends it.
- `Text.utf8Size`: the length of a text on the wire.
-/

namespace HttpExchange

/-- A text is the list of its characters. -/
abbrev Text := List Char

/-- A string literal reads as the text it spells. -/
instance : Coe String Text := ⟨String.toList⟩

namespace Text

/-! ## Case -/

/-- The text with the letters `A` to `Z` in lower case. -/
def lower (t : Text) : Text := t.map Char.toLower

/-- The text with the letters `a` to `z` in upper case. -/
def upper (t : Text) : Text := t.map Char.toUpper

/-- Whether two texts differ at most in the case of ASCII letters. -/
def eqIgnoreCase (s t : Text) : Bool := lower s == lower t

/-! ## Ends of a text -/

/-- Whether `t` begins with `p`. -/
def startsWith (t p : Text) : Bool := p.isPrefixOf t

/-- Whether `t` ends with `p`. -/
def endsWith (t p : Text) : Bool := p.isSuffixOf t

/-- What follows `p` at the beginning of a text. -/
def afterPrefix? : (p t : Text) → Option Text
  | [], t => some t
  | _ :: _, [] => none
  | p :: ps, c :: cs => if p = c then afterPrefix? ps cs else none

/-- The text without the characters at its end that satisfy `p`. -/
def dropEndWhile (p : Char → Bool) (t : Text) : Text :=
  (t.reverse.dropWhile p).reverse

/-- The text without the characters at either end that satisfy `p`. -/
def stripWhile (p : Char → Bool) (t : Text) : Text :=
  dropEndWhile p (t.dropWhile p)

/-- The text without the double quotes at its ends. -/
def unquote (t : Text) : Text := stripWhile (· == '"') t

/-! ## Taking a text apart -/

/-- What precedes and what follows the first `sep`. -/
def splitFirst (sep : Char) : Text → Option (Text × Text)
  | [] => none
  | c :: cs =>
    if c = sep then some ([], cs)
    else (splitFirst sep cs).map fun (a, b) => (c :: a, b)

theorem eq_of_splitFirst {sep : Char} {t a b : Text} (h : splitFirst sep t = some (a, b)) :
    t = a ++ sep :: b := by
  induction t generalizing a with
  | nil => simp [splitFirst] at h
  | cons c cs ih =>
    simp only [splitFirst] at h
    split at h
    · next hc => simp_all
    · simp only [Option.map_eq_some_iff, Prod.mk.injEq] at h
      obtain ⟨⟨a', b'⟩, hs, rfl, rfl⟩ := h
      simp [ih hs]

/-- What precedes and what follows the last `sep`. -/
def splitLast (sep : Char) : Text → Option (Text × Text)
  | [] => none
  | c :: cs =>
    match splitLast sep cs with
    | some (a, b) => some (c :: a, b)
    | none => if c = sep then some ([], cs) else none

/-- The pieces between the characters that satisfy `p`; there is always one. -/
def splitWhere (p : Char → Bool) : Text → List Text
  | [] => [[]]
  | c :: cs =>
    if p c then [] :: splitWhere p cs
    else (splitWhere p cs).modifyHead (c :: ·)

/-- The pieces between the separators; there is always one. -/
def splitOn (sep : Char) (t : Text) : List Text := splitWhere (· == sep) t

/-- What precedes and what follows the first occurrence of a phrase. -/
def cut (phrase : Text) : Text → Option (Text × Text)
  | [] => if phrase.isEmpty then some ([], []) else none
  | c :: cs =>
    match afterPrefix? phrase (c :: cs) with
    | some rest => some ([], rest)
    | none => (cut phrase cs).map fun (a, b) => (c :: a, b)

/-- Whether a phrase occurs in a text. -/
def hasPhrase (t phrase : Text) : Bool := (cut phrase t).isSome

/-- The lines of a text, each with the line feed that ends it. -/
def lines : Text → List Text
  | [] => []
  | c :: cs =>
    if c = '\n' then ['\n'] :: lines cs
    else match lines cs with
      | [] => [[c]]
      | l :: ls => (c :: l) :: ls

/-! ## Putting texts together -/

/-- The texts one after the other, with `sep` between neighbours. -/
def joinWith (sep : Text) : List Text → Text
  | [] => []
  | [t] => t
  | t :: u :: ts => t ++ sep ++ joinWith sep (u :: ts)

/-! ## Size -/

/-- The number of bytes of the text in UTF-8. -/
def utf8Size (t : Text) : Nat := t.foldl (fun n c => n + c.utf8Size) 0

/-- The longest beginning of at most `n` bytes, when a character ends exactly at byte `n`. -/
def takeBytes? : (n : Nat) → Text → Option Text
  | 0, _ => some []
  | _ + 1, [] => none
  | n + 1, c :: cs =>
    if c.utf8Size ≤ n + 1 then (takeBytes? (n + 1 - c.utf8Size) cs).map (c :: ·) else none
termination_by _ t => t.length

end Text

end HttpExchange
