import HttpExchange.Json.Token
import HttpExchange.Xml.Prolog

/-!
# References

What an ampersand and a semicolon enclose: the number of a character, one of
five predefined names, or the name of an entity. A text is taken apart into the
characters that are written, the characters that are referred to, and the texts
of the entities that are referred to.
-/

namespace HttpExchange.Xml

/-- A piece of a text with references. -/
inductive Piece where
  /-- A character that stands for itself. -/
  | written (c : Char)
  /-- A character that is referred to. -/
  | referred (c : Char)
  /-- An entity that is referred to, by its text. -/
  | entity (t : Text)
  deriving DecidableEq, Repr

/-- The number of a character, within 32 bits. -/
def codePoint? (base : Nat) (value? : Char → Option Nat) (digits : Text) : Option Nat :=
  if digits.isEmpty then none
  else (digits.mapM value?).bind fun values =>
    let n := values.foldl (fun n d => n * base + d) 0
    if n < 0x100000000 then some n else none

/-- The character of a number. A number that is no character's stands for the replacement
character. -/
def charOfNumber? (n : Nat) : Option Char :=
  let c := if n.isValidChar then Char.ofNat n else '\uFFFD'
  if isChar c then some c else none

/-- The value of a decimal digit. -/
def decimalValue? (c : Char) : Option Nat :=
  if c.isDigit then some (c.toNat - '0'.toNat) else none

/-- The characters with predefined names. -/
def predefined : List (String × Char) :=
  [("quot", '"'), ("amp", '&'), ("apos", '\''), ("lt", '<'), ("gt", '>')]

/-- The text of an entity: what its first declaration says. -/
def Entities.text? (entities : Entities) (name : Text) : Option Text := Assoc.get? name entities

/-- What a reference stands for, given what is between its ampersand and its semicolon. -/
def Piece.ofReference? (entities : Entities) : Text → Option Piece
  | '#' :: 'x' :: digits =>
    ((codePoint? 16 Json.hexValue? digits).bind charOfNumber?).map .referred
  | '#' :: digits => ((codePoint? 10 decimalValue? digits).bind charOfNumber?).map .referred
  | name =>
    match predefined.find? (·.1.toList == name) with
    | some (_, c) => some (.referred c)
    | none => if isName name then (entities.text? name).map .entity else none

/-- The pieces of a text. -/
def Piece.readAll? (entities : Entities) : Text → Option (List Piece)
  | [] => some []
  | '&' :: rest =>
    match _h : Text.splitFirst ';' rest with
    | none => none
    | some (name, rest') => do
      let piece ← Piece.ofReference? entities name
      let pieces ← readAll? entities rest'
      some (piece :: pieces)
  | c :: rest => (readAll? entities rest).map (.written c :: ·)
termination_by t => t.length
decreasing_by
  · have := congrArg List.length (Text.eq_of_splitFirst _h)
    simp only [List.length_append, List.length_cons] at this ⊢
    omega
  · simp

end HttpExchange.Xml
