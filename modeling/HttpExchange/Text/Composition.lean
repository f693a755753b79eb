import HttpExchange.Text.Decomposition
import HttpExchange.Text.Mark

/-!
# Composition

Texts that look the same can be different sequences. The composed form is the
same for all of them: the characters are decomposed, the marks are brought into
the order of their classes, and what has a composite is put together again.
-/

namespace HttpExchange.Text

/-- Puts a character in front of a text whose marks are in order. A mark goes behind the marks of
lower classes. -/
def insertMark (c : Char) : Text → Text
  | [] => [c]
  | d :: t =>
    if 0 < combiningClass d ∧ combiningClass d < combiningClass c then d :: insertMark c t
    else c :: d :: t

/-- Brings the marks into the order of their classes. -/
def orderMarks (t : Text) : Text := t.foldr insertMark []

/-- Whether a mark, the first of those in between, keeps a character from the one it belongs to. -/
def isBlocked (between : Text) (c : Char) : Bool :=
  match between with
  | [] => false
  | m :: _ => combiningClass c ≤ combiningClass m

/-- Puts together what has a composite. The text follows a character and, last one first, the marks
that stay apart from it. -/
def composeAfter (first : Char) (between : Text) : Text → Text
  | [] => first :: between.reverse
  | c :: rest =>
    match if isBlocked between c then none else composite? first c with
    | some composite => composeAfter composite between rest
    | none =>
      if combiningClass c = 0 then first :: between.reverse ++ composeAfter c [] rest
      else composeAfter first (c :: between) rest

/-- Puts together what has a composite. Marks at the beginning belong to nothing. -/
def compose : Text → Text
  | [] => []
  | c :: rest => if combiningClass c = 0 then composeAfter c [] rest else c :: compose rest

/-- The composed form of a text. -/
def composed (t : Text) : Text := compose (orderMarks (t.flatMap decompose))

end HttpExchange.Text
