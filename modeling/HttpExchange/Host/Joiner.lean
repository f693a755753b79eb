import HttpExchange.Text.Mark

/-!
# Joiners

Two characters without width decide whether their neighbours are joined. In a
name they are allowed only where they make a difference: after a virama, and the
one that separates also between two characters that would be joined without it.
-/

namespace HttpExchange.Host

/-- The character that joins its neighbours. -/
def joiner : Char := '\u200D'

/-- The character that keeps its neighbours apart. -/
def nonJoiner : Char := '\u200C'

/-- How characters are joined: 1 on the right side, 2 on the left side, 3 on both. -/
def joinings : CharTable (Nat × Nat) := .ofRuns [
  "620 0 3 2 3 1 1 0 3 1 0 1 1 0 3 1 0 1 1 4 3 1 3 1 1 c 3 2 6 3 1 0 1 1 1 3 24 1 3 2 2 1 6 e 3",
  "1 11 1 1 25 3 1 0 1 1 1 3 1 8 1 1 0 3 1 0 1 1 0 3 1 0 1 1 1 3 1 1 1 2 0 1 19 1 1 b 2 3 3 0 3",
  "11 0 1 2 2 3 1 4 1 1 3 3 1 0 1 1 8 3 1 0 1 1 0 3 1 0 1 1 0 3 1 0 1 1 1 3 1 1e 1 1 a 3 1 2 1",
  "1 e 3 1 1 1 1 3 3 1 0 1 1 0 3 1 1 1 1 2 3 1 1 1 1 5 3 4b 20 3 56 0 1 1 4 3 1 1 1 1 0 3 1 0 1",
  "1 9 3 1 0 1 1 0 3 1 2 1 8 0 3 2 3 3 2 0 1 1 0 3 1 19 1 4 0 3 3 4 3 1 0 1 1 1a 3 1 2 1 2 0 1",
  "1 1 3 1 1 1 1 5 3 1 0 1 1 e 3 f3f 0 3 19 58 3 f 23 3 8f96 31 3 1 0 2 624e 4 3 1 0 1 2 0 1 2",
  "1 1 3 0 2 1 4 1 1 3 3 1 0 2 1 4 3 1 0 1 1 2 3 1 0 1 3 0 1 7 3 3 1 0 1 91 0 3 1 0 1 1 0 3 1 2",
  "1 1 2 3 1 0 1 1 1 3 1 0 1 1 0 3 1 1 1 1 0 3 1 0 1 18 3 1 1 1 3 152 0 2 1 20 3 1 0 1 1 0 3",
  "19f 0 1 1 1 3 2 1 3 69 2 3 1 0 1 1 10 3 d 2 3 1 0 1 1c 3 3 1 1 1 1 b 3 2f 0 3 2 1 3 1 2 1 2",
  "0 3 1 1 1 1 1 3 1 0 1 1 1 3 2 0 3 1 1 1 1 0 3 5 0 1 1 0 3 1 0 2 d957 21 3"]

/-- Whether a character has no part in joining, so that its neighbours are joined across it. -/
def isTransparent (c : Char) : Bool := Text.isNonspacing c || c.toNat == 0x1E94B

/-- Whether the first character that takes part in joining is joined in one of some ways. -/
def isJoined (ways : List Nat) : Text → Bool
  | [] => false
  | c :: rest =>
    match joinings.run? c with
    | some (_, way) => ways.contains way
    | none => isTransparent c && isJoined ways rest

/-- Whether a text, given from its end, ends with a virama. -/
def endsInVirama (before : Text) : Bool := before.head?.any fun c => Text.combiningClass c == 9

/-- Whether a character may stand between what comes before it, given from its end, and what comes
after it. -/
def mayStand (before : Text) (c : Char) (after : Text) : Bool :=
  if c = joiner then endsInVirama before
  else if c = nonJoiner then
    endsInVirama before || (isJoined [2, 3] before && isJoined [1, 3] after)
  else true

/-- Whether all joiners after a text, given from its end, are allowed. -/
def joinersAllowed (before : Text) : Text → Bool
  | [] => true
  | c :: after => mayStand before c after && joinersAllowed (c :: before) after

end HttpExchange.Host
