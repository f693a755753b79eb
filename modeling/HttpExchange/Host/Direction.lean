import HttpExchange.Text.Mark

/-!
# The direction of writing

Some scripts run from right to left. Where a name has characters of such a
script, every label has to be one that keeps its characters together when it is
shown: it runs in one direction, and it begins and ends with characters that
have a direction or are numbers.

## Main definitions

- `Direction.of`: the direction of a character.
- `Direction.allows`: whether the labels of a name can be shown.
-/

namespace HttpExchange.Host

/-- How a character takes part in the direction of a text. -/
inductive Direction where
  | leftToRight | rightToLeft | arabicNumber | europeanNumber
  /-- A symbol that goes along with its surroundings. -/
  | neutral
  /-- A mark on the character before it. -/
  | nonspacing
  deriving DecidableEq, Repr

namespace Direction

/-- The characters that do not run from left to right, marks aside. The values stand for the
directions in their order. -/
def others : CharTable (Nat × Nat) := .ofRuns [
  "0 2f 4 1 9 3 1 26 4 1b 5c 4 20 0 4 1c2 1 4 8 d 4 3 1b 4 2 10 4 76 0 4 81 0 4 194 5 4 2f 36 1",
  "12 1 4 1 0 1 1 1 4 1 0 1 1 0 4 1 0 1 1 1 4 c 2f 1 16 9 2 1 0 4 1 1 2 1 68 1 9 0 4 7 1 1 3 0",
  "4 5 1 1 1 9 3 1 fb 1 1 3 4 1 cf 1 129 1 4 8 0 4 f6 0 4 102 7 4 7e 6 4 1c1 0 4 fb 3 4 453 9 4",
  "67 0 4 29b 1 4 13f 0 4 15 1a 4 136 5 4 99 21 4 14f 1 4 30 0 4 48d 141 4 3d 1ab 4 46 19 4 2",
  "315 4 2 152 4 101 2ff 4 e6 5 4 f 6 4 101 204 4 4 18 4 10 0 4 7 0 4 6 2 4 61 0 4 5b 0 4 c5 25",
  "4 1bdb 3f 4 5691 36 4 147 2 4 64 c 4 81 21 4 67 0 4 a0 3 4 d 1 4 3b 3 4 2f3 1 4 5047 10 1 1",
  "283 4 2d 0 1 28e 0 4 3f 4c 4 4 10 4 141 1a 3 505 11b 1 4 0 4 1 215 1 4 6 4 1 1e3 1 d 9 2 7 f",
  "1 1f 0 4 1 16 1 9 1 4 d1 1e 2 2 47 1 9 8 4 28 f6 1 5c 13 4 36f 4 4 288 c 4 575 0 4 3f4 1c 4",
  "4d7c 2 4 273 0 4 5c1e 2f0 4 2f9 5c 4 bb 56 4 fa9 0 4 300 0 4 201 53d 1 1b3 23f 4 3e 2 4 3e 0",
  "4 b3 99a 4"]

/-- The direction of a character. -/
def of (c : Char) : Direction :=
  if Text.isNonspacing c then .nonspacing
  else match (others.run? c).map Prod.snd with
    | some 1 => .rightToLeft
    | some 2 => .arabicNumber
    | some 3 => .europeanNumber
    | some 4 => .neutral
    | _ => .leftToRight

/-- Whether what follows the first character of a label can run from left to right. -/
def allowsLeftToRight (rest : List Direction) : Bool :=
  rest.all (fun d => d != .rightToLeft && d != .arabicNumber) &&
    (rest.reverse.find? (· != .nonspacing)).all fun d => d == .leftToRight || d == .europeanNumber

/-- Whether what follows the first character of a label can run from right to left. -/
def allowsRightToLeft (rest : List Direction) : Bool :=
  !rest.contains .leftToRight && !(rest.contains .arabicNumber && rest.contains .europeanNumber) &&
    (rest.reverse.find? (· != .nonspacing)).all (· != .neutral)

/-- Whether a label can be shown. -/
def allowsLabel (label : Text) : Bool :=
  match label.map of with
  | [] => true
  | .leftToRight :: rest => allowsLeftToRight rest
  | .rightToLeft :: rest => allowsRightToLeft rest
  | _ => false

/-- Whether a text runs from right to left somewhere. -/
def turns (t : Text) : Bool :=
  !t.all fun c => c.toNat < 128 || (of c != .rightToLeft && of c != .arabicNumber)

/-- Whether the labels of a name can be shown. -/
def allows (labels : List Text) : Bool := !labels.any turns || labels.all allowsLabel

end Direction

end HttpExchange.Host
