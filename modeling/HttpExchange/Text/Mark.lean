import HttpExchange.Text.CharTable

/-!
# Marks

Marks belong to the character before them. Each has a combining class: marks of
different classes do not interact, so that their order has no meaning. Some marks
take up space of their own.

## Main definitions

- `Text.isMark`, `Text.isNonspacing`: whether a character is a mark.
- `Text.combiningClass`: its class; that of a character that begins anew is zero.
-/

namespace HttpExchange.Text

/-- The marks. The value is twice the combining class, and one more when the mark takes no space
of its own. -/
def marks : CharTable (Nat × Nat) := .ofRuns [
  "300 14 1cd 1 0 1d1 1 3 1b9 1 0 1d1 1 0 1b1 1 4 1b9 1 1 195 1 3 1b9 1 1 195 1 a 1b9 1 4 3 1 3",
  "1b9 1 2 1cd 1 1 1 1 0 1cd 1 1 1 1 0 1e1 1 0 1cd 1 2 1b9 1 2 1cd 1 1 1b9 1 0 1 1 2 1cd 1 3",
  "1b9 1 0 1cd 1 0 1d1 1 1 1b9 1 0 1cd 1 0 1d3 1 1 1d5 1 0 1d3 1 1 1d5 1 0 1d3 1 c 1cd 114 4",
  "1cd 1 1 1 108 0 1b9 1 3 1cd 1 0 1b9 1 2 1cd 1 0 1bd 1 0 1b9 1 5 1cd 1 5 1b9 1 1 1cd 1 0 1b9",
  "1 1 1cd 1 0 1bd 1 0 1c9 1 0 1cd 1 0 15 1 0 17 1 0 19 1 0 1b 1 0 1d 1 0 1f 1 0 21 1 0 23 1 0",
  "25 1 1 27 1 0 29 1 0 2b 1 0 2d 2 0 2f 2 0 31 1 0 33 2 0 1cd 1 0 1b9 2 0 25 49 7 1cd 1 0 3d 1",
  "0 3f 1 0 41 31 0 37 1 0 39 1 0 3b 1 0 3d 1 0 3f 1 0 41 1 0 43 1 0 45 1 1 1cd 1 1 1b9 1 4 1cd",
  "1 0 1b9 1 1 1cd 1 0 1b9 11 0 47 66 6 1cd 3 3 1cd 1 0 1b9 1 0 1cd 3 1 1cd 2 0 1b9 1 1 1cd 1 0",
  "1b9 24 0 49 1f 0 1cd 1 0 1b9 1 1 1cd 1 0 1b9 1 1 1cd 1 2 1b9 1 0 1cd 1 1 1b9 1 0 1cd 1 0 1b9",
  "1 2 1cd 1 0 1b9 1 0 1cd 1 0 1b9 1 0 1cd 1 0 1b9 1 0 1cd 1 0 1b9 1 1 1cd 5c a 1 3b 6 1cd 1 0",
  "1b9 1 0 1cd a 0 1b9 19 3 1cd 2 8 1cd 2 2 1cd 2 4 1cd 2c 2 1b9 3c 1 1cd 1 2 1b9 1 3 1cd 2b 4",
  "1cd 1 4 1b9 1 d 1cd 2 0 1b9 1 1 1cd 1 0 1b9 1 1 1cd 1 0 1b9 1 2 1cd 1 2 1b9 1 0 37 1 0 39 1",
  "0 3b 1 2 1cd 1 0 1b9 1 1 1cd 1 1 1b9 1 4 1cd 1 2 1 1 0 0 37 0 1 1 0 0 1 0 f 2 2 0 1 7 1 1 3",
  "0 1 0 13 1 1 0 2 0 1cd 1 0 1b9 1 1 1cd 1 2 1 b 1 1 1e 0 1 1 1 0 39 0 f 2 2 0 1 3 1 3 5 0 1 0",
  "13 a 0 0 b 1 1 1b 0 1cd 3 1 1 1 0 0 39 0 f 2 2 0 1 b 1 1 0 13 4 0 1 1f 1 1 4 0 1 c 1 1 1 0 0",
  "39 0 f 2 2 0 1 7 1 1 3 0 1 0 13 15 1 1 17 7 1 1 1 0 39 0 f 2 0 0 1 0 1 1 0 0 1 3 1 3 5 0 1 0",
  "13 8 1 1 1 0 0 b 1 1 1f 0 1 3c 1 0 1 0 1 1 b 0 1 0 13 a 0 0 29 0 1 1 2 0 1 0 1 38 0 f 2 2 1",
  "1 3 0 2 6 1 1 0 13 8 0 a9 1 0 b7 c 1 1 1e 0 1 1 1 0 39 0 f 2 0 0 1 0 1 1 4 0 2 0 1 1 4 0 1 0",
  "1 1 0 13 8 1 0 c 1 1 10 0 0 d 1 1 1 1 0 38 1 13 2 2 0 1 3 1 2 6 0 1 0 13 a 0 0 b 1 1 1e 0 1",
  "1 1 0 47 0 13 5 2 0 1 4 1 2 7 0 13 1 0 3e 0 1 3 3 1 1 1 cf 1 0 13 d 0 1 1 3 d7 1 2 1 63 0 1",
  "3 3 1 1 1 ed 1 0 13 1 1 1 c 3 f5 1 2 1 4a 1 1b9 1c 0 1b9 2 0 1b9 2 0 1b1 5 1 0 32 0 103 1 0",
  "105 1 0 1 1 0 109 1 4 1 1 3 105 1 0 1 1 0 0 1 0 105 1 0 1 1 1 1cd 1 0 13 2 1 1cd 6 2f 1 a 0",
  "1b9 65 1 0 1 3 1 1 0 0 1 4 1 1 0 f 1 0 0 1 1 13 1 1 0 1 1 1 18 1 0 1 1 1 5 2 1 2 2 0 3 6 0 4",
  "3 1 e 0 1 1 1 0 1 1 1 1 5 0 1 0 1b9 2 0 0 b 2 0 1 0 1 2c0 2 1cd 3b3 1 1 1 0 13 1 0 12 1d 1 1",
  "1 0 12 1e 1 1 1f 1 1 41 1 1 1 0 0 1 6 1 1 7 0 1 0 1 1 1 0 1 8 1 1 0 13 1 0 1 a 0 1cd 2e 2 1",
  "2 0 1 76 1 1 23 0 1c9 77 2 1 1 3 0 1 1 1 1 8 0 1 0 1 1 5 0 1 0 1bd 1 0 1cd 1 0 1b9 dc 0 1cd",
  "1 0 1b9 1 1 0 1 0 1 3a 0 0 1 0 1 1 0 0 1 6 1 2 0 13 1 0 0 1 0 1 1 1 0 1 7 1 1 5 0 1 1 1 1 7",
  "1cd 3 0 1b9 31 4 1cd 1 5 1b9 1 1 1cd 1 0 1b9 1 0 1 1 1 1b9 1 1 1cd 1 1 1b9 1 4 1cd 1 0 1b9 1",
  "11 1cd 1 0 1b9 3 5 1cd 1 0 1b9 1 3 1cd 1 0 1d5 15 3 1 1 0 0 30 0 f 1 0 0 1 4 1 1 0 0 1 0 1 1",
  "4 0 1 0 1 1 0 0 1 0 12 27 0 1cd 1 0 1b9 1 6 1cd d 1 1 1 0 0 1f 0 0 1 3 1 1 1 0 1 1 1 1 0 12",
  "1 0 13 1 1 1 39 0 f 1 0 0 1 1 1 1 2 0 1 0 1 1 0 0 1 2 1 1 1 12 31 7 0 1 7 1 1 1 0 1 0 1 1 0",
  "f 99 2 1cd 2 0 3 1 4 1b9 1 1 1cd 1 3 1b9 1 0 1cd 1 0 0 1 6 3 5 0 1b9 7 0 1cd 3 0 0 1 1 1cd",
  "c7 1 1cd 1 0 1b9 1 6 1cd 1 0 1b9 1 1 1cd 1 0 1d5 1 0 1ad 1 0 1b9 1 0 195 1 24 1cd 1 0 1d1 1",
  "1 1c9 1 0 1b9 1 0 1b5 1 0 1cd 1 0 1d3 1 0 1b9 1 0 1cd 1 0 1b9 2d1 1 1cd 1 1 3 1 3 1cd 1 2 3",
  "1 1 1cd 1 3 1 1 0 1cd 1 2 1 1 1 3 1 0 1cd 1 0 1b9 1 0 1cd 1 1 3 1 3 1b9 1 0 1cd bff 2 1cd 8e",
  "0 13 61 1f 1cd 22b 0 1b5 1 0 1c9 1 0 1d1 1 0 1bd 1 1 1c0 6a 1 11 75d5 0 1cd 1 2 1 2 9 1cd 21",
  "1 1cd 51 1 1cd 111 0 1 4 0 13 5 0 1 18 1 0 1 1 1 1 0 0 5 0 13 54 1 0 33 f 0 1 0 13 1 0 1 1b",
  "11 1cd e 0 1 27 4 1 1 2 1b9 1a a 1 1 0 0 1 0 12 2d 2 1 1 0 0 30 0 f 1 1 0 1 3 1 1 1 0 1 1 1",
  "1 1 0 1 0 12 25 0 1 44 5 1 1 1 0 1 1 1 1 1 0 1 1 1 d 0 1 9 0 1 1 0 0 2e 0 0 1 0 1 1 0 0 33 0",
  "1cd 2 1 1cd 1 0 1b9 3 1 1cd 6 1 1cd 2 0 1cd 2a 0 0 1 1 1 1 1 0 6 0 0 1 0 13 ed 1 0 1 0 1 1 1",
  "0 1 0 1 1 1 0 2 0 0 1 0 13 4f31 0 35 2e2 f 1 11 6 1cd 1 6 1b9 1 1 1cd 3ce 0 1b9 e3 0 1b9 96",
  "4 1cd 687 b 1 1 0 1b9 1 0 1 1 0 1cd 29 0 1cd 1 0 3 1 0 1b9 5 0 13 a6 0 1cd 1 0 1b9 23e 3 1cd",
  "42 4 1cd 13e 1 1cd 4e 1 1b9 1 0 1 1 2 1b9 47 1 1b9 1 2 1cd 1 0 1b9 1 0 1cd 1 3 1b9 32 0 1cd",
  "1 0 1b9 1 0 1cd 1 0 1b9 7b 0 0 1 0 1 1 0 0 36 d 1 1 0 13 2a 0 13 3 1 1 b 0 13 1 1 1 1 0 0 2e",
  "2 0 1 3 1 1 1 0 1 0 13 1 0 f 8 0 1 3e 2 1cd 25 4 1 1 0 0 1 5 1 1 1 13 11 1 0 2d 0 f d 1 1 1",
  "0 0 31 2 0 1 8 1 1 0 0 1 0 12 9 0 1 1 0 f 1 1 1 2 0 0 1 0 1 5d 2 0 1 2 1 1 1 0 1 0 1 1 0 12",
  "1 0 f 1 0 1 7 0 1 3 0 1 9e 0 1 1 2 0 1 5 1 1 0 f 1 0 13 16 1 1 1 1 0 38 1 f 2 1 0 1 0 1 1 b",
  "0 1 0 12 a 0 0 b 1 0 3 e 1cd 44 2 0 1 5 1 2 b 0 1 0 13 1 0 12 1 0 13 2 0 1 f 1 1 53 2 0 1 7",
  "1 1 1 0 1 0 13 1 1 1 1 0 0 1 0 f 18 0 1cd 52 2 0 1 5 1 1 0 0 1 0 1 1 3 0 1 1 1 1 0 0 1 0 13",
  "1 0 f ec 2 0 1 3 1 3 3 0 1 1 1 1 0 0 1 0 13 1 0 f 1c 1 1 53 2 0 1 7 1 1 1 0 1 0 1 1 0 0 1 0",
  "13 1 0 1 6b 0 1 1 0 0 1 0 1 1 1 0 1 5 1 1 0 12 1 0 f 66 0 1 1 0 0 1 0 1 1 1 0 1 3 1 1 0 0 1",
  "3 1 1 0 13 101 2 0 1 8 1 1 0 0 1 0 13 1 0 f f6 8 0 3 1 1 1 0 12 1 0 13 2 0 0 2 0 0 1 0 f 8e",
  "2 0 1 7 1 1 3 0 1 0 13 4 0 0 1d 9 1 29 0 1 1 0 13 1 3 1 1 0 0 2 3 1 9 0 13 a 5 1 1 1 0 1 2 1",
  "2f c 1 1 0 0 1 0 1 1 0 13 c7 0 1 1 0 0 1 2 1 1 0 0 1 0 1 1 0 0 c8 0 0 1 d 1 1 0 0 1 0 13 53",
  "15 1 2 0 0 1 6 1 1 0 0 1 1 1 1 0 0 1 1 1 7b 10 1 1 0 f 1 0 1 1 1 13 2 0 1 43 4 0 2 1 1 2 1 0",
  "1 0 1 1 0 0 1 0 13 15c 1 1 1 1 0 a 1 1 2 0 0 31 1 0 1 4 1 4 1 0 1 0 1 1 0 12 1 0 13 18 0 1",
  "14e6 0 1 7 e 1 2cc9 b 1 1 2 0 1 1 1 1 0 13 9c1 4 3 3c 6 1cd 419 0 1 2 36 0 8 3 1 52 0 1 c 1",
  "c 4cac 0 1 1 0 3 1262 46 1 21f 1 1b0 1 2 3 4 0 1c4 1 4 1b0 9 7 1b9 3 4 1cd 1 1 1b9 1f 3 1cd",
  "95 2 1cd 7bc 36 1 5 31 1 9 0 1 f 0 1 17 14 1 551 2a 1cd 65 0 1cd a1 6 1cd 178 0 1cd 3e 3 1cd",
  "1fd 1 1d1 1 0 1b9 1 0 1cd ff 0 1cd 1 0 1b9 f4 0 1cd 3 0 1cd 8 1 1cd 6 0 1cd 1db 6 1b9 6e 5",
  "1cd 1 0 f c17b6 ef 1"]

/-- Whether a character is a mark. -/
def isMark (c : Char) : Bool := (marks.run? c).isSome

/-- Whether a character is a mark without space of its own. -/
def isNonspacing (c : Char) : Bool := (marks.run? c).any fun (_, value) => value % 2 == 1

/-- The combining class of a character. -/
def combiningClass (c : Char) : Nat :=
  match marks.run? c with
  | some (_, value) => value / 2
  | none => 0

end HttpExchange.Text
