import HttpExchange.Text.Blank

/-!
# Tables of characters

Properties of characters that no rule describes are kept as tables: entries in
ascending order, each of which holds from its first character on. The tables are
written as words of hexadecimal digits, in which every place is given by its
distance from the place before.

## Main definitions

- `CharTable.floor?`: the entry that holds for a character, by bisection.
- `CharTable.ofRanges`, `CharTable.covers`: sets of characters as ranges.
- `CharTable.ofRuns`, `CharTable.run?`: runs of characters with a value.
- `CharTable.ofSequences`, `CharTable.valueAt?`: single characters with a text.
-/

namespace HttpExchange

/-- Entries by the first character they hold for, in ascending order. -/
abbrev CharTable (α : Type) := Array (Nat × α)

namespace CharTable

variable {α : Type}

/-- The last of the entries from `low` up to `high` that begins at or before `n`. Every step halves
the entries that are left. -/
def bisect (table : CharTable α) (n : Nat) : (steps low high : Nat) → Option (Nat × α)
  | 0, _, _ => none
  | steps + 1, low, high =>
    if high ≤ low then none
    else
      let middle := (low + high) / 2
      match table[middle]? with
      | none => none
      | some entry =>
        if n < entry.1 then bisect table n steps low middle
        else
          match bisect table n steps (middle + 1) high with
          | some later => some later
          | none => some entry

/-- The last entry that begins at or before `n`. -/
def floor? (table : CharTable α) (n : Nat) : Option (Nat × α) :=
  bisect table n (table.size.log2 + 2) 0 table.size

/-! ## Written tables -/

/-- The number that hexadecimal digits denote. -/
def hexNumber (digits : Text) : Nat :=
  digits.foldl (fun n c =>
    n * 16 + (if c.isDigit then c.toNat - '0'.toNat else c.toNat - 'a'.toNat + 10)) 0

/-- The numbers of some lines. -/
def numbers (lines : List String) : List Nat :=
  lines.flatMap fun line => (Text.words line.toList).map hexNumber

/-- The ranges of pairs of numbers: the distance from the range before to the first character, and
the distance from there to the last. -/
def rangesFrom (place : Nat) : List Nat → List (Nat × Nat)
  | gap :: span :: rest =>
    let first := place + gap
    (first, first + span) :: rangesFrom (first + span) rest
  | _ => []

/-- A set of characters that is written as ranges. -/
def ofRanges (lines : List String) : CharTable Nat := (rangesFrom 0 (numbers lines)).toArray

/-- Whether a set of characters holds a character. -/
def covers (table : CharTable Nat) (c : Char) : Bool :=
  match table.floor? c.toNat with
  | some (_, last) => c.toNat ≤ last
  | none => false

/-- The runs of triples of numbers: the distance from the run before to the first character, the
distance from there to the last, and the value of the run. -/
def runsFrom (place : Nat) : List Nat → List (Nat × Nat × Nat)
  | gap :: span :: value :: rest =>
    let first := place + gap
    (first, first + span, value) :: runsFrom (first + span) rest
  | _ => []

/-- Runs of characters, each with its last character and its value. -/
def ofRuns (lines : List String) : CharTable (Nat × Nat) := (runsFrom 0 (numbers lines)).toArray

/-- The run that holds a character: the distance from its first character, and its value. -/
def run? (table : CharTable (Nat × Nat)) (c : Char) : Option (Nat × Nat) :=
  (table.floor? c.toNat).bind fun (first, last, value) =>
    if c.toNat ≤ last then some (c.toNat - first, value) else none

/-- Single characters with their texts. What is still to be read of a text is `left` characters,
and `text` holds those before them. -/
def sequencesFrom (place : Nat) : (left : Nat) → (text : Text) → List Nat → List (Nat × Text)
  | left + 1, text, n :: rest =>
    let text := text ++ [Char.ofNat n]
    if left = 0 then (place, text) :: sequencesFrom place 0 [] rest
    else sequencesFrom place left text rest
  | 0, _, gap :: count :: rest => sequencesFrom (place + gap) count [] rest
  | _, _, _ => []

/-- Single characters with their texts: the distance from the character before, the length of the
text, and its characters. -/
def ofSequences (lines : List String) : CharTable Text :=
  (sequencesFrom 0 0 [] (numbers lines)).toArray

/-- The value of exactly one number. -/
def valueAt? (table : CharTable α) (n : Nat) : Option α :=
  (table.floor? n).bind fun (first, a) => if first = n then some a else none

end CharTable

end HttpExchange
