import HttpExchange.Text.Basic

/-!
# UTF-8

Texts as bytes. Writing is the usual encoding. Reading never fails: the longest
run of bytes that could begin a character, but does not complete it, becomes one
replacement character, and so does every byte that begins none.

The reader is a machine that takes one byte at a time, so it is a recursion on
the bytes.
-/

namespace HttpExchange.Utf8

/-- The bytes of a text. -/
def encode (t : Text) : List UInt8 := t.flatMap String.utf8EncodeChar

/-- What stands for bytes that are no character. -/
def replacement : Char := '\uFFFD'

/-- Where the reader stands between two bytes. -/
inductive State where
  /-- Between characters. -/
  | start
  /-- Inside a character: the bits read so far, the number of bytes after the next one, and the
  least and the greatest value that the next byte may have. -/
  | within (bits left : Nat) (low high : UInt8)

/-- What the reader does with a byte that comes between two characters: the character it is, or
the state it leads to; `none` when no character begins with it. -/
def State.ofLead (b : UInt8) : Option (Char ⊕ State) :=
  let n := b.toNat
  if n < 0x80 then some (.inl (Char.ofNat n))
  else if n < 0xC2 then none
  else if n < 0xE0 then some (.inr (.within (n - 0xC0) 0 0x80 0xBF))
  else if n = 0xE0 then some (.inr (.within 0 1 0xA0 0xBF))
  else if n = 0xED then some (.inr (.within 0xD 1 0x80 0x9F))
  else if n < 0xF0 then some (.inr (.within (n - 0xE0) 1 0x80 0xBF))
  else if n = 0xF0 then some (.inr (.within 0 2 0x90 0xBF))
  else if n < 0xF4 then some (.inr (.within (n - 0xF0) 2 0x80 0xBF))
  else if n = 0xF4 then some (.inr (.within 4 2 0x80 0x8F))
  else none

/-- Takes a byte that comes between two characters. -/
def lead (b : UInt8) : Text × State :=
  match State.ofLead b with
  | some (.inl c) => ([c], .start)
  | some (.inr s) => ([], s)
  | none => ([replacement], .start)

/-- Takes one byte: the characters it completes, and the state after it. -/
def step : State → UInt8 → Text × State
  | .start, b => lead b
  | .within bits left low high, b =>
    if low ≤ b ∧ b ≤ high then
      let bits := bits * 64 + (b.toNat - 0x80)
      match left with
      | 0 => ([Char.ofNat bits], .start)
      | left + 1 => ([], .within bits left 0x80 0xBF)
    else
      let (t, s) := lead b
      (replacement :: t, s)

/-- The text of the bytes that follow a state. -/
def decodeFrom : State → List UInt8 → Text
  | .start, [] => []
  | .within .., [] => [replacement]
  | s, b :: bs => (step s b).1 ++ decodeFrom (step s b).2 bs

/-- The text of some bytes. -/
def decode (bytes : List UInt8) : Text := decodeFrom .start bytes

end HttpExchange.Utf8
