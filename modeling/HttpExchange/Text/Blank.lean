import HttpExchange.Text.Basic

/-!
# Blanks

The characters that count as blank, and what is done at them. Blank means the
Unicode property White_Space, not only the ASCII blanks.
-/

namespace HttpExchange.Text

/-- The characters with the Unicode property White_Space. -/
def isBlank (c : Char) : Bool :=
  let n := c.toNat
  (0x9 ≤ n && n ≤ 0xD) || n == 0x20 || n == 0x85 || n == 0xA0 || n == 0x1680 ||
    (0x2000 ≤ n && n ≤ 0x200A) || n == 0x2028 || n == 0x2029 || n == 0x202F ||
    n == 0x205F || n == 0x3000

/-- The text without the blanks before it. -/
def trimStart (t : Text) : Text := t.dropWhile isBlank

/-- The text without the blanks after it. -/
def trimEnd (t : Text) : Text := dropEndWhile isBlank t

/-- The text without the blanks around it. -/
def trim (t : Text) : Text := trimEnd (trimStart t)

/-- The maximal runs without a blank. -/
def words (t : Text) : List Text := (splitWhere isBlank t).filter (!·.isEmpty)

end HttpExchange.Text
