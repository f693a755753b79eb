import HttpExchange.Host.Direction
import HttpExchange.Host.Joiner
import HttpExchange.Host.Mapping
import HttpExchange.Host.Punycode
import HttpExchange.Text.Percent

/-!
# Domain names

A domain name consists of labels with dots between them. A label with other
characters than ASCII is compared in its mapped form, and it may be written in
Punycode after `xn--`, which then has to be the mapped form already.

## Main definitions

- `Host.labelText?`: the label that is written.
- `Host.domain?`: the form in which a domain name is compared.
-/

namespace HttpExchange.Host

/-- Whether no domain name has a character: controls, blanks, and what separates the parts of a
URI. -/
def isForbidden (c : Char) : Bool := c ≤ ' ' || c == '\x7f' || "%#/:<>?@[\\]^|".toList.contains c

/-- The label that is written in Punycode. -/
def ofPunycode? (t : Text) : Option Text :=
  if t.isEmpty || Text.endsWith t "-" || !isAscii t || 2000 < t.length then none
  else (Punycode.decode? t).filter fun label => mapped? label == some label

/-- The label that is written. -/
def labelText? (t : Text) : Option Text :=
  match Text.afterPrefix? "xn--" t with
  | some rest => ofPunycode? rest
  | none => some t

/-- Whether a text can be a label. It may be empty. -/
def isLabel (t : Text) : Bool :=
  isAscii t || (!t.head?.any Text.isMark && joinersAllowed [] t && t.length ≤ 1000)

/-- A domain name in its mapped form, when its labels are all right. -/
def checked? (t : Text) : Option Text := do
  let labels ← (Text.splitOn '.' t).mapM labelText?
  if !t.any isForbidden && labels.all isLabel && Direction.allows labels then some t else none

/-- Whether a character stays forbidden whatever happens to the text around it. A percent sign may
begin an escape, and the signs for less and greater may unite with a mark. -/
def staysForbidden (c : Char) : Bool := isForbidden c && !"%<>".toList.contains c

/-- The form in which a domain name is compared. -/
def domain? (t : Text) : Option Text :=
  if t.any staysForbidden then none
  else (mapped? (Utf8.decode (Percent.decode (Utf8.encode t)))).bind checked?

end HttpExchange.Host
