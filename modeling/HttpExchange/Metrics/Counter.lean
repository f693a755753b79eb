import HttpExchange.Text.Basic

/-!
# Counters

What is counted while the program works: how bodies were read, and how actions
went. A counter has a name and labels.
-/

namespace HttpExchange

/-- A counter. -/
structure Counter where
  name : Text
  labels : List (Text × Text)
  deriving DecidableEq, Repr

namespace Counter

/-- Bodies read, by media type and outcome. -/
def bodyDecode (contentType outcome : Text) : Counter :=
  ⟨"equal_body_decode_total", [("content_type", contentType), ("outcome", outcome)]⟩

/-- Actions run, by action and outcome. -/
def action (name outcome : Text) : Counter :=
  ⟨"equal_action_total", [("action", name), ("outcome", outcome)]⟩

end Counter

end HttpExchange
