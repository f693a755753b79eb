import HttpExchange.Metrics.Counter
import HttpExchange.Numeral.Integer

/-!
# Tallies and their exposition

How often every counter was raised, in the order of the counters, and the text
in which that is made known: for each name a description and its type, then a
line for each counter.
-/

namespace HttpExchange

/-- Counters, each with how often it was raised. -/
abbrev Tally := List (Counter × Nat)

namespace Tally

/-- What orders counters: their names, then their labels. -/
def sortKey (c : Counter) : List Text := c.name :: c.labels.flatMap fun (k, v) => [k, v]

/-- Whether a counter comes before another, or they are the same. -/
def precedes (a b : Counter × Nat) : Bool :=
  !List.lex (sortKey b.1) (sortKey a.1) fun s t => List.lex s t (· < ·)

/-- How often every counter occurs among some. -/
def ofCounters (cs : List Counter) : Tally :=
  (cs.eraseDups.map fun c => (c, cs.count c)).mergeSort precedes

/-- The names of counters with their descriptions. -/
def descriptions : List (String × String) := [
  ("equal_action_total", "Action invocations, by outcome"),
  ("equal_body_decode_total", "Message bodies decoded, by outcome")]

/-- The value of a label between quotes. A backslash that already escapes what follows it stays as
it is. -/
def escapeLabel : Text → Text
  | [] => []
  | '\n' :: rest => '\\' :: 'n' :: escapeLabel rest
  | '"' :: rest => '\\' :: '"' :: escapeLabel rest
  | '\\' :: '\\' :: rest => '\\' :: '\\' :: escapeLabel rest
  | '\\' :: rest => '\\' :: '\\' :: escapeLabel rest
  | c :: rest => c :: escapeLabel rest

/-- A label as it is written. -/
def labelText (l : Text × Text) : Text := l.1 ++ '=' :: '"' :: escapeLabel l.2 ++ ['"']

/-- The line of a counter. -/
def sample (entry : Counter × Nat) : Text :=
  entry.1.name ++ '{' :: Text.joinWith "," (entry.1.labels.map labelText) ++
    '}' :: ' ' :: Numeral.ofNat entry.2 ++ ['\n']

/-- The lines of the counters of one name, if there are any. -/
def family (t : Tally) (d : String × String) : Text :=
  match t.filter (·.1.name == d.1.toList) with
  | [] => []
  | entries =>
    "# HELP ".toList ++ d.1.toList ++ ' ' :: d.2.toList ++ "\n# TYPE ".toList ++ d.1.toList ++
      " counter\n".toList ++ entries.flatMap sample ++ ['\n']

/-- The text in which a tally is made known. -/
def exposition (t : Tally) : Text := descriptions.flatMap (family t)

end Tally

end HttpExchange
