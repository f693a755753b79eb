import HttpExchange.Numeral.Integer
import HttpExchange.Text.Alphanumeric
import HttpExchange.Text.Blank

/-!
# Log filters

A log filter is a list of directives between commas. A directive is a level, a
target, or a target with a level; a target may have a span in brackets, and the
span may have fields in braces. The reader goes through a directive once.
-/

namespace HttpExchange.LogFilter

/-- The names of the levels. -/
def levelNames : List String := ["off", "error", "warn", "info", "debug", "trace"]

/-- Whether a text is a level: a name in any case, or a number. -/
def isLevel (t : Text) : Bool :=
  levelNames.any (·.toList == Text.lower t) || (Numeral.readNat? 5 t).isSome

/-- Whether a character may begin a target or a level. -/
def beginsTarget (c : Char) : Bool :=
  c == '-' || c == ':' || c == '_' || Text.isAlphanumeric c

/-- Where the reader of a directive stands. -/
inductive State where
  /-- At the beginning. -/
  | start
  /-- In what may be a level or a target. -/
  | target
  /-- In the name of a span. -/
  | span
  /-- In the fields of a span. -/
  | field (isEmpty : Bool)
  /-- After the fields of a span. -/
  | fields
  /-- After a span. -/
  | spanEnd
  /-- In a level. -/
  | level (soFar : Text)
  deriving DecidableEq, Repr

/-- Takes one character. -/
def step : State → Char → Option State
  | .start, '[' => some .span
  | .start, c => if beginsTarget c then some .target else none
  | .target, '[' => some .span
  | .target, '=' => some (.level [])
  | .target, _ => some .target
  | .span, ']' => some .spanEnd
  | .span, '{' => some (.field true)
  | .span, _ => some .span
  | .field isEmpty, '}' => if isEmpty then none else some .fields
  | .field isEmpty, ',' => if isEmpty then none else some (.field true)
  | .field _, _ => some (.field false)
  | .fields, ']' => some .spanEnd
  | .fields, _ => none
  | .spanEnd, '=' => some (.level [])
  | .spanEnd, _ => none
  | .level soFar, c => some (.level (soFar ++ [c]))

/-- Whether a directive may end in a state. -/
def State.isFinal : State → Bool
  | .target | .spanEnd => true
  | .level t => t.isEmpty || isLevel t
  | .start | .span | .field _ | .fields => false

/-- Whether a state is in a level that follows a target. -/
def State.isInLevel : State → Bool
  | .level _ => true
  | _ => false

/-- Whether a text is a directive. Blanks around it do not count, but they cannot stand around one
that gives a target its level. -/
def isDirective (t : Text) : Bool :=
  ((Text.trim t).foldlM step .start).any fun s => s.isFinal && !(s.isInLevel && Text.trim t != t)

/-- Whether a text is a log filter. -/
def isValid (t : Text) : Bool := ((Text.splitOn ',' t).filter (!·.isEmpty)).all isDirective

end HttpExchange.LogFilter
