import HttpExchange.Numeral.Integer

/-!
# Command line arguments

Arguments are read from left to right into a plan. Options of the program as a
whole may stand before the command or after it; a value that is given after the
command wins. An option is given at most once on either side. After `--` every
argument is an operand.

## Main definitions

- `scan`: the options and operands at one level.
- `Plan.read`: the plan that some arguments make.
-/

namespace HttpExchange.CommandLine

/-- What is to be done. -/
inductive Command where
  /-- Shows a request from a file, or from the standard input. -/
  | decode (file : Option Text)
  /-- Prints the status line of a code. -/
  | status (code : UInt16)
  deriving DecidableEq, Repr

/-- What the arguments ask for. -/
structure Plan where
  /-- The file that holds the settings. -/
  config : Option Text
  /-- Whether the counters are to be shown. -/
  metrics : Bool
  command : Command
  deriving DecidableEq, Repr

/-- Why arguments make no plan. -/
inductive Refusal where
  /-- They ask for help. -/
  | help
  /-- They make no sense. -/
  | usage
  deriving DecidableEq, Repr

/-! ## Options -/

/-- Where in the arguments a reader stands. -/
inductive Level where
  /-- Before the command. -/
  | program
  /-- After the command `decode`. -/
  | decode
  /-- After the command `status`. -/
  | status
  deriving DecidableEq, Repr

/-- What has been met at one level. -/
structure Options where
  config : Option Text := none
  metrics : Bool := false
  file : Option Text := none
  code : Option UInt16 := none
  deriving DecidableEq, Repr

/-- Options that take a value. -/
inductive Valued where
  | config | file
  deriving DecidableEq, Repr

/-- A slot that takes the value of an option. It has to be free, and the value cannot be
empty. -/
def fill (slot : Option Text) (t : Text) : Except Refusal (Option Text) :=
  if slot.isSome || t.isEmpty then .error .usage else .ok (some t)

/-- Takes the value of an option. -/
def Options.put (v : Valued) (t : Text) (o : Options) : Except Refusal Options :=
  match v with
  | .config => (fill o.config t).map fun config => { o with config }
  | .file => (fill o.file t).map fun file => { o with file }

/-- Takes the option that asks for the counters. -/
def Options.putMetrics (o : Options) : Except Refusal Options :=
  if o.metrics then .error .usage else .ok { o with metrics := true }

/-- A status code in decimal digits. -/
def readCode? (t : Text) : Option UInt16 :=
  (Numeral.readInt64? t).bind fun i =>
    if 0 ≤ i ∧ i < 0x10000 then some (.ofNat i.toNat) else none

/-- Takes an operand. Only the command `status` has one, its code. -/
def Options.operand (level : Level) (t : Text) (o : Options) : Except Refusal Options :=
  match level, o.code, readCode? t with
  | .status, none, some code => .ok { o with code := some code }
  | _, _, _ => .error .usage

/-- Takes some operands. -/
def Options.operands (level : Level) (ts : List Text) (o : Options) : Except Refusal Options :=
  ts.foldlM (fun o t => o.operand level t) o

/-! ## Arguments -/

/-- An argument. -/
inductive Argument where
  | operand
  /-- Everything that follows is an operand. -/
  | terminator
  | metrics
  | help
  /-- An option with its value. -/
  | valued (v : Valued) (value : Text)
  /-- An option that has its value in the next argument. -/
  | awaiting (v : Valued)
  | unknown
  deriving DecidableEq, Repr

/-- The option of a long name. -/
def valuedOfName? (level : Level) (name : Text) : Option Valued :=
  if name = "config" then some .config
  else if name = "file" ∧ level = .decode then some .file
  else none

/-- The option of a letter. -/
def valuedOfLetter? (level : Level) (c : Char) : Option Valued :=
  if c = 'c' then some .config
  else if c = 'f' ∧ level = .decode then some .file
  else none

/-- An option, with its value when that comes along. -/
def Argument.ofValued (value : Option Text) : Option Valued → Argument
  | none => .unknown
  | some v => (value.map (.valued v)).getD (.awaiting v)

/-- What follows two dashes. -/
def Argument.ofLong (level : Level) (t : Text) : Argument :=
  match Text.splitFirst '=' t with
  | some (name, value) => .ofValued (some value) (valuedOfName? level name)
  | none =>
    if t = "metrics" then .metrics
    else if t = "help" then .help
    else .ofValued none (valuedOfName? level t)

/-- The value that directly follows the letter of an option. An equals sign may come between. -/
def attached? : Text → Option Text
  | [] => none
  | '=' :: value => some value
  | value => some value

/-- What follows one dash. -/
def Argument.ofShort (level : Level) : Text → Argument
  | [] => .operand
  | 'h' :: _ => .help
  | c :: rest => .ofValued (attached? rest) (valuedOfLetter? level c)

/-- What an argument is. -/
def Argument.of (level : Level) : Text → Argument
  | ['-', '-'] => .terminator
  | '-' :: '-' :: t => .ofLong level t
  | '-' :: t => .ofShort level t
  | _ => .operand

/-- Whether an argument can be the value of the option before it. -/
def canBeValue (t : Text) : Bool := Argument.of .program t = .operand

/-- The options and operands at a level. Before the command they end at the first operand; what is
left from there on is given back. -/
def scan (level : Level) (o : Options) : List Text → Except Refusal (Options × List Text)
  | [] => .ok (o, [])
  | arg :: rest =>
    match Argument.of level arg, rest with
    | .operand, rest =>
      if level = .program then .ok (o, arg :: rest)
      else (o.operand level arg).bind fun o => scan level o rest
    | .terminator, rest => (o.operands level rest).map fun o => (o, [])
    | .metrics, rest => o.putMetrics.bind fun o => scan level o rest
    | .valued v value, rest => (o.put v value).bind fun o => scan level o rest
    | .awaiting v, value :: rest =>
      if canBeValue value then (o.put v value).bind fun o => scan level o rest
      else .error .usage
    | .awaiting _, [] => .error .usage
    | .help, _ => .error .help
    | .unknown, _ => .error .usage

/-! ## Plans -/

/-- The plan of a command, by the options on both sides of it. -/
def Plan.ofOptions (outer inner : Options) (command : Command) : Plan :=
  ⟨inner.config <|> outer.config, inner.metrics || outer.metrics, command⟩

/-- The commands by their names. -/
def commandLevels : List (String × Level) := [("decode", .decode), ("status", .status)]

/-- The level after a command. -/
def levelOf? (name : Text) : Option Level :=
  (commandLevels.find? (·.1.toList == name)).map Prod.snd

/-- What the command `help` gives: it may name a command. -/
def helpOn : List Text → Refusal
  | [] => .help
  | [name] => if name = "help" ∨ (levelOf? name).isSome then .help else .usage
  | _ => .usage

/-- The command that options at a level make. -/
def Options.command (level : Level) (o : Options) : Except Refusal Command :=
  match level, o.code with
  | .decode, _ => .ok (.decode o.file)
  | .status, some code => .ok (.status code)
  | _, _ => .error .usage

/-- The plan of a command with its arguments. -/
def Plan.ofCommand (outer : Options) (name : Text) (args : List Text) : Except Refusal Plan := do
  let some level := levelOf? name | throw (if name = "help" then helpOn args else .usage)
  let (inner, _) ← scan level {} args
  pure (.ofOptions outer inner (← inner.command level))

/-- The plan that some arguments make. -/
def Plan.read (args : List Text) : Except Refusal Plan := do
  match ← scan .program {} args with
  | (outer, name :: args) => Plan.ofCommand outer name args
  | (_, []) => throw .usage

end HttpExchange.CommandLine
