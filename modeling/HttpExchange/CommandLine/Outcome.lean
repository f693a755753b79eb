import HttpExchange.CommandLine.Arguments
import HttpExchange.Metrics.Tally
import HttpExchange.Settings.Validation

/-!
# The outcome of a command line

A plan is carried out with the texts of the files it names. The outcome is what
goes to the standard output, and the code with which the program ends.

## Main definitions

- `summary`: a request as it is shown.
- `Plan.carryOut`: what a plan prints.
- `Outcome.ofArguments`: the outcome of some arguments.
-/

namespace HttpExchange.CommandLine

/-- How the program ends. -/
structure Outcome where
  exitCode : Nat
  /-- What goes to the standard output. -/
  output : Text
  deriving DecidableEq, Repr

/-- The texts that a plan may need. -/
structure Inputs where
  /-- The text of a file, if it can be read. -/
  file? : Text → Option Text
  /-- The text of the standard input. -/
  standard : Text

/-- The value that shows a body. -/
def bodyValue : Body → Json
  | .structured v => v
  | .raw t => .str t

/-- A request as it is shown. -/
def summary (m : Message) : Json := .obj [
  ("method", .str m.method.name), ("uri", .str m.uri.text), ("protocol", .str m.protocol),
  ("headers", .obj (m.headers.toMap.map fun (name, value) => (name, .str value))),
  ("body", bodyValue m.body)]

/-- The settings that a plan asks for. -/
def Plan.settings? (p : Plan) (inputs : Inputs) : Option Settings :=
  match p.config with
  | none => some {}
  | some path => (inputs.file? path).bind fun t => (Settings.read t).toOption

/-- The file from which a plan takes the request. -/
def Plan.requestFile? (p : Plan) : Option Text :=
  match p.command with
  | .decode file => file
  | .status _ => none

/-- Whether a plan takes a request from the standard input. -/
def Plan.readsStandardInput (p : Plan) : Bool := p.command = .decode none

/-- What a command prints, and what is counted on the way. -/
def Command.perform (config : HttpConfig) (inputs : Inputs) :
    Command → Option (Text × List Counter)
  | .status code => some (Status.line code, [])
  | .decode file => do
    let t ← match file with
      | some path => inputs.file? path
      | none => some inputs.standard
    let m ← (Request.read t config).toOption
    let parts ← (Request.readParts config.maxBodySize t).toOption
    some ((summary m).writeIndented 0, Request.counters parts config)

/-- What a plan prints, unless it fails. -/
def Plan.carryOut (p : Plan) (inputs : Inputs) : Option Text := do
  let settings ← p.settings? inputs
  let (t, counters) ← p.command.perform settings.http inputs
  let shown := p.metrics || settings.log.metricsEnabled
  some (t ++ '\n' :: if shown then (Tally.ofCounters counters).exposition else [])

/-- How to call the program. -/
def usage : Text :=
  "Usage: [--config FILE] [--metrics] decode [--file FILE]\n".toList ++
    "       [--config FILE] [--metrics] status CODE\n".toList

/-- The outcome of a plan: a failure prints nothing and ends with 1. -/
def Outcome.ofPlan (p : Plan) (inputs : Inputs) : Outcome :=
  match p.carryOut inputs with
  | some output => ⟨0, output⟩
  | none => ⟨1, []⟩

/-- The outcome of some arguments: those that make no sense end the program with 2. -/
def Outcome.ofArguments (args : List Text) (inputs : Inputs) : Outcome :=
  match Plan.read args with
  | .ok p => .ofPlan p inputs
  | .error .help => ⟨0, usage⟩
  | .error .usage => ⟨2, []⟩

end HttpExchange.CommandLine
