import HttpExchange.CommandLine.Outcome

/-!
# The program

Reads the files that the arguments name and the standard input where it is asked
for, prints the outcome, and ends with its code.
-/

namespace HttpExchange

/-- The text of a file, if it can be read. -/
def readFile? (path : Text) : IO (Option Text) := do
  try return some (← IO.FS.readFile (String.ofList path)).toList catch _ => return none

/-- All that is left of a stream. -/
partial def readAll (input : IO.FS.Stream) (soFar : String) : IO String := do
  let line ← input.getLine
  if line.isEmpty then return soFar else readAll input (soFar ++ line)

/-- The texts that some arguments need. -/
def gather (args : List Text) : IO CommandLine.Inputs := do
  match CommandLine.Plan.read args with
  | .error _ => return ⟨fun _ => none, []⟩
  | .ok p =>
    let mut files : List (Text × Text) := []
    for path in p.config.toList ++ p.requestFile?.toList do
      if let some t ← readFile? path then files := (path, t) :: files
    let standard ← if p.readsStandardInput then readAll (← IO.getStdin) "" else pure ""
    return ⟨(files.lookup ·), standard.toList⟩

end HttpExchange

/-- Carries out the arguments. -/
def main (args : List String) : IO UInt32 := do
  let args := args.map String.toList
  let outcome := HttpExchange.CommandLine.Outcome.ofArguments args (← HttpExchange.gather args)
  IO.print (String.ofList outcome.output)
  if outcome.exitCode != 0 then IO.eprint (String.ofList HttpExchange.CommandLine.usage)
  return outcome.exitCode.toUInt32
