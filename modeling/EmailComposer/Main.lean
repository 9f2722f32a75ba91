import EmailComposer.Service.CommandLine

/-!
# The program

Reads the environment and the named file, runs the command line and prints what it
leaves behind.
-/

namespace EmailComposer.Program

open EmailComposer

/-- The names of all variables that a run looks at. -/
def variableNames : List Text :=
  List.flatten [["PORT", "FUNCTION_TARGET"], Settings.variableNames]

/-- The environment of this run. -/
def readEnvironment : IO Environment := do
  let mut found : List (Text × Text) := []
  for name in variableNames do
    if let some value ← IO.getEnv (String.ofList name) then
      found := found ++ [(name, value.toList)]
  return ⟨found⟩

/-- The payload in the named file, if exactly one file is named. -/
def readPayload (arguments : List String) : IO (Except CommandLine.Failure Json.Value) :=
  match arguments with
  | [path] => do
      let content ← IO.FS.readFile path
      return CommandLine.readPayload content.toList
  | _ => return .ok .null

/-- Prints what a run leaves behind and gives its exit status. -/
def report (outcome : Except CommandLine.Failure CommandLine.Outcome) : IO UInt32 := do
  IO.eprint (String.ofList (CommandLine.told outcome))
  IO.print (String.ofList (CommandLine.printed outcome))
  return (CommandLine.exitStatus outcome).toUInt32

/-- Prints why there are no settings to run with. -/
def fail (message : Text) : IO UInt32 := do
  IO.eprintln (String.ofList message)
  return 1

/-- One run of the program. -/
def run (arguments : List String) : IO UInt32 := do
  let environment ← readEnvironment
  match Settings.read environment with
  | .error error => fail error.message
  | .ok settings =>
      let payload ←
        if CommandLine.isServing environment then
          pure (.ok .null)
        else
          readPayload arguments
      report (CommandLine.run environment settings arguments.length payload)

end EmailComposer.Program

def main (arguments : List String) : IO UInt32 :=
  EmailComposer.Program.run arguments
