import LineFill.Program

/-!
The command line program: reads its arguments, the environment and standard input, and writes what
`Program.run` answers.
-/
namespace LineFill.Main

def variableNames : List String := "RUST_LOG" :: Settings.Field.all.map Settings.Field.variableName

def environment : IO Settings.Environment := do
  let values ← variableNames.mapM fun name => do return (name, ← IO.getEnv name)
  return fun name => (values.lookup name).join

/-- Standard input is read only for a run. -/
def respond (env : Settings.Environment) (arguments : List String) : IO Program.Response := do
  match Options.read env arguments with
  | .error refusal => return Program.refuse refusal
  | .ok options =>
    let input ← (← IO.getStdin).readBinToEnd
    return (Program.runOptions options input.toList).response (LogNotation.levels.inForce env)

end LineFill.Main

def main (arguments : List String) : IO UInt32 := do
  let env ← LineFill.Main.environment
  let response ← LineFill.Main.respond env arguments
  for line in response.diagnostics do
    IO.eprintln line
  (← IO.getStdout).write response.output.toByteArray
  return UInt32.ofNat response.exitCode
