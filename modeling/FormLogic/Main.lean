import FormLogic.CommandLine.Report

/-! The program: reads the files that a command names and prints the answer. -/

open FormLogic CommandLine

def readText? (file : String) : IO (Option String) := do
  match ← (IO.FS.readFile file).toBaseIO with
  | .ok text => return some text
  | .error _ => return none

def main (args : List String) : IO UInt32 := do
  let names := ((Command.ofArguments? args).map (·.files)).getD []
  let texts ← names.mapM fun file => do return (file, ← readText? file)
  let exit := Exit.ofReport (run (fun file => (valueOf? file texts).join) args)
  for line in exit.output do IO.println line
  for line in exit.errors do IO.eprintln line
  return exit.code
