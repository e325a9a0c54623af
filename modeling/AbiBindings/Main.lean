import AbiBindings.CommandLine

/-!
# The program

The thin outer layer: it looks for the library, runs the command line and writes what came out of it.
-/

namespace AbiBindings.Program

/-- Whether something exists at a path. -/
def pathExists (path : String) : IO Bool := do
  try
    let _ ← IO.FS.realPath path
    return true
  catch _ => return false

/-- Whether the library of the program's own settings is installed. -/
def libraryInstalled : IO Bool :=
  match Settings.builtIn with
  | .ok settings => pathExists settings.library.path
  | .error _ => return false

/-- Run the program on its arguments, and give the exit code. -/
def run (arguments : List String) : IO UInt32 := do
  let errors ← IO.getStderr
  let coloured ← errors.isTty
  let program := (← IO.appPath).toString
  let outcome := CommandLine.run ((program :: arguments).map Text.utf8) coloured
    (← libraryInstalled) {}
  let output ← IO.getStdout
  try
    output.write ⟨outcome.output.toArray⟩
    output.flush
  catch failure =>
    errors.putStr (CommandLine.writingFailed failure.toString)
    return 1
  errors.putStr outcome.errors
  return UInt32.ofNat outcome.code

end AbiBindings.Program

def main (arguments : List String) : IO UInt32 :=
  AbiBindings.Program.run arguments
