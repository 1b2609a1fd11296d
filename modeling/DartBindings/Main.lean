import DartBindings.Command.Run
import DartBindings.Syntax.Rows

/-!
The program: commands on the files of the system.

Declaration texts are not parsed here.  The syntax tree of a declaration file is read from the file
beside it whose name has `.tree` added, where it stands as rows.

Main exports: host, main
-/

namespace DartBindings.Program

/-- The fault behind an error of the system.  The codes tell a file that was meant to be a directory
from a directory that was meant to be a file. -/
def faultOf : IO.Error → FileFault
  | .noFileOrDirectory .. => .missing
  | .alreadyExists .. => .alreadyExists
  | .inappropriateType _ code details =>
      if code = 20 then .notDirectory else if code = 21 then .isDirectory else .other details
  | problem => .other problem.toString

/-- An action with its error as a fault. -/
def attempt {α : Type} (action : IO α) : IO (Except FileFault α) := do
  match ← action.toBaseIO with
  | .error problem => return .error (faultOf problem)
  | .ok value => return .ok value

/-- Access to the files of the system. -/
def files : FileAccess IO where
  read path := attempt (IO.FS.readFile path)
  makeDirectory path := attempt (IO.FS.createDirAll path)
  write path content := attempt (IO.FS.writeFile path content)

/-- The syntax tree that stands beside a declaration file. -/
def treeBeside (name : String) : IO (Option Syntax.Node) := do
  match ← attempt (IO.FS.readFile (name ++ ".tree")) with
  | .error _ => return none
  | .ok document => return (Syntax.Row.ofDocument? document).bind Syntax.Node.ofRows?

/-- The system as the host of commands. -/
def host : IO (Command.Host IO) := do
  let input ← IO.getStdin
  let errors ← IO.getStderr
  let terminal ← errors.isTty
  return {
    files := files
    standardInput := input.readToEnd
    parse := fun name _ => treeBeside name
    terminal := terminal }

end DartBindings.Program

/-- Carry out a command line. -/
def main (arguments : List String) : IO UInt32 := do
  let outcome ← DartBindings.Command.run (← DartBindings.Program.host) arguments
  IO.print outcome.output
  IO.eprint outcome.errors
  return outcome.status.toUInt32
