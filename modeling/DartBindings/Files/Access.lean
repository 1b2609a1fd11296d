import DartBindings.Emission.Unit
import DartBindings.Files.Path

/-!
Access to files, and writing units.

What a run needs of a file system is reading a file, making a directory with everything above it, and
writing a file.  Each of them may meet a fault.

Main exports: FileFault, FileAccess, FileAccess.writeAll, FileAccess.writeUnits
-/

namespace DartBindings

/-- What can go wrong with a file or a directory. -/
inductive FileFault where
  | missing
  | alreadyExists
  | notDirectory
  | isDirectory
  | nameTooLong
  | zeroInName
  | other (message : String)
deriving Repr, DecidableEq, Inhabited

/-- The words for a fault. -/
def FileFault.message : FileFault → String
  | .missing => "No such file or directory (os error 2)"
  | .alreadyExists => "File exists (os error 17)"
  | .notDirectory => "Not a directory (os error 20)"
  | .isDirectory => "Is a directory (os error 21)"
  | .nameTooLong => "File name too long (os error 36)"
  | .zeroInName => "file name contained an unexpected NUL byte"
  | .other message => message

/-- A fault and the path where it was met. -/
structure FileProblem where
  path : String
  fault : FileFault
deriving Repr, DecidableEq, Inhabited

/-- The message of a fault at a path. -/
def FileProblem.message (problem : FileProblem) : String :=
  "failed to access " ++ problem.path ++ ": " ++ problem.fault.message

/-- What a run needs of a file system. -/
structure FileAccess (m : Type → Type) where
  read : String → m (Except FileFault String)
  makeDirectory : String → m (Except FileFault Unit)
  write : String → String → m (Except FileFault Unit)

namespace FileAccess

variable {m : Type → Type} [Monad m]

/-- Write units into a directory that exists, up to the first that cannot be written. -/
def writeAll (files : FileAccess m) (directory : String) :
    List Emission.OutputUnit → m (Except FileProblem (List String))
  | [] => pure (.ok [])
  | unit :: rest => do
      let path := Path.join directory unit.fileName
      match ← files.write path unit.content with
      | .error fault => pure (.error ⟨path, fault⟩)
      | .ok () =>
          match ← files.writeAll directory rest with
          | .error problem => pure (.error problem)
          | .ok paths => pure (.ok (path :: paths))

/-- Write units into a directory, which is made if it is missing.  The paths come in the order of the
units. -/
def writeUnits (files : FileAccess m) (directory : String) (units : List Emission.OutputUnit) :
    m (Except FileProblem (List String)) := do
  match ← files.makeDirectory directory with
  | .error fault => pure (.error ⟨directory, fault⟩)
  | .ok () => files.writeAll directory units

end FileAccess

end DartBindings
