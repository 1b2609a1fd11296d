import DartBindings.Files.Access

/-!
A directory in memory.

Files and folders have their place, the names of the folders on the way and their own name.  A path
leads through folders only.  It may leave the directory, by a step to the folder above it or because
it begins at the root; of what is outside only the folders on the way up are known.  The place of
something outside begins with such steps or with the root.

Main exports: Directory, Directory.locate, Directory.read, Directory.write, Directory.access
-/

namespace DartBindings

/-- What stands at a place of a directory. -/
inductive Entry where
  | file (content : String)
  | folder
deriving Repr, DecidableEq, Inhabited

/-- A directory: places and what stands there. -/
structure Directory where
  entries : List (List String × Entry) := []
deriving Repr, Inhabited

namespace Directory

/-- Whether a part of a place leads out of the directory. -/
def isOutward (part : String) : Bool :=
  part == ".." || part == "/"

/-- The place one step above a place. -/
def above (place : List String) : List String :=
  match place.getLast? with
  | none => [".."]
  | some last =>
      if last = "/" then place else if last = ".." then place ++ [".."] else place.dropLast

/-- What stands at a place.  The directory itself is a folder, and so is all that is above it. -/
def entry? (directory : Directory) (place : List String) : Option Entry :=
  if place.all isOutward then some .folder else directory.entries.lookup place

/-- The directory with something put at a place. -/
def put (directory : Directory) (place : List String) (entry : Entry) : Directory :=
  ⟨(place, entry) :: directory.entries.filter fun old => old.1 != place⟩

/-- Whether a component stays where it is. -/
def isStay (component : String) : Bool :=
  component.isEmpty || component == "."

/-- Whether a name is longer than names may be. -/
def isTooLong (name : String) : Bool :=
  255 < name.utf8ByteSize

/-- The place that components lead to from a folder. -/
def locateFrom (directory : Directory) (folder : List String) :
    List String → Except FileFault (List String)
  | [] => .ok folder
  | component :: rest =>
      if isStay component then locateFrom directory folder rest
      else if component = ".." then locateFrom directory (above folder) rest
      else if isTooLong component then .error .nameTooLong
      else if rest.isEmpty then .ok (folder ++ [component])
      else
        match directory.entry? (folder ++ [component]) with
        | some .folder => locateFrom directory (folder ++ [component]) rest
        | some (.file _) => .error .notDirectory
        | none => .error .missing

/-- The place where a path begins. -/
def origin (path : String) : List String :=
  if Path.isAbsolute path then ["/"] else []

/-- What is wrong with a path wherever it leads. -/
def fault? (path : String) : Option FileFault :=
  if path.toList.contains '\x00' then some .zeroInName
  else if path.isEmpty then some .missing
  else if 4095 < path.utf8ByteSize then some .nameTooLong
  else none

/-- The place that a path leads to. -/
def locate (directory : Directory) (path : String) : Except FileFault (List String) :=
  match fault? path with
  | some fault => .error fault
  | none => directory.locateFrom (origin path) (Path.components path)

/-- The content of a file. -/
def read (directory : Directory) (path : String) : Except FileFault String :=
  match directory.locate path with
  | .error fault => .error fault
  | .ok place =>
      match directory.entry? place with
      | some (.file content) => .ok content
      | some .folder => .error .isDirectory
      | none => .error .missing

/-- The directory with the content of a file replaced. -/
def write (directory : Directory) (path content : String) : Except FileFault Directory :=
  match directory.locate path with
  | .error fault => .error fault
  | .ok place =>
      match directory.entry? place with
      | some .folder => .error .isDirectory
      | _ => .ok (directory.put place (.file content))

/-- Whether a path leads to a folder. -/
def isFolder (directory : Directory) (path : String) : Bool :=
  match directory.locate path with
  | .error _ => false
  | .ok place => directory.entry? place == some .folder

/-- The directory with one folder made.  All that the path names in front of its last component must
be folders, separators at its end do not count, and a step to a folder names one that exists. -/
def makeFolder (directory : Directory) (path : String) : Except FileFault Directory :=
  match fault? path, (Path.components path).reverse.dropWhile String.isEmpty with
  | some fault, _ => .error fault
  | none, [] => .error .alreadyExists
  | none, name :: before =>
      match directory.locateFrom (origin path) (before.reverse ++ ["."]) with
      | .error fault => .error fault
      | .ok folder =>
          if isStay name || name = ".." then .error .alreadyExists
          else if isTooLong name then .error .nameTooLong
          else if (directory.entry? (folder ++ [name])).isSome then .error .alreadyExists
          else .ok (directory.put (folder ++ [name]) .folder)

/-- The directory with one folder made unless it exists. -/
def ensureFolder (directory : Directory) (path : String) : Except FileFault Directory :=
  match directory.makeFolder path with
  | .error .alreadyExists =>
      if directory.isFolder path then .ok directory else .error .alreadyExists
  | result => result

/-- The directory with folders made, of which each but the last is made inside the next.  What is
above a folder is made only when something above it is missing. -/
def ensureFolders (directory : Directory) : List String → Except FileFault Directory
  | [] => .ok directory
  | path :: above =>
      match directory.ensureFolder path with
      | .error .missing =>
          match directory.ensureFolders above with
          | .error fault => .error fault
          | .ok made => made.ensureFolder path
      | result => result

/-- The directory with a folder and everything above it made. -/
def makeDirectory (directory : Directory) (path : String) : Except FileFault Directory :=
  directory.ensureFolders (Path.ancestors path)

/-- The directory with a file and the folders above it, as it was found. -/
def withFile (directory : Directory) (path content : String) : Directory :=
  let folders := (directory.makeDirectory (Path.directory path)).toOption.getD directory
  (folders.write path content).toOption.getD folders

/-- Turn a change that may meet a fault into an action. -/
def change (result : Directory → Except FileFault Directory) :
    StateM Directory (Except FileFault Unit) := fun directory =>
  match result directory with
  | .error fault => (.error fault, directory)
  | .ok changed => (.ok (), changed)

/-- Access to a directory in memory. -/
def access : FileAccess (StateM Directory) where
  read path := fun directory => (directory.read path, directory)
  makeDirectory path := change (·.makeDirectory path)
  write path content := change (·.write path content)

/-- The files in a directory, in the order of their paths. -/
def files (directory : Directory) : List (String × String) :=
  (directory.entries.filterMap fun (place, entry) =>
    match entry with
    | .file content => if place.any isOutward then none else some ("/".intercalate place, content)
    | .folder => none).mergeSort fun first second => !(second.1 < first.1)

/-- The files that an earlier state of the directory does not have, or not with this content. -/
def filesSince (directory earlier : Directory) : List (String × String) :=
  directory.files.filter fun file => !earlier.files.contains file

end Directory

end DartBindings
