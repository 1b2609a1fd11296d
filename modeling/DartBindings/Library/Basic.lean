import DartBindings.Declaration

/-!
A library: classes and interfaces in the order of their declaration.

Names address declarations: a name means the first declaration that has it.

Main exports: Library, Library.class?, Library.interface?, Library.append
-/

namespace DartBindings

/-- Classes and interfaces in the order of their declaration. -/
structure Library where
  classes : List Class := []
  interfaces : List Interface := []
deriving Inhabited

namespace Library

/-- The first class of that name. -/
def class? (library : Library) (name : String) : Option Class :=
  library.classes.find? (·.name == name)

/-- The position of the first class of that name. -/
def classIndex? (library : Library) (name : String) : Option Nat :=
  library.classes.findIdx? (·.name == name)

/-- The first interface of that name. -/
def interface? (library : Library) (name : String) : Option Interface :=
  library.interfaces.find? (·.name == name)

/-- The declarations of both libraries, those of the first in front. -/
def append (library other : Library) : Library :=
  ⟨library.classes ++ other.classes, library.interfaces ++ other.interfaces⟩

instance : Append Library := ⟨append⟩

/-- Whether the library declares nothing. -/
def isEmpty (library : Library) : Bool :=
  library.classes.isEmpty && library.interfaces.isEmpty

end Library

end DartBindings
