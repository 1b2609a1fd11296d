import DartBindings.Heritage.Order

/-!
Changing the classes of a library one after the other.

A pass visits the classes above a class in front of the class, and each visit sees what the visits
before it have changed.

Main exports: visit, pass
-/

namespace DartBindings.Normalization

/-- The library with the class at a position changed, in view of the whole library. -/
def visit (change : Library → Class → Class) (library : Library) (index : Nat) : Library :=
  { library with classes := library.classes.modify index (change library) }

/-- The library with every class changed, those above a class in front of it. -/
def pass (change : Library → Class → Class) (library : Library) : Library :=
  (Heritage.ancestorsFirst library).foldl (visit change) library

end DartBindings.Normalization
