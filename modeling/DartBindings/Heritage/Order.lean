import DartBindings.Heritage.Unvisited
import DartBindings.Library.Basic

/-!
An order of the classes in which every class comes behind the classes above it.

Classes are given by their positions in the library.  The order is made from chains: a class, the
class above it, and so on, until a class that is placed already or a cycle.

Main exports: superIndex?, chainFrom, ancestorsFirst
-/

namespace DartBindings.Heritage

/-- The position of the class above the class at a position. -/
def superIndex? (library : Library) (index : Nat) : Option Nat :=
  (library.classes[index]?).bind fun cls =>
    cls.superType.bind fun superType => library.classIndex? superType.name

/-- The positions from a class upward that are neither placed nor seen. -/
def chainFrom (library : Library) (placed seen : List Nat) (index : Nat) : List Nat :=
  if placed.contains index then []
  else if fresh : index ∉ seen ∧ index < library.classes.length then
    have : unvisited (index :: seen) (List.range library.classes.length)
        < unvisited seen (List.range library.classes.length) :=
      unvisited_cons_lt (List.mem_range.2 fresh.2) fresh.1
    index ::
      match superIndex? library index with
      | none => []
      | some next => chainFrom library placed (index :: seen) next
  else []
termination_by unvisited seen (List.range library.classes.length)

/-- The positions placed so far, with the chain of a class placed from the top downward. -/
def placeChain (library : Library) (placed : List Nat) (start : Nat) : List Nat :=
  placed ++ (chainFrom library placed [] start).reverse

/-- The positions of all classes, those of the classes above a class in front of its own. -/
def ancestorsFirst (library : Library) : List Nat :=
  (List.range library.classes.length).foldl (placeChain library) []

end DartBindings.Heritage
