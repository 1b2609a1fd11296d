/-!
Names of declarations and members.

A name that begins with an underscore is hidden by convention.  Where several items have one name,
the first of them is the one that counts.

Main exports: isHidden, firstOfName, laterOfName
-/

namespace DartBindings

universe u

/-- Whether a declared name is hidden by convention. -/
def isHidden (name : String) : Bool :=
  name.toList.head? == some '_'

/-- The items whose name is new, given the names that are not. -/
def firstOfName {α : Type u} (name : α → String) (seen : List String) : List α → List α
  | [] => []
  | item :: rest =>
      if seen.contains (name item) then firstOfName name seen rest
      else item :: firstOfName name (name item :: seen) rest

/-- The items whose name is not new, given the names that are not. -/
def laterOfName {α : Type u} (name : α → String) (seen : List String) : List α → List α
  | [] => []
  | item :: rest =>
      if seen.contains (name item) then item :: laterOfName name seen rest
      else laterOfName name (name item :: seen) rest

end DartBindings
