/-!
The declaration texts of a run.

A text may have a path.  Texts are numbered in the order in which they were added, and whatever
points into one of them keeps its number.

Main exports: Source, Span, SourceMap
-/

namespace DartBindings

/-- A declaration text. -/
structure Source where
  path : Option String := none
  text : String
deriving Repr, DecidableEq, Inhabited

/-- The path of a text, or a name for a text without one. -/
def Source.displayName (source : Source) : String :=
  source.path.getD "<inline>"

/-- The number of a text. -/
abbrev SourceId := Nat

/-- A part of a text, from a byte offset to a byte offset. -/
structure Span where
  source : SourceId
  start : Nat
  stop : Nat
deriving Repr, DecidableEq, Inhabited

/-- The texts of a run in the order in which they were added. -/
structure SourceMap where
  sources : List Source := []
deriving Repr, DecidableEq, Inhabited

namespace SourceMap

/-- Add a text; its number is the number of texts before it. -/
def add (map : SourceMap) (source : Source) : SourceId × SourceMap :=
  (map.sources.length, ⟨map.sources ++ [source]⟩)

/-- The text of a number. -/
def get? (map : SourceMap) (id : SourceId) : Option Source :=
  map.sources[id]?

/-- The number of texts. -/
def size (map : SourceMap) : Nat :=
  map.sources.length

/-- Whether there is no text. -/
def isEmpty (map : SourceMap) : Bool :=
  map.sources.isEmpty

/-- The texts with their numbers. -/
def numbered (map : SourceMap) : List (Source × SourceId) :=
  map.sources.zipIdx

/-- A source that is added is found under the number it was given. -/
theorem get?_add (map : SourceMap) (source : Source) :
    (map.add source).2.get? (map.add source).1 = some source := by
  simp [add, get?]

end SourceMap

end DartBindings
