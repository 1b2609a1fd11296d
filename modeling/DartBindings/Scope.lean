import DartBindings.Text.Casing

/-!
Where a type occurs: the path of frames from a declaration inward.

An anonymous shape takes its name from the path to it, so the same place always gives the same name.

Main exports: FrameKind, Scope, Scope.enter, Scope.enclosingClass?, Scope.literalName
-/

namespace DartBindings

/-- What a frame of a path is. -/
inductive FrameKind where
  | classBody
  | method
  | result
  | parameter
  | property
  | getter
  | setter
  | typeLiteral
deriving Repr, Inhabited, DecidableEq

/-- One step of a path. -/
structure Frame where
  kind : FrameKind
  name : String
deriving Repr, Inhabited, DecidableEq

/-- A path of frames, never empty. -/
inductive Scope where
  | root (frame : Frame)
  | child (outer : Scope) (frame : Frame)
deriving Repr, DecidableEq

namespace Scope

/-- The innermost frame. -/
def frame : Scope → Frame
  | .root frame => frame
  | .child _ frame => frame

/-- The path without its innermost frame. -/
def outer? : Scope → Option Scope
  | .root _ => none
  | .child outer _ => some outer

/-- The path with a frame of the given kind and name inside. -/
def enter (scope : Scope) (kind : FrameKind) (name : String) : Scope :=
  .child scope ⟨kind, name⟩

/-- The name of every frame for a result. -/
def resultName : String := "Result"

/-- The path to the result of what the path leads to. -/
def enterResult (scope : Scope) : Scope :=
  scope.enter .result resultName

/-- The innermost part of the path that ends in a frame of the kind. -/
def nearest? (kind : FrameKind) : Scope → Option Scope
  | .root frame => if frame.kind = kind then some (.root frame) else none
  | .child outer frame =>
      if frame.kind = kind then some (.child outer frame) else outer.nearest? kind

/-- The name of the innermost class on the path. -/
def enclosingClass? (scope : Scope) : Option String :=
  (scope.nearest? .classBody).map (·.frame.name)

/-- The name of a shape at the end of the path: the capitalized names of all frames, joined from the
outside inward. -/
def literalName : Scope → String
  | .root frame => Text.capitalize frame.name
  | .child outer frame => outer.literalName ++ Text.capitalize frame.name

end Scope

end DartBindings
