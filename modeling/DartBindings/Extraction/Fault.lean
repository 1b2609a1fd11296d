import DartBindings.Diagnostic.Basic
import DartBindings.Syntax.Node

/-!
Reports of syntax errors.

Every faulty or missing node is reported unless it lies below another one.  Where a tree says that
there is no fault below a node, it is not looked into.

Main exports: faultReport, faultsAt, faults
-/

namespace DartBindings.Extraction

open Syntax (Node Label)

/-- The report of a fault at a node. -/
def faultReport (id : SourceId) (label : Label) (detail : String) : Diagnostic :=
  { kind := .syntaxError, detail := some detail, span := some ⟨id, label.start, label.stop⟩ }

mutual

/-- The reports of the faults at or below a node. -/
def faultsAt (id : SourceId) : Node → Diagnostics
  | ⟨label, children⟩ =>
      if label.isError then [faultReport id label "unexpected input"]
      else if label.isMissing then [faultReport id label ("missing `" ++ label.kind ++ "`")]
      else if label.hasError then faultsAmong id children
      else []

/-- The reports of the faults at or below nodes. -/
def faultsAmong (id : SourceId) : List Node → Diagnostics
  | [] => []
  | node :: rest => faultsAt id node ++ faultsAmong id rest

end

/-- The reports of the faults in a file. -/
def faults (id : SourceId) (root : Node) : Diagnostics :=
  if root.label.hasError then faultsAt id root else []

end DartBindings.Extraction
