import DartBindings.Extraction.Fault

/-!
Reports of faults.

Whatever the search for faults goes through, all that it reports are syntax errors at nodes.

Main exports: exists_faultReport_of_mem_faults
-/

namespace DartBindings.Extraction

open Syntax (Node)

variable {id : SourceId} {report : Diagnostic}

mutual

/-- What is reported at a node is a syntax error. -/
theorem exists_faultReport_of_mem_faultsAt :
    ∀ node : Node, report ∈ faultsAt id node → ∃ label detail, report = faultReport id label detail
  | ⟨label, children⟩, member => by
      rw [faultsAt] at member
      split at member
      · exact ⟨label, _, List.mem_singleton.1 member⟩
      · split at member
        · exact ⟨label, _, List.mem_singleton.1 member⟩
        · split at member
          · exact exists_faultReport_of_mem_faultsAmong children member
          · cases member

theorem exists_faultReport_of_mem_faultsAmong :
    ∀ nodes : List Node,
      report ∈ faultsAmong id nodes → ∃ label detail, report = faultReport id label detail
  | [], member => by
      cases member
  | node :: rest, member => by
      rw [faultsAmong, List.mem_append] at member
      rcases member with first | further
      · exact exists_faultReport_of_mem_faultsAt node first
      · exact exists_faultReport_of_mem_faultsAmong rest further

end

/-- What is reported of a tree is a syntax error. -/
theorem exists_faultReport_of_mem_faults {root : Node} (member : report ∈ faults id root) :
    ∃ label detail, report = faultReport id label detail := by
  rw [faults] at member
  split at member
  · exact exists_faultReport_of_mem_faultsAt root member
  · cases member

end DartBindings.Extraction
