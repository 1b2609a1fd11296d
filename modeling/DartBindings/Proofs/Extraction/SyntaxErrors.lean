import DartBindings.Proofs.Extraction.Overloads

/-!
Syntax errors of a file.

The search for faults looks only into nodes that are marked, and no further down from a fault.  What it
reports is told here from the whole tree: a node is a fault when it is unexpected or missing, and the
faults that count are those with no fault around them.  Where the marks of a tree are right, every such
fault is reported once, in document order, and nothing else is reported as a syntax error.

Main exports: IsOutermostFault, MarksFaults, syntaxErrors_of_outermost
-/

namespace DartBindings.Extraction

open Syntax (Node Place)
open Syntax.Node (placesFrom placesAmong placesFrom_eq)

/-- A node that is unexpected or missing. -/
def IsFault (node : Node) : Prop :=
  node.label.isError = true ∨ node.label.isMissing = true

/-- A fault with no fault around it. -/
structure IsOutermostFault (place : Place) : Prop where
  fault : IsFault place.node
  outermost : ∀ outer ∈ place.around, ¬IsFault outer

/-- The mark of a node is right: it says whether the node is or contains a fault. -/
def IsMarkedRight (node : Node) : Prop :=
  node.label.hasError = true ↔ ∃ inner ∈ node.places, IsFault inner.node

/-- All marks of a tree are right. -/
def MarksFaults (root : Node) : Prop :=
  ∀ place ∈ root.places, IsMarkedRight place.node

instance (node : Node) : Decidable (IsFault node) :=
  inferInstanceAs (Decidable (_ ∨ _))

instance (place : Place) : Decidable (IsOutermostFault place) :=
  decidable_of_iff (IsFault place.node ∧ ∀ outer ∈ place.around, ¬IsFault outer)
    ⟨fun ⟨fault, outermost⟩ => ⟨fault, outermost⟩,
      fun isOutermost => ⟨isOutermost.fault, isOutermost.outermost⟩⟩

instance (node : Node) : Decidable (IsMarkedRight node) :=
  inferInstanceAs (Decidable (_ ↔ ∃ _ ∈ _, _))

instance (root : Node) : Decidable (MarksFaults root) :=
  inferInstanceAs (Decidable (∀ _ ∈ _, _))

/-- The report of a fault, with its range. -/
def syntaxErrorAt (id : SourceId) (node : Node) : Diagnostic :=
  { kind := .syntaxError
    detail := some
      (if node.label.isError then "unexpected input" else "missing `" ++ node.kind ++ "`")
    span := some ⟨id, node.label.start, node.label.stop⟩ }

variable {id : SourceId} {node : Node} {around nodes : List Node}

/-! ### The places of faults -/

/-- Whether a fault is at or below a node does not depend on what is around the node. -/
theorem exists_fault_placesFrom_iff :
    (∃ inner ∈ placesFrom around node, IsFault inner.node) ↔
      ∃ inner ∈ node.places, IsFault inner.node := by
  have told : ∀ around, (∃ inner ∈ placesFrom around node, IsFault inner.node) ↔
      ∃ found ∈ (placesFrom around node).map (·.node), IsFault found := by
    intro around
    simp
  rw [told, Node.map_node_placesFrom around [], ← told]
  rfl

/-- Below a fault no fault is outermost. -/
theorem filter_placesAmong_of_fault (fault : IsFault node) :
    (placesAmong (node :: around) nodes).filter (IsOutermostFault ·) = [] := by
  rw [List.filter_eq_nil_iff]
  intro place member isOutermost
  have isAround := (Syntax.Node.suffix_of_mem_placesAmong member).subset List.mem_cons_self
  exact (of_decide_eq_true isOutermost).outermost node isAround fault

/-- Without a mark there is no fault at or below a node. -/
theorem filter_placesFrom_of_unmarked (right : IsMarkedRight node)
    (unmarked : node.label.hasError = false) :
    (placesFrom around node).filter (IsOutermostFault ·) = [] := by
  rw [List.filter_eq_nil_iff]
  intro place member isOutermost
  have fault := (of_decide_eq_true isOutermost).fault
  have marked := right.2 (exists_fault_placesFrom_iff.1 ⟨place, member, fault⟩)
  rw [unmarked] at marked
  cases marked

/-- A node that is no fault leaves the outermost faults to what is below it. -/
theorem filter_placesFrom_of_noFault (noFault : ¬IsFault node) :
    (placesFrom around node).filter (IsOutermostFault ·) =
      (placesAmong (node :: around) node.children).filter (IsOutermostFault ·) := by
  rw [placesFrom_eq, List.filter_cons_of_neg]
  intro isOutermost
  exact noFault (of_decide_eq_true isOutermost).fault

/-! ### The search -/

/-- A fault is reported, and nothing below it. -/
theorem faultsAt_of_fault (fault : IsFault node) : faultsAt id node = [syntaxErrorAt id node] := by
  obtain ⟨label, children⟩ := node
  rw [faultsAt, syntaxErrorAt]
  cases unexpected : label.isError with
  | true => rfl
  | false =>
      have missing : label.isMissing = true := fault.resolve_left (by simp [unexpected])
      rw [missing]
      rfl

/-- A node that is no fault is looked into if it is marked. -/
theorem faultsAt_of_noFault (noFault : ¬IsFault node) :
    faultsAt id node = if node.label.hasError then faultsAmong id node.children else [] := by
  obtain ⟨label, children⟩ := node
  obtain ⟨expected, present⟩ := not_or.1 noFault
  rw [faultsAt, if_neg expected, if_neg present]

-- Both sides go down the same tree.  The search stops at a fault, where the filter keeps nothing of what
-- is below, and at a node without a mark, where there is no fault.

mutual

/-- The search reports the outermost faults, as long as it has met none on its way. -/
theorem faultsAt_places :
    ∀ {around : List Node} {node : Node}, (∀ outer ∈ around, ¬IsFault outer) →
      (∀ place ∈ placesFrom around node, IsMarkedRight place.node) →
        faultsAt id node =
          ((placesFrom around node).filter (IsOutermostFault ·)).map (syntaxErrorAt id ·.node)
  | around, ⟨label, children⟩, clear, right => by
      rw [placesFrom_eq] at right
      obtain ⟨rightHere, rightBelow⟩ := List.forall_mem_cons.1 right
      by_cases fault : IsFault ⟨label, children⟩
      · have outermost : IsOutermostFault ⟨⟨label, children⟩, around⟩ := ⟨fault, clear⟩
        rw [faultsAt_of_fault fault, placesFrom_eq, List.filter_cons_of_pos (by simpa using outermost),
          filter_placesAmong_of_fault fault]
        rfl
      · rw [faultsAt_of_noFault fault]
        cases marked : label.hasError with
        | true =>
            rw [filter_placesFrom_of_noFault fault]
            exact faultsAmong_places (List.forall_mem_cons.2 ⟨fault, clear⟩) rightBelow
        | false =>
            rw [filter_placesFrom_of_unmarked rightHere marked]
            rfl

/-- Among nodes the outermost faults are reported, in document order. -/
theorem faultsAmong_places :
    ∀ {around nodes : List Node}, (∀ outer ∈ around, ¬IsFault outer) →
      (∀ place ∈ placesAmong around nodes, IsMarkedRight place.node) →
        faultsAmong id nodes =
          ((placesAmong around nodes).filter (IsOutermostFault ·)).map (syntaxErrorAt id ·.node)
  | _, [], _, _ => rfl
  | around, node :: rest, clear, right => by
      rw [placesAmong] at right
      obtain ⟨rightFirst, rightRest⟩ := List.forall_mem_append.1 right
      rw [faultsAmong, placesAmong, List.filter_append, List.map_append,
        faultsAt_places clear rightFirst, faultsAmong_places clear rightRest]

end

/-- The outermost faults of a tree with right marks are reported, in document order. -/
theorem faults_eq (right : MarksFaults node) :
    faults id node = (node.places.filter (IsOutermostFault ·)).map (syntaxErrorAt id ·.node) := by
  have clear : ∀ outer ∈ ([] : List Node), ¬IsFault outer := by simp
  have rightRoot : IsMarkedRight node := right ⟨node, []⟩ (by simp [Node.places, placesFrom_eq])
  rw [faults]
  cases marked : node.label.hasError with
  | true => exact faultsAt_places clear right
  | false =>
      rw [Node.places, filter_placesFrom_of_unmarked rightRoot marked]
      rfl

/-! ### What is reported -/

/-- A file has no reports of syntax errors but those of its faults. -/
theorem filter_syntaxErrors_extractOne (config : Config) (id : SourceId) (document : Document) :
    (extractOne config id document).2.filter (·.kind = .syntaxError) = faults id document.tree := by
  have allFaults : ∀ report ∈ faults id document.tree, report.kind = .syntaxError := by
    intro report member
    obtain ⟨label, detail, rfl⟩ := exists_faultReport_of_mem_faults member
    rfl
  have overloads : ∀ report ∈ (declarationsIn config id document).flatMap Prod.snd,
      report.kind ≠ .syntaxError := by
    intro report member
    rw [← filter_overloads_extractOne, List.mem_filter, decide_eq_true_eq] at member
    simp [member.2]
  simp only [extractOne, List.filter_append]
  rw [List.filter_eq_self.2 (by simpa using allFaults),
    List.filter_eq_nil_iff.2 (by simpa using overloads), List.append_nil]

/-- Where the marks of a tree are right, the syntax errors reported for a file are, in document order,
one for each fault that has no fault around it, with its range.  They are warnings. -/
theorem syntaxErrors_of_outermost (config : Config) (id : SourceId) (document : Document)
    (right : MarksFaults document.tree) :
    (extractOne config id document).2.filter (·.kind = .syntaxError) =
        (document.tree.places.filter (IsOutermostFault ·)).map (syntaxErrorAt id ·.node) ∧
      ∀ report ∈ (extractOne config id document).2,
        report.kind = .syntaxError → report.severity = .warning := by
  refine ⟨by rw [filter_syntaxErrors_extractOne, faults_eq right], ?_⟩
  intro report _ isSyntaxError
  rw [Diagnostic.severity, isSyntaxError]
  rfl

/-- A clause in the wrong place, a fault with another one inside. -/
def misplacedClauseNode : Node :=
  ⟨{ kind := "ERROR", isNamed := true, isError := true, hasError := true, stop := 33 },
    [⟨{ kind := "class", stop := 5 }, []⟩,
      ⟨{ kind := "implements", start := 8, stop := 18 }, []⟩,
      ⟨{ kind := "ERROR", isNamed := true, isError := true, hasError := true, start := 29,
          stop := 30 },
        [⟨{ kind := "type_identifier", isNamed := true, start := 29, stop := 30 }, []⟩]⟩]⟩

/-- A brace that is missing at the end of a text. -/
def missingBraceNode : Node :=
  ⟨{ kind := "\x7d", isMissing := true, hasError := true, start := 43, stop := 43 }, []⟩

/-- The body without its last brace. -/
def openBodyNode : Node :=
  ⟨{ kind := "class_body", isNamed := true, hasError := true, start := 42, stop := 43,
      field := some "body" },
    [⟨{ kind := "\x7b", start := 42, stop := 43 }, []⟩, missingBraceNode]⟩

/-- A text whose first class has its clauses in the wrong order, and whose second class is not
finished. -/
def brokenDocument : Document where
  source := { text := "class A implements I extends B \x7b\x7d\nclass C \x7b" }
  tree :=
    ⟨{ kind := "program", isNamed := true, hasError := true, stop := 43 },
      [misplacedClauseNode,
        ⟨{ kind := "class", isNamed := true, hasError := true, start := 34, stop := 43 },
          [⟨{ kind := "class", start := 34, stop := 39 }, []⟩, openBodyNode]⟩]⟩

/-- Clauses in the wrong order and a missing brace are the two faults of a text. -/
theorem syntaxErrors_of_outermost_broken :
    MarksFaults brokenDocument.tree ∧
      (extractOne { libraryName := "lib" } 0 brokenDocument).2.filter (·.kind = .syntaxError) =
        [syntaxErrorAt 0 misplacedClauseNode, syntaxErrorAt 0 missingBraceNode] ∧
      ∀ report ∈ (extractOne { libraryName := "lib" } 0 brokenDocument).2,
        report.kind = .syntaxError → report.severity = .warning := by
  have right : MarksFaults brokenDocument.tree := by decide
  obtain ⟨reported, warnings⟩ :=
    syntaxErrors_of_outermost { libraryName := "lib" } 0 brokenDocument right
  exact ⟨right, reported, warnings⟩

end DartBindings.Extraction
