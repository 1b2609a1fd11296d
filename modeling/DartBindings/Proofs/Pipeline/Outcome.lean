import DartBindings.Pipeline
import DartBindings.Proofs.Emission.Refusal
import DartBindings.Proofs.Extraction.Faults

/-!
What a run comes to.

The only errors of a run are the members and calls that its units refuse; whatever the stages before
emission report is a warning.  A run with errors is rejected with their number, and files stay as they
are.  A run without errors goes on to write: it makes the directory and writes every unit in order, and
it gives the paths of the units exactly when none of this meets a fault.

Main exports: OnlyWarnings, AllWritten, writeUnits_eq_ok_iff, refusals_exact_and_blocking
-/

namespace DartBindings

/-! ### Reports of the stages before emission -/

/-- No report is an error. -/
def OnlyWarnings (reports : Diagnostics) : Prop :=
  ∀ report ∈ reports, report.isError = false

namespace OnlyWarnings

variable {first second : Diagnostics}

theorem append (warnings : OnlyWarnings first) (further : OnlyWarnings second) :
    OnlyWarnings (first ++ second) := by
  intro report member
  rcases List.mem_append.1 member with inFirst | inSecond
  · exact warnings report inFirst
  · exact further report inSecond

theorem flatMap {α : Type} {sources : List α} {reports : α → Diagnostics}
    (warnings : ∀ source ∈ sources, OnlyWarnings (reports source)) :
    OnlyWarnings (sources.flatMap reports) := by
  intro report member
  obtain ⟨source, known, inside⟩ := List.mem_flatMap.1 member
  exact warnings source known report inside

/-- Reports whose kinds are warnings are warnings. -/
theorem map {α : Type} {sources : List α} {report : α → Diagnostic}
    (warning : ∀ source, (report source).kind.severity = .warning) :
    OnlyWarnings (sources.map report) := by
  intro _ member
  obtain ⟨source, -, rfl⟩ := List.mem_map.1 member
  rw [Diagnostic.isError, Diagnostic.severity, warning]
  rfl

/-- There is no error among warnings. -/
theorem errorCount (warnings : OnlyWarnings first) : Diagnostics.errorCount first = 0 :=
  List.countP_eq_zero.2 fun report member => by simp [warnings report member]

theorem severity (warnings : OnlyWarnings first) {report : Diagnostic} (member : report ∈ first) :
    report.severity = .warning := by
  have noError := warnings report member
  rw [Diagnostic.isError, beq_eq_false_iff_ne] at noError
  cases given : report.severity with
  | error => exact absurd given noError
  | warning => rfl

end OnlyWarnings

namespace Extraction

theorem onlyWarnings_faults (id : SourceId) (root : Syntax.Node) :
    OnlyWarnings (faults id root) := by
  intro report member
  obtain ⟨label, detail, rfl⟩ := exists_faultReport_of_mem_faults member
  rfl

theorem onlyWarnings_droppedOverloads (id : SourceId) (owner : String)
    (signatures : List MethodSignature) : OnlyWarnings (droppedOverloads id owner signatures) :=
  .map fun _ => rfl

theorem onlyWarnings_readCandidate {config : Config} {id : SourceId} {source : List Char}
    {candidate : Candidate} {declared : Declared × Diagnostics}
    (taken : readCandidate? config id source candidate = some declared) :
    OnlyWarnings declared.2 := by
  obtain ⟨name, -, rfl⟩ := Option.map_eq_some_iff.1 taken
  split
  · exact onlyWarnings_droppedOverloads id name _
  · exact onlyWarnings_droppedOverloads id name _

/-- Extraction reports warnings only. -/
theorem onlyWarnings_extract (config : Config) (documents : List Document) :
    OnlyWarnings (extract config documents).2 := by
  refine .flatMap fun part inParts => ?_
  obtain ⟨⟨document, id⟩, -, rfl⟩ := List.mem_map.1 inParts
  refine (onlyWarnings_faults id document.tree).append (.flatMap fun declared member => ?_)
  obtain ⟨candidate, -, taken⟩ := List.mem_filterMap.1 member
  exact onlyWarnings_readCandidate taken

end Extraction

theorem Heritage.onlyWarnings_unresolvedReferences (library : Library) :
    OnlyWarnings (unresolvedReferences library) := by
  refine OnlyWarnings.append (.flatMap fun cls _ => .append ?_ ?_) (.flatMap fun interface _ => ?_)
  · exact .map fun _ => rfl
  · exact .map fun _ => rfl
  · exact .map fun _ => rfl

theorem TypeMapper.onlyWarnings_unboundTokens (mapper : TypeMapper) :
    OnlyWarnings mapper.unboundTokens :=
  .flatMap fun _ _ => .map fun _ => rfl

/-! ### Errors of a run -/

namespace Generator

variable (generator : Generator)

/-- How many members and calls of hoisted shapes the units of a run refuse. -/
def refusalCount : Nat :=
  (generator.extract.normalize.library.classes.map
    (Emission.refusalCount generator.config)).sum

/-- The units of a run are those of the classes of the normalized library. -/
theorem units_run :
    generator.run.units =
      generator.config.emitter.units generator.extract.normalize.library := by
  have same : generator.extract.normalize.generator = generator := rfl
  rw [run, Normalized.emit, same]

/-- The errors of a run are its refusals. -/
theorem errorCount_run : generator.run.reports.errorCount = generator.refusalCount := by
  have extracted : OnlyWarnings generator.extract.reports :=
    Extraction.onlyWarnings_extract generator.config generator.documents
  have unresolved : OnlyWarnings (Heritage.unresolvedReferences generator.extract.library) :=
    Heritage.onlyWarnings_unresolvedReferences _
  have unbound := TypeMapper.onlyWarnings_unboundTokens generator.config.emitter.mapper
  calc generator.run.reports.errorCount
      = Diagnostics.errorCount
          (generator.extract.reports ++ Heritage.unresolvedReferences generator.extract.library
            ++ generator.config.emitter.mapper.unboundTokens
            ++ generator.config.emitter.libraryReports generator.extract.normalize.library) := rfl
    _ = Diagnostics.errorCount
          (generator.config.emitter.libraryReports generator.extract.normalize.library) := by
        rw [Emission.errorCount_append, ((extracted.append unresolved).append unbound).errorCount,
          Nat.zero_add]
    _ = generator.refusalCount := by
        rw [Emission.Emitter.errorCount_libraryReports]
        rfl

/-- A run is valid exactly when its units refuse nothing. -/
theorem isValid_run_iff : generator.run.isValid = true ↔ generator.refusalCount = 0 := by
  rw [← errorCount_run, Emitted.isValid, Diagnostics.hasErrors, Diagnostics.errorCount,
    List.countP_eq_zero]
  simp

end Generator

/-! ### Writing -/

/-- An action runs from the state that the action in front of it leaves. -/
theorem run_bind_of_run {σ α β : Type} {first : StateM σ α} {next : α → StateM σ β}
    {before between : σ} {answer : α} (ran : first.run before = (answer, between)) :
    (first >>= next).run before = (next answer).run between := by
  rw [StateT.run_bind, ran]
  rfl

section Writing

variable {σ : Type} (files : FileAccess (StateM σ)) (directory : String)

/-- Units are written one after the other, from one state of the files to another, without a fault. -/
inductive AllWritten : σ → List Emission.OutputUnit → σ → Prop
  | nil {state : σ} : AllWritten state [] state
  | cons {before between after : σ} {unit : Emission.OutputUnit}
      {rest : List Emission.OutputUnit}
      (first : (files.write (Path.join directory unit.fileName) unit.content).run before =
        (.ok (), between))
      (further : AllWritten between rest after) : AllWritten before (unit :: rest) after

/-- The paths of units in a directory. -/
def unitPaths (units : List Emission.OutputUnit) : List String :=
  units.map fun unit => Path.join directory unit.fileName

variable {files directory} {unit : Emission.OutputUnit} {rest units : List Emission.OutputUnit}
  {before between after : σ} {paths : List String}

/-- Writing stops at the first unit that meets a fault, with the path of that unit. -/
theorem writeAll_cons_of_fault {fault : FileFault}
    (refused : (files.write (Path.join directory unit.fileName) unit.content).run before =
      (.error fault, between)) :
    (files.writeAll directory (unit :: rest)).run before =
      (.error ⟨Path.join directory unit.fileName, fault⟩, between) := by
  rw [FileAccess.writeAll, run_bind_of_run refused]
  rfl

/-- Behind a unit that is written the others are. -/
theorem writeAll_cons_of_ok
    (written : (files.write (Path.join directory unit.fileName) unit.content).run before =
      (.ok (), between)) :
    (files.writeAll directory (unit :: rest)).run before =
      let later := (files.writeAll directory rest).run between
      (later.1.map (Path.join directory unit.fileName :: ·), later.2) := by
  rw [FileAccess.writeAll, run_bind_of_run written]
  rcases later : (files.writeAll directory rest).run between with ⟨problem | paths, after⟩
  · exact run_bind_of_run later
  · exact run_bind_of_run later

/-- Units are written up to the end exactly when none of them meets a fault. -/
theorem writeAll_eq_ok_iff :
    (files.writeAll directory units).run before = (.ok paths, after) ↔
      paths = unitPaths directory units ∧ AllWritten files directory before units after := by
  induction units generalizing before paths with
  | nil =>
      constructor
      · intro written
        cases written
        exact ⟨rfl, .nil⟩
      · rintro ⟨rfl, written⟩
        cases written
        rfl
  | cons unit rest ih =>
      -- The first write decides: a fault ends the run, and otherwise the rest starts from its state.
      rcases written : (files.write (Path.join directory unit.fileName) unit.content).run before
        with ⟨fault | done, between⟩
      · rw [writeAll_cons_of_fault written]
        constructor
        · intro same
          cases same
        · rintro ⟨-, allWritten⟩
          cases allWritten with
          | cons first _ => cases written.symm.trans first
      · rw [writeAll_cons_of_ok written]
        constructor
        · intro same
          rcases later : (files.writeAll directory rest).run between with ⟨problem | others, final⟩
          · rw [later] at same
            cases same
          · rw [later] at same
            cases same
            obtain ⟨rfl, further⟩ := ih.1 later
            exact ⟨rfl, .cons written further⟩
        · rintro ⟨rfl, allWritten⟩
          cases allWritten with
          | cons first further =>
              cases written.symm.trans first
              rw [ih.2 ⟨rfl, further⟩]
              rfl

/-- Writing units succeeds exactly when the directory is made and every unit is written, in order. -/
theorem writeUnits_eq_ok_iff :
    (files.writeUnits directory units).run before = (.ok paths, after) ↔
      paths = unitPaths directory units ∧ ∃ made,
        (files.makeDirectory directory).run before = (.ok (), made) ∧
          AllWritten files directory made units after := by
  rcases made : (files.makeDirectory directory).run before with ⟨fault | done, between⟩
  · rw [FileAccess.writeUnits, run_bind_of_run made]
    constructor
    · intro same
      cases same
    · rintro ⟨-, _, same, -⟩
      cases same
  · rw [FileAccess.writeUnits, run_bind_of_run made]
    constructor
    · intro same
      obtain ⟨rfl, written⟩ := writeAll_eq_ok_iff.1 same
      exact ⟨rfl, between, rfl, written⟩
    · rintro ⟨rfl, _, same, written⟩
      cases same
      exact writeAll_eq_ok_iff.2 ⟨rfl, written⟩

end Writing

/-! ### The outcome -/

section Outcome

variable {σ : Type} (generator : Generator) (files : FileAccess (StateM σ)) (directory : String)
  (before : σ)

/-- A run that refuses something leaves the files alone. -/
theorem writeTo_run_of_refusals (refuses : generator.refusalCount ≠ 0) :
    (generator.run.writeTo files directory).run before =
      (.error (.rejected generator.refusalCount), before) := by
  have invalid : ¬generator.run.isValid = true := fun valid =>
    refuses (generator.isValid_run_iff.1 valid)
  rw [Emitted.writeTo, if_neg invalid, generator.errorCount_run]
  rfl

/-- A run that refuses nothing writes its units. -/
theorem writeTo_run_of_no_refusal (accepts : generator.refusalCount = 0) :
    (generator.run.writeTo files directory).run before =
      let written := (files.writeUnits directory generator.run.units).run before
      (written.1.mapError .inaccessible, written.2) := by
  rw [Emitted.writeTo, if_pos (generator.isValid_run_iff.2 accepts)]
  rcases written : (files.writeUnits directory generator.run.units).run before
    with ⟨problem | paths, after⟩
  · exact run_bind_of_run written
  · exact run_bind_of_run written

/-- A run is rejected exactly when there are refusals, with their number and with the files as before.
-/
theorem writeTo_run_eq_rejected_iff {count : Nat} {after : σ} :
    (generator.run.writeTo files directory).run before = (.error (.rejected count), after) ↔
      0 < count ∧ count = generator.refusalCount ∧ after = before := by
  by_cases accepts : generator.refusalCount = 0
  · rw [writeTo_run_of_no_refusal generator files directory before accepts]
    constructor
    · intro same
      rcases written : (files.writeUnits directory generator.run.units).run before
        with ⟨problem | paths, after⟩
      · rw [written] at same
        cases same
      · rw [written] at same
        cases same
    · rintro ⟨positive, counted, -⟩
      exact absurd (counted.trans accepts) (Nat.ne_of_gt positive)
  · rw [writeTo_run_of_refusals generator files directory before accepts]
    -- By injectivity alone: a case split on the equation would evaluate the run to compare the counts.
    constructor
    · intro same
      obtain ⟨rejected, unchanged⟩ := Prod.mk.inj same
      have counted := Failure.rejected.inj (Except.error.inj rejected)
      exact ⟨counted ▸ Nat.pos_of_ne_zero accepts, counted.symm, unchanged.symm⟩
    · rintro ⟨-, counted, unchanged⟩
      rw [counted, unchanged]

/-- A run succeeds exactly when nothing is refused and every unit is written, and then gives their
paths. -/
theorem writeTo_run_eq_ok_iff {paths : List String} {after : σ} :
    (generator.run.writeTo files directory).run before = (.ok paths, after) ↔
      generator.refusalCount = 0 ∧ paths = unitPaths directory generator.run.units ∧
        ∃ made, (files.makeDirectory directory).run before = (.ok (), made) ∧
          AllWritten files directory made generator.run.units after := by
  by_cases accepts : generator.refusalCount = 0
  · rw [writeTo_run_of_no_refusal generator files directory before accepts, ← writeUnits_eq_ok_iff]
    rcases (files.writeUnits directory generator.run.units).run before with ⟨problem | others, final⟩
    · constructor
      · intro same
        cases same
      · rintro ⟨-, same⟩
        cases same
    · constructor
      · intro same
        cases same
        exact ⟨accepts, rfl⟩
      · rintro ⟨-, same⟩
        cases same
        rfl
  · rw [writeTo_run_of_refusals generator files directory before accepts]
    constructor
    · intro same
      cases congrArg Prod.fst same
    · rintro ⟨none, -⟩
      exact absurd none accepts

end Outcome

/-- Emission reports each included member and each call of a hoisted shape whose parameters have a
required one behind an optional one, and the units show everything else, each once and in order.  A run
is rejected with the number of these, files as they were, exactly when there are any; otherwise it writes
the unit of every class unless a file meets a fault. -/
theorem refusals_exact_and_blocking :
    (∀ (emitter : Emission.Emitter) (library : Library),
      emitter.libraryReports library =
          library.classes.flatMap (Emission.unitRefusals emitter.config) ∧
        Diagnostics.errorCount (emitter.libraryReports library) =
          (library.classes.map (Emission.refusalCount emitter.config)).sum ∧
        emitter.units library = library.classes.map fun cls =>
          { fileName := Emission.unitFileName cls.name
            content := String.join ((emitter.unitLines cls).map (· ++ "\n")) }) ∧
      ∀ (generator : Generator) (σ : Type) (files : FileAccess (StateM σ)) (directory : String)
          (before after : σ),
        generator.run.units =
          generator.config.emitter.units generator.extract.normalize.library ∧
        (∀ count, (generator.run.writeTo files directory).run before =
            (.error (.rejected count), after) ↔
          0 < count ∧ count = generator.refusalCount ∧ after = before) ∧
        (∀ paths, (generator.run.writeTo files directory).run before = (.ok paths, after) ↔
          generator.refusalCount = 0 ∧ paths = unitPaths directory generator.run.units ∧
            ∃ made, (files.makeDirectory directory).run before = (.ok (), made) ∧
              AllWritten files directory made generator.run.units after) := by
  refine ⟨fun emitter library => ⟨?_, ?_, ?_⟩, fun generator σ files directory before after => ?_⟩
  · exact List.flatMap_congr fun cls _ => emitter.reports_eq cls
  · exact emitter.errorCount_libraryReports library
  · exact List.map_congr_left fun cls _ => emitter.unit_eq cls
  · exact ⟨generator.units_run, fun _ => writeTo_run_eq_rejected_iff generator files directory before,
      fun _ => writeTo_run_eq_ok_iff generator files directory before⟩

end DartBindings
