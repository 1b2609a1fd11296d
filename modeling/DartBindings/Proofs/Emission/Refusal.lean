import Mathlib.Algebra.GroupWithZero.Nat
import DartBindings.Proofs.Emission.UnitText

/-!
Members that cannot be written.

There is one report for each refused member and each refused call of a hoisted shape, in the order of
what is missing from the unit, and every report is one error.

Main exports: unitRefusals, refusalCount, Emitter.reports_eq, Emitter.errorCount_libraryReports
-/

namespace DartBindings.Emission

/-! ### Reports -/

/-- The refusals of a hoisted shape. -/
def shapeRefusals (name : String) (shape : Shape) : Diagnostics :=
  (shape.calls.filter fun call => RequiredBehindOptional call.parameters).map fun _ =>
    misgrouped name callName

/-- The refusals of the members of a class that the configuration includes. -/
def memberRefusals (config : Config) (cls : Class) : Diagnostics :=
  let included := config.includesMember cls.name
  ((cls.constructors.filter fun constructor =>
      included constructorKey ∧ RequiredBehindOptional constructor.parameters).map fun _ =>
        misgrouped cls.name constructorKey)
    ++ (cls.methods.filter fun method =>
      included method.name ∧ RequiredBehindOptional method.parameters).map fun method =>
        misgrouped cls.name method.name

/-- The refusals of a unit: those of its hoisted shapes, then those of its members. -/
def unitRefusals (config : Config) (cls : Class) : Diagnostics :=
  (hoistedShapes config cls).entries.flatMap (fun entry => shapeRefusals entry.1 entry.2)
    ++ memberRefusals config cls

@[simp] theorem Item.report?_ok (lines : List String) : Item.report? (.ok lines) = none :=
  rfl

/-- Items that are never refused have no report. -/
theorem filterMap_report?_of_ok {α : Type} (sources : List α) (lines : α → List String) :
    (sources.map fun source => (.ok (lines source) : Item)).filterMap Item.report? = [] := by
  rw [List.filterMap_map, List.filterMap_eq_nil_iff]
  exact fun _ _ => rfl

namespace Emitter

variable (emitter : Emitter) (cls : Class)

/-- The reports of a hoisted shape are its refusals. -/
theorem reports_shapeItems (name : String) (shape : Shape) :
    (emitter.shapeItems name shape).filterMap Item.report? = shapeRefusals name shape := by
  simp only [shapeItems, shapeRefusals, shapeHead_eq, shapeGetter_eq, shapeCall_eq,
    List.filterMap_append, filterMap_report?_refusing, filterMap_report?_of_ok]
  simp [List.filterMap_cons]

/-- The reports of the members of a class are their refusals. -/
theorem reports_memberItems :
    (emitter.memberItems cls).filterMap Item.report? = memberRefusals emitter.config cls := by
  simp only [memberItems, memberRefusals, wantedMembers_eq, trimmed, constructorItem_eq, getterItem_eq,
    setterItem_eq, methodItem_eq, List.filterMap_append, filterMap_report?_refusing,
    filterMap_report?_of_ok, List.append_nil, List.filter_filter, Bool.decide_and,
    Bool.decide_eq_true, Bool.and_comm]

/-- The reports of a unit are its refusals. -/
theorem reports_eq : emitter.reports cls = unitRefusals emitter.config cls := by
  simp only [reports, items, unitRefusals, hoistedItems, List.filterMap_append,
    List.filterMap_flatMap, reports_shapeItems, reports_memberItems]
  simp [classHead_eq, List.filterMap_cons]

end Emitter

/-! ### Counts -/

/-- How many members and calls of hoisted shapes are refused in the unit of a class. -/
def refusalCount (config : Config) (cls : Class) : Nat :=
  let included := config.includesMember cls.name
  cls.constructors.countP (fun constructor =>
      included constructorKey ∧ RequiredBehindOptional constructor.parameters)
    + cls.methods.countP (fun method =>
      included method.name ∧ RequiredBehindOptional method.parameters)
    + ((hoistedShapes config cls).entries.map fun entry =>
        entry.2.calls.countP fun call => RequiredBehindOptional call.parameters).sum

theorem errorCount_append (first second : Diagnostics) :
    Diagnostics.errorCount (first ++ second) = first.errorCount + second.errorCount :=
  List.countP_append

/-- Errors are counted source by source. -/
theorem errorCount_flatMap {α : Type} (sources : List α) (reports : α → Diagnostics) :
    Diagnostics.errorCount (sources.flatMap reports) =
      (sources.map fun source => (reports source).errorCount).sum :=
  List.countP_flatMap

/-- Every refusal is one error. -/
theorem errorCount_refusals {α : Type} (sources : List α) (refused : α → Bool)
    (owner member : α → String) :
    Diagnostics.errorCount
        ((sources.filter refused).map fun source => misgrouped (owner source) (member source)) =
      sources.countP refused := by
  have allErrors : (sources.filter refused).countP
      (Diagnostic.isError ∘ fun source => misgrouped (owner source) (member source)) =
        (sources.filter refused).length :=
    List.countP_eq_length.2 fun _ _ => rfl
  rw [Diagnostics.errorCount, List.countP_map, allErrors, List.countP_eq_length_filter]

/-- Every refusal of a unit is one error. -/
theorem errorCount_unitRefusals (config : Config) (cls : Class) :
    Diagnostics.errorCount (unitRefusals config cls) = refusalCount config cls := by
  simp only [unitRefusals, memberRefusals, shapeRefusals, refusalCount, errorCount_append,
    errorCount_flatMap, errorCount_refusals]
  omega

/-- The errors of all units of a library are its refusals. -/
theorem Emitter.errorCount_libraryReports (emitter : Emitter) (library : Library) :
    Diagnostics.errorCount (emitter.libraryReports library) =
      (library.classes.map (refusalCount emitter.config)).sum := by
  simp only [libraryReports, errorCount_flatMap, reports_eq, errorCount_unitRefusals]

end DartBindings.Emission
