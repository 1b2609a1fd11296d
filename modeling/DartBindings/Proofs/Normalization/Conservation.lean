import DartBindings.Proofs.Normalization.Demand
import DartBindings.Proofs.Pipeline.Outcome

/-!
What normalization leaves as it is.

Normalization keeps every declaration in its place, with its name and its heritage, whatever the
heritage of the library is.  Of the methods of a class only parameters change.  Its accessors are those
that it declares, then those of its fields, then those that interfaces demand.  Constructors are added
only where there are none, and at most one.  An interface keeps its properties and its methods.  The
reports are those of before and further warnings.

Main exports: Class.RepairedTo, Interface.RepairedTo, normalizeReporting_repairs
-/

namespace DartBindings

/-- A declaration keeps the constructors that it declares; without any it has at most one in the end. -/
structure KeepsConstructors (declared final : List Constructor) : Prop where
  kept : declared ≠ [] → final = declared
  added : declared = [] → final.length ≤ 1

/-- What is left of a method when its parameters may change. -/
def Method.KeepsAllButParameters (declared final : Method) : Prop :=
  final = { declared with parameters := final.parameters }

open Normalization in
/-- What normalization may make of a class.  Its bare form is its name, whether it is abstract, its type
parameters, its heritage and its documentation. -/
structure Class.RepairedTo (library : Library) (declared final : Class) : Prop where
  bare : final.bare = declared.bare
  methods : List.Forall₂ Method.KeepsAllButParameters declared.methods final.methods
  properties : final.properties = []
  getters : ∃ demanded ⊆ demandedProperties library declared,
    final.getters =
      declared.getters ++ declared.properties.map Property.getter ++ demanded.map Property.getter
  setters : ∃ demanded ⊆ demandedProperties library declared,
    final.setters =
      declared.setters ++
        (declared.properties.filter fun property => !property.isReadonly).map Property.setter ++
        demanded.map Property.setter
  constructors : KeepsConstructors declared.constructors final.constructors

/-- What normalization may make of an interface.  Its bare form is everything but its constructors. -/
structure Interface.RepairedTo (declared final : Interface) : Prop where
  bare : final.bare = declared.bare
  constructors : KeepsConstructors declared.constructors final.constructors

namespace Normalization

/-- Constructors come in only where there are none, and no more than one. -/
theorem keepsConstructors_constructorsOr (declared : List Constructor)
    (inherited : Option Constructor) :
    KeepsConstructors declared (constructorsOr declared inherited) where
  kept present := by simp [constructorsOr, present]
  added absent := by
    rw [constructorsOr, absent]
    cases inherited with
    | none => exact Nat.zero_le 1
    | some constructor => exact Nat.le_refl 1

/-- Overriding changes nothing of a method but its parameters. -/
theorem keepsAllButParameters_withUnifiedMethods (library : Library) (cls : Class) :
    List.Forall₂ Method.KeepsAllButParameters cls.methods
      (withUnifiedMethods library cls).methods := by
  rw [withUnifiedMethods, List.forall₂_map_right_iff, List.forall₂_same]
  exact fun _ _ => rfl

/-- What is added are properties that interfaces demand of the class as declared. -/
theorem added_subset_demandedProperties {library demanding : Library} {cls : Class}
    (grows : (desugarFields library).Grows demanding) (needs : Property → Bool) :
    (firstOfName (·.name) [] (demandedProperties demanding (withFieldAccessors cls))).filter needs ⊆
      demandedProperties library cls := by
  intro property member
  rw [← demandedProperties_desugared grows]
  exact mem_of_mem_firstOfName (List.mem_filter.1 member).1

/-- The stages, each seen in a library of its own, repair a class and keep the rest of it. -/
theorem repairedTo_of_stages {library demanding : Library}
    (grows : (desugarFields library).Grows demanding) (inheriting overriding : Library)
    (cls : Class) :
    cls.RepairedTo library (withUnifiedMethods overriding (withInheritedConstructor inheriting
      (withDemandedAccessors library demanding (withFieldAccessors cls)))) where
  bare := rfl
  methods := keepsAllButParameters_withUnifiedMethods overriding _
  properties := rfl
  getters := ⟨_, added_subset_demandedProperties grows _, rfl⟩
  setters := ⟨_, added_subset_demandedProperties grows _, rfl⟩
  constructors := keepsConstructors_constructorsOr cls.constructors _

/-- Normalization repairs classes and interfaces in place and adds warnings. -/
theorem normalizeReporting_repairs (library : Library) (reports : Diagnostics) :
    List.Forall₂ (Class.RepairedTo library) library.classes
        (library.normalizeReporting reports).1.classes ∧
      List.Forall₂ Interface.RepairedTo library.interfaces
        (library.normalizeReporting reports).1.interfaces ∧
      ∃ added, (library.normalizeReporting reports).2 = reports ++ added ∧
        ∀ report ∈ added, report.severity = .warning := by
  refine ⟨?_, ?_, Heritage.unresolvedReferences library, rfl, ?_⟩
  · apply normalize_forall₂
    intro cls _ demanding inheriting overriding grows
    exact repairedTo_of_stages grows inheriting overriding cls
  · rw [Library.normalizeReporting, interfaces_normalize, List.forall₂_map_right_iff,
      List.forall₂_same]
    exact fun interface _ => ⟨rfl, keepsConstructors_constructorsOr interface.constructors _⟩
  · intro report member
    exact (Heritage.onlyWarnings_unresolvedReferences library).severity member

end Normalization

end DartBindings
