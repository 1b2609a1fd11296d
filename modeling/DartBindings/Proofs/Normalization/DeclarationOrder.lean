import DartBindings.Proofs.Library.Reordering
import DartBindings.Proofs.Normalization.Locality

/-!
Normalization does not depend on the order of declarations.

A pass is the one solution of an equation that mentions no order, and the declarations in another
order solve the equation of the reordered library.  Every stage therefore commutes with reordering.

Main exports: Library.Reorderable, normalizeReporting_reorder
-/

namespace DartBindings

open Normalization

/-- A library with distinct names in which no class is above itself, and orders of its declarations. -/
structure Library.Reorderable (library : Library) (classOrder interfaceOrder : List Nat) : Prop where
  distinct : library.DistinctNames
  acyclic : Heritage.Acyclic library
  rearranges : library.Rearranges classOrder interfaceOrder

variable {library other : Library} {classOrder interfaceOrder : List Nat}

/-- Changes of members do not matter for reordering. -/
theorem Library.Reorderable.of_bare (settled : library.Reorderable classOrder interfaceOrder)
    (same : other.bare = library.bare) : other.Reorderable classOrder interfaceOrder where
  distinct :=
    { classes := by
        rw [classNames_eq same]
        exact settled.distinct.classes
      interfaces := by
        rw [interfaceNames_eq same]
        exact settled.distinct.interfaces }
  acyclic := settled.acyclic.of_bare same
  rearranges :=
    { classes := by
        rw [length_classes_eq same]
        exact settled.rearranges.classes
      interfaces := by
        have lengths := congrArg List.length (interfaceNames_eq same)
        simp only [interfaceNames, List.length_map] at lengths
        rw [lengths]
        exact settled.rearranges.interfaces }

namespace Normalization

open Heritage

/-! ### Stages -/

/-- A pass of a local change commutes with reordering. -/
theorem pass_reorder {change : Library → Class → Class} (isLocal : IsLocal change)
    (settled : library.Reorderable classOrder interfaceOrder) :
    pass change (library.reorder classOrder interfaceOrder) =
      (pass change library).reorder classOrder interfaceOrder := by
  have after := settled.of_bare (pass_bare isLocal.bare library)
  refine (eq_pass_of_classes isLocal
    (library.acyclic_reorder settled.distinct settled.rearranges settled.acyclic) ?_ ?_).symm
  · simp only [Library.reorder, pass_interfaces]
  · have seen : change ((pass change library).reorder classOrder interfaceOrder) =
        change (pass change library) :=
      funext fun cls =>
        isLocal.congr (Library.sameAbove_reorder after.distinct after.rearranges cls)
    calc ((pass change library).reorder classOrder interfaceOrder).classes
        = reorderItems classOrder (library.classes.map (change (pass change library))) := by
          rw [← pass_classes isLocal settled.acyclic, Library.reorder]
      _ = (library.reorder classOrder interfaceOrder).classes.map
            (change ((pass change library).reorder classOrder interfaceOrder)) := by
          rw [reorderItems_map, seen, Library.reorder]

theorem desugarFields_reorder (library : Library) (classOrder interfaceOrder : List Nat) :
    desugarFields (library.reorder classOrder interfaceOrder) =
      (desugarFields library).reorder classOrder interfaceOrder := by
  simp only [desugarFields, Library.reorder, reorderItems_map]

/-- The record of declared fields does not depend on the order of the classes. -/
theorem declaresField_reorder (settled : library.Reorderable classOrder interfaceOrder) :
    declaresField (library.reorder classOrder interfaceOrder) = declaresField library := by
  funext className field
  have distinct := settled.distinct.classes
  have perm := Library.classes_reorder_perm settled.rearranges
  have same := (find?_name_perm distinct ((List.reverse_perm _).trans perm) className).trans
    (find?_name_perm distinct (List.reverse_perm library.classes) className).symm
  rw [declaresField, declaresField, same]

/-- Accessors are demanded of a class whatever the order of declarations is. -/
theorem addDemandedAccessors_reorder {declared : Library}
    (recorded : declared.Reorderable classOrder interfaceOrder)
    (settled : library.Reorderable classOrder interfaceOrder) :
    addDemandedAccessors (declared.reorder classOrder interfaceOrder)
        (library.reorder classOrder interfaceOrder) =
      (addDemandedAccessors declared library).reorder classOrder interfaceOrder := by
  have change : withDemandedAccessors (declared.reorder classOrder interfaceOrder) =
      withDemandedAccessors declared := by
    funext library cls
    simp only [withDemandedAccessors, needsGetter, needsSetter, fieldOnLevels,
      declaresField_reorder recorded]
  rw [addDemandedAccessors, addDemandedAccessors, change,
    pass_reorder (isLocal_withDemandedAccessors declared) settled]

/-- Constructors are inherited whatever the order of declarations is. -/
theorem inheritConstructors_reorder (settled : library.Reorderable classOrder interfaceOrder) :
    inheritConstructors (library.reorder classOrder interfaceOrder) =
      (inheritConstructors library).reorder classOrder interfaceOrder := by
  have isLocal := isLocal_withInheritedConstructor
  have after := settled.of_bare (pass_bare isLocal.bare library)
  have change : interfaceWithInheritedConstructor
      ((pass withInheritedConstructor library).reorder classOrder interfaceOrder) =
        interfaceWithInheritedConstructor (pass withInheritedConstructor library) := by
    have lookups : inheritable?
        ((pass withInheritedConstructor library).reorder classOrder interfaceOrder) =
          inheritable? (pass withInheritedConstructor library) := by
      funext reference
      rw [inheritable?, inheritable?, Library.class?_reorder after.distinct after.rearranges]
    funext interface
    rw [interfaceWithInheritedConstructor, interfaceWithInheritedConstructor, lookups]
  simp only [inheritConstructors, pass_reorder isLocal settled, change]
  simp only [Library.reorder, reorderItems_map]

/-- Parameters are unified whatever the order of declarations is. -/
theorem unifyOverrides_reorder (settled : library.Reorderable classOrder interfaceOrder) :
    unifyOverrides (library.reorder classOrder interfaceOrder) =
      (unifyOverrides library).reorder classOrder interfaceOrder :=
  pass_reorder isLocal_withUnifiedMethods settled

/-- The stages together commute with reordering. -/
theorem stages_reorder (settled : library.Reorderable classOrder interfaceOrder) :
    (library.reorder classOrder interfaceOrder).normalize =
      library.normalize.reorder classOrder interfaceOrder := by
  have desugared := settled.of_bare (desugarFields_bare library)
  have demanded := desugared.of_bare (addDemandedAccessors_bare library (desugarFields library))
  have inherited := demanded.of_bare
    (inheritConstructors_bare (addDemandedAccessors library (desugarFields library)))
  rw [Library.normalize, desugarFields_reorder, addDemandedAccessors_reorder settled desugared,
    inheritConstructors_reorder demanded, unifyOverrides_reorder inherited, Library.normalize]

/-- Names that mean nothing are reported equally often in every order. -/
theorem unresolvedReferences_reorder (settled : library.Reorderable classOrder interfaceOrder) :
    List.Perm (unresolvedReferences (library.reorder classOrder interfaceOrder))
      (unresolvedReferences library) := by
  have classes := Library.class?_reorder settled.distinct settled.rearranges
  have interfaces := Library.interface?_reorder settled.distinct settled.rearranges
  have inClass : unresolvedInClass (library.reorder classOrder interfaceOrder) =
      unresolvedInClass library := by
    funext cls
    simp only [unresolvedInClass, classes, interfaces]
  have inInterface : unresolvedInInterface (library.reorder classOrder interfaceOrder) =
      unresolvedInInterface library := by
    funext interface
    simp only [unresolvedInInterface, classes, interfaces]
  rw [unresolvedReferences, unresolvedReferences, inClass, inInterface]
  exact ((Library.classes_reorder_perm settled.rearranges).flatMap_right _).append
    ((Library.interfaces_reorder_perm settled.rearranges).flatMap_right _)

/-! ### The whole of normalization -/

/-- Normalizing declarations in another order gives the normalized declarations in that order, and
the same reports, if names are distinct and no class is above itself. -/
theorem normalizeReporting_reorder (library : Library) (reports : Diagnostics)
    (classOrder interfaceOrder : List Nat) (distinct : library.DistinctNames)
    (acyclic : Acyclic library) (rearranges : library.Rearranges classOrder interfaceOrder) :
    ((library.reorder classOrder interfaceOrder).normalizeReporting reports).1 =
        (library.normalizeReporting reports).1.reorder classOrder interfaceOrder ∧
      List.Perm ((library.reorder classOrder interfaceOrder).normalizeReporting reports).2
        (library.normalizeReporting reports).2 := by
  have settled : library.Reorderable classOrder interfaceOrder := ⟨distinct, acyclic, rearranges⟩
  unfold Library.normalizeReporting
  constructor
  · rw [stages_reorder settled]
  · exact (unresolvedReferences_reorder settled).append_left reports

/-- A class in front of the class above it, an interface that extends itself, and an unknown name. -/
def circleLibrary : Library :=
  { classes :=
      [ { name := "Circle", superType := some { name := "Shape" },
          interfaces := [{ name := "Movable" }, { name := "Unknown" }] },
        { name := "Shape",
          constructors := [{ parameters := [{ name := "area", type := .ofName "number" }] }] } ]
    interfaces :=
      [ { name := "Movable", superTypes := [{ name := "Movable" }, { name := "Placed" }] },
        { name := "Placed", properties := [{ name := "x", type := .ofName "number" }] } ] }

/-- A circle and its shape, declared in either order. -/
theorem normalizeReporting_reorder_circle :
    circleLibrary.DistinctNames ∧ Acyclic circleLibrary ∧
      circleLibrary.Rearranges [1, 0] [1, 0] ∧
      ((circleLibrary.reorder [1, 0] [1, 0]).normalizeReporting []).1 =
        (circleLibrary.normalizeReporting []).1.reorder [1, 0] [1, 0] ∧
      List.Perm ((circleLibrary.reorder [1, 0] [1, 0]).normalizeReporting []).2
        (circleLibrary.normalizeReporting []).2 := by
  have distinct : circleLibrary.DistinctNames := ⟨by decide, by decide⟩
  have acyclic : Acyclic circleLibrary := .of_superBehind (by decide)
  have rearranges : circleLibrary.Rearranges [1, 0] [1, 0] := ⟨by decide, by decide⟩
  exact ⟨distinct, acyclic, rearranges,
    normalizeReporting_reorder circleLibrary [] [1, 0] [1, 0] distinct acyclic rearranges⟩

end Normalization

end DartBindings
