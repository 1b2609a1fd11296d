import DartBindings.Normalization.Library
import DartBindings.Proofs.Normalization.Pass

/-!
The changes of normalization are local, and no stage of normalization changes bare declarations.

Main exports: normalize_bare, normalize_classes, interfaces_normalize
-/

namespace DartBindings.Normalization

open Heritage

/-! ### Local changes -/

/-- Demanded accessors depend on what stands above the class. -/
theorem isLocal_withDemandedAccessors (declared : Library) :
    IsLocal (withDemandedAccessors declared) where
  bare _ _ := rfl
  congr {library other cls} same := by
    have sameLevels : levels library cls = levels other cls := by
      rw [levels, levels, same.ancestors]
    have sameDemands : demandedProperties library cls = demandedProperties other cls := by
      rw [demandedProperties, demandedProperties, same.implementedInterfaces]
    unfold withDemandedAccessors needsGetter needsSetter
    rw [sameLevels, sameDemands]

theorem isLocal_withInheritedConstructor : IsLocal withInheritedConstructor where
  bare _ _ := rfl
  congr {library other cls} same := by
    have inherited : cls.superType.bind (inheritable? library) =
        cls.superType.bind (inheritable? other) := by
      cases hasSuper : cls.superType with
      | none => rfl
      | some superType =>
          have parent := same.parent
          rw [hasSuper, Option.bind_some, Option.bind_some] at parent
          rw [Option.bind_some, Option.bind_some, inheritable?, inheritable?, parent]
    rw [withInheritedConstructor, withInheritedConstructor, inherited]

theorem isLocal_withUnifiedMethods : IsLocal withUnifiedMethods where
  bare _ _ := rfl
  congr {library other cls} same := by
    have overridden : overriddenParameters? library cls = overriddenParameters? other cls := by
      funext name
      simp only [overriddenParameters?, ancestorParameters?, interfaceParameters?, same.ancestors,
        same.implementedInterfaces]
    unfold withUnifiedMethods
    rw [overridden]

/-! ### Bare declarations -/

theorem desugarFields_bare (library : Library) : (desugarFields library).bare = library.bare := by
  simp [desugarFields, Library.bare, Function.comp_def, withFieldAccessors, Class.bare]

theorem addDemandedAccessors_bare (declared library : Library) :
    (addDemandedAccessors declared library).bare = library.bare :=
  pass_bare (isLocal_withDemandedAccessors declared).bare library

theorem inheritConstructors_bare (library : Library) :
    (inheritConstructors library).bare = library.bare := by
  have classes := congrArg Library.classes
    (pass_bare isLocal_withInheritedConstructor.bare library)
  have interfaces := pass_interfaces withInheritedConstructor library
  simp only [Library.bare] at classes
  simp [inheritConstructors, Library.bare, classes, interfaces, Function.comp_def,
    interfaceWithInheritedConstructor, Interface.bare]

theorem unifyOverrides_bare (library : Library) : (unifyOverrides library).bare = library.bare :=
  pass_bare isLocal_withUnifiedMethods.bare library

/-- Normalization changes nothing but members. -/
theorem normalize_bare (library : Library) : library.normalize.bare = library.bare := by
  rw [Library.normalize, unifyOverrides_bare, inheritConstructors_bare, addDemandedAccessors_bare,
    desugarFields_bare]

/-- Normalization keeps names different. -/
theorem normalize_distinct {library : Library} (distinct : library.classNames.Nodup) :
    library.normalize.classNames.Nodup := by
  rw [Library.classNames_eq (normalize_bare library)]
  exact distinct

/-- Normalization closes no circle of heritage. -/
theorem normalize_acyclic {library : Library} (acyclic : Acyclic library) :
    Acyclic library.normalize :=
  acyclic.of_bare (normalize_bare library)

/-- Interfaces change only when they take over constructors, once all classes have theirs. -/
theorem interfaces_normalize (library : Library) :
    library.normalize.interfaces =
      library.interfaces.map (interfaceWithInheritedConstructor
        (inheritConstructors (addDemandedAccessors library (desugarFields library)))) := by
  rw [Library.normalize, unifyOverrides, pass_interfaces, inheritConstructors, pass_interfaces,
    addDemandedAccessors, pass_interfaces]
  rfl

/-! ### Stages of acyclic libraries -/

variable {library : Library}

theorem desugarFields_classes (library : Library) :
    (desugarFields library).classes = library.classes.map withFieldAccessors :=
  rfl

/-- Every class gets what is demanded of it in view of the final accessors above. -/
theorem addDemandedAccessors_classes {declared : Library} (acyclic : Acyclic library) :
    (addDemandedAccessors declared library).classes =
      library.classes.map (withDemandedAccessors declared (addDemandedAccessors declared library)) :=
  pass_classes (isLocal_withDemandedAccessors declared) acyclic

/-- Every class inherits from what the classes above have in the end. -/
theorem inheritConstructors_classes (acyclic : Acyclic library) :
    (inheritConstructors library).classes =
      library.classes.map (withInheritedConstructor (inheritConstructors library)) :=
  pass_classes isLocal_withInheritedConstructor acyclic

/-- Every class has the parameters that the classes above have in the end. -/
theorem unifyOverrides_classes (acyclic : Acyclic library) :
    (unifyOverrides library).classes =
      library.classes.map (withUnifiedMethods (unifyOverrides library)) :=
  pass_classes isLocal_withUnifiedMethods acyclic

/-- Where no class is above itself, normalization changes each class by itself, in view of what the
stages yield. -/
theorem normalize_classes (acyclic : Acyclic library) :
    library.normalize.classes = library.classes.map fun cls =>
      let supplied := addDemandedAccessors library (desugarFields library)
      withUnifiedMethods library.normalize
        (withInheritedConstructor (inheritConstructors supplied)
          (withDemandedAccessors library supplied (withFieldAccessors cls))) := by
  let supplied := addDemandedAccessors library (desugarFields library)
  have desugared : Acyclic (desugarFields library) := acyclic.of_bare (desugarFields_bare library)
  have demanded : Acyclic supplied := desugared.of_bare (addDemandedAccessors_bare library _)
  have inherited : Acyclic (inheritConstructors supplied) :=
    demanded.of_bare (inheritConstructors_bare supplied)
  rw [Library.normalize, unifyOverrides_classes inherited, inheritConstructors_classes demanded,
    addDemandedAccessors_classes desugared, desugarFields_classes]
  simp only [List.map_map, Function.comp_def, supplied]

end DartBindings.Normalization
