import Mathlib.Computability.Primrec.List
import Mathlib.Data.List.Forall2
import DartBindings.Proofs.Normalization.Demand

/-!
No accessor is added without need.

An accessor is added to a class because nothing on the way up provides it when the class is visited.
Classes above a class are visited in front of it, so that they have their accessors by then, and the
stages that follow leave all accessors alone.  In the normalized library an added accessor is therefore
the only one of its name in its class and on the way up, and its name is that of no field declared there.
An added setter writes a property that no interface of the class has as read-only.

Main exports: AddsNeededGetters, AddsNeededSetters, added_accessors_needed
-/

namespace DartBindings

/-- A class with the bare form of another one and the same accessors. -/
structure Class.KeepsAccessors (cls twin : Class) : Prop where
  bare : cls.bare = twin.bare
  getters : cls.getters = twin.getters
  setters : cls.setters = twin.setters

theorem Class.KeepsAccessors.isKept : Class.IsKept Class.KeepsAccessors where
  bare _ _ keeps := keeps.bare
  refl _ := ⟨rfl, rfl, rfl⟩
  trans _ _ _ lower upper :=
    ⟨lower.bare.trans upper.bare, lower.getters.trans upper.getters,
      lower.setters.trans upper.setters⟩

theorem Class.KeepsAccessors.hasGetter {cls twin : Class} (keeps : cls.KeepsAccessors twin)
    (name : String) : cls.hasGetter name = twin.hasGetter name := by
  rw [Class.hasGetter, Class.hasGetter, keeps.getters]

theorem Class.KeepsAccessors.hasSetter {cls twin : Class} (keeps : cls.KeepsAccessors twin)
    (name : String) : cls.hasSetter name = twin.hasSetter name := by
  rw [Class.hasSetter, Class.hasSetter, keeps.setters]

namespace Normalization

open Heritage
open Relation (TransGen)

/-- No class above has an accessor of the name in the end, and neither the class nor a class above it
declares a field of the name. -/
structure NotProvided (library : Library) (declared final : Class) (has : Class → String → Bool)
    (name : String) : Prop where
  above : ∀ level, TransGen (Extends library.normalize) final level → has level name = false
  undeclared : ∀ level, Reaches library declared level → ∀ field ∈ level.properties,
    field.name ≠ name

/-- Every property of the name can be written, in all interfaces of the class. -/
def WritableEverywhere (library : Library) (cls : Class) (name : String) : Prop :=
  ∀ interface, HasInterface library cls interface → ∀ property ∈ interface.properties,
    property.name = name → property.isReadonly = false

/-- Behind the getters of a class and of its fields stand added ones, all of them needed. -/
structure AddsNeededGetters (library : Library) (declared final : Class) (added : List Getter) :
    Prop where
  getters : final.getters = declared.getters ++ declared.properties.map Property.getter ++ added
  alone : ∀ getter ∈ added, (final.getters.map (·.name)).count getter.name = 1
  needed : ∀ getter ∈ added, NotProvided library declared final Class.hasGetter getter.name

/-- Behind the setters of a class and of its fields stand added ones, all of them needed. -/
structure AddsNeededSetters (library : Library) (declared final : Class) (added : List Setter) :
    Prop where
  setters : final.setters = declared.setters ++
    (declared.properties.filter fun property => !property.isReadonly).map Property.setter ++ added
  alone : ∀ setter ∈ added, (final.setters.map (·.name)).count setter.name = 1
  needed : ∀ setter ∈ added, NotProvided library declared final Class.hasSetter setter.name
  writable : ∀ setter ∈ added, WritableEverywhere library declared setter.name

variable {library : Library} {cls : Class} {name : String}

/-- Of the added accessors, one of each name is made, and there was none of its name. -/
theorem count_name_of_added {α : Type} (named : α → String) (make : Property → α) {own : List α}
    {demanded : List Property} {needs : Property → Bool}
    (keepsName : ∀ property, named (make property) = property.name)
    (absent : ∀ property, needs property = true → own.any (named · == property.name) = false)
    {accessor : α}
    (added : accessor ∈ ((firstOfName (·.name) [] demanded).filter needs).map make) :
    ((own ++ ((firstOfName (·.name) [] demanded).filter needs).map make).map named).count
      (named accessor) = 1 := by
  have names : (((firstOfName (·.name) [] demanded).filter needs).map make).map named =
      ((firstOfName (·.name) [] demanded).filter needs).map (·.name) := by
    rw [List.map_map]
    exact List.map_congr_left fun property _ => keepsName property
  have distinct : (((firstOfName (·.name) [] demanded).filter needs).map (·.name)).Nodup :=
    (nodup_firstOfName (·.name) [] demanded).sublist (List.filter_sublist.map _)
  have once := List.count_eq_one_of_mem (names ▸ distinct) (List.mem_map_of_mem (f := named) added)
  obtain ⟨property, chosen, rfl⟩ := List.mem_map.1 added
  have none : (own.map named).count (named (make property)) = 0 := by
    rw [List.count_eq_zero, keepsName]
    intro known
    obtain ⟨other, member, same⟩ := List.mem_map.1 known
    have notThere := List.any_eq_false.1 (absent property (List.mem_filter.1 chosen).2) other member
    exact notThere (by simpa using same)
  rw [List.map_append, List.count_append, none, once]

/-! ### The library whose classes have all accessors -/

/-- The library after the stage that adds accessors. -/
def supplied (library : Library) : Library :=
  addDemandedAccessors library (desugarFields library)

/-- In the library with all accessors every class is its declaration with what that library demands. -/
theorem supplied_classes (acyclic : Acyclic library) :
    (supplied library).classes = library.classes.map fun cls =>
      withDemandedAccessors library (supplied library) (withFieldAccessors cls) := by
  have desugared : Acyclic (desugarFields library) := acyclic.of_bare (desugarFields_bare library)
  rw [supplied, addDemandedAccessors_classes desugared, desugarFields_classes, List.map_map]
  rfl

theorem grows_supplied (library : Library) : (desugarFields library).Grows (supplied library) :=
  pass_grows (grows_withDemandedAccessors library) _

theorem supplied_bare (library : Library) : (supplied library).bare = library.bare := by
  rw [supplied, addDemandedAccessors_bare, desugarFields_bare]

/-- The stages that follow leave accessors alone. -/
theorem supplied_keepsAccessors (library : Library) :
    (supplied library).PairsWith Class.KeepsAccessors library.normalize := by
  have inherits : ∀ library (cls : Class),
      cls.KeepsAccessors (withInheritedConstructor library cls) := fun _ _ => ⟨rfl, rfl, rfl⟩
  have overrides : ∀ library (cls : Class), cls.KeepsAccessors (withUnifiedMethods library cls) :=
    fun _ _ => ⟨rfl, rfl, rfl⟩
  have kept := Class.KeepsAccessors.isKept
  exact (inheritConstructors_pairs kept inherits _).trans kept (pass_pairs kept overrides _)

/-! ### What is absent when a class is visited -/

/-- What is absent on all levels is absent in the class itself. -/
theorem own_absent (has : Class → String → Bool)
    (absent : (levels library cls).any (has · name) = false) : has cls name = false := by
  simpa using List.any_eq_false.1 absent cls List.mem_cons_self

/-- Where a setter is needed, no interface has the property as read-only. -/
theorem writableEverywhere_of_needsSetter (distinct : library.classNames.Nodup)
    (member : cls ∈ library.classes)
    (writable : ((demandedProperties (supplied library) (withFieldAccessors cls)).filter
      (·.name == name)).all (fun property => !property.isReadonly) = true) :
    WritableEverywhere library cls name := by
  intro interface has property listed named
  rw [demandedProperties_desugared (grows_supplied library), List.all_eq_true] at writable
  obtain ⟨implemented, walked, rfl⟩ :=
    List.mem_map.1 ((mem_implementedInterfaces_iff distinct member).2 has)
  have demanded : property.substitute implemented.bindings ∈ demandedProperties library cls :=
    List.mem_flatMap.2 ⟨implemented, walked, List.mem_map_of_mem listed⟩
  have sameName : (property.substitute implemented.bindings).name = name := named
  simpa [Property.substitute] using
    writable _ (List.mem_filter.2 ⟨demanded, by simpa using sameName⟩)

section Visit

variable (distinct : library.classNames.Nodup) (acyclic : Acyclic library)
  (member : cls ∈ library.classes)
include distinct acyclic member

/-- What a class does not find on its levels when it is visited is not provided in the end. -/
theorem notProvided_of_absent {has : Class → String → Bool} {final : Class}
    (kept : ∀ {cls twin : Class}, cls.KeepsAccessors twin → ∀ name, has cls name = has twin name)
    (pair : (withDemandedAccessors library (supplied library)
      (withFieldAccessors cls)).KeepsAccessors final)
    (noField : fieldOnLevels library (levels (supplied library) (withFieldAccessors cls)) name = false)
    (noAccessor : (levels (supplied library) (withFieldAccessors cls)).any (has · name) = false) :
    NotProvided library cls final has name := by
  let own := withDemandedAccessors library (supplied library) (withFieldAccessors cls)
  have distinct' : (supplied library).classNames.Nodup :=
    Library.classNames_eq (supplied_bare library) ▸ distinct
  have acyclic' : Acyclic (supplied library) := acyclic.of_bare (supplied_bare library)
  have member' : own ∈ (supplied library).classes := by
    rw [supplied_classes acyclic]
    exact List.mem_map_of_mem member
  constructor
  · -- What stands above the class was visited in front of it, and has its final accessors already.
    intro level chain
    obtain ⟨higher, above, same⟩ := (supplied_keepsAccessors library).flip.above pair chain
    have walked := (mem_ancestors_iff_above distinct' acyclic' member').2 above
    have absent := List.any_eq_false.1 noAccessor higher (List.mem_cons_of_mem _ walked)
    rw [← kept same]
    simpa using absent
  · intro level reaches
    exact not_declared_of_noField distinct member (grows_supplied library) noField
      ((mem_levels_iff distinct member).2 reaches)

/-- The getters of the normalized class are its own, those of its fields and needed ones. -/
theorem addsNeededGetters {final : Class}
    (pair : (withDemandedAccessors library (supplied library)
      (withFieldAccessors cls)).KeepsAccessors final) :
    ∃ added, AddsNeededGetters library cls final added := by
  refine ⟨_, pair.getters.symm, ?_, ?_⟩
  · intro getter added
    rw [← pair.getters]
    refine count_name_of_added _ Property.getter (fun _ => rfl) (fun property needed => ?_) added
    exact own_absent Class.hasGetter (absent_of_needsGetter needed).2
  · intro getter added
    obtain ⟨property, chosen, rfl⟩ := List.mem_map.1 added
    obtain ⟨noField, noGetter⟩ := absent_of_needsGetter (List.mem_filter.1 chosen).2
    exact notProvided_of_absent distinct acyclic member Class.KeepsAccessors.hasGetter pair noField
      noGetter

/-- The setters of the normalized class are its own, those of its fields and needed ones. -/
theorem addsNeededSetters {final : Class}
    (pair : (withDemandedAccessors library (supplied library)
      (withFieldAccessors cls)).KeepsAccessors final) :
    ∃ added, AddsNeededSetters library cls final added := by
  refine ⟨_, pair.setters.symm, ?_, ?_, ?_⟩
  · intro setter added
    rw [← pair.setters]
    refine count_name_of_added _ Property.setter (fun _ => rfl) (fun property needed => ?_) added
    exact own_absent Class.hasSetter (absent_of_needsSetter needed).2.2
  · intro setter added
    obtain ⟨property, chosen, rfl⟩ := List.mem_map.1 added
    obtain ⟨-, noField, noSetter⟩ := absent_of_needsSetter (List.mem_filter.1 chosen).2
    exact notProvided_of_absent distinct acyclic member Class.KeepsAccessors.hasSetter pair noField
      noSetter
  · intro setter added
    obtain ⟨property, chosen, rfl⟩ := List.mem_map.1 added
    obtain ⟨writable, -, -⟩ := absent_of_needsSetter (List.mem_filter.1 chosen).2
    exact writableEverywhere_of_needsSetter distinct member writable

end Visit

/-- Where class names are distinct and no class is above itself, the accessors of a normalized class are
those that it declares, those of its fields, and behind them only accessors that nothing on the way up
provides; an added setter writes a property that all interfaces of the class have as writable. -/
theorem added_accessors_needed (library : Library) (distinct : library.classNames.Nodup)
    (acyclic : Acyclic library) :
    List.Forall₂ (fun declared final => final.name = declared.name ∧
        (∃ added, AddsNeededGetters library declared final added) ∧
        ∃ added, AddsNeededSetters library declared final added)
      library.classes library.normalize.classes := by
  have pairs := (supplied_keepsAccessors library).classes
  rw [supplied_classes acyclic, List.forall₂_map_left_iff] at pairs
  refine List.forall₂_iff_get.2 ⟨pairs.length_eq, fun index inside inside' => ?_⟩
  have pair := (List.forall₂_iff_get.1 pairs).2 index inside inside'
  have member : library.classes.get ⟨index, inside⟩ ∈ library.classes := List.get_mem _ _
  exact ⟨(Class.bare_eq_iff.1 pair.bare).1.symm, addsNeededGetters distinct acyclic member pair,
    addsNeededSetters distinct acyclic member pair⟩

/-- An interface with a property that can be written and one that cannot. -/
def positioned : Interface :=
  { name := "Positioned"
    properties :=
      [ { name := "x", type := .ofName "number" },
        { name := "layer", type := .ofName "number", isReadonly := true },
        { name := "y", type := .ofName "number" } ] }

/-- A class with a field of its own that implements the interface. -/
def sprite : Class :=
  { name := "Sprite", superType := some { name := "Drawable" }, interfaces := [{ name := "Positioned" }]
    properties := [{ name := "width", type := .ofName "number" }] }

/-- The class in front of the one above it, which has one of the properties as a field. -/
def spriteLibrary : Library :=
  { classes :=
      [sprite, { name := "Drawable", properties := [{ name := "y", type := .ofName "number" }] }]
    interfaces := [positioned] }

/-- A sprite gets the accessors that neither its own field nor the one above provides. -/
theorem added_accessors_needed_sprite :
    spriteLibrary.classNames.Nodup ∧ Acyclic spriteLibrary ∧
      (∃ final, spriteLibrary.normalize.classes[0]? = some final ∧
        final.getters.map (·.name) = ["width", "x", "layer"] ∧
        final.setters.map (·.name) = ["width", "x"]) ∧
      List.Forall₂ (fun declared final => final.name = declared.name ∧
          (∃ added, AddsNeededGetters spriteLibrary declared final added) ∧
          ∃ added, AddsNeededSetters spriteLibrary declared final added)
        spriteLibrary.classes spriteLibrary.normalize.classes := by
  have distinct : spriteLibrary.classNames.Nodup := by decide
  have acyclic : Acyclic spriteLibrary := .of_superBehind (by decide)
  have first : spriteLibrary.normalize.classes[0]? = some { sprite with
      properties := []
      getters := (sprite.properties ++ positioned.properties.take 2).map Property.getter
      setters := (sprite.properties ++ positioned.properties.take 1).map Property.setter } := by
    cbv
  exact ⟨distinct, acyclic, ⟨_, first, by decide, by decide⟩,
    added_accessors_needed spriteLibrary distinct acyclic⟩

end Normalization

end DartBindings
