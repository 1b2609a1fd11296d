import Mathlib.Computability.Primrec.List
import Mathlib.Data.List.Basic
import DartBindings.Proofs.Normalization.Demand

/-!
Every interface property has its accessors.

After normalization a class has, itself or above, a getter for every property of every interface that
it has; and a setter, if all interface properties of the name can be written and no class on the way
declared a read-only field of the name.  A visit establishes this for its class, and nothing that comes
later takes an accessor away.

Main exports: HasAbove, DemandsSetter, accessors_complete
-/

namespace DartBindings

namespace Normalization

open Heritage

/-- The class or a class above it passes a test. -/
def HasAbove (library : Library) (cls : Class) (test : Class → Bool) : Prop :=
  ∃ level, Reaches library cls level ∧ test level = true

/-- The interfaces of a class demand a setter of that name: each of their properties of the name can be
written, and so could every field of the name that the class and those above it declared. -/
structure DemandsSetter (declared library : Library) (cls : Class) (name : String) : Prop where
  writable : ∀ interface, HasInterface library cls interface → ∀ property ∈ interface.properties,
    property.name = name → property.isReadonly = false
  fields : ∀ level, Reaches library cls level → ∀ origin ∈ declared.classes,
    origin.name = level.name → ∀ field ∈ origin.properties, field.name = name →
      field.isReadonly = false

/-- The class has the accessors for the properties of its interfaces. -/
def Complete (declared library : Library) (cls : Class) : Prop :=
  ∀ interface, HasInterface library cls interface → ∀ property ∈ interface.properties,
    HasAbove library cls (·.hasGetter property.name) ∧
      (DemandsSetter declared library cls property.name →
        HasAbove library cls (·.hasSetter property.name))

section Growing

variable {declared library grown : Library} {cls twin : Class} {name : String}

/-- What a class keeps while it grows, it finds above itself in the grown library too. -/
theorem HasAbove.grow {test : Class → Bool}
    (kept : ∀ {cls twin : Class}, cls.Grows twin → test cls = true → test twin = true)
    (grows : library.Grows grown) (pair : cls.Grows twin) (has : HasAbove library cls test) :
    HasAbove grown twin test := by
  obtain ⟨level, reaches, passes⟩ := has
  obtain ⟨level', reaches', growth⟩ := grows.reaches pair reaches
  exact ⟨level', reaches', kept growth passes⟩

/-- A setter that a grown library demands is demanded by the library that it grew from. -/
theorem DemandsSetter.of_grown (grows : library.Grows grown) (pair : cls.Grows twin)
    (demands : DemandsSetter declared grown twin name) : DemandsSetter declared library cls name where
  writable interface has property member named := by
    obtain ⟨counterpart, has', same⟩ := grows.hasInterface pair has
    obtain ⟨-, -, -, properties, -, -⟩ := Interface.bare_eq_iff.1 same
    exact demands.writable counterpart has' property (properties ▸ member) named
  fields level reaches origin declares same := by
    obtain ⟨level', reaches', growth⟩ := grows.reaches pair reaches
    exact demands.fields level' reaches' origin declares (same.trans growth.name)

/-- A class that has its accessors keeps them when the library grows. -/
theorem Complete.grow (grows : library.Grows grown) (pair : cls.Grows twin)
    (complete : Complete declared library cls) : Complete declared grown twin := by
  intro counterpart has property member
  obtain ⟨interface, has', same⟩ := grows.flip.hasInterface pair has
  obtain ⟨-, -, -, properties, -, -⟩ := Interface.bare_eq_iff.1 same
  obtain ⟨getter, setter⟩ := complete interface has' property (properties ▸ member)
  exact ⟨getter.grow (·.hasGetter) grows pair, fun demands =>
    (setter (demands.of_grown grows pair)).grow (·.hasSetter) grows pair⟩

end Growing

/-! ### Declared fields -/

section Fields

variable {declared library : Library} {level : Class} {name : String}

/-- A declared field is a field of a declared class of that name. -/
theorem exists_field_of_declaresField {className : String}
    (declares : declaresField declared className name = true) :
    ∃ origin ∈ declared.classes, origin.name = className ∧
      ∃ field ∈ origin.properties, field.name = name := by
  unfold declaresField at declares
  split at declares
  · cases declares
  · next origin found =>
      obtain ⟨field, member, named⟩ := List.any_eq_true.1 declares
      exact ⟨origin, List.mem_reverse.1 (List.mem_of_find?_eq_some found),
        by simpa using List.find?_some found, field, member, by simpa using named⟩

/-- Names stay different while a library grows. -/
theorem distinct_of_grown (distinct : declared.classNames.Nodup)
    (grown : (desugarFields declared).Grows library) : library.classNames.Nodup := by
  rw [← grown.classNames, Library.classNames_eq (desugarFields_bare declared)]
  exact distinct

/-- A class has grown from its declaration, with accessors in place of its fields. -/
theorem grows_of_origin (distinct : declared.classNames.Nodup)
    (grown : (desugarFields declared).Grows library) (member : level ∈ library.classes)
    {origin : Class} (declares : origin ∈ declared.classes) (same : origin.name = level.name) :
    (withFieldAccessors origin).Grows level := by
  have desugaredDistinct : (desugarFields declared).classNames.Nodup :=
    Library.classNames_eq (desugarFields_bare declared) ▸ distinct
  have libraryDistinct := distinct_of_grown distinct grown
  have found := Library.class?_name desugaredDistinct (List.mem_map_of_mem declares)
  obtain ⟨twin, foundTwin, growth⟩ := grown.class? found
  have sameName : (withFieldAccessors origin).name = level.name := same
  rw [sameName, Library.class?_name libraryDistinct member] at foundTwin
  cases foundTwin
  exact growth

/-- A class that declared a field passes every test that the accessors of the field pass and that
growing keeps. -/
theorem passes_of_declaresField {test : Class → Bool}
    (kept : ∀ {cls twin : Class}, cls.Grows twin → test cls = true → test twin = true)
    (distinct : declared.classNames.Nodup) (grown : (desugarFields declared).Grows library)
    (member : level ∈ library.classes) (declares : declaresField declared level.name name = true)
    (ofField : ∀ origin ∈ declared.classes, origin.name = level.name →
      ∀ field ∈ origin.properties, field.name = name → test (withFieldAccessors origin) = true) :
    test level = true := by
  obtain ⟨origin, inDeclared, same, field, inFields, named⟩ := exists_field_of_declaresField declares
  apply kept (grows_of_origin distinct grown member inDeclared same)
  exact ofField origin inDeclared same field inFields named

end Fields

/-! ### What a visit sees and adds -/

section Visit

variable {declared library : Library} {cls : Class} {name : String}

theorem exists_demanded (distinct : library.classNames.Nodup) (member : cls ∈ library.classes)
    {interface : Interface} (has : HasInterface library cls interface) {property : Property}
    (listed : property ∈ interface.properties) :
    ∃ demanded ∈ demandedProperties library cls, demanded.name = property.name := by
  obtain ⟨implemented, walked, rfl⟩ :=
    List.mem_map.1 ((mem_implementedInterfaces_iff distinct member).2 has)
  refine ⟨property.substitute implemented.bindings, ?_, rfl⟩
  exact List.mem_flatMap.2 ⟨implemented, walked, List.mem_map_of_mem listed⟩

/-- Where a setter is demanded, no demanded property of the name is read-only. -/
theorem writable_of_demandsSetter (distinct : library.classNames.Nodup)
    (member : cls ∈ library.classes) (demands : DemandsSetter declared library cls name) :
    ((demandedProperties library cls).filter (·.name == name)).all
      (fun property => !property.isReadonly) = true := by
  rw [List.all_eq_true]
  intro demanded found
  obtain ⟨inDemands, named⟩ := List.mem_filter.1 found
  obtain ⟨implemented, walked, inProperties⟩ := List.mem_flatMap.1 inDemands
  obtain ⟨property, listed, rfl⟩ := List.mem_map.1 inProperties
  have has := (mem_implementedInterfaces_iff distinct member).1 (List.mem_map_of_mem walked)
  have isWritable := demands.writable _ has property listed
    (by simpa [Property.substitute] using named)
  simp [Property.substitute, isWritable]

/-- What is found among the levels of a class is found at a class that it reaches. -/
theorem exists_level_of_any (distinct : library.classNames.Nodup) (member : cls ∈ library.classes)
    {test : Class → Bool} (found : (levels library cls).any test = true) :
    ∃ level, Reaches library cls level ∧ level ∈ library.classes ∧ test level = true := by
  obtain ⟨level, onLevel, passes⟩ := List.any_eq_true.1 found
  have reaches := (mem_levels_iff distinct member).1 onLevel
  exact ⟨level, reaches, reaches.mem member, passes⟩

/-- What is spared because a level declared a field or passes the test itself is there, as it is or
as the accessor of the field. -/
theorem hasAbove_of_met {test : Class → Bool}
    (kept : ∀ {cls twin : Class}, cls.Grows twin → test cls = true → test twin = true)
    (distinct : declared.classNames.Nodup) (grown : (desugarFields declared).Grows library)
    (member : cls ∈ library.classes)
    (ofField : ∀ level, Reaches library cls level → ∀ origin ∈ declared.classes,
      origin.name = level.name → ∀ field ∈ origin.properties, field.name = name →
        test (withFieldAccessors origin) = true)
    (met : fieldOnLevels declared (levels library cls) name = true ∨
      (levels library cls).any test = true) :
    HasAbove library cls test := by
  have libraryDistinct := distinct_of_grown distinct grown
  rcases met with declares | passes
  · obtain ⟨level, reaches, inLibrary, declares⟩ :=
      exists_level_of_any libraryDistinct member declares
    exact ⟨level, reaches,
      passes_of_declaresField kept distinct grown inLibrary declares (ofField level reaches)⟩
  · obtain ⟨level, reaches, -, passes⟩ := exists_level_of_any libraryDistinct member passes
    exact ⟨level, reaches, passes⟩

/-- A getter that is not needed is there. -/
theorem hasGetter_of_spared (distinct : declared.classNames.Nodup)
    (grown : (desugarFields declared).Grows library) (member : cls ∈ library.classes)
    (spared : ¬needsGetter declared library cls name = true) :
    HasAbove library cls (·.hasGetter name) := by
  have met : fieldOnLevels declared (levels library cls) name = true ∨
      (levels library cls).any (·.hasGetter name) = true := by
    simpa [needsGetter, Classical.or_iff_not_imp_left] using spared
  refine hasAbove_of_met (·.hasGetter) distinct grown member ?_ met
  intro level _ origin _ _ field inFields named
  exact hasGetter_withFieldAccessors_iff.2 (.inr ⟨field, inFields, named⟩)

/-- A setter that is demanded but not needed is there. -/
theorem hasSetter_of_spared (distinct : declared.classNames.Nodup)
    (grown : (desugarFields declared).Grows library) (member : cls ∈ library.classes)
    (demands : DemandsSetter declared library cls name)
    (spared : ¬needsSetter declared library cls name = true) :
    HasAbove library cls (·.hasSetter name) := by
  have met : fieldOnLevels declared (levels library cls) name = true ∨
      (levels library cls).any (·.hasSetter name) = true := by
    rw [needsSetter, writable_of_demandsSetter (distinct_of_grown distinct grown) member demands]
      at spared
    simpa [Classical.or_iff_not_imp_left] using spared
  refine hasAbove_of_met (·.hasSetter) distinct grown member ?_ met
  intro level reaches origin declares same field inFields named
  have isWritable := demands.fields level reaches origin declares same field inFields named
  exact hasSetter_withFieldAccessors_iff.2 (.inr ⟨field, inFields, isWritable, named⟩)

/-- The first demanded property of a name gets the accessors of the name that are needed. -/
theorem exists_first_demanded (distinct : library.classNames.Nodup) (member : cls ∈ library.classes)
    {interface : Interface} (has : HasInterface library cls interface) {property : Property}
    (listed : property ∈ interface.properties) :
    ∃ first ∈ firstOfName (·.name) [] (demandedProperties library cls),
      first.name = property.name := by
  obtain ⟨demanded, inDemands, named⟩ := exists_demanded distinct member has listed
  rw [← named]
  exact exists_mem_firstOfName (·.name) inDemands [] (by simp)

/-- After its visit a class has the accessors for the properties of its interfaces. -/
theorem complete_visit (distinct : declared.classNames.Nodup)
    (grown : (desugarFields declared).Grows library) {index : Nat}
    (atIndex : library.classes[index]? = some cls) :
    Complete declared (visit (withDemandedAccessors declared) library index)
      (withDemandedAccessors declared library cls) := by
  have libraryDistinct := distinct_of_grown distinct grown
  have member : cls ∈ library.classes := List.mem_of_getElem? atIndex
  have grows := visit_grows (grows_withDemandedAccessors declared) library index
  have pair := grows_withDemandedAccessors declared library cls
  intro counterpart has property listed
  obtain ⟨interface, has', same⟩ := grows.flip.hasInterface pair has
  obtain ⟨-, -, -, properties, -, -⟩ := Interface.bare_eq_iff.1 same
  obtain ⟨first, isFirst, sameName⟩ :=
    exists_first_demanded libraryDistinct member has' (properties ▸ listed)
  rw [← sameName]
  constructor
  · by_cases needed : needsGetter declared library cls first.name = true
    · exact ⟨_, .refl, hasGetter_withDemandedAccessors_iff.2 (.inr ⟨first, isFirst, rfl, needed⟩)⟩
    · exact (hasGetter_of_spared distinct grown member needed).grow (·.hasGetter) grows pair
  · intro demands
    by_cases needed : needsSetter declared library cls first.name = true
    · exact ⟨_, .refl, hasSetter_withDemandedAccessors_iff.2 (.inr ⟨first, isFirst, rfl, needed⟩)⟩
    · have demands' := demands.of_grown grows pair
      exact (hasSetter_of_spared distinct grown member demands' needed).grow (·.hasSetter) grows pair

end Visit

/-- Every class of the normalized library has the accessors for the properties of its interfaces. -/
theorem accessors_complete (library : Library) (distinct : library.classNames.Nodup) :
    ∀ cls ∈ library.normalize.classes, ∀ interface, HasInterface library.normalize cls interface →
      ∀ property ∈ interface.properties,
        HasAbove library.normalize cls (·.hasGetter property.name) ∧
          (DemandsSetter library library.normalize cls property.name →
            HasAbove library.normalize cls (·.hasSetter property.name)) := by
  intro cls member
  let supplied := addDemandedAccessors library (desugarFields library)
  have complete : ∀ cls ∈ supplied.classes, Complete library supplied cls :=
    pass_establishes (grows_withDemandedAccessors library)
      (fun _ _ _ _ grows pair complete => complete.grow grows pair)
      fun _ _ _ grown atIndex => complete_visit distinct grown atIndex
  have later : supplied.Grows library.normalize :=
    (inheritConstructors_grows supplied).trans (unifyOverrides_grows _)
  obtain ⟨index, atEnd⟩ := List.mem_iff_getElem?.1 member
  obtain ⟨inside, rfl⟩ := List.getElem?_eq_some_iff.1 atEnd
  have there : index < supplied.classes.length := by
    rw [later.classes.length_eq]
    exact inside
  have growth := (List.forall₂_iff_get.1 later.classes).2 index there inside
  exact (complete _ (List.getElem_mem there)).grow later growth

/-- An interface that extends itself and another one. -/
def movable : Interface :=
  { name := "Movable", superTypes := [{ name := "Movable" }, { name := "Placed" }] }

/-- An interface with a property. -/
def placed : Interface :=
  { name := "Placed", properties := [{ name := "x", type := .ofName "number" }] }

/-- A class that implements the interface that extends another one. -/
def circle : Class :=
  { name := "Circle", superType := some { name := "Shape" }, interfaces := [{ name := "Movable" }] }

/-- Two classes above each other. -/
def movingLibrary : Library :=
  { classes :=
      [ circle,
        { name := "Shape", superType := some { name := "Circle" },
          properties := [{ name := "area", type := .ofName "number", isReadonly := true }] } ]
    interfaces := [movable, placed] }

/-- Two classes above each other, of which one has an interface that extends itself. -/
theorem accessors_complete_moving :
    movingLibrary.classNames.Nodup ∧
      ∃ cls ∈ movingLibrary.normalize.classes, cls.name = "Circle" ∧
        ∃ interface, HasInterface movingLibrary.normalize cls interface ∧
          ∃ property ∈ interface.properties, property.name = "x" ∧
            HasAbove movingLibrary.normalize cls (·.hasGetter property.name) ∧
            DemandsSetter movingLibrary movingLibrary.normalize cls property.name ∧
            HasAbove movingLibrary.normalize cls (·.hasSetter property.name) := by
  have distinct : movingLibrary.classNames.Nodup := by decide
  have first : movingLibrary.normalize.classes[0]? = some circle := by cbv
  have interfaces : movingLibrary.normalize.interfaces = [movable, placed] := by cbv
  have member : circle ∈ movingLibrary.normalize.classes := List.mem_of_getElem? first
  have isMovable : movingLibrary.normalize.interface? "Movable" = some movable := by
    rw [Library.interface?, interfaces]
    rfl
  have isPlaced : movingLibrary.normalize.interface? "Placed" = some placed := by
    rw [Library.interface?, interfaces]
    rfl
  have has : HasInterface movingLibrary.normalize circle placed := by
    refine ⟨circle, .refl, { name := "Movable" }, List.mem_singleton.2 rfl, movable, isMovable,
      .single ?_⟩
    exact ⟨{ name := "Placed" }, by simp [movable], isPlaced⟩
  have listed : { name := "x", type := .ofName "number" } ∈ placed.properties :=
    List.mem_singleton.2 rfl
  have demands : DemandsSetter movingLibrary movingLibrary.normalize circle "x" := by
    constructor
    · intro interface hasIt property inProperties _
      have known := hasIt.mem
      rw [interfaces] at known
      simp only [List.mem_cons, List.not_mem_nil, or_false] at known
      rcases known with rfl | rfl
      · cases inProperties
      · rw [List.mem_singleton.1 inProperties]
    · intro level _ origin declares _ field inFields named
      simp only [movingLibrary, circle, List.mem_cons, List.not_mem_nil, or_false] at declares
      rcases declares with rfl | rfl
      · cases inFields
      · rw [List.mem_singleton.1 inFields] at named
        simp at named
  obtain ⟨getter, setter⟩ := accessors_complete movingLibrary distinct circle member placed has _ listed
  exact ⟨distinct, circle, member, rfl, placed, has, _, listed, rfl, getter, demands, setter demands⟩

end Normalization

end DartBindings
