import DartBindings.Proofs.Naming
import DartBindings.Proofs.Normalization.Growth

/-!
The properties that interfaces demand of a class.

They depend on bare declarations only, so that a class meets the same demands whenever it is visited.  An
accessor is added for a demand that nothing on the way up meets.

Main exports: demandedProperties_desugared, absent_of_needsGetter, absent_of_needsSetter,
mem_levels_iff, not_declared_of_noField
-/

namespace DartBindings.Normalization

open Heritage

variable {library : Library} {cls : Class} {name : String}

theorem demandedProperties_bare (library : Library) (cls : Class) :
    demandedProperties library.bare cls.bare = demandedProperties library cls := by
  rw [demandedProperties, implementedInterfaces_bare, List.flatMap_map]
  rfl

/-- Libraries pair up with what desugaring and then growth make of them. -/
theorem pairsWith_of_desugared {grown : Library} (grows : (desugarFields library).Grows grown) :
    library.PairsWith (fun cls twin => (withFieldAccessors cls).Grows twin) grown where
  bare _ _ growth := growth.bare
  classes := by
    have classes := grows.classes
    rw [desugarFields_classes, List.forall₂_map_left_iff] at classes
    exact classes
  interfaces := grows.interfaces

/-- Accessors of fields, and further ones, change nothing of what is demanded. -/
theorem demandedProperties_desugared {demanding : Library}
    (grows : (desugarFields library).Grows demanding) :
    demandedProperties demanding (withFieldAccessors cls) = demandedProperties library cls := by
  rw [← demandedProperties_bare, ← (pairsWith_of_desugared grows).bare_eq,
    ← demandedProperties_bare library cls]
  rfl

/-! ### Accessors of a class -/

/-- With accessors in place of its fields a class has the getters that it had, and one for each
field. -/
theorem hasGetter_withFieldAccessors_iff :
    (withFieldAccessors cls).hasGetter name = true ↔
      cls.hasGetter name = true ∨ ∃ field ∈ cls.properties, field.name = name := by
  simp [withFieldAccessors, Class.hasGetter, Property.getter]

/-- It has the setters that it had, and one for each field that can be written. -/
theorem hasSetter_withFieldAccessors_iff :
    (withFieldAccessors cls).hasSetter name = true ↔
      cls.hasSetter name = true ∨
        ∃ field ∈ cls.properties, field.isReadonly = false ∧ field.name = name := by
  simp [withFieldAccessors, Class.hasSetter, Property.setter]

/-- A name among accessors, behind which those for some properties are added, is that of an accessor
that was there or of a property that one is made for. -/
theorem any_named_append_iff {α : Type} {named : α → String} {make : Property → α} {own : List α}
    {demanded : List Property} {needs : Property → Bool}
    (keepsName : ∀ property, named (make property) = property.name) :
    (own ++ (demanded.filter needs).map make).any (named · == name) = true ↔
      own.any (named · == name) = true ∨
        ∃ property ∈ demanded, property.name = name ∧ needs property = true := by
  rw [List.any_append, Bool.or_eq_true, List.any_map, List.any_filter, List.any_eq_true (l := demanded)]
  simp only [Function.comp_apply, keepsName, Bool.and_eq_true, beq_iff_eq, and_comm]

/-- A class has the getters that it had, and those that are demanded and needed. -/
theorem hasGetter_withDemandedAccessors_iff {declared : Library} :
    (withDemandedAccessors declared library cls).hasGetter name = true ↔
      cls.hasGetter name = true ∨
        ∃ property ∈ firstOfName (·.name) [] (demandedProperties library cls),
          property.name = name ∧ needsGetter declared library cls property.name = true :=
  any_named_append_iff fun _ => rfl

/-- A class has the setters that it had, and those that are demanded and needed. -/
theorem hasSetter_withDemandedAccessors_iff {declared : Library} :
    (withDemandedAccessors declared library cls).hasSetter name = true ↔
      cls.hasSetter name = true ∨
        ∃ property ∈ firstOfName (·.name) [] (demandedProperties library cls),
          property.name = name ∧ needsSetter declared library cls property.name = true :=
  any_named_append_iff fun _ => rfl

/-! ### Needs -/

/-- A getter is needed where no level has one or declared a field of its name. -/
theorem absent_of_needsGetter {declared : Library}
    (needed : needsGetter declared library cls name = true) :
    fieldOnLevels declared (levels library cls) name = false ∧
      (levels library cls).any (·.hasGetter name) = false := by
  simpa only [needsGetter, Bool.and_eq_true, Bool.not_eq_true'] using needed

/-- A setter is needed where, moreover, no demanded property of its name is read-only. -/
theorem absent_of_needsSetter {declared : Library}
    (needed : needsSetter declared library cls name = true) :
    ((demandedProperties library cls).filter (·.name == name)).all
        (fun property => !property.isReadonly) = true ∧
      fieldOnLevels declared (levels library cls) name = false ∧
        (levels library cls).any (·.hasSetter name) = false := by
  simpa only [needsSetter, Bool.and_eq_true, Bool.not_eq_true', and_assoc] using needed

/-! ### Declared fields -/

/-- The levels of a class are the classes that it reaches. -/
theorem mem_levels_iff (distinct : library.classNames.Nodup) (member : cls ∈ library.classes)
    {level : Class} : level ∈ levels library cls ↔ Reaches library cls level := by
  rw [← mem_ancestors_iff distinct member, levels, List.mem_cons]

/-- Among distinct names, the record of declared fields is that of the class of the name. -/
theorem declaresField_name (distinct : library.classNames.Nodup) (member : cls ∈ library.classes)
    (field : String) :
    declaresField library cls.name field = cls.properties.any (·.name == field) := by
  have found : library.classes.reverse.find? (·.name == cls.name) = some cls := by
    rw [find?_name_perm distinct (List.reverse_perm _)]
    exact Library.class?_name distinct member
  rw [declaresField, found]

/-- Where names differ, no level declares a field of a name that is not recorded for the levels. -/
theorem not_declared_of_noField (distinct : library.classNames.Nodup)
    (member : cls ∈ library.classes) {demanding : Library}
    (grows : (desugarFields library).Grows demanding)
    (noField : fieldOnLevels library (levels demanding (withFieldAccessors cls)) name = false)
    {level : Class} (above : level ∈ levels library cls) :
    ∀ field ∈ level.properties, field.name ≠ name := by
  intro field inFields named
  have pair : (withFieldAccessors cls).Grows (withFieldAccessors cls) := .refl _
  obtain ⟨twin, known, growth⟩ :=
    exists_of_mem_forall₂ (levels_forall₂ (pairsWith_of_desugared grows) pair) above
  have sameName : twin.name = level.name := growth.name.symm
  have inLibrary : level ∈ library.classes := ((mem_levels_iff distinct member).1 above).mem member
  have unrecorded := List.any_eq_false.1 noField twin known
  rw [sameName, declaresField_name distinct inLibrary] at unrecorded
  exact unrecorded (List.any_eq_true.2 ⟨field, inFields, by simpa using named⟩)

end DartBindings.Normalization
