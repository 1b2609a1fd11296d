import Mathlib.Computability.Primrec.List
import Mathlib.Data.List.Forall2
import DartBindings.Proofs.Normalization.Demand

/-!
Accessors beside methods.

Normalization adds an accessor that an interface demands when no field and no accessor on the way up has
its name; it does not ask for methods.  A class that implements a property of an interface by a method
therefore gets an accessor beside that method.  This is the only way in which names come together: if
the fields and accessors of a library are apart from the methods on the way up, an accessor of the
normalized library has the name of such a method only where an interface demands it and no declared
field or accessor meets the demand.

Main exports: MembersApart, LacksGetter, LacksSetter, accessors_beside_methods
-/

namespace DartBindings

/-- The names of the fields and accessors of a class. -/
def Class.valueNames (cls : Class) : List String :=
  cls.properties.map (·.name) ++ cls.getters.map (·.name) ++ cls.setters.map (·.name)

/-- The names of the methods of a class. -/
def Class.methodNames (cls : Class) : List String :=
  cls.methods.map (·.name)

/-- A class with the bare form of another one and methods of the same names. -/
structure Class.KeepsMethodNames (cls twin : Class) : Prop where
  bare : cls.bare = twin.bare
  names : cls.methodNames = twin.methodNames

namespace Normalization

open Heritage

/-- No class has, itself or above, a method with the name of one of its own fields or accessors. -/
def MembersApart (library : Library) : Prop :=
  ∀ cls ∈ library.classes, ∀ level ∈ levels library cls, ∀ name ∈ level.methodNames,
    name ∉ cls.valueNames

/-- An interface of the class has a property of the name, and neither the class nor a class above it
declares a field or a getter of the name. -/
structure LacksGetter (library : Library) (cls : Class) (name : String) : Prop where
  demanded : ∃ property ∈ demandedProperties library cls, property.name = name
  unmet : ∀ level ∈ levels library cls, level.hasGetter name = false ∧
    ∀ field ∈ level.properties, field.name ≠ name

/-- An interface of the class has a property of the name, every such property can be written, and
neither the class nor a class above it declares a setter of the name or a field of the name that can be
written; nor any other field of the name, if names differ, as declared fields are found by the name of
their class.  A declared getter does not count. -/
structure LacksSetter (library : Library) (cls : Class) (name : String) : Prop where
  demanded : ∃ property ∈ demandedProperties library cls, property.name = name
  writable : ∀ property ∈ demandedProperties library cls, property.name = name →
    property.isReadonly = false
  unmet : ∀ level ∈ levels library cls, level.hasSetter name = false ∧
    ∀ field ∈ level.properties, field.isReadonly = false → field.name ≠ name
  noField : library.classNames.Nodup → ∀ level ∈ levels library cls,
    ∀ field ∈ level.properties, field.name ≠ name

variable {library : Library} {cls : Class} {name : String}

/-! ### Names that normalization keeps -/

/-- Through all stages a class keeps its name, its heritage and the names of its methods. -/
theorem keepsMethodNames (declared demanding inheriting overriding : Library) (cls : Class) :
    cls.KeepsMethodNames (withUnifiedMethods overriding (withInheritedConstructor inheriting
      (withDemandedAccessors declared demanding (withFieldAccessors cls)))) where
  bare := rfl
  names := by
    simp [Class.methodNames, withUnifiedMethods, withInheritedConstructor, withDemandedAccessors,
      withFieldAccessors]

/-- Normalization keeps the names of methods, class by class. -/
theorem normalize_keepsMethodNames (library : Library) :
    library.PairsWith Class.KeepsMethodNames library.normalize where
  bare _ _ keeps := keeps.bare
  classes := by
    apply normalize_forall₂
    intro cls _ demanding inheriting overriding _
    exact keepsMethodNames library demanding inheriting overriding cls
  interfaces := by
    have same := congrArg Library.interfaces (normalize_bare library).symm
    simp only [Library.bare] at same
    rw [← List.forall₂_eq_eq_eq, List.forall₂_map_left_iff, List.forall₂_map_right_iff] at same
    exact same

/-- The methods on the way up from a class have their names after normalization as before. -/
theorem exists_level_of_normalized {final level : Class} (pair : cls.KeepsMethodNames final)
    (above : level ∈ levels library.normalize final) :
    ∃ declared ∈ levels library cls, declared.methodNames = level.methodNames := by
  have pairs := levels_forall₂ (normalize_keepsMethodNames library).flip pair
  obtain ⟨declared, known, keeps⟩ := exists_of_mem_forall₂ pairs above
  exact ⟨declared, known, keeps.names⟩

/-! ### What is added -/

/-- A getter of a class or of its fields has the name of a declared value. -/
theorem mem_valueNames_of_hasGetter (has : (withFieldAccessors cls).hasGetter name = true) :
    name ∈ cls.valueNames := by
  have own : (∃ getter ∈ cls.getters, getter.name = name) ∨
      ∃ field ∈ cls.properties, field.name = name := by
    simpa [Class.hasGetter] using hasGetter_withFieldAccessors_iff.1 has
  simp only [Class.valueNames, List.mem_append, List.mem_map]
  grind

theorem mem_valueNames_of_hasSetter (has : (withFieldAccessors cls).hasSetter name = true) :
    name ∈ cls.valueNames := by
  have own : (∃ setter ∈ cls.setters, setter.name = name) ∨
      ∃ field ∈ cls.properties, field.isReadonly = false ∧ field.name = name := by
    simpa [Class.hasSetter] using hasSetter_withFieldAccessors_iff.1 has
  simp only [Class.valueNames, List.mem_append, List.mem_map]
  grind

section Demands

variable {demanding : Library} (grows : (desugarFields library).Grows demanding)
include grows

/-- What no level has when accessors are added, no level declares as a field or an accessor. -/
theorem not_declared_of_absent {test : Class → Bool}
    (kept : ∀ {cls twin : Class}, cls.Grows twin → test cls = true → test twin = true)
    (absent : (levels demanding (withFieldAccessors cls)).any test = false) {level : Class}
    (above : level ∈ levels library cls) : ¬test (withFieldAccessors level) = true := by
  intro has
  have pair : (withFieldAccessors cls).Grows (withFieldAccessors cls) := .refl _
  obtain ⟨twin, known, growth⟩ :=
    exists_of_mem_forall₂ (levels_forall₂ (pairsWith_of_desugared grows) pair) above
  exact List.any_eq_false.1 absent twin known (kept growth has)

/-- A getter is added for a demand that nothing declared on the way up meets. -/
theorem lacksGetter_of_needsGetter
    (demanded : ∃ property ∈ demandedProperties library cls, property.name = name)
    (needed : needsGetter library demanding (withFieldAccessors cls) name = true) :
    LacksGetter library cls name where
  demanded := demanded
  unmet level above := by
    obtain ⟨-, absent⟩ := absent_of_needsGetter needed
    have undeclared := not_declared_of_absent grows (fun growth => growth.hasGetter) absent above
    simpa [hasGetter_withFieldAccessors_iff, not_or] using undeclared

theorem lacksSetter_of_needsSetter
    (demanded : ∃ property ∈ demandedProperties library cls, property.name = name)
    (member : cls ∈ library.classes)
    (needed : needsSetter library demanding (withFieldAccessors cls) name = true) :
    LacksSetter library cls name where
  demanded := demanded
  writable property known named := by
    obtain ⟨writable, -, -⟩ := absent_of_needsSetter needed
    rw [demandedProperties_desugared grows, List.all_eq_true] at writable
    simpa using writable property (List.mem_filter.2 ⟨known, by simpa using named⟩)
  unmet level above := by
    obtain ⟨-, -, absent⟩ := absent_of_needsSetter needed
    have undeclared := not_declared_of_absent grows (fun growth => growth.hasSetter) absent above
    simpa [hasSetter_withFieldAccessors_iff, not_or] using undeclared
  noField distinct level above := by
    obtain ⟨-, noField, -⟩ := absent_of_needsSetter needed
    exact not_declared_of_noField distinct member grows noField above

/-- A getter of a name that the class declares no value of was added for a demand. -/
theorem lacksGetter_of_hasGetter (notOwn : name ∉ cls.valueNames)
    (has : (withDemandedAccessors library demanding (withFieldAccessors cls)).hasGetter name = true) :
    LacksGetter library cls name := by
  rcases hasGetter_withDemandedAccessors_iff.1 has with own | ⟨property, known, named, needed⟩
  · exact absurd (mem_valueNames_of_hasGetter own) notOwn
  · have demanded := mem_of_mem_firstOfName known
    rw [demandedProperties_desugared grows] at demanded
    exact lacksGetter_of_needsGetter grows ⟨property, demanded, named⟩ (named ▸ needed)

theorem lacksSetter_of_hasSetter (member : cls ∈ library.classes) (notOwn : name ∉ cls.valueNames)
    (has : (withDemandedAccessors library demanding (withFieldAccessors cls)).hasSetter name = true) :
    LacksSetter library cls name := by
  rcases hasSetter_withDemandedAccessors_iff.1 has with own | ⟨property, known, named, needed⟩
  · exact absurd (mem_valueNames_of_hasSetter own) notOwn
  · have demanded := mem_of_mem_firstOfName known
    rw [demandedProperties_desugared grows] at demanded
    exact lacksSetter_of_needsSetter grows ⟨property, demanded, named⟩ member (named ▸ needed)

end Demands

/-- If the fields and accessors of every class are apart from the methods on the way up, then a getter of
a normalized class that has the name of such a method is one that an interface demands and that no field
or getter on the way up provides, and a setter of that name is one that the interfaces demand and that no
setter and no field that can be written provides, nor any field at all where the names of classes
differ. -/
theorem accessors_beside_methods (library : Library) (apart : MembersApart library) :
    List.Forall₂ (fun declared final =>
        ∀ level ∈ levels library.normalize final, ∀ name ∈ level.methodNames,
          (final.hasGetter name = true → LacksGetter library declared name) ∧
            (final.hasSetter name = true → LacksSetter library declared name))
      library.classes library.normalize.classes := by
  apply normalize_forall₂
  intro cls member demanding inheriting overriding grows level above name isMethod
  have pair := keepsMethodNames library demanding inheriting overriding cls
  obtain ⟨declared, known, sameNames⟩ := exists_level_of_normalized pair above
  have notOwn : name ∉ cls.valueNames := apart cls member declared known name (sameNames ▸ isMethod)
  exact ⟨lacksGetter_of_hasGetter grows notOwn, lacksSetter_of_hasSetter grows member notOwn⟩

/-- An interface with a property that holds a function. -/
def pressable : Interface :=
  { name := "Pressable"
    properties := [{ name := "press", type := .function { result := .ofName "void", parameters := [] } }] }

/-- A class that implements the property by a method. -/
def button : Class :=
  { name := "Button", interfaces := [{ name := "Pressable" }]
    methods := [{ name := "press", result := .ofName "void" }] }

/-- The class and its interface. -/
def buttonLibrary : Library :=
  { classes := [button], interfaces := [pressable] }

/-- The normalized class: accessors beside the method. -/
def pressedButton : Class :=
  { button with
    getters := pressable.properties.map Property.getter
    setters := pressable.properties.map Property.setter }

theorem membersApart_button : MembersApart buttonLibrary := by
  intro cls member level _ name _
  rw [List.mem_singleton.1 member]
  simp [Class.valueNames, button]

theorem normalize_buttonLibrary : buttonLibrary.normalize.classes[0]? = some pressedButton := by
  cbv

/-- Names that are apart come together when a property of an interface is implemented by a method. -/
theorem not_membersApart_normalize_button :
    MembersApart buttonLibrary ∧ ¬MembersApart buttonLibrary.normalize := by
  refine ⟨membersApart_button, fun apart => ?_⟩
  have member : pressedButton ∈ buttonLibrary.normalize.classes :=
    List.mem_of_getElem? normalize_buttonLibrary
  exact apart pressedButton member pressedButton List.mem_cons_self "press" (by decide) (by decide)

/-- A button that presses by a method gets an accessor beside it. -/
theorem accessors_beside_methods_button :
    MembersApart buttonLibrary ∧
      List.Forall₂ (fun declared final =>
          ∀ level ∈ levels buttonLibrary.normalize final, ∀ name ∈ level.methodNames,
            (final.hasGetter name = true → LacksGetter buttonLibrary declared name) ∧
              (final.hasSetter name = true → LacksSetter buttonLibrary declared name))
        buttonLibrary.classes buttonLibrary.normalize.classes :=
  ⟨membersApart_button, accessors_beside_methods buttonLibrary membersApart_button⟩

/-- A class that implements the property by a method, below one that declares a getter of the name. -/
def toggleLibrary : Library :=
  { classes :=
      [ { name := "Toggle", superType := some { name := "Base" }
          interfaces := [{ name := "Pressable" }]
          methods := [{ name := "press", result := .ofName "void" }] },
        { name := "Base", getters := [{ name := "press", type := .ofName "number" }] } ]
    interfaces := [pressable] }

/-- The declared getter stops a getter beside the method, and no setter. -/
example :
    toggleLibrary.normalize.classes.map (fun cls =>
        (cls.name, cls.getters.map (·.name), cls.setters.map (·.name))) =
      [("Toggle", [], ["press"]), ("Base", ["press"], [])] := by
  cbv

end Normalization

end DartBindings
