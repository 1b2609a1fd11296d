import DartBindings.Heritage.Ancestor
import DartBindings.Heritage.Order

/-!
Looking declarations up by name.

Where names are distinct, a name means a declaration exactly when the declaration has that name, and
the order of the declarations does not matter.  What a name means depends on bare declarations only:
what is left of them without the members that normalization may change.

Main exports: Library.bare, class?_name, classNames_eq, superIndex?_eq
-/

namespace DartBindings

universe u

section Named

variable {α : Type u} {name : α → String} {items : List α}

/-- Among distinct names, a search by name finds exactly the item of that name. -/
theorem find?_name_eq_some_iff (distinct : (items.map name).Nodup) {wanted : String} {item : α} :
    items.find? (name · == wanted) = some item ↔ item ∈ items ∧ name item = wanted := by
  constructor
  · intro found
    exact ⟨List.mem_of_find?_eq_some found, by simpa using List.find?_some found⟩
  · rintro ⟨member, rfl⟩
    induction items with
    | nil => cases member
    | cons head tail ih =>
        rw [List.map_cons, List.nodup_cons] at distinct
        rcases List.mem_cons.1 member with rfl | inTail
        · simp
        · have other : name head ≠ name item := fun same =>
            distinct.1 (same ▸ List.mem_map_of_mem inTail)
          rw [List.find?_cons_of_neg (by simpa using other)]
          exact ih distinct.2 inTail

/-- Among distinct names, a search by name does not depend on the order of the items. -/
theorem find?_name_perm {reordered : List α} (distinct : (items.map name).Nodup)
    (perm : reordered.Perm items) (wanted : String) :
    reordered.find? (name · == wanted) = items.find? (name · == wanted) := by
  have distinct' : (reordered.map name).Nodup := (perm.map name).nodup_iff.2 distinct
  apply Option.ext
  intro item
  rw [find?_name_eq_some_iff distinct, find?_name_eq_some_iff distinct', perm.mem_iff]

end Named

/-- The class without its members. -/
def Class.bare (cls : Class) : Class :=
  { cls with constructors := [], properties := [], getters := [], setters := [], methods := [] }

/-- The interface without the constructors that it takes over. -/
def Interface.bare (interface : Interface) : Interface :=
  { interface with constructors := [] }

/-- Bare classes are equal when name, heritage and documentation are. -/
theorem Class.bare_eq_iff {cls twin : Class} :
    cls.bare = twin.bare ↔
      cls.name = twin.name ∧ cls.isAbstract = twin.isAbstract ∧ cls.typeParams = twin.typeParams ∧
        cls.superType = twin.superType ∧ cls.interfaces = twin.interfaces ∧ cls.doc = twin.doc := by
  simp [Class.bare]

/-- Bare interfaces are equal when all but the constructors is. -/
theorem Interface.bare_eq_iff {interface twin : Interface} :
    interface.bare = twin.bare ↔
      interface.name = twin.name ∧ interface.typeParams = twin.typeParams ∧
        interface.superTypes = twin.superTypes ∧ interface.properties = twin.properties ∧
        interface.methods = twin.methods ∧ interface.doc = twin.doc := by
  simp [Interface.bare]

namespace Library

/-- The library without what normalization may change. -/
def bare (library : Library) : Library :=
  ⟨library.classes.map Class.bare, library.interfaces.map Interface.bare⟩

variable {library other : Library} {name : String} {cls : Class} {interface : Interface}

/-- A class that is found is of the library. -/
theorem mem_of_class? (found : library.class? name = some cls) : cls ∈ library.classes :=
  List.mem_of_find?_eq_some found

theorem name_of_class? (found : library.class? name = some cls) : cls.name = name := by
  simpa using List.find?_some found

theorem name_of_interface? (found : library.interface? name = some interface) :
    interface.name = name := by
  simpa using List.find?_some found

/-- Where names differ, every class is found under its name. -/
theorem class?_name (distinct : library.classNames.Nodup) (member : cls ∈ library.classes) :
    library.class? cls.name = some cls :=
  (find?_name_eq_some_iff distinct).2 ⟨member, rfl⟩

/-- Where classes are changed but keep their names, a name means the changed class. -/
theorem class?_of_map {final : Class → Class} (classes : other.classes = library.classes.map final)
    (names : ∀ cls, (final cls).name = cls.name) (name : String) :
    other.class? name = (library.class? name).map final := by
  simp only [class?, classes, List.find?_map, Function.comp_def, names]

/-- A name means the class at the first position that has the name. -/
theorem class?_eq_bind_classIndex? (library : Library) (name : String) :
    library.class? name = (library.classIndex? name).bind (library.classes[·]?) :=
  List.find?_eq_bind_findIdx?_getElem?

/-- The index of a class can be told from the names alone. -/
theorem classIndex?_eq_findIdx? (library : Library) (name : String) :
    library.classIndex? name = library.classNames.findIdx? (· == name) := by
  simp [classIndex?, classNames, Function.comp_def]

/-- The index of a class is one of the library. -/
theorem lt_length_of_classIndex? {index : Nat} (found : library.classIndex? name = some index) :
    index < library.classes.length := by
  obtain ⟨inside, -⟩ := List.findIdx?_eq_some_iff_getElem.1 found
  exact inside

/-! ### Bare libraries -/

theorem classNames_bare (library : Library) : library.bare.classNames = library.classNames := by
  simp [classNames, bare, Class.bare, Function.comp_def]

theorem class?_bare (library : Library) (name : String) :
    library.bare.class? name = (library.class? name).map Class.bare := by
  rw [class?, bare, List.find?_map]
  rfl

theorem interface?_bare (library : Library) (name : String) :
    library.bare.interface? name = (library.interface? name).map Interface.bare := by
  rw [interface?, bare, List.find?_map]
  rfl

theorem classNames_eq (same : library.bare = other.bare) :
    library.classNames = other.classNames := by
  rw [← classNames_bare library, ← classNames_bare other, same]

theorem interfaceNames_eq (same : library.bare = other.bare) :
    library.interfaceNames = other.interfaceNames := by
  have names := congrArg (·.interfaces.map Interface.name) same
  simpa [bare, interfaceNames, Interface.bare, Function.comp_def] using names

theorem length_classes_eq (same : library.bare = other.bare) :
    library.classes.length = other.classes.length := by
  simpa [classNames] using congrArg List.length (classNames_eq same)

/-- Libraries that agree on bare declarations have the same indices. -/
theorem classIndex?_eq (same : library.bare = other.bare) (name : String) :
    library.classIndex? name = other.classIndex? name := by
  rw [classIndex?_eq_findIdx?, classIndex?_eq_findIdx?, classNames_eq same]

/-- Libraries that agree on bare declarations agree on them place by place. -/
theorem bare_getElem?_eq (same : library.bare = other.bare) (index : Nat) :
    (library.classes[index]?).map Class.bare = (other.classes[index]?).map Class.bare := by
  have classes := congrArg (·.classes[index]?) same
  simpa [bare] using classes

end Library

namespace Heritage

/-- What stands above a class depends on the bare library only. -/
theorem superIndex?_eq {library other : Library} (same : library.bare = other.bare) (index : Nat) :
    superIndex? library index = superIndex? other index := by
  have heads := Library.bare_getElem?_eq same index
  unfold superIndex?
  cases first : library.classes[index]? with
  | none =>
      cases second : other.classes[index]? with
      | none => rfl
      | some cls => simp [first, second] at heads
  | some cls =>
      cases second : other.classes[index]? with
      | none => simp [first, second] at heads
      | some twin =>
          simp only [first, second, Option.map_some, Option.some.injEq] at heads
          obtain ⟨-, -, -, superTypes, -, -⟩ := Class.bare_eq_iff.1 heads
          simp only [Option.bind_some, superTypes, Library.classIndex?_eq same]

end Heritage

end DartBindings
