import Mathlib.Data.List.Induction
import DartBindings.Proofs.Heritage.Schedule
import DartBindings.Proofs.Heritage.Walk

/-!
What the walks over heritages find.

A class extends the class that its super type means, and an interface extends what its super types
mean.  The walk upward finds the classes reached by such steps, and the walk over interfaces finds the
interfaces reached from those that the classes on the way implement.  Both hold for cyclic heritage,
since a walk only leaves out what it has visited already.

Main exports: Extends, Reaches, HasInterface, mem_ancestors_iff, mem_implementedInterfaces_iff,
acyclic_iff
-/

namespace DartBindings.Heritage

open Relation (ReflTransGen TransGen)

/-- The super type of the class means the parent. -/
def Extends (library : Library) (cls parent : Class) : Prop :=
  ∃ superType, cls.superType = some superType ∧ library.class? superType.name = some parent

/-- The parent is the class or above it. -/
abbrev Reaches (library : Library) : Class → Class → Prop :=
  ReflTransGen (Extends library)

/-- A super type of the interface means the parent. -/
def ExtendsInterface (library : Library) (interface parent : Interface) : Prop :=
  ∃ superType ∈ interface.superTypes, library.interface? superType.name = some parent

/-- The class or a class above it implements the interface, or one that leads to it. -/
def HasInterface (library : Library) (cls : Class) (interface : Interface) : Prop :=
  ∃ level, Reaches library cls level ∧ ∃ reference ∈ level.interfaces, ∃ first,
    library.interface? reference.name = some first ∧
      ReflTransGen (ExtendsInterface library) first interface

variable {library : Library} {cls parent : Class}

theorem Extends.mem (step : Extends library cls parent) : parent ∈ library.classes := by
  obtain ⟨_, -, found⟩ := step
  exact Library.mem_of_class? found

theorem Extends.class?_name (step : Extends library cls parent) :
    library.class? parent.name = some parent := by
  obtain ⟨_, -, found⟩ := step
  rw [Library.name_of_class? found]
  exact found

/-- There is at most one class directly above a class. -/
theorem Extends.rightUnique (library : Library) : Relator.RightUnique (Extends library) := by
  rintro cls first second ⟨superType, hasSuper, found⟩ ⟨_, hasSuper', found'⟩
  cases hasSuper.symm.trans hasSuper'
  exact Option.some.inj (found.symm.trans found')

/-- All classes above are of the library. -/
theorem mem_of_above (above : TransGen (Extends library) cls parent) :
    parent ∈ library.classes := by
  cases above with
  | single step => exact step.mem
  | tail _ step => exact step.mem

/-- Of two classes that a class reaches, one reaches the other. -/
theorem Reaches.total {first second : Class} (toFirst : Reaches library cls first)
    (toSecond : Reaches library cls second) :
    Reaches library first second ∨ Reaches library second first :=
  ReflTransGen.total_of_right_unique (Extends.rightUnique library) toFirst toSecond

/-- The way up from a class leads through the class that it extends. -/
theorem Extends.eq_or_above {level : Class} (step : Extends library cls parent)
    (above : TransGen (Extends library) cls level) :
    level = parent ∨ TransGen (Extends library) parent level := by
  obtain ⟨first, firstStep, further⟩ := Relation.TransGen.head'_iff.1 above
  cases Extends.rightUnique library step firstStep
  exact Relation.reflTransGen_iff_eq_or_transGen.1 further

theorem Reaches.mem (member : cls ∈ library.classes) (reaches : Reaches library cls parent) :
    parent ∈ library.classes := by
  cases reaches with
  | refl => exact member
  | tail _ step => exact step.mem

theorem HasInterface.mem {interface : Interface} (has : HasInterface library cls interface) :
    interface ∈ library.interfaces := by
  obtain ⟨_, _, _, _, first, found, chain⟩ := has
  cases chain with
  | refl => exact List.mem_of_find?_eq_some found
  | tail _ step =>
      obtain ⟨_, _, found'⟩ := step
      exact List.mem_of_find?_eq_some found'

/-! ### Classes above a class -/

section Ancestors

variable {visited : List String} {bindings : Bindings} {start : Option NamedType}

/-- The walk upward meets only classes above. -/
theorem above_of_mem_ancestorsFrom (library : Library) (visited : List String)
    (bindings : Bindings) (start : Option NamedType) :
    ∀ ancestor ∈ ancestorsFrom library visited bindings start, ∀ below : Class,
      below.superType = start → TransGen (Extends library) below ancestor.cls := by
  fun_induction ancestorsFrom library visited bindings start with
  | case1 => simp
  | case2 => simp
  | case3 visited bindings superType parent resolves fresh _ bound ih =>
      intro ancestor found below hasSuper
      have step : Extends library below parent := ⟨superType, hasSuper, resolves⟩
      rcases List.mem_cons.1 found with rfl | further
      · exact .single step
      · exact (TransGen.single step).trans (ih ancestor further parent rfl)
  | case4 => simp

/-- The walk upward is closed: what its start or one of its finds extends is visited or found. -/
theorem closed_ancestorsFrom (library : Library) (visited : List String) (bindings : Bindings)
    (start : Option NamedType) :
    ∀ below above, Extends library below above →
      (below.superType = start ∨
        below ∈ (ancestorsFrom library visited bindings start).map Ancestor.cls) →
      above.name ∈ visited ∨
        above ∈ (ancestorsFrom library visited bindings start).map Ancestor.cls := by
  fun_induction ancestorsFrom library visited bindings start with
  | case1 =>
      rintro below above ⟨superType, hasSuper, -⟩ (same | impossible)
      · simp [hasSuper] at same
      · cases impossible
  | case2 visited bindings superType missing =>
      rintro below above ⟨_, hasSuper, resolves⟩ (same | impossible)
      · cases hasSuper.symm.trans same
        simp [missing] at resolves
      · cases impossible
  | case3 visited bindings superType parent found fresh _ bound ih =>
      intro below above step place
      have known : above.name = parent.name → above = parent := fun same => by
        have twice := step.class?_name
        rw [same, Library.name_of_class? found, found] at twice
        exact (Option.some.inj twice).symm
      -- The rest of the walk is closed with the new class visited, and that class is found here.
      have inTail : below.superType = some superType ∨ above.name ∈ parent.name :: visited ∨
          above ∈ (ancestorsFrom library (parent.name :: visited) bound parent.superType).map
            Ancestor.cls := by
        rcases place with same | member
        · exact Or.inl same
        · rcases List.mem_cons.1 member with rfl | further
          · exact Or.inr (ih _ above step (Or.inl rfl))
          · exact Or.inr (ih below above step (Or.inr further))
      rcases inTail with same | seen | further
      · obtain ⟨_, hasSuper, resolves⟩ := step
        cases hasSuper.symm.trans same
        cases found.symm.trans resolves
        exact Or.inr List.mem_cons_self
      · rcases List.mem_cons.1 seen with same | earlier
        · exact Or.inr (known same ▸ List.mem_cons_self)
        · exact Or.inl earlier
      · exact Or.inr (List.mem_cons_of_mem _ further)
  | case4 visited bindings superType parent found seen =>
      rintro below above ⟨_, hasSuper, resolves⟩ (same | impossible)
      · cases hasSuper.symm.trans same
        cases found.symm.trans resolves
        exact Or.inl (by simpa using seen)
      · cases impossible

/-- The class and the classes that the walk upward finds are those that it reaches. -/
theorem mem_ancestors_iff (distinct : library.classNames.Nodup) (member : cls ∈ library.classes)
    {level : Class} :
    level = cls ∨ level ∈ (ancestors library cls).map Ancestor.cls ↔ Reaches library cls level := by
  constructor
  · rintro (rfl | found)
    · exact .refl
    · obtain ⟨ancestor, walked, rfl⟩ := List.mem_map.1 found
      exact (above_of_mem_ancestorsFrom _ _ _ _ ancestor walked cls rfl).to_reflTransGen
  · intro reaches
    induction reaches with
    | refl => exact Or.inl rfl
    | @tail below above _ step ih =>
        have closed := closed_ancestorsFrom library [cls.name] [] cls.superType below above step <| by
          rcases ih with rfl | found
          · exact Or.inl rfl
          · exact Or.inr found
        rcases closed with seen | found
        · have same := step.class?_name
          rw [List.mem_singleton.1 seen, Library.class?_name distinct member] at same
          exact Or.inl (Option.some.inj same).symm
        · exact Or.inr found

end Ancestors

/-- Of two classes that the walk upward finds, the later one is above the earlier one. -/
theorem pairwise_ancestorsFrom (library : Library) (visited : List String) (bindings : Bindings)
    (start : Option NamedType) :
    ((ancestorsFrom library visited bindings start).map Ancestor.cls).Pairwise
      (TransGen (Extends library)) := by
  fun_induction ancestorsFrom library visited bindings start with
  | case1 => exact List.Pairwise.nil
  | case2 => exact List.Pairwise.nil
  | case3 visited bindings superType parent found fresh _ bound ih =>
      rw [List.map_cons, List.pairwise_cons]
      refine ⟨fun above walked => ?_, ih⟩
      obtain ⟨ancestor, further, rfl⟩ := List.mem_map.1 walked
      exact above_of_mem_ancestorsFrom library _ bound parent.superType ancestor further parent rfl
  | case4 => exact List.Pairwise.nil

/-! ### Acyclic libraries -/

/-- A step between indices is a step between the classes there. -/
theorem extends_of_below {lower upper : Nat} (below : Below library lower upper)
    (atLower : library.classes[lower]? = some cls) :
    ∃ parent, library.classes[upper]? = some parent ∧ Extends library cls parent := by
  simp only [Below, superIndex?, atLower, Option.bind_some] at below
  obtain ⟨superType, hasSuper, position⟩ := Option.bind_eq_some_iff.1 below
  have inside := Library.lt_length_of_classIndex? position
  refine ⟨library.classes[upper], List.getElem?_eq_getElem inside, superType, hasSuper, ?_⟩
  rw [Library.class?_eq_bind_classIndex?, position, Option.bind_some,
    List.getElem?_eq_getElem inside]

/-- A step between classes is a step between their indices. -/
theorem below_of_extends {lower : Nat} (atLower : library.classes[lower]? = some cls)
    (step : Extends library cls parent) :
    ∃ upper, library.classes[upper]? = some parent ∧ Below library lower upper := by
  obtain ⟨superType, hasSuper, found⟩ := step
  rw [Library.class?_eq_bind_classIndex?] at found
  obtain ⟨upper, position, atUpper⟩ := Option.bind_eq_some_iff.1 found
  exact ⟨upper, atUpper, by simp [Below, superIndex?, atLower, hasSuper, position]⟩

/-- A way between classes is a way between their indices. -/
theorem below_of_transGen_extends {lower : Nat} (atLower : library.classes[lower]? = some cls)
    (chain : TransGen (Extends library) cls parent) :
    ∃ upper, library.classes[upper]? = some parent ∧ TransGen (Below library) lower upper := by
  induction chain with
  | single step =>
      obtain ⟨upper, atUpper, below⟩ := below_of_extends atLower step
      exact ⟨upper, atUpper, .single below⟩
  | tail _ step ih =>
      obtain ⟨middle, atMiddle, earlier⟩ := ih
      obtain ⟨upper, atUpper, below⟩ := below_of_extends atMiddle step
      exact ⟨upper, atUpper, earlier.tail below⟩

/-- A way between indices is a way between the classes there. -/
theorem extends_of_transGen_below {lower upper : Nat} (atLower : library.classes[lower]? = some cls)
    (chain : TransGen (Below library) lower upper) :
    ∃ parent, library.classes[upper]? = some parent ∧ TransGen (Extends library) cls parent := by
  induction chain with
  | single below =>
      obtain ⟨parent, atUpper, step⟩ := extends_of_below below atLower
      exact ⟨parent, atUpper, .single step⟩
  | tail _ below ih =>
      obtain ⟨middle, atMiddle, earlier⟩ := ih
      obtain ⟨parent, atUpper, step⟩ := extends_of_below below atMiddle
      exact ⟨parent, atUpper, earlier.tail step⟩

/-- Where class names are distinct, a library is acyclic when no class leads to itself. -/
theorem acyclic_iff (distinct : library.classNames.Nodup) :
    Acyclic library ↔ ∀ cls ∈ library.classes, ¬TransGen (Extends library) cls cls := by
  constructor
  · intro acyclic cls member cycle
    obtain ⟨lower, atLower⟩ := List.mem_iff_getElem?.1 member
    obtain ⟨upper, atUpper, below⟩ := below_of_transGen_extends atLower cycle
    have inside : lower < library.classNames.length := by
      simpa [Library.classNames] using (List.getElem?_eq_some_iff.1 atLower).1
    have same : lower = upper :=
      (List.getElem?_inj inside distinct).1 (by simp [Library.classNames, atLower, atUpper])
    exact acyclic lower (same ▸ below)
  · intro acyclic index cycle
    have inside : index < library.classes.length := by
      cases cycle with
      | single below => exact lt_length_of_superIndex? below
      | tail _ below => exact lt_length_of_superIndex? below
    have atIndex := List.getElem?_eq_getElem inside
    obtain ⟨above, again, chain⟩ := extends_of_transGen_below atIndex cycle
    cases atIndex.symm.trans again
    exact acyclic _ (List.getElem_mem inside) chain

/-- Where no class is above itself, what passes from the class above to a class holds of all classes. -/
theorem Acyclic.induction (acyclic : Acyclic library) {motive : Class → Prop}
    (passes : ∀ cls ∈ library.classes, (∀ parent, Extends library cls parent → motive parent) →
      motive cls) :
    ∀ cls ∈ library.classes, motive cls := by
  -- Along the order of visits, extended at its end: the class above comes in front.
  have visited : ∀ order, SupersFirst library order → ∀ index ∈ order, ∀ cls,
      library.classes[index]? = some cls → motive cls := by
    intro order
    induction order using List.reverseRecOn with
    | nil =>
        intro _ index impossible
        cases impossible
    | append_singleton front last ih =>
        intro first index member cls atIndex
        rcases List.mem_append.1 member with earlier | isLast
        · exact ih first.front index earlier cls atIndex
        · cases List.mem_singleton.1 isLast
          apply passes cls (List.mem_of_getElem? atIndex)
          intro parent step
          obtain ⟨upper, atUpper, below⟩ := below_of_extends atIndex step
          exact ih first.front upper (first front last [] rfl upper below) parent atUpper
  intro cls member
  obtain ⟨index, atIndex⟩ := List.mem_iff_getElem?.1 member
  have inside := (List.getElem?_eq_some_iff.1 atIndex).1
  exact visited _ (supersFirst_ancestorsFirst acyclic) index (mem_ancestorsFirst.2 inside) cls atIndex

/-- Where no class is above itself, the walk upward finds the classes above a class. -/
theorem mem_ancestors_iff_above (distinct : library.classNames.Nodup) (acyclic : Acyclic library)
    (member : cls ∈ library.classes) :
    parent ∈ (ancestors library cls).map Ancestor.cls ↔ TransGen (Extends library) cls parent := by
  constructor
  · intro walked
    obtain ⟨ancestor, found, rfl⟩ := List.mem_map.1 walked
    exact above_of_mem_ancestorsFrom _ _ _ _ ancestor found cls rfl
  · intro above
    rcases (mem_ancestors_iff distinct member).2 above.to_reflTransGen with rfl | walked
    · exact absurd above ((acyclic_iff distinct).1 acyclic _ member)
    · exact walked

/-! ### Interfaces of a class -/

section Interfaces

theorem ExtendsInterface.interface?_name {interface parent : Interface}
    (step : ExtendsInterface library interface parent) :
    library.interface? parent.name = some parent := by
  obtain ⟨_, -, found⟩ := step
  rw [Library.name_of_interface? found]
  exact found

/-- The interface that a demand leads to first. -/
def Meets (library : Library) (demands : List Demand) (interface : Interface) : Prop :=
  ∃ demand ∈ demands, library.interface? demand.reference.name = some interface

/-- The walk through interfaces meets only those that a demand leads to. -/
theorem reached_of_mem_interfacesFrom {visited : List String} {demands : List Demand}
    {implemented : Implemented} (found : implemented ∈ interfacesFrom library visited demands) :
    ∃ first, Meets library demands first ∧
      ReflTransGen (ExtendsInterface library) first implemented.interface := by
  fun_induction interfacesFrom library visited demands with
  | case1 => cases found
  | case2 visited demand rest missing ih =>
      obtain ⟨first, ⟨chosen, member, resolves⟩, chain⟩ := ih found
      exact ⟨first, ⟨chosen, List.mem_cons_of_mem _ member, resolves⟩, chain⟩
  | case3 visited demand rest interface resolves fresh _ bound ih =>
      have meets : Meets library (demand :: rest) interface :=
        ⟨demand, List.mem_cons_self, resolves⟩
      rcases List.mem_cons.1 found with rfl | further
      · exact ⟨interface, meets, .refl⟩
      · obtain ⟨first, ⟨chosen, member, resolves'⟩, chain⟩ := ih further
        rcases List.mem_append.1 member with inner | outer
        · obtain ⟨superType, listed, rfl⟩ := List.mem_map.1 inner
          exact ⟨interface, meets, .head ⟨superType, listed, resolves'⟩ chain⟩
        · exact ⟨first, ⟨chosen, List.mem_cons_of_mem _ outer, resolves'⟩, chain⟩
  | case4 visited demand rest interface resolves seen ih =>
      obtain ⟨first, ⟨chosen, member, resolves'⟩, chain⟩ := ih found
      exact ⟨first, ⟨chosen, List.mem_cons_of_mem _ member, resolves'⟩, chain⟩

/-- The walk over interfaces is closed: what a demand or one of its finds leads to is visited or
found. -/
theorem closed_interfacesFrom (library : Library) (visited : List String) (demands : List Demand) :
    ∀ target, library.interface? target.name = some target →
      (Meets library demands target ∨
        ∃ implemented ∈ interfacesFrom library visited demands,
          ExtendsInterface library implemented.interface target) →
      target.name ∈ visited ∨
        target ∈ (interfacesFrom library visited demands).map Implemented.interface := by
  fun_induction interfacesFrom library visited demands with
  | case1 =>
      rintro target - (⟨_, impossible, -⟩ | ⟨_, impossible, -⟩) <;> cases impossible
  | case2 visited demand rest missing ih =>
      rintro target named (⟨chosen, member, resolves⟩ | found)
      · rcases List.mem_cons.1 member with rfl | later
        · simp [missing] at resolves
        · exact ih target named (Or.inl ⟨chosen, later, resolves⟩)
      · exact ih target named (Or.inr found)
  | case3 visited demand rest interface found fresh _ bound ih =>
      intro target named place
      have known : target.name = interface.name → target = interface := fun same => by
        rw [same, Library.name_of_interface? found, found] at named
        exact (Option.some.inj named).symm
      -- The rest of the walk is closed with the new interface visited, and that one is found here.
      have inTail : target = interface ∨ target.name ∈ interface.name :: visited ∨
          target ∈ (interfacesFrom library (interface.name :: visited)
            (interface.superTypes.map (⟨·, bound⟩) ++ rest)).map Implemented.interface := by
        rcases place with ⟨chosen, member, resolves⟩ | ⟨implemented, member, step⟩
        · rcases List.mem_cons.1 member with rfl | later
          · exact Or.inl (Option.some.inj (resolves.symm.trans found))
          · exact Or.inr (ih target named
              (Or.inl ⟨chosen, List.mem_append_right _ later, resolves⟩))
        · rcases List.mem_cons.1 member with rfl | further
          · obtain ⟨superType, listed, resolves⟩ := step
            refine Or.inr (ih target named (Or.inl ⟨⟨superType, bound⟩, ?_, resolves⟩))
            exact List.mem_append_left _ (List.mem_map_of_mem listed)
          · exact Or.inr (ih target named (Or.inr ⟨implemented, further, step⟩))
      rcases inTail with rfl | seen | further
      · exact Or.inr List.mem_cons_self
      · rcases List.mem_cons.1 seen with same | earlier
        · exact Or.inr (known same ▸ List.mem_cons_self)
        · exact Or.inl earlier
      · exact Or.inr (List.mem_cons_of_mem _ further)
  | case4 visited demand rest interface found seen ih =>
      rintro target named (⟨chosen, member, resolves⟩ | step)
      · rcases List.mem_cons.1 member with rfl | later
        · cases found.symm.trans resolves
          exact Or.inl (by simpa using seen)
        · exact ih target named (Or.inl ⟨chosen, later, resolves⟩)
      · exact ih target named (Or.inr step)

/-- The demands of a class meet the interfaces that the classes on its way up name. -/
theorem meets_demands_iff (distinct : library.classNames.Nodup) (member : cls ∈ library.classes)
    {first : Interface} :
    Meets library (demands library cls) first ↔
      ∃ level, Reaches library cls level ∧ ∃ reference ∈ level.interfaces,
        library.interface? reference.name = some first := by
  constructor
  · rintro ⟨demand, demanded, resolves⟩
    rcases List.mem_append.1 demanded with own | inherited
    · obtain ⟨reference, listed, rfl⟩ := List.mem_map.1 own
      exact ⟨cls, .refl, reference, listed, resolves⟩
    · obtain ⟨ancestor, walked, inner⟩ := List.mem_flatMap.1 inherited
      obtain ⟨reference, listed, rfl⟩ := List.mem_map.1 inner
      refine ⟨ancestor.cls, ?_, reference, listed, resolves⟩
      exact (mem_ancestors_iff distinct member).1 (Or.inr (List.mem_map_of_mem walked))
  · rintro ⟨level, reaches, reference, listed, resolves⟩
    rcases (mem_ancestors_iff distinct member).2 reaches with rfl | walked
    · exact ⟨⟨reference, []⟩, List.mem_append_left _ (List.mem_map_of_mem listed), resolves⟩
    · obtain ⟨ancestor, found, rfl⟩ := List.mem_map.1 walked
      refine ⟨⟨reference, ancestor.bindings⟩, List.mem_append_right _ ?_, resolves⟩
      exact List.mem_flatMap.2 ⟨ancestor, found, List.mem_map_of_mem listed⟩

/-- The interfaces that the walk over interfaces finds are those that the class has. -/
theorem mem_implementedInterfaces_iff (distinct : library.classNames.Nodup)
    (member : cls ∈ library.classes) {interface : Interface} :
    interface ∈ (implementedInterfaces library cls).map Implemented.interface ↔
      HasInterface library cls interface := by
  constructor
  · intro found
    obtain ⟨implemented, walked, rfl⟩ := List.mem_map.1 found
    obtain ⟨first, meets, chain⟩ := reached_of_mem_interfacesFrom walked
    obtain ⟨level, reaches, reference, listed, resolves⟩ :=
      (meets_demands_iff distinct member).1 meets
    exact ⟨level, reaches, reference, listed, first, resolves, chain⟩
  · rintro ⟨level, reaches, reference, listed, first, resolves, chain⟩
    have closed := closed_interfacesFrom library [] (demands library cls)
    induction chain with
    | refl =>
        have named : library.interface? first.name = some first := by
          rw [Library.name_of_interface? resolves]
          exact resolves
        refine (closed first named (Or.inl ?_)).resolve_left (by simp)
        exact (meets_demands_iff distinct member).2 ⟨level, reaches, reference, listed, resolves⟩
    | tail _ step ih =>
        obtain ⟨implemented, walked, rfl⟩ := List.mem_map.1 ih
        exact (closed _ step.interface?_name (Or.inr ⟨implemented, walked, step⟩)).resolve_left
          (by simp)

end Interfaces

end DartBindings.Heritage
