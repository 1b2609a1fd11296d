import DartBindings.Normalization.Step
import DartBindings.Proofs.Heritage.Schedule
import DartBindings.Proofs.Heritage.Walk

/-!
Passes as simultaneous equations.

A pass changes one class after the other, and each change looks at what the changes before have made
of the library.  A local change looks only at what stands above the class.  Where no class is above
itself, a pass of a local change yields the one library in which every class is its declaration,
changed in view of that library itself.  The order of the visits has disappeared from this equation.

Main exports: IsLocal, pass_classes, eq_pass_of_classes
-/

namespace DartBindings.Normalization

open Heritage

/-- A change of classes that keeps the bare class and depends only on what stands above it. -/
structure IsLocal (change : Library → Class → Class) : Prop where
  bare : ∀ library cls, (change library cls).bare = cls.bare
  congr : ∀ {library other cls}, SameAbove library other cls →
    change library cls = change other cls

section Visit

variable {change : Library → Class → Class} {library : Library} {index : Nat}

theorem visit_getElem?_self (change : Library → Class → Class) (library : Library) (index : Nat) :
    (visit change library index).classes[index]? =
      (library.classes[index]?).map (change library) := by
  simp [visit]

theorem visit_getElem?_of_ne {position : Nat} (other : index ≠ position) :
    (visit change library index).classes[position]? = library.classes[position]? := by
  simp [visit, other]

theorem visit_bare (keeps : ∀ library cls, (change library cls).bare = cls.bare)
    (library : Library) (index : Nat) : (visit change library index).bare = library.bare := by
  have classes : (library.classes.modify index (change library)).map Class.bare =
      library.classes.map Class.bare := by
    apply List.ext_getElem?
    intro position
    rw [List.getElem?_map, List.getElem?_map, List.getElem?_modify]
    cases library.classes[position]? with
    | none => rfl
    | some cls =>
        by_cases same : index = position
        · simp [same, keeps]
        · simp [same]
  simp [visit, Library.bare, classes]

theorem foldl_visit_bare (keeps : ∀ library cls, (change library cls).bare = cls.bare)
    (order : List Nat) (library : Library) :
    (order.foldl (visit change) library).bare = library.bare := by
  induction order generalizing library with
  | nil => rfl
  | cons index rest ih => exact (ih _).trans (visit_bare keeps library index)

theorem foldl_visit_interfaces (change : Library → Class → Class) (order : List Nat)
    (library : Library) : (order.foldl (visit change) library).interfaces = library.interfaces := by
  induction order generalizing library with
  | nil => rfl
  | cons index rest ih => exact ih _

theorem foldl_visit_getElem?_of_notMem {order : List Nat} {position : Nat}
    (unvisited : position ∉ order) (library : Library) :
    (order.foldl (visit change) library).classes[position]? = library.classes[position]? := by
  induction order generalizing library with
  | nil => rfl
  | cons index rest ih =>
      rw [List.mem_cons, not_or] at unvisited
      rw [List.foldl_cons, ih unvisited.2, visit_getElem?_of_ne (Ne.symm unvisited.1)]

end Visit

/-- Libraries that agree at all positions in front of a class show it the same. -/
theorem sameAbove_of_front {library first second : Library} {front rest : List Nat} {index : Nat}
    {cls : Class} (order : SupersFirst library (front ++ index :: rest))
    (atIndex : library.classes[index]? = some cls)
    (firstBare : first.bare = library.bare) (secondBare : second.bare = library.bare)
    (interfaces : first.interfaces = second.interfaces)
    (agree : ∀ position ∈ front, first.classes[position]? = second.classes[position]?) :
    SameAbove first second cls := by
  refine .of_positions (firstBare.trans secondBare.symm) interfaces agree ?_ ?_
  · intro position known above isAbove
    exact order.front.upward known (superIndex?_eq firstBare position ▸ isAbove)
  · intro superType hasSuper above resolves
    rw [Library.classIndex?_eq firstBare] at resolves
    exact order front index rest rfl above (by simp [superIndex?, atIndex, hasSuper, resolves])

variable {change : Library → Class → Class} {library : Library}

theorem pass_bare (keeps : ∀ library cls, (change library cls).bare = cls.bare)
    (library : Library) : (pass change library).bare = library.bare :=
  foldl_visit_bare keeps _ library

theorem pass_interfaces (change : Library → Class → Class) (library : Library) :
    (pass change library).interfaces = library.interfaces :=
  foldl_visit_interfaces change _ library

/-- A pass changes every class in view of the library that the pass yields. -/
theorem pass_classes (isLocal : IsLocal change) (acyclic : Acyclic library) :
    (pass change library).classes = library.classes.map (change (pass change library)) := by
  apply List.ext_getElem?
  intro index
  rw [List.getElem?_map]
  cases atIndex : library.classes[index]? with
  | none =>
      have outside : library.classes.length ≤ index := List.getElem?_eq_none_iff.1 atIndex
      rw [Option.map_none, List.getElem?_eq_none_iff,
        Library.length_classes_eq (pass_bare isLocal.bare library)]
      exact outside
  | some cls =>
      have inside : index < library.classes.length := (List.getElem?_eq_some_iff.1 atIndex).1
      obtain ⟨front, rest, order, unvisited, notAgain, once⟩ := exists_turn inside
      have first := supersFirst_ancestorsFirst acyclic
      rw [order] at first
      let before := front.foldl (visit change) library
      have result : pass change library = rest.foldl (visit change) (visit change before index) := by
        simp [pass, order, before]
      -- What stands above the class was visited in front of it, and nothing later touches it.
      have same : SameAbove before (pass change library) cls := by
        refine sameAbove_of_front first atIndex (foldl_visit_bare isLocal.bare front library)
          (pass_bare isLocal.bare library) ?_ ?_
        · rw [foldl_visit_interfaces, pass_interfaces]
        · intro position known
          have other : index ≠ position := (ne_of_mem_of_not_mem known unvisited).symm
          rw [result, foldl_visit_getElem?_of_notMem (once position known),
            visit_getElem?_of_ne other]
      calc (pass change library).classes[index]?
          = (visit change before index).classes[index]? := by
            rw [result, foldl_visit_getElem?_of_notMem notAgain]
        _ = (library.classes[index]?).map (change before) := by
            rw [visit_getElem?_self, foldl_visit_getElem?_of_notMem unvisited]
        _ = some (change (pass change library) cls) := by
            rw [atIndex, Option.map_some, isLocal.congr same]

/-- The equation of a pass has one solution. -/
theorem eq_pass_of_classes {solution : Library} (isLocal : IsLocal change)
    (acyclic : Acyclic library) (interfaces : solution.interfaces = library.interfaces)
    (classes : solution.classes = library.classes.map (change solution)) :
    solution = pass change library := by
  have solutionBare : solution.bare = library.bare := by
    simp [Library.bare, interfaces, classes, Function.comp_def, isLocal.bare]
  have passBare := pass_bare isLocal.bare library
  have interfaces' : solution.interfaces = (pass change library).interfaces := by
    rw [interfaces, pass_interfaces]
  -- Along the order of visits: where the solutions agree so far, they agree at the next class.
  have agree : ∀ rest front, ancestorsFirst library = front ++ rest →
      (∀ position ∈ front, solution.classes[position]? = (pass change library).classes[position]?) →
        ∀ position ∈ ancestorsFirst library,
          solution.classes[position]? = (pass change library).classes[position]? := by
    intro rest
    induction rest with
    | nil =>
        intro front order soFar position member
        rw [order, List.append_nil] at member
        exact soFar position member
    | cons index rest ih =>
        intro front order soFar
        refine ih (front ++ [index]) (by simp [order]) fun position member => ?_
        rcases List.mem_append.1 member with known | isNew
        · exact soFar position known
        · rw [List.mem_singleton.1 isNew]
          have first := supersFirst_ancestorsFirst acyclic
          rw [order] at first
          rw [classes, pass_classes isLocal acyclic, List.getElem?_map, List.getElem?_map]
          cases atIndex : library.classes[index]? with
          | none => rfl
          | some cls =>
              have same : SameAbove solution (pass change library) cls :=
                sameAbove_of_front first atIndex solutionBare passBare interfaces' soFar
              rw [Option.map_some, Option.map_some, isLocal.congr same]
  have sameClasses : solution.classes = (pass change library).classes := by
    apply List.ext_getElem?
    intro position
    by_cases inside : position < library.classes.length
    · exact agree _ [] rfl (by simp) position (mem_ancestorsFirst.2 inside)
    · rw [List.getElem?_eq_none (by rw [Library.length_classes_eq solutionBare]; omega),
        List.getElem?_eq_none (by rw [Library.length_classes_eq passBare]; omega)]
  calc solution = ⟨solution.classes, solution.interfaces⟩ := rfl
    _ = ⟨(pass change library).classes, (pass change library).interfaces⟩ := by
        rw [sameClasses, interfaces']
    _ = pass change library := rfl

end DartBindings.Normalization
