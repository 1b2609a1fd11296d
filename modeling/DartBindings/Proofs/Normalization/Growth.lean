import DartBindings.Proofs.Heritage.Reachability
import DartBindings.Proofs.Lists
import DartBindings.Proofs.Normalization.Locality

/-!
How normalization makes classes grow.

No stage takes an accessor away.  A class grows when it keeps its bare form and its accessors, perhaps
with new ones behind them, and a library grows when each of its classes does.  Heritage is read off
bare declarations, so steps of heritage in a library and in a grown one correspond to each other.

Main exports: Class.Grows, Library.PairsWith, pass_establishes, normalize_forall₂
-/

namespace DartBindings

/-- A class with the bare form of another one and its accessors, perhaps with new ones behind them. -/
structure Class.Grows (cls grown : Class) : Prop where
  bare : cls.bare = grown.bare
  getters : cls.getters <+: grown.getters
  setters : cls.setters <+: grown.setters

namespace Class.Grows

variable {cls middle grown : Class}

theorem refl (cls : Class) : cls.Grows cls :=
  ⟨rfl, List.prefix_refl _, List.prefix_refl _⟩

theorem trans (first : cls.Grows middle) (second : middle.Grows grown) : cls.Grows grown :=
  ⟨first.bare.trans second.bare, first.getters.trans second.getters,
    first.setters.trans second.setters⟩

theorem name (grows : cls.Grows grown) : cls.name = grown.name :=
  (bare_eq_iff.1 grows.bare).1

theorem hasGetter (grows : cls.Grows grown) {name : String} (has : cls.hasGetter name = true) :
    grown.hasGetter name = true := by
  obtain ⟨getter, member, named⟩ := List.any_eq_true.1 has
  exact List.any_eq_true.2 ⟨getter, grows.getters.subset member, named⟩

theorem hasSetter (grows : cls.Grows grown) {name : String} (has : cls.hasSetter name = true) :
    grown.hasSetter name = true := by
  obtain ⟨setter, member, named⟩ := List.any_eq_true.1 has
  exact List.any_eq_true.2 ⟨setter, grows.setters.subset member, named⟩

end Class.Grows

/-- A relation that every class has to itself, that composes, and that keeps the bare form. -/
structure Class.IsKept (related : Class → Class → Prop) : Prop where
  bare : ∀ cls twin, related cls twin → cls.bare = twin.bare
  refl : ∀ cls, related cls cls
  trans : ∀ cls middle twin, related cls middle → related middle twin → related cls twin

theorem Class.Grows.isKept : Class.IsKept Class.Grows where
  bare _ _ grows := grows.bare
  refl := .refl
  trans _ _ _ := .trans

/-- The declarations of two libraries pair up: classes by a relation, interfaces by bare form. -/
structure Library.PairsWith (related : Class → Class → Prop) (library other : Library) : Prop where
  bare : ∀ cls twin, related cls twin → cls.bare = twin.bare
  classes : List.Forall₂ related library.classes other.classes
  interfaces :
    List.Forall₂ (fun interface twin => interface.bare = Interface.bare twin) library.interfaces
      other.interfaces

/-- A library each class of which grows. -/
abbrev Library.Grows : Library → Library → Prop :=
  Library.PairsWith Class.Grows

/-! ### Heritage of paired libraries -/

namespace Library.PairsWith

open Heritage Relation

variable {related : Class → Class → Prop} {library other : Library} {cls twin parent : Class}

theorem flip (pairs : library.PairsWith related other) :
    other.PairsWith (fun cls twin => related twin cls) library where
  bare cls twin h := (pairs.bare twin cls h).symm
  classes := pairs.classes.flip
  interfaces := pairs.interfaces.flip.imp fun _ _ same => same.symm

theorem class? (pairs : library.PairsWith related other) {name : String}
    (found : library.class? name = some cls) :
    ∃ twin, other.class? name = some twin ∧ related cls twin :=
  find?_of_related
    (fun item twin pair => by rw [(Class.bare_eq_iff.1 (pairs.bare item twin pair)).1])
    pairs.classes found

theorem interface? (pairs : library.PairsWith related other) {name : String} {interface : Interface}
    (found : library.interface? name = some interface) :
    ∃ twin, other.interface? name = some twin ∧ interface.bare = Interface.bare twin :=
  find?_of_related (fun _ _ same => by rw [(Interface.bare_eq_iff.1 same).1]) pairs.interfaces found

/-- Paired libraries have one bare form. -/
theorem bare_eq (pairs : library.PairsWith related other) : library.bare = other.bare := by
  have classes : library.classes.map Class.bare = other.classes.map Class.bare := by
    rw [← List.forall₂_eq_eq_eq, List.forall₂_map_left_iff, List.forall₂_map_right_iff]
    exact pairs.classes.imp pairs.bare
  have interfaces : library.interfaces.map Interface.bare = other.interfaces.map Interface.bare := by
    rw [← List.forall₂_eq_eq_eq, List.forall₂_map_left_iff, List.forall₂_map_right_iff]
    exact pairs.interfaces
  rw [Library.bare, Library.bare, classes, interfaces]

theorem classNames (pairs : library.PairsWith related other) :
    library.classNames = other.classNames :=
  Library.classNames_eq pairs.bare_eq

/-- A step to the class above has its counterpart. -/
theorem exists_parent (pairs : library.PairsWith related other) (pair : related cls twin)
    (step : Extends library cls parent) :
    ∃ above, Extends other twin above ∧ related parent above := by
  obtain ⟨superType, hasSuper, found⟩ := step
  obtain ⟨-, -, -, superTypes, -, -⟩ := Class.bare_eq_iff.1 (pairs.bare cls twin pair)
  obtain ⟨above, found', pairAbove⟩ := pairs.class? found
  exact ⟨above, ⟨superType, superTypes ▸ hasSuper, found'⟩, pairAbove⟩

/-- A class that is missing is missing on both sides. -/
theorem class?_eq_none (pairs : library.PairsWith related other) {name : String}
    (missing : library.class? name = none) : other.class? name = none := by
  rw [Option.eq_none_iff_forall_ne_some]
  intro twin found
  obtain ⟨cls, found', -⟩ := pairs.flip.class? found
  rw [missing] at found'
  cases found'

/-- Walks upward in paired libraries find paired classes. -/
theorem ancestorsFrom (pairs : library.PairsWith related other) (visited : List String)
    (bindings : Bindings) (start : Option NamedType) :
    List.Forall₂ related
      ((Heritage.ancestorsFrom library visited bindings start).map Ancestor.cls)
      ((Heritage.ancestorsFrom other visited bindings start).map Ancestor.cls) := by
  fun_induction Heritage.ancestorsFrom library visited bindings start with
  | case1 visited bindings =>
      rw [ancestorsFrom_none]
      exact .nil
  | case2 visited bindings superType missing =>
      rw [ancestorsFrom_unresolved (pairs.class?_eq_none missing)]
      exact .nil
  | case3 visited bindings superType parent found fresh _ bound ih =>
      obtain ⟨twin, found', pair⟩ := pairs.class? found
      obtain ⟨names, -, typeParams, superTypes, -, -⟩ :=
        Class.bare_eq_iff.1 (pairs.bare parent twin pair)
      rw [ancestorsFrom_fresh found' (names ▸ fresh), ← names, ← typeParams, ← superTypes]
      exact .cons pair ih
  | case4 visited bindings superType parent found seen =>
      obtain ⟨twin, found', pair⟩ := pairs.class? found
      obtain ⟨names, -⟩ := Class.bare_eq_iff.1 (pairs.bare parent twin pair)
      have seen' : parent.name ∈ visited := by simpa using seen
      rw [ancestorsFrom_visited found' (names ▸ seen')]
      exact .nil

theorem reaches (pairs : library.PairsWith related other) (pair : related cls twin)
    (chain : Reaches library cls parent) : ∃ above, Reaches other twin above ∧ related parent above := by
  induction chain with
  | refl => exact ⟨twin, .refl, pair⟩
  | tail _ step ih =>
      obtain ⟨middle, earlier, pairMiddle⟩ := ih
      obtain ⟨above, step', pairAbove⟩ := pairs.exists_parent pairMiddle step
      exact ⟨above, earlier.tail step', pairAbove⟩

theorem above (pairs : library.PairsWith related other) (pair : related cls twin)
    (chain : TransGen (Extends library) cls parent) :
    ∃ higher, TransGen (Extends other) twin higher ∧ related parent higher := by
  induction chain with
  | single step =>
      obtain ⟨higher, step', pairHigher⟩ := pairs.exists_parent pair step
      exact ⟨higher, .single step', pairHigher⟩
  | tail _ step ih =>
      obtain ⟨middle, earlier, pairMiddle⟩ := ih
      obtain ⟨higher, step', pairHigher⟩ := pairs.exists_parent pairMiddle step
      exact ⟨higher, earlier.tail step', pairHigher⟩

/-- A way through interfaces has its counterpart. -/
theorem extendsInterface (pairs : library.PairsWith related other)
    {first last twin : Interface} (same : first.bare = twin.bare)
    (chain : ReflTransGen (ExtendsInterface library) first last) :
    ∃ above, ReflTransGen (ExtendsInterface other) twin above ∧ last.bare = above.bare := by
  induction chain with
  | refl => exact ⟨twin, .refl, same⟩
  | tail _ step ih =>
      obtain ⟨middle, earlier, sameMiddle⟩ := ih
      obtain ⟨superType, listed, found⟩ := step
      obtain ⟨above, found', sameAbove⟩ := pairs.interface? found
      obtain ⟨-, -, superTypes, -, -, -⟩ := Interface.bare_eq_iff.1 sameMiddle
      exact ⟨above, earlier.tail ⟨superType, superTypes ▸ listed, found'⟩, sameAbove⟩

/-- An interface that a class has comes from a counterpart with the same bare form. -/
theorem hasInterface (pairs : library.PairsWith related other) (pair : related cls twin)
    {interface : Interface} (has : HasInterface library cls interface) :
    ∃ counterpart, HasInterface other twin counterpart ∧ interface.bare = counterpart.bare := by
  obtain ⟨level, reaches, reference, listed, first, found, chain⟩ := has
  obtain ⟨levelTwin, reaches', pairLevel⟩ := pairs.reaches pair reaches
  obtain ⟨firstTwin, found', same⟩ := pairs.interface? found
  obtain ⟨counterpart, chain', sameLast⟩ := pairs.extendsInterface same chain
  obtain ⟨-, -, -, -, interfaces, -⟩ := Class.bare_eq_iff.1 (pairs.bare level levelTwin pairLevel)
  exact ⟨counterpart,
    ⟨levelTwin, reaches', reference, interfaces ▸ listed, firstTwin, found', chain'⟩, sameLast⟩

end Library.PairsWith

/-! ### Libraries that pair up with themselves -/

namespace Library.PairsWith

variable {related : Class → Class → Prop} {library middle other : Library}

theorem refl (kept : Class.IsKept related) (library : Library) :
    library.PairsWith related library where
  bare := kept.bare
  classes := List.forall₂_same.2 fun cls _ => kept.refl cls
  interfaces := List.forall₂_same.2 fun _ _ => rfl

theorem trans (kept : Class.IsKept related) (first : library.PairsWith related middle)
    (second : middle.PairsWith related other) : library.PairsWith related other where
  bare := kept.bare
  classes := forall₂_trans kept.trans first.classes second.classes
  interfaces :=
    forall₂_trans (fun _ _ _ lower upper => lower.trans upper) first.interfaces second.interfaces

end Library.PairsWith

namespace Library.Grows

variable {library middle grown : Library}

theorem trans (first : library.Grows middle) (second : middle.Grows grown) : library.Grows grown :=
  PairsWith.trans Class.Grows.isKept first second

end Library.Grows

namespace Normalization

/-- The levels of counterparts are paired one by one. -/
theorem levels_forall₂ {related : Class → Class → Prop} {library other : Library} {cls twin : Class}
    (pairs : library.PairsWith related other) (pair : related cls twin) :
    List.Forall₂ related (levels library cls) (levels other twin) := by
  obtain ⟨names, -, -, superTypes, -, -⟩ := Class.bare_eq_iff.1 (pairs.bare cls twin pair)
  unfold levels Heritage.ancestors
  rw [← names, ← superTypes]
  exact .cons pair (pairs.ancestorsFrom [cls.name] [] cls.superType)

variable {change : Library → Class → Class}

/-- A visit keeps what its change keeps. -/
theorem visit_pairs {related : Class → Class → Prop} (kept : Class.IsKept related)
    (keeps : ∀ library cls, related cls (change library cls)) (library : Library) (index : Nat) :
    library.PairsWith related (visit change library index) where
  bare := kept.bare
  classes := by
    refine List.forall₂_iff_get.2 ⟨by simp [visit], fun position _ _ => ?_⟩
    by_cases same : index = position
    · simpa [visit, List.getElem_modify, same] using keeps library _
    · simpa [visit, List.getElem_modify, same] using kept.refl _
  interfaces := List.forall₂_same.2 fun _ _ => rfl

theorem foldl_visit_pairs {related : Class → Class → Prop} (kept : Class.IsKept related)
    (keeps : ∀ library cls, related cls (change library cls)) (order : List Nat)
    (library : Library) : library.PairsWith related (order.foldl (visit change) library) := by
  induction order generalizing library with
  | nil => exact .refl kept library
  | cons index rest ih => exact (visit_pairs kept keeps library index).trans kept (ih _)

/-- A pass keeps what its change keeps. -/
theorem pass_pairs {related : Class → Class → Prop} (kept : Class.IsKept related)
    (keeps : ∀ library cls, related cls (change library cls)) (library : Library) :
    library.PairsWith related (pass change library) :=
  foldl_visit_pairs kept keeps _ library

theorem visit_grows (grows : ∀ library (cls : Class), cls.Grows (change library cls)) (library : Library)
    (index : Nat) : library.Grows (visit change library index) :=
  visit_pairs Class.Grows.isKept grows library index

theorem foldl_visit_grows (grows : ∀ library (cls : Class), cls.Grows (change library cls))
    (order : List Nat) (library : Library) :
    library.Grows (order.foldl (visit change) library) :=
  foldl_visit_pairs Class.Grows.isKept grows order library

theorem pass_grows (grows : ∀ library (cls : Class), cls.Grows (change library cls))
    (library : Library) : library.Grows (pass change library) :=
  pass_pairs Class.Grows.isKept grows library

/-- A visit changes its class as declared, in view of what the visits before it have made of the library;
the visits behind it leave the class alone. -/
theorem exists_visit {library : Library} {index : Nat} {cls : Class}
    (grows : ∀ library (cls : Class), cls.Grows (change library cls))
    (declares : library.classes[index]? = some cls) :
    ∃ current, library.Grows current ∧ current.classes[index]? = some cls ∧
      (visit change current index).Grows (pass change library) ∧
      (pass change library).classes[index]? = some (change current cls) := by
  obtain ⟨front, rest, order, unvisited, notAgain, _⟩ :=
    Heritage.exists_turn (List.getElem?_eq_some_iff.1 declares).1
  let current := front.foldl (visit change) library
  have result : pass change library = rest.foldl (visit change) (visit change current index) := by
    simp [pass, order, current]
  have atVisit : current.classes[index]? = some cls := by
    rw [foldl_visit_getElem?_of_notMem unvisited, declares]
  refine ⟨current, foldl_visit_grows grows front library, atVisit, ?_, ?_⟩
  · rw [result]
    exact foldl_visit_grows grows rest _
  · rw [result, foldl_visit_getElem?_of_notMem notAgain, visit_getElem?_self, atVisit,
      Option.map_some]

/-- What every visit establishes for its class, and growth keeps, holds for every class that a pass
yields. -/
theorem pass_establishes {library : Library} {holds : Library → Class → Prop}
    (grows : ∀ library (cls : Class), cls.Grows (change library cls))
    (keeps : ∀ library grown cls twin, library.Grows grown → cls.Grows twin → holds library cls →
      holds grown twin)
    (establishes : ∀ current index cls, library.Grows current →
      current.classes[index]? = some cls → holds (visit change current index) (change current cls)) :
    ∀ cls ∈ (pass change library).classes, holds (pass change library) cls := by
  intro final member
  obtain ⟨index, atEnd⟩ := List.mem_iff_getElem?.1 member
  have inside : index < library.classes.length := by
    rw [(pass_grows grows library).classes.length_eq]
    exact (List.getElem?_eq_some_iff.1 atEnd).1
  obtain ⟨current, before, atVisit, after, changed⟩ :=
    exists_visit grows (List.getElem?_eq_getElem inside)
  cases changed.symm.trans atEnd
  exact keeps _ _ _ _ after (.refl _) (establishes current index _ before atVisit)

theorem grows_withDemandedAccessors (declared library : Library) (cls : Class) :
    cls.Grows (withDemandedAccessors declared library cls) :=
  ⟨rfl, List.prefix_append _ _, List.prefix_append _ _⟩

theorem grows_withInheritedConstructor (library : Library) (cls : Class) :
    cls.Grows (withInheritedConstructor library cls) :=
  ⟨rfl, List.prefix_rfl, List.prefix_rfl⟩

theorem grows_withUnifiedMethods (library : Library) (cls : Class) :
    cls.Grows (withUnifiedMethods library cls) :=
  ⟨rfl, List.prefix_rfl, List.prefix_rfl⟩

/-- The inheritance of constructors keeps what it keeps of each class. -/
theorem inheritConstructors_pairs {related : Class → Class → Prop} (kept : Class.IsKept related)
    (keeps : ∀ library cls, related cls (withInheritedConstructor library cls))
    (library : Library) : library.PairsWith related (inheritConstructors library) := by
  refine (pass_pairs kept keeps library).trans kept ?_
  exact
    { bare := kept.bare
      classes := List.forall₂_same.2 fun cls _ => kept.refl cls
      interfaces := by
        rw [inheritConstructors, List.forall₂_map_right_iff]
        exact List.forall₂_same.2 fun _ _ => rfl }

theorem inheritConstructors_grows (library : Library) :
    library.Grows (inheritConstructors library) :=
  inheritConstructors_pairs Class.Grows.isKept grows_withInheritedConstructor library

theorem unifyOverrides_grows (library : Library) : library.Grows (unifyOverrides library) :=
  pass_grows grows_withUnifiedMethods library

/-- Normalization changes each class by itself, in view of what the stages make of the library. -/
theorem exists_views {library : Library} {index : Nat} {cls : Class}
    (declares : library.classes[index]? = some cls) :
    ∃ demanding inheriting overriding, (desugarFields library).Grows demanding ∧
      library.normalize.classes[index]? =
        some (withUnifiedMethods overriding (withInheritedConstructor inheriting
          (withDemandedAccessors library demanding (withFieldAccessors cls)))) := by
  have desugared : (desugarFields library).classes[index]? = some (withFieldAccessors cls) := by
    rw [desugarFields_classes, List.getElem?_map, declares, Option.map_some]
  obtain ⟨demanding, grows, -, -, demanded⟩ :=
    exists_visit (grows_withDemandedAccessors library) desugared
  let supplied := addDemandedAccessors library (desugarFields library)
  have inSupplied : supplied.classes[index]? = _ := demanded
  obtain ⟨inheriting, -, -, -, inherited⟩ := exists_visit grows_withInheritedConstructor inSupplied
  have inInherited : (inheritConstructors supplied).classes[index]? = _ := inherited
  obtain ⟨overriding, -, -, -, unified⟩ := exists_visit grows_withUnifiedMethods inInherited
  refine ⟨demanding, inheriting, overriding, grows, ?_⟩
  rw [Library.normalize, unifyOverrides, unified]

/-- What holds of every class and what such changes make of it holds of every class and its normalized
form. -/
theorem normalize_forall₂ {library : Library} {related : Class → Class → Prop}
    (view : ∀ cls ∈ library.classes, ∀ demanding inheriting overriding,
      (desugarFields library).Grows demanding →
        related cls (withUnifiedMethods overriding (withInheritedConstructor inheriting
          (withDemandedAccessors library demanding (withFieldAccessors cls))))) :
    List.Forall₂ related library.classes library.normalize.classes := by
  have lengths := Library.length_classes_eq (normalize_bare library)
  refine List.forall₂_iff_get.2 ⟨lengths.symm, fun index inside inside' => ?_⟩
  obtain ⟨demanding, inheriting, overriding, grows, isFinal⟩ :=
    exists_views (List.getElem?_eq_getElem inside)
  rw [List.getElem?_eq_getElem inside', Option.some.injEq] at isFinal
  rw [List.get_eq_getElem, List.get_eq_getElem, isFinal]
  exact view _ (List.getElem_mem inside) demanding inheriting overriding grows

end Normalization

end DartBindings
