import DartBindings.Proofs.Heritage.Reachability
import DartBindings.Proofs.Normalization.Locality

/-!
Constructors come from the nearest class above that declares any.

A visit looks only at the class directly above, but classes above a class are visited in front of it.
A class that declares no constructor therefore ends with the one constructor of the nearest class above
that declares constructors, however far above that class stands; and it ends with none if that class has
several or if its only constructor takes no parameters.  Interfaces look at the classes that they extend
after all classes have their constructors.

Main exports: TakesOver, EndsWith, constructors_of_nearest
-/

namespace DartBindings

namespace Normalization

open Heritage
open Relation (TransGen)

/-- The nearest class above a class that declares a constructor. -/
structure IsNearestDeclaring (library : Library) (cls source : Class) : Prop where
  above : TransGen (Extends library) cls source
  declares : source.constructors ≠ []
  between : ∀ level, TransGen (Extends library) cls level →
    TransGen (Extends library) level source → level.constructors = []

/-- The class has one constructor, and that one takes parameters. -/
def HandsDown (cls : Class) (constructor : Constructor) : Prop :=
  cls.constructors = [constructor] ∧ constructor.parameters ≠ []

/-- The nearest class above that declares a constructor hands this one down. -/
def TakesOver (library : Library) (cls : Class) (constructor : Constructor) : Prop :=
  ∃ source, IsNearestDeclaring library cls source ∧ HandsDown source constructor

/-- The reference names a class that hands the constructor down. -/
def Offers (library : Library) (reference : NamedType) (constructor : Constructor) : Prop :=
  ∃ parent, library.class? reference.name = some parent ∧ HandsDown parent constructor

/-- The first of the references that names a class with a constructor to hand down offers this one. -/
def OffersFirst (library : Library) (references : List NamedType) (constructor : Constructor) :
    Prop :=
  ∃ front reference rest, references = front ++ reference :: rest ∧
    Offers library reference constructor ∧
      ∀ earlier ∈ front, ∀ other, ¬Offers library earlier other

/-- The final constructors of a declaration: those that it declares, or else the one that it takes over,
if there is one to take over. -/
structure EndsWith (declared : List Constructor) (taken : Constructor → Prop)
    (final : List Constructor) : Prop where
  kept : declared ≠ [] → final = declared
  inherited : declared = [] → ∀ constructor, taken constructor → final = [constructor]
  nothing : declared = [] → (∀ constructor, ¬taken constructor) → final = []

variable {library : Library} {cls parent : Class} {constructor : Constructor}

/-- A class ends with its own constructors or with what is offered to it. -/
theorem endsWith_constructorsOr {declared : List Constructor} {taken : Constructor → Prop}
    {inherited : Option Constructor}
    (same : ∀ constructor, inherited = some constructor ↔ taken constructor) :
    EndsWith declared taken (constructorsOr declared inherited) where
  kept own := by simp [constructorsOr, own]
  inherited absent constructor isTaken := by
    rw [constructorsOr, absent, (same constructor).2 isTaken]
    rfl
  nothing absent notTaken := by
    cases given : inherited with
    | none => simp [constructorsOr, absent]
    | some constructor => exact absurd ((same constructor).1 given) (notTaken constructor)

/-- What can be inherited is what the class of that name offers. -/
theorem inheritable?_eq_some_iff {reference : NamedType} :
    inheritable? library reference = some constructor ↔ Offers library reference constructor := by
  constructor
  · intro found
    unfold inheritable? at found
    split at found
    · next only constructors =>
        obtain ⟨parent, names, isOnly⟩ := Option.map_eq_some_iff.1 constructors
        split at found
        · cases found
        · next takes =>
            cases found
            exact ⟨parent, names, isOnly, by simpa using takes⟩
    · cases found
  · rintro ⟨parent, names, isOnly, takes⟩
    simp [inheritable?, names, isOnly, takes]

/-- A final declaration hands down what the declared one does, or else what it takes over. -/
theorem EndsWith.handsDown_iff {declared final : Class} {taken : Constructor → Prop}
    (endsWith : EndsWith declared.constructors taken final.constructors)
    (takes : ∀ constructor, taken constructor → constructor.parameters ≠ []) :
    HandsDown final constructor ↔
      HandsDown declared constructor ∨ declared.constructors = [] ∧ taken constructor := by
  by_cases absent : declared.constructors = []
  · by_cases given : ∃ other, taken other
    · obtain ⟨other, isTaken⟩ := given
      have only := endsWith.inherited absent other isTaken
      constructor
      · rintro ⟨isOnly, -⟩
        cases only.symm.trans isOnly
        exact Or.inr ⟨absent, isTaken⟩
      · rintro (⟨isDeclared, -⟩ | ⟨-, isTaken'⟩)
        · simp [absent] at isDeclared
        · exact ⟨endsWith.inherited absent constructor isTaken', takes constructor isTaken'⟩
    · have notTaken := not_exists.1 given
      have nothing := endsWith.nothing absent notTaken
      simp [HandsDown, absent, nothing, notTaken]
  · simp [HandsDown, absent, endsWith.kept absent]

/-- A constructor that is taken over has parameters. -/
theorem TakesOver.takes (takesOver : TakesOver library cls constructor) :
    constructor.parameters ≠ [] := by
  obtain ⟨_, -, -, takes⟩ := takesOver
  exact takes

/-- What a class takes over stands in the class above it, or is what that class takes over. -/
theorem takesOver_iff (distinct : library.classNames.Nodup) (acyclic : Acyclic library) :
    TakesOver library cls constructor ↔
      ∃ parent, Extends library cls parent ∧ (HandsDown parent constructor ∨
        parent.constructors = [] ∧ TakesOver library parent constructor) := by
  constructor
  · rintro ⟨source, nearest, handsDown⟩
    obtain ⟨parent, step, -⟩ := Relation.TransGen.head'_iff.1 nearest.above
    refine ⟨parent, step, ?_⟩
    -- The source is the class directly above, or stands above that one, which then declares none.
    rcases step.eq_or_above nearest.above with rfl | further
    · exact Or.inl handsDown
    · refine Or.inr ⟨nearest.between parent (.single step) further, source, ?_, handsDown⟩
      exact ⟨further, nearest.declares, fun level above => nearest.between level (above.head step)⟩
  · rintro ⟨parent, step, handsDown | ⟨absent, source, nearest, handsDown⟩⟩
    · refine ⟨parent, ⟨.single step, by simp [handsDown.1], fun level above below => ?_⟩, handsDown⟩
      have noCycle := (acyclic_iff distinct).1 acyclic parent step.mem
      rcases step.eq_or_above above with rfl | higher
      · exact absurd below noCycle
      · exact absurd (higher.trans below) noCycle
    · refine ⟨source, ⟨nearest.above.head step, nearest.declares, fun level above below => ?_⟩,
        handsDown⟩
      rcases step.eq_or_above above with rfl | higher
      · exact absent
      · exact nearest.between level higher below

/-! ### The normalized library -/

/-- Overriding does not touch constructors, so the same ones can be inherited. -/
theorem inheritable?_unifyOverrides (acyclic : Acyclic library) :
    inheritable? (unifyOverrides library) = inheritable? library := by
  funext reference
  have found := Library.class?_of_map (unifyOverrides_classes acyclic) (fun _ => rfl) reference.name
  rw [inheritable?, inheritable?, found, Option.map_map]
  rfl

/-- The library whose classes have all accessors, in front of the inheritance of constructors. -/
theorem acyclic_supplied (acyclic : Acyclic library) :
    Acyclic (addDemandedAccessors library (desugarFields library)) :=
  (acyclic.of_bare (desugarFields_bare library)).of_bare (addDemandedAccessors_bare library _)

/-- What can be inherited is settled by the stage of constructors. -/
theorem inheritable?_normalize (acyclic : Acyclic library) :
    inheritable? library.normalize =
      inheritable? (inheritConstructors (addDemandedAccessors library (desugarFields library))) :=
  inheritable?_unifyOverrides ((acyclic_supplied acyclic).of_bare (inheritConstructors_bare _))

/-- Interfaces take constructors from the normalized classes. -/
theorem normalize_interfaces (acyclic : Acyclic library) :
    library.normalize.interfaces =
      library.interfaces.map (interfaceWithInheritedConstructor library.normalize) := by
  rw [interfaces_normalize]
  unfold interfaceWithInheritedConstructor
  rw [inheritable?_normalize acyclic]

/-- Normalization keeps names and gives a class the constructors that it declares, or else the one that
the class above it has in the end. -/
theorem exists_final (acyclic : Acyclic library) :
    ∃ final : Class → Class, library.normalize.classes = library.classes.map final ∧
      ∀ cls, (final cls).name = cls.name ∧ (final cls).constructors =
        constructorsOr cls.constructors (cls.superType.bind (inheritable? library.normalize)) := by
  refine ⟨_, normalize_classes acyclic, fun cls => ⟨rfl, ?_⟩⟩
  rw [inheritable?_normalize acyclic]
  rfl

/-- Looking only at the class directly above finds the constructor of the nearest class above that
declares any. -/
theorem endsWith_takesOver (distinct : library.classNames.Nodup) (acyclic : Acyclic library)
    {final : Class → Class} (classes : library.normalize.classes = library.classes.map final)
    (names : ∀ cls, (final cls).name = cls.name)
    (constructors : ∀ cls, (final cls).constructors =
      constructorsOr cls.constructors (cls.superType.bind (inheritable? library.normalize))) :
    ∀ cls ∈ library.classes,
      EndsWith cls.constructors (TakesOver library cls) (final cls).constructors := by
  -- From the class above to the class: it hands down what it ends with.
  refine acyclic.induction fun cls _ endsWithAbove => ?_
  rw [constructors]
  apply endsWith_constructorsOr
  intro constructor
  calc cls.superType.bind (inheritable? library.normalize) = some constructor
      ↔ ∃ parent, Extends library cls parent ∧ HandsDown (final parent) constructor := by
        simp only [Option.bind_eq_some_iff, inheritable?_eq_some_iff, Offers, Extends,
          Library.class?_of_map classes names, Option.map_eq_some_iff]
        grind
    _ ↔ TakesOver library cls constructor := by
        rw [takesOver_iff distinct acyclic]
        refine exists_congr fun parent => and_congr_right fun step => ?_
        exact (endsWithAbove parent step).handsDown_iff fun _ takesOver => takesOver.takes

/-- An interface has what the first of its super types offers that has something to offer. -/
theorem findSome?_inheritable?_eq_some_iff {references : List NamedType} :
    references.findSome? (inheritable? library) = some constructor ↔
      OffersFirst library references constructor := by
  rw [List.findSome?_eq_some_iff]
  unfold OffersFirst
  simp only [inheritable?_eq_some_iff, Option.eq_none_iff_forall_ne_some, ne_eq]

/-- Where class names are distinct and no class is above itself, normalization leaves the declared
constructors of a class alone and gives a class without constructors the one that the nearest class
above with constructors hands down; an interface without constructors gets the one that its first super
type with such a constructor has in the end. -/
theorem constructors_of_nearest (library : Library) (distinct : library.classNames.Nodup)
    (acyclic : Acyclic library) :
    List.Forall₂ (fun declared final => final.name = declared.name ∧
        EndsWith declared.constructors (TakesOver library declared) final.constructors)
      library.classes library.normalize.classes ∧
    List.Forall₂ (fun declared final => final.name = declared.name ∧
        EndsWith declared.constructors (OffersFirst library.normalize declared.superTypes)
          final.constructors)
      library.interfaces library.normalize.interfaces := by
  obtain ⟨final, classes, view⟩ := exists_final acyclic
  constructor
  · rw [classes, List.forall₂_map_right_iff, List.forall₂_same]
    intro cls member
    refine ⟨(view cls).1, ?_⟩
    exact endsWith_takesOver distinct acyclic classes (fun cls => (view cls).1)
      (fun cls => (view cls).2) cls member
  · rw [normalize_interfaces acyclic, List.forall₂_map_right_iff, List.forall₂_same]
    intro interface _
    refine ⟨rfl, endsWith_constructorsOr fun constructor => ?_⟩
    exact findSome?_inheritable?_eq_some_iff

/-- A constructor that takes a name. -/
def named : Constructor :=
  { parameters := [{ name := "name", type := .ofName "string" }] }

/-- A class two levels below the one that declares the constructor. -/
def followCamera : Class :=
  { name := "FollowCamera", superType := some { name := "TargetCamera" } }

/-- The class between them. -/
def targetCamera : Class :=
  { name := "TargetCamera", superType := some { name := "Camera" } }

/-- The class that declares the constructor, below one that the library does not have. -/
def camera : Class :=
  { name := "Camera", superType := some { name := "Node" }, constructors := [named] }

/-- A class without constructors in front of those above it, and an interface whose first super type
hands nothing down. -/
def cameraLibrary : Library :=
  { classes := [followCamera, targetCamera, camera]
    interfaces := [{ name := "Rig", superTypes := [{ name := "Node" }, { name := "FollowCamera" }] }] }

/-- The constructor of the camera passes a class between that declares none. -/
theorem takesOver_followCamera : TakesOver cameraLibrary followCamera named := by
  have first : Extends cameraLibrary followCamera targetCamera := ⟨_, rfl, rfl⟩
  have second : Extends cameraLibrary targetCamera camera := ⟨_, rfl, rfl⟩
  have top : ∀ level, ¬TransGen (Extends cameraLibrary) camera level := by
    intro level above
    obtain ⟨parent, ⟨superType, hasSuper, found⟩, -⟩ := Relation.TransGen.head'_iff.1 above
    cases hasSuper
    cases found
  refine ⟨camera, ⟨.tail (.single first) second, by simp [camera], ?_⟩, rfl, by simp [named]⟩
  intro level above below
  rcases first.eq_or_above above with rfl | higher
  · rfl
  · rcases second.eq_or_above higher with rfl | highest
    · exact absurd below (top _)
    · exact absurd highest (top _)

/-- A follow camera takes over the named constructor of the camera two levels above. -/
theorem constructors_of_nearest_camera :
    cameraLibrary.classNames.Nodup ∧ Acyclic cameraLibrary ∧
      TakesOver cameraLibrary followCamera named ∧
      List.Forall₂ (fun declared final => final.name = declared.name ∧
          EndsWith declared.constructors (TakesOver cameraLibrary declared) final.constructors)
        cameraLibrary.classes cameraLibrary.normalize.classes ∧
      List.Forall₂ (fun declared final => final.name = declared.name ∧
          EndsWith declared.constructors
            (OffersFirst cameraLibrary.normalize declared.superTypes) final.constructors)
        cameraLibrary.interfaces cameraLibrary.normalize.interfaces := by
  have distinct : cameraLibrary.classNames.Nodup := by decide
  have acyclic : Acyclic cameraLibrary := .of_superBehind (by decide)
  exact ⟨distinct, acyclic, takesOver_followCamera,
    constructors_of_nearest cameraLibrary distinct acyclic⟩

end Normalization

end DartBindings
