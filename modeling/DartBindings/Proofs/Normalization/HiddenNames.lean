import DartBindings.Pipeline
import DartBindings.Proofs.Extraction.HiddenNames
import DartBindings.Proofs.Normalization.ConstructorInheritance

/-!
Normalization brings no hidden names into a library.

Whatever a stage adds to a class is found in the library: properties of interfaces and parameters of
methods, with type parameters bound to arguments that stand in heritages of the library, and
constructors of other classes.  Each stage therefore keeps a library free of hidden names.

Main exports: nothingHidden_normalize, allWanted_normalize, Generator.nothing_hidden
-/

namespace DartBindings

namespace Heritage

variable {library : Library}

/-- Walks upward come to classes of the library and bind type parameters to arguments that stand in it,
resolved in the bindings of the class below. -/
theorem nothingHidden_ancestorsFrom (nothing : library.NothingHidden) {visited : List String}
    {bindings : Bindings} {start : Option NamedType} (bound : bindings.NothingHidden)
    (begins : ∀ superType ∈ start, superType.NothingHidden) :
    ∀ ancestor ∈ ancestorsFrom library visited bindings start,
      ancestor.cls ∈ library.classes ∧ ancestor.bindings.NothingHidden := by
  fun_induction ancestorsFrom library visited bindings start with
  | case1 visited bindings => simp
  | case2 visited bindings superType missing => simp
  | case3 visited bindings superType parent found fresh _ inner ih =>
      have member : parent ∈ library.classes := List.mem_of_find?_eq_some found
      have bound' : inner.NothingHidden :=
        nothingHidden_bind bound parent.typeParams (begins superType rfl)
      exact List.forall_mem_cons.2
        ⟨⟨member, bound'⟩, ih bound' (nothing.classes parent member).superType⟩
  | case4 visited bindings superType parent found seen => simp

theorem nothingHidden_ancestors (nothing : library.NothingHidden) {cls : Class}
    (clean : cls.NothingHidden) :
    ∀ ancestor ∈ ancestors library cls,
      ancestor.cls ∈ library.classes ∧ ancestor.bindings.NothingHidden :=
  nothingHidden_ancestorsFrom nothing (fun _ none => absurd none List.not_mem_nil) clean.superType

/-- Demands come to interfaces of the library. -/
theorem nothingHidden_interfacesFrom (nothing : library.NothingHidden) {visited : List String}
    {demands : List Demand}
    (begins : ∀ demand ∈ demands, demand.reference.NothingHidden ∧ demand.bindings.NothingHidden) :
    ∀ implemented ∈ interfacesFrom library visited demands,
      implemented.interface ∈ library.interfaces ∧ implemented.bindings.NothingHidden := by
  fun_induction interfacesFrom library visited demands with
  | case1 visited => simp
  | case2 visited demand rest missing ih => exact ih (List.forall_mem_cons.1 begins).2
  | case3 visited demand rest interface found fresh _ inner ih =>
      rw [List.forall_mem_cons] at begins
      have member : interface ∈ library.interfaces := List.mem_of_find?_eq_some found
      have bound : inner.NothingHidden :=
        nothingHidden_bind begins.1.2 interface.typeParams begins.1.1
      refine List.forall_mem_cons.2 ⟨⟨member, bound⟩, ih ?_⟩
      refine List.forall_mem_append.2 ⟨List.forall_mem_map.2 fun reference listed => ?_, begins.2⟩
      exact ⟨(nothing.interfaces interface member).superTypes reference listed, bound⟩
  | case4 visited demand rest interface found seen ih => exact ih (List.forall_mem_cons.1 begins).2

theorem nothingHidden_implementedInterfaces (nothing : library.NothingHidden) {cls : Class}
    (clean : cls.NothingHidden) :
    ∀ implemented ∈ implementedInterfaces library cls,
      implemented.interface ∈ library.interfaces ∧ implemented.bindings.NothingHidden := by
  refine nothingHidden_interfacesFrom nothing (List.forall_mem_append.2 ⟨?_, ?_⟩)
  · refine List.forall_mem_map.2 fun reference listed => ?_
    exact ⟨clean.interfaces reference listed, fun _ none => absurd none List.not_mem_nil⟩
  · refine List.forall_mem_flatMap.2 fun ancestor above => ?_
    refine List.forall_mem_map.2 fun reference listed => ?_
    obtain ⟨member, bound⟩ := nothingHidden_ancestors nothing clean ancestor above
    exact ⟨(nothing.classes ancestor.cls member).interfaces reference listed, bound⟩

end Heritage

namespace Normalization

variable {library : Library} {cls : Class}

/-! ### What a stage makes of a class -/

theorem nothingHidden_withFieldAccessors (clean : cls.NothingHidden) :
    (withFieldAccessors cls).NothingHidden :=
  { clean with
    properties := fun _ none => absurd none List.not_mem_nil
    getters := by
      refine List.forall_mem_append.2 ⟨clean.getters, List.forall_mem_map.2 ?_⟩
      exact fun property member => (clean.properties property member).getter
    setters := by
      refine List.forall_mem_append.2 ⟨clean.setters, List.forall_mem_map.2 ?_⟩
      exact fun property member => (clean.properties property (List.mem_filter.1 member).1).setter }

/-- What interfaces demand of a class is free of hidden names. -/
theorem nothingHidden_demandedProperties (nothing : library.NothingHidden)
    (clean : cls.NothingHidden) :
    ∀ property ∈ demandedProperties library cls, property.NothingHidden := by
  refine List.forall_mem_flatMap.2 fun implemented member => ?_
  obtain ⟨known, bound⟩ :=
    Heritage.nothingHidden_implementedInterfaces nothing clean implemented member
  have clean := nothing.interfaces implemented.interface known
  exact List.forall_mem_map.2 fun property listed => (clean.properties property listed).substitute bound

/-- Demanded accessors bring no hidden names into a class. -/
theorem nothingHidden_withDemandedAccessors (declared : Library) (nothing : library.NothingHidden)
    (clean : cls.NothingHidden) : (withDemandedAccessors declared library cls).NothingHidden := by
  have demanded (needs : Property → Bool) :
      ∀ property ∈ (firstOfName (·.name) [] (demandedProperties library cls)).filter needs,
        property.NothingHidden := by
    intro property member
    exact nothingHidden_demandedProperties nothing clean property
      (mem_of_mem_firstOfName (List.mem_filter.1 member).1)
  exact
    { clean with
      getters := by
        refine List.forall_mem_append.2 ⟨clean.getters, List.forall_mem_map.2 ?_⟩
        exact fun property member => (demanded _ property member).getter
      setters := by
        refine List.forall_mem_append.2 ⟨clean.setters, List.forall_mem_map.2 ?_⟩
        exact fun property member => (demanded _ property member).setter }

/-- A constructor that can be inherited is one of the library. -/
theorem nothingHidden_inheritable? (nothing : library.NothingHidden) {reference : NamedType}
    {constructor : Constructor} (offered : inheritable? library reference = some constructor) :
    constructor.NothingHidden := by
  obtain ⟨parent, found, isOnly, -⟩ := inheritable?_eq_some_iff.1 offered
  have member : parent ∈ library.classes := List.mem_of_find?_eq_some found
  exact (nothing.classes parent member).constructors constructor
    (isOnly ▸ List.mem_singleton_self constructor)

/-- Own constructors and an inherited one are free of hidden names together. -/
theorem nothingHidden_constructorsOr {own : List Constructor} {inherited : Option Constructor}
    (clean : ∀ constructor ∈ own, constructor.NothingHidden)
    (taken : ∀ constructor ∈ inherited, constructor.NothingHidden) :
    ∀ constructor ∈ constructorsOr own inherited, constructor.NothingHidden := by
  rw [constructorsOr]
  split
  · exact fun constructor member => taken constructor (Option.mem_toList.1 member)
  · exact clean

theorem nothingHidden_withInheritedConstructor (nothing : library.NothingHidden)
    (clean : cls.NothingHidden) : (withInheritedConstructor library cls).NothingHidden :=
  { clean with
    constructors := by
      refine nothingHidden_constructorsOr clean.constructors fun constructor taken => ?_
      obtain ⟨reference, -, offered⟩ := Option.bind_eq_some_iff.1 taken
      exact nothingHidden_inheritable? nothing offered }

theorem nothingHidden_interfaceWithInheritedConstructor (nothing : library.NothingHidden)
    {interface : Interface} (clean : interface.NothingHidden) :
    (interfaceWithInheritedConstructor library interface).NothingHidden :=
  { clean with
    constructors := by
      refine nothingHidden_constructorsOr clean.constructors fun constructor taken => ?_
      obtain ⟨reference, -, offered⟩ := List.exists_of_findSome?_eq_some taken
      exact nothingHidden_inheritable? nothing offered }

theorem nothingHidden_overriddenParameters? (nothing : library.NothingHidden)
    (clean : cls.NothingHidden) {name : String} {parameters : List Parameter}
    (taken : overriddenParameters? library cls name = some parameters) :
    ∀ parameter ∈ parameters, parameter.type.NothingHidden := by
  -- A class above gives its parameters as they stand, an interface gives them as seen from the class.
  rcases Option.or_eq_some_iff.1 taken with above | ⟨-, demanded⟩
  · obtain ⟨ancestor, member, found⟩ := List.mem_filterMap.1 (List.mem_of_getLast? above)
    obtain ⟨method, isMethod, rfl⟩ := Option.map_eq_some_iff.1 found
    obtain ⟨known, -⟩ := Heritage.nothingHidden_ancestors nothing clean ancestor member
    exact ((nothing.classes ancestor.cls known).methods method
      (List.mem_of_find?_eq_some isMethod)).parameters
  · obtain ⟨implemented, member, found⟩ := List.mem_filterMap.1 (List.mem_of_getLast? demanded)
    obtain ⟨method, isMethod, rfl⟩ := Option.map_eq_some_iff.1 found
    obtain ⟨known, bound⟩ :=
      Heritage.nothingHidden_implementedInterfaces nothing clean implemented member
    exact Parameter.nothingHidden_substituteAll bound
      ((nothing.interfaces implemented.interface known).methods method
        (List.mem_of_find?_eq_some isMethod)).parameters

theorem nothingHidden_withUnifiedMethods (nothing : library.NothingHidden)
    (clean : cls.NothingHidden) : (withUnifiedMethods library cls).NothingHidden :=
  { clean with
    methods := by
      refine List.forall_mem_map.2 fun method member => ?_
      have cleanMethod := clean.methods method member
      refine ⟨cleanMethod.name, cleanMethod.result, ?_⟩
      cases taken : overriddenParameters? library cls method.name with
      | none => exact cleanMethod.parameters
      | some parameters => exact nothingHidden_overriddenParameters? nothing clean taken }

/-! ### What a stage makes of a library -/

section Pass

variable {change : Library → Class → Class}
  (keeps : ∀ {library cls}, Library.NothingHidden library → Class.NothingHidden cls →
    (change library cls).NothingHidden)
include keeps

/-- A visit whose change brings no hidden names into a class brings none into the library. -/
theorem nothingHidden_visit (nothing : library.NothingHidden) (index : Nat) :
    (visit change library index).NothingHidden where
  classes := by
    intro cls member
    obtain ⟨position, atPosition⟩ := List.mem_iff_getElem?.1 member
    rw [visit, List.getElem?_modify] at atPosition
    obtain ⟨before, declared, rfl⟩ := Option.map_eq_some_iff.1 atPosition
    have clean := nothing.classes before (List.mem_of_getElem? declared)
    split
    · exact keeps nothing clean
    · exact clean
  interfaces := nothing.interfaces

theorem nothingHidden_foldl_visit (nothing : library.NothingHidden) (order : List Nat) :
    (order.foldl (visit change) library).NothingHidden := by
  induction order generalizing library with
  | nil => exact nothing
  | cons index rest ih => exact ih (nothingHidden_visit keeps nothing index)

/-- A pass keeps a library free of hidden names if its change does so with a class. -/
theorem nothingHidden_pass (nothing : library.NothingHidden) :
    (pass change library).NothingHidden :=
  nothingHidden_foldl_visit keeps nothing _

end Pass

theorem nothingHidden_desugarFields (nothing : library.NothingHidden) :
    (desugarFields library).NothingHidden where
  classes := List.forall_mem_map.2 fun cls member =>
    nothingHidden_withFieldAccessors (nothing.classes cls member)
  interfaces := nothing.interfaces

theorem nothingHidden_inheritConstructors (nothing : library.NothingHidden) :
    (inheritConstructors library).NothingHidden := by
  have inherited := nothingHidden_pass nothingHidden_withInheritedConstructor nothing
  exact
    { classes := inherited.classes
      interfaces := by
        refine List.forall_mem_map.2 fun interface member => ?_
        exact nothingHidden_interfaceWithInheritedConstructor inherited
          (inherited.interfaces interface member) }

/-- Normalization keeps a library free of hidden names. -/
theorem nothingHidden_normalize (nothing : library.NothingHidden) :
    library.normalize.NothingHidden := by
  have desugared := nothingHidden_desugarFields nothing
  have supplied := nothingHidden_pass (nothingHidden_withDemandedAccessors library) desugared
  exact nothingHidden_pass nothingHidden_withUnifiedMethods
    (nothingHidden_inheritConstructors supplied)

/-- Normalization keeps a library free of hidden names and of declarations that are not wanted. -/
theorem allWanted_normalize {config : Config} (wanted : library.AllWanted config) :
    library.normalize.AllWanted config := by
  have nothing := nothingHidden_normalize
    ⟨fun cls member => (wanted.classes cls member).1,
      fun interface member => (wanted.interfaces interface member).1⟩
  have classNames : ∀ name ∈ library.classNames, name ∈ config.declarations.keys :=
    List.forall_mem_map.2 fun cls member => (wanted.classes cls member).2
  have interfaceNames : ∀ name ∈ library.interfaceNames, name ∈ config.declarations.keys :=
    List.forall_mem_map.2 fun interface member => (wanted.interfaces interface member).2
  rw [← Library.classNames_eq (normalize_bare library)] at classNames
  rw [← Library.interfaceNames_eq (normalize_bare library)] at interfaceNames
  exact
    { classes := fun cls member =>
        ⟨nothing.classes cls member, List.forall_mem_map.1 classNames cls member⟩
      interfaces := fun interface member =>
        ⟨nothing.interfaces interface member, List.forall_mem_map.1 interfaceNames interface member⟩ }

end Normalization

/-- The extracted library is that of the documents and the configuration. -/
theorem Generator.library_extract (generator : Generator) :
    generator.extract.library =
      (Extraction.extract generator.config generator.documents).1 := by
  rw [Generator.extract]

/-- The normalized library is that of the extracted one. -/
theorem Extracted.library_normalize (extracted : Extracted) :
    extracted.normalize.library = extracted.library.normalize := by
  rw [Extracted.normalize, Library.normalizeReporting]

/-- Whatever the configuration and the declaration files are, neither the library that they declare nor
the normalized one has anything hidden, and the configuration declares every class and interface of
both. -/
theorem Generator.nothing_hidden (generator : Generator) :
    generator.extract.library.AllWanted generator.config ∧
      generator.extract.normalize.library.AllWanted generator.config := by
  have extracted := Extraction.extract_allWanted generator.config generator.documents
  rw [Extracted.library_normalize, Generator.library_extract]
  exact ⟨extracted, Normalization.allWanted_normalize extracted⟩

end DartBindings
