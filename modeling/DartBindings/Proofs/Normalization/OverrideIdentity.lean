import Mathlib.Computability.Primrec.List
import Mathlib.Data.List.Basic
import DartBindings.Proofs.Heritage.Reachability
import DartBindings.Proofs.Normalization.Locality

/-!
Overriding methods have the parameters of what they override.

In the normalized library the methods of one name along a chain of classes have one parameter list,
that of the topmost class with such a method.  The topmost class takes the list of the last of its
interfaces that has the method, as seen from the class; without such an interface it keeps the list
that it declares.

Main exports: IsTopmost, OwnParameters, parameters_of_overrides
-/

namespace DartBindings

/-- The last item that a partial function takes to a result gives the last of the results. -/
theorem getLast?_filterMap_eq_some_iff {α β : Type} {select : α → Option β} {items : List α}
    {result : β} :
    (items.filterMap select).getLast? = some result ↔
      ∃ front item rest, items = front ++ item :: rest ∧ select item = some result ∧
        ∀ later ∈ rest, select later = none := by
  rw [List.getLast?_filterMap, List.findSome?_eq_some_iff]
  constructor
  · rintro ⟨rest, item, front, split, selected, nothing⟩
    refine ⟨front.reverse, item, rest.reverse, ?_, selected, fun later known => ?_⟩
    · rw [← List.reverse_inj, split]
      simp
    · exact nothing later (List.mem_reverse.1 known)
  · rintro ⟨front, item, rest, rfl, selected, nothing⟩
    refine ⟨rest.reverse, item, front.reverse, by simp, selected, fun later known => ?_⟩
    exact nothing later (List.mem_reverse.1 known)

/-- There is no last choice exactly when nothing is chosen. -/
theorem getLast?_filterMap_eq_none_iff {α β : Type} {select : α → Option β} {items : List α} :
    (items.filterMap select).getLast? = none ↔ ∀ item ∈ items, select item = none := by
  rw [List.getLast?_eq_none_iff, List.filterMap_eq_nil_iff]

namespace Normalization

open Heritage
open Relation (TransGen)

/-- The topmost class with a method of the name, from a class upward, and that method. -/
structure IsTopmost (library : Library) (cls : Class) (name : String) (top : Class)
    (method : Method) : Prop where
  reached : Reaches library cls top
  declares : top.method? name = some method
  nothingAbove : ∀ higher, TransGen (Extends library) top higher → higher.method? name = none

/-- The parameters of a method that overrides no method of a class: those that the last interface
with the method gives it, as seen from the class, or else the declared ones. -/
inductive OwnParameters (library : Library) (cls : Class) (name : String)
    (declared : List Parameter) : List Parameter → Prop
  | demanded {front rest : List Implemented} {implemented : Implemented} {method : Method}
      (order : implementedInterfaces library cls = front ++ implemented :: rest)
      (found : implemented.interface.method? name = some method)
      (last : ∀ later ∈ rest, later.interface.method? name = none) :
      OwnParameters library cls name declared
        (Parameter.substituteAll implemented.bindings method.parameters)
  | declared
      (unknown : ∀ implemented ∈ implementedInterfaces library cls,
        implemented.interface.method? name = none) :
      OwnParameters library cls name declared declared

variable {library : Library} {cls : Class} {name : String}

/-! ### What interfaces give -/

/-- What interfaces give a method depends on bare declarations only. -/
theorem interfaceParameters?_bare (library : Library) (cls : Class) (name : String) :
    interfaceParameters? library.bare cls.bare name = interfaceParameters? library cls name := by
  rw [interfaceParameters?, implementedInterfaces_bare, List.filterMap_map]
  rfl

/-- Without an interface that has the method a class keeps the declared parameters. -/
theorem ownParameters_getD (library : Library) (cls : Class) (name : String)
    (declared : List Parameter) :
    OwnParameters library cls name declared
      ((interfaceParameters? library cls name).getD declared) := by
  cases given : interfaceParameters? library cls name with
  | none =>
      refine .declared fun implemented known => ?_
      have nothing := getLast?_filterMap_eq_none_iff.1 given implemented known
      exact Option.map_eq_none_iff.1 nothing
  | some parameters =>
      obtain ⟨front, implemented, rest, order, selected, nothing⟩ :=
        getLast?_filterMap_eq_some_iff.1 given
      obtain ⟨method, found, rfl⟩ := Option.map_eq_some_iff.1 selected
      refine .demanded order found fun later known => ?_
      exact Option.map_eq_none_iff.1 (nothing later known)

/-! ### What the classes above give -/

section Chain

variable (distinct : library.classNames.Nodup) (acyclic : Acyclic library)
  (member : cls ∈ library.classes)
include distinct acyclic member

/-- No parameters come from above exactly when no class above has the method. -/
theorem ancestorParameters?_eq_none_iff :
    ancestorParameters? library cls name = none ↔
      ∀ higher, TransGen (Extends library) cls higher → higher.method? name = none := by
  rw [ancestorParameters?, getLast?_filterMap_eq_none_iff]
  constructor
  · intro nothing higher above
    obtain ⟨ancestor, walked, rfl⟩ :=
      List.mem_map.1 ((mem_ancestors_iff_above distinct acyclic member).2 above)
    exact Option.map_eq_none_iff.1 (nothing ancestor walked)
  · intro nothing ancestor walked
    have above := (mem_ancestors_iff_above distinct acyclic member).1 (List.mem_map_of_mem walked)
    exact Option.map_eq_none_iff.2 (nothing ancestor.cls above)

/-- The last class on the way up that has the method is the topmost one. -/
theorem exists_topmost_of_ancestorParameters? {parameters : List Parameter}
    (given : ancestorParameters? library cls name = some parameters) :
    ∃ top method, IsTopmost library cls name top method ∧ method.parameters = parameters := by
  obtain ⟨front, ancestor, rest, order, selected, nothing⟩ :=
    getLast?_filterMap_eq_some_iff.1 given
  obtain ⟨method, declares, rfl⟩ := Option.map_eq_some_iff.1 selected
  have inWalk : ancestor ∈ ancestors library cls := by simp [order]
  have above := (mem_ancestors_iff_above distinct acyclic member).1 (List.mem_map_of_mem inWalk)
  have noCycle := (acyclic_iff distinct).1 acyclic ancestor.cls (mem_of_above above)
  have upward : ((ancestors library cls).map Ancestor.cls).Pairwise (TransGen (Extends library)) :=
    pairwise_ancestorsFrom library _ _ _
  rw [order, List.map_append, List.pairwise_append] at upward
  refine ⟨ancestor.cls, method, ⟨above.to_reflTransGen, declares, fun higher isHigher => ?_⟩, rfl⟩
  have walked := (mem_ancestors_iff_above distinct acyclic member).2 (above.trans isHigher)
  rw [order, List.map_append, List.map_cons] at walked
  rcases List.mem_append.1 walked with earlier | later
  · exact absurd (isHigher.trans (upward.2.2 higher earlier _ List.mem_cons_self)) noCycle
  · rcases List.mem_cons.1 later with rfl | later
    · exact absurd isHigher noCycle
    · obtain ⟨behind, known, rfl⟩ := List.mem_map.1 later
      exact Option.map_eq_none_iff.1 (nothing behind known)

/-- A class with a method has a topmost class with the method. -/
theorem exists_topmost {method : Method} (declares : cls.method? name = some method) :
    ∃ top shared, IsTopmost library cls name top shared := by
  cases given : ancestorParameters? library cls name with
  | none =>
      exact ⟨cls, method, .refl, declares,
        (ancestorParameters?_eq_none_iff distinct acyclic member).1 given⟩
  | some parameters =>
      obtain ⟨top, shared, isTopmost, -⟩ :=
        exists_topmost_of_ancestorParameters? distinct acyclic member given
      exact ⟨top, shared, isTopmost⟩

end Chain

namespace IsTopmost

variable {top other level : Class} {method shared : Method}

/-- No other class that the topmost one reaches has the method. -/
theorem eq_of_reaches (isTopmost : IsTopmost library cls name top shared)
    (reaches : Reaches library top level) (declares : level.method? name = some method) :
    level = top := by
  rcases Relation.reflTransGen_iff_eq_or_transGen.1 reaches with same | above
  · exact same
  · have absent := isTopmost.nothingAbove level above
    rw [declares] at absent
    cases absent

/-- There is one topmost class. -/
theorem unique (first : IsTopmost library cls name top method)
    (second : IsTopmost library cls name other shared) : top = other := by
  rcases first.reached.total second.reached with upward | downward
  · exact (first.eq_of_reaches upward second.declares).symm
  · exact second.eq_of_reaches downward first.declares

/-- The topmost class is the same from every class on the way that has the method. -/
theorem of_level (isTopmost : IsTopmost library cls name top shared)
    (reaches : Reaches library cls level) (declares : level.method? name = some method) :
    IsTopmost library level name top shared := by
  refine ⟨?_, isTopmost.declares, isTopmost.nothingAbove⟩
  rcases reaches.total isTopmost.reached with upward | downward
  · exact upward
  · rw [isTopmost.eq_of_reaches downward declares]

end IsTopmost

/-! ### The normalized library -/

/-- A method keeps everything but the parameters that it overrides. -/
theorem method?_withUnifiedMethods (library : Library) (cls : Class) (name : String) :
    (withUnifiedMethods library cls).method? name = (cls.method? name).map fun method =>
      { method with
        parameters := (overriddenParameters? library cls name).getD method.parameters } := by
  rw [Class.method?, withUnifiedMethods, List.find?_map]
  have sameTest : ((fun method : Method => method.name == name) ∘ fun method : Method =>
      { method with
        parameters := (overriddenParameters? library cls method.name).getD method.parameters }) =
      fun method => method.name == name := rfl
  rw [sameTest, Class.method?]
  cases found : cls.methods.find? (·.name == name) with
  | none => rfl
  | some method =>
      have named : method.name = name := by simpa using List.find?_some found
      rw [Option.map_some, Option.map_some, named]

/-- A class of the normalized library comes from a declared one, and its methods have the parameters
that they override, or else those that they are declared with. -/
theorem exists_origin (acyclic : Acyclic library) (member : cls ∈ library.normalize.classes) :
    ∃ origin ∈ library.classes, origin.bare = cls.bare ∧
      ∀ name method, cls.method? name = some method →
        ∃ declared, origin.method? name = some declared ∧ method.parameters =
          (overriddenParameters? library.normalize cls name).getD declared.parameters := by
  rw [normalize_classes acyclic] at member
  obtain ⟨origin, inLibrary, rfl⟩ := List.mem_map.1 member
  refine ⟨origin, inLibrary, rfl, fun name method found => ?_⟩
  rw [method?_withUnifiedMethods] at found
  obtain ⟨declared, isDeclared, rfl⟩ := Option.map_eq_some_iff.1 found
  exact ⟨declared, isDeclared, rfl⟩

section Normalized

variable (distinct : library.classNames.Nodup) (acyclic : Acyclic library)
include distinct acyclic

/-- A method of the normalized library has the parameters of the topmost method of its name. -/
theorem parameters_eq_topmost (member : cls ∈ library.normalize.classes) {top : Class}
    {method shared : Method} (declares : cls.method? name = some method)
    (isTopmost : IsTopmost library.normalize cls name top shared) :
    method.parameters = shared.parameters := by
  have distinct' := normalize_distinct distinct
  have acyclic' := normalize_acyclic acyclic
  obtain ⟨origin, -, -, overridden⟩ := exists_origin acyclic member
  obtain ⟨declared, -, parameters⟩ := overridden name method declares
  cases given : ancestorParameters? library.normalize cls name with
  | none =>
      have nothingAbove := (ancestorParameters?_eq_none_iff distinct' acyclic' member).1 given
      have own : IsTopmost library.normalize cls name cls method := ⟨.refl, declares, nothingAbove⟩
      cases own.unique isTopmost
      cases declares.symm.trans isTopmost.declares
      rfl
  | some inherited =>
      obtain ⟨other, found, isTopmost', rfl⟩ :=
        exists_topmost_of_ancestorParameters? distinct' acyclic' member given
      cases isTopmost'.unique isTopmost
      cases isTopmost'.declares.symm.trans isTopmost.declares
      rw [parameters, overriddenParameters?, given]
      rfl

/-- Where no class above has the method, the interfaces decide. -/
theorem ownParameters_of_nothingAbove (member : cls ∈ library.normalize.classes) {method : Method}
    (found : cls.method? name = some method)
    (nothingAbove : ∀ higher, TransGen (Extends library.normalize) cls higher →
      higher.method? name = none) :
    ∃ origin declared, library.class? cls.name = some origin ∧
      origin.method? name = some declared ∧
      OwnParameters library origin name declared.parameters method.parameters := by
  have distinct' := normalize_distinct distinct
  have acyclic' := normalize_acyclic acyclic
  obtain ⟨origin, inLibrary, same, overridden⟩ := exists_origin acyclic member
  obtain ⟨declared, isDeclared, parameters⟩ := overridden name method found
  have sameName : origin.name = cls.name := (Class.bare_eq_iff.1 same).1
  have given : overriddenParameters? library.normalize cls name =
      interfaceParameters? library origin name := by
    rw [overriddenParameters?, (ancestorParameters?_eq_none_iff distinct' acyclic' member).2
      nothingAbove, Option.none_or, ← interfaceParameters?_bare, normalize_bare, ← same,
      interfaceParameters?_bare]
  refine ⟨origin, declared, ?_, isDeclared, ?_⟩
  · rw [← sameName]
    exact Library.class?_name distinct inLibrary
  · rw [parameters, given]
    exact ownParameters_getD library origin name declared.parameters

end Normalized

/-- After normalization all methods of one name on the way up from a class have the parameters of the
topmost one, which has those that its interfaces give it, or else those that it is declared with. -/
theorem parameters_of_overrides (library : Library) (distinct : library.classNames.Nodup)
    (acyclic : Acyclic library) :
    ∀ cls ∈ library.normalize.classes, ∀ name method, cls.method? name = some method →
      ∃ top shared, IsTopmost library.normalize cls name top shared ∧
        (∀ level own, Reaches library.normalize cls level → level.method? name = some own →
          own.parameters = shared.parameters) ∧
        ∃ origin declared, library.class? top.name = some origin ∧
          origin.method? name = some declared ∧
          OwnParameters library origin name declared.parameters shared.parameters := by
  intro cls member name method declares
  have distinct' := normalize_distinct distinct
  have acyclic' := normalize_acyclic acyclic
  obtain ⟨top, shared, isTopmost⟩ := exists_topmost distinct' acyclic' member declares
  refine ⟨top, shared, isTopmost, fun level own reaches found => ?_, ?_⟩
  · exact parameters_eq_topmost distinct acyclic (reaches.mem member) found
      (isTopmost.of_level reaches found)
  · exact ownParameters_of_nothingAbove distinct acyclic (isTopmost.reached.mem member)
      isTopmost.declares isTopmost.nothingAbove

/-- An interface whose method takes an instance of its type parameter. -/
def behavior : Interface :=
  { name := "Behavior", typeParams := ["T"]
    methods :=
      [ { name := "attach", result := .ofName "void"
          parameters :=
            [ { name := "target", type := .ofName "T" },
              { name := "force", type := .ofName "boolean", optional := true } ] } ] }

/-- A class two levels below one that has the interface for meshes. -/
def derived : Class :=
  { name := "Derived", superType := some { name := "Middle" }
    methods :=
      [ { name := "attach", result := .ofName "void"
          parameters :=
            [ { name := "node", type := .ofName "Node" },
              { name := "extra", type := .ofName "number" } ] } ] }

/-- The class in front of those above it; the one between them does not have the method. -/
def behaviorLibrary : Library :=
  { classes :=
      [ derived,
        { name := "Middle", superType := some { name := "Base" } },
        { name := "Base", interfaces := [{ name := "Behavior", args := [.ofName "Mesh"] }]
          methods :=
            [ { name := "attach", result := .ofName "void"
                parameters := [{ name := "target", type := .ofName "Mesh" }] } ] } ]
    interfaces := [behavior] }

/-- The method with the parameters that the interface gives it. -/
def attachMesh : Method :=
  { name := "attach", result := .ofName "void"
    parameters :=
      [ { name := "target", type := .ofName "Mesh" },
        { name := "force", type := .ofName "boolean", optional := true } ] }

/-- A derived behavior attaches what the interface of its base attaches. -/
theorem parameters_of_overrides_behavior :
    behaviorLibrary.classNames.Nodup ∧ Acyclic behaviorLibrary ∧
      ∃ cls ∈ behaviorLibrary.normalize.classes, cls.name = "Derived" ∧
        cls.method? "attach" = some attachMesh ∧
        ∃ top shared, IsTopmost behaviorLibrary.normalize cls "attach" top shared ∧
          (∀ level own, Reaches behaviorLibrary.normalize cls level →
            level.method? "attach" = some own → own.parameters = shared.parameters) ∧
          ∃ origin declared, behaviorLibrary.class? top.name = some origin ∧
            origin.method? "attach" = some declared ∧
            OwnParameters behaviorLibrary origin "attach" declared.parameters shared.parameters := by
  have distinct : behaviorLibrary.classNames.Nodup := by decide
  have acyclic : Acyclic behaviorLibrary := .of_superBehind (by decide)
  have first : behaviorLibrary.normalize.classes[0]? =
      some { derived with methods := [attachMesh] } := by cbv
  have member := List.mem_of_getElem? first
  exact ⟨distinct, acyclic, _, member, rfl, rfl,
    parameters_of_overrides behaviorLibrary distinct acyclic _ member "attach" attachMesh rfl⟩

end Normalization

end DartBindings
