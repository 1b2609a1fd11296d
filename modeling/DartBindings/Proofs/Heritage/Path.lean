import Mathlib.Data.List.Basic
import DartBindings.Proofs.Heritage.Reachability

/-!
Paths of heritage, and the bindings that a walk records along them.

A path leads from a class upward, then to an interface that the class on top implements, and on to what
interfaces extend.  Each step of a path is a use of a declaration with arguments; binding step after step
gives what the type parameters at its end are bound to.  The walk over interfaces records every interface
at the end of a path once, with the bindings of one of the paths to it.

Main exports: ClassPath, InterfacePath, bindingsAlong, implementedInterfaces_along_paths
-/

namespace DartBindings.Heritage

open Relation (ReflTransGen)

/-- A use of a declaration: its type parameters and the arguments given for them. -/
structure Step where
  parameters : List String
  args : List Ty

/-- What the type parameters at the end of a path are bound to, as seen from its beginning: the
arguments of each step are resolved in the bindings of the steps in front of it. -/
def bindingsAlong (path : List Step) : Bindings :=
  path.foldl (fun surroundings step => bind step.parameters step.args surroundings) []

@[simp] theorem bindingsAlong_nil : bindingsAlong [] = [] :=
  rfl

@[simp] theorem bindingsAlong_concat (path : List Step) (step : Step) :
    bindingsAlong (path ++ [step]) = bind step.parameters step.args (bindingsAlong path) := by
  rw [bindingsAlong, List.foldl_append]
  rfl

/-- A path from a class upward to a class. -/
inductive ClassPath (library : Library) (cls : Class) : List Step → Class → Prop
  | here : ClassPath library cls [] cls
  | up {path : List Step} {level parent : Class} {superType : NamedType}
      (below : ClassPath library cls path level) (hasSuper : level.superType = some superType)
      (found : library.class? superType.name = some parent) :
      ClassPath library cls (path ++ [⟨parent.typeParams, superType.args⟩]) parent

/-- A path from a class upward, then to an interface that a class implements, and on to an interface
that interfaces extend. -/
inductive InterfacePath (library : Library) (cls : Class) : List Step → Interface → Prop
  | implemented {path : List Step} {level : Class} {reference : NamedType} {interface : Interface}
      (below : ClassPath library cls path level) (listed : reference ∈ level.interfaces)
      (found : library.interface? reference.name = some interface) :
      InterfacePath library cls (path ++ [⟨interface.typeParams, reference.args⟩]) interface
  | extended {path : List Step} {interface parent : Interface} {superType : NamedType}
      (below : InterfacePath library cls path interface) (listed : superType ∈ interface.superTypes)
      (found : library.interface? superType.name = some parent) :
      InterfacePath library cls (path ++ [⟨parent.typeParams, superType.args⟩]) parent

variable {library : Library} {cls level : Class} {interface : Interface}

/-! ### Where paths lead -/

/-- Paths upward lead to the classes that a class reaches. -/
theorem exists_classPath_iff :
    (∃ path, ClassPath library cls path level) ↔ Reaches library cls level := by
  constructor
  · rintro ⟨path, leads⟩
    induction leads with
    | here => exact .refl
    | up _ hasSuper found ih => exact ih.tail ⟨_, hasSuper, found⟩
  · intro reaches
    induction reaches with
    | refl => exact ⟨[], .here⟩
    | tail _ step ih =>
        obtain ⟨path, leads⟩ := ih
        obtain ⟨superType, hasSuper, found⟩ := step
        exact ⟨_, leads.up hasSuper found⟩

/-- The interfaces at the ends of paths are those that the class has. -/
theorem exists_interfacePath_iff :
    (∃ path, InterfacePath library cls path interface) ↔ HasInterface library cls interface := by
  constructor
  · rintro ⟨path, leads⟩
    induction leads with
    | implemented below listed found =>
        exact ⟨_, exists_classPath_iff.1 ⟨_, below⟩, _, listed, _, found, .refl⟩
    | extended _ listed found ih =>
        obtain ⟨level, reaches, reference, implements, first, resolves, chain⟩ := ih
        exact ⟨level, reaches, reference, implements, first, resolves,
          chain.tail ⟨_, listed, found⟩⟩
  · rintro ⟨level, reaches, reference, listed, first, found, chain⟩
    obtain ⟨path, below⟩ := exists_classPath_iff.2 reaches
    induction chain with
    | refl => exact ⟨_, .implemented below listed found⟩
    | tail _ step ih =>
        obtain ⟨path, leads⟩ := ih
        obtain ⟨superType, extending, resolves⟩ := step
        exact ⟨_, leads.extended extending resolves⟩

/-! ### What the walks record -/

/-- The walk upward, begun at the end of a path, records the bindings of the paths to its finds. -/
theorem classPath_of_mem_ancestorsFrom {visited : List String} {bindings : Bindings}
    {start : Option NamedType} :
    ∀ path below, ClassPath library cls path below → below.superType = start →
      bindings = bindingsAlong path →
      ∀ ancestor ∈ ancestorsFrom library visited bindings start, ∃ path,
        ClassPath library cls path ancestor.cls ∧ ancestor.bindings = bindingsAlong path := by
  fun_induction ancestorsFrom library visited bindings start with
  | case1 => simp
  | case2 => simp
  | case3 visited bindings superType parent found fresh _ bound ih =>
      intro path below leads hasSuper sofar
      have onward := leads.up hasSuper found
      have extended : bound = bindingsAlong (path ++ [⟨parent.typeParams, superType.args⟩]) := by
        rw [bindingsAlong_concat, ← sofar]
      intro ancestor walked
      rcases List.mem_cons.1 walked with rfl | further
      · exact ⟨_, onward, extended⟩
      · exact ih _ _ onward rfl extended ancestor further
  | case4 => simp

/-- What the demand leads to first stands at the end of a path whose last step is the demand itself,
and its bindings are those of the steps in front. -/
def IsPathTo (library : Library) (cls : Class) (demand : Demand) : Prop :=
  ∃ path, demand.bindings = bindingsAlong path ∧
    ∀ interface, library.interface? demand.reference.name = some interface →
      InterfacePath library cls (path ++ [⟨interface.typeParams, demand.reference.args⟩]) interface

/-- Every demand of a class comes with the bindings along a path. -/
theorem isPathTo_of_mem_demands {demand : Demand} (member : demand ∈ demands library cls) :
    IsPathTo library cls demand := by
  rcases List.mem_append.1 member with own | inherited
  · obtain ⟨reference, listed, rfl⟩ := List.mem_map.1 own
    exact ⟨[], rfl, fun interface found => .implemented .here listed found⟩
  · obtain ⟨ancestor, walked, inner⟩ := List.mem_flatMap.1 inherited
    obtain ⟨reference, listed, rfl⟩ := List.mem_map.1 inner
    obtain ⟨path, leads, bound⟩ := classPath_of_mem_ancestorsFrom _ _ .here rfl rfl ancestor walked
    exact ⟨path, bound, fun interface found => .implemented leads listed found⟩

/-- The walk over interfaces records the bindings of the paths to its finds. -/
theorem interfacePath_of_mem_interfacesFrom {visited : List String} {demands : List Demand}
    (justified : ∀ demand ∈ demands, IsPathTo library cls demand) :
    ∀ implemented ∈ interfacesFrom library visited demands, ∃ path,
      InterfacePath library cls path implemented.interface ∧
        implemented.bindings = bindingsAlong path := by
  fun_induction interfacesFrom library visited demands with
  | case1 => simp
  | case2 visited demand rest missing ih => exact ih (List.forall_mem_cons.1 justified).2
  | case3 visited demand rest interface found fresh _ bound ih =>
      obtain ⟨⟨path, sofar, leadsTo⟩, others⟩ := List.forall_mem_cons.1 justified
      have leads := leadsTo interface found
      have recorded : bound =
          bindingsAlong (path ++ [⟨interface.typeParams, demand.reference.args⟩]) := by
        rw [bindingsAlong_concat, ← sofar]
      -- What the find extends is demanded with the bindings of the path to the find.
      have inner : ∀ next ∈ interface.superTypes.map (⟨·, bound⟩ : NamedType → Demand),
          IsPathTo library cls next := by
        intro next member
        obtain ⟨superType, listed, rfl⟩ := List.mem_map.1 member
        exact ⟨_, recorded, fun parent resolves => leads.extended listed resolves⟩
      intro implemented walked
      rcases List.mem_cons.1 walked with rfl | further
      · exact ⟨_, leads, recorded⟩
      · exact ih (List.forall_mem_append.2 ⟨inner, others⟩) implemented further
  | case4 visited demand rest interface found seen ih =>
      exact ih (List.forall_mem_cons.1 justified).2

/-- The walk over interfaces records no name twice, and none that was visited before. -/
theorem nodup_names_interfacesFrom (library : Library) (visited : List String)
    (demands : List Demand) :
    ((interfacesFrom library visited demands).map (·.interface.name)).Nodup ∧
      ∀ implemented ∈ interfacesFrom library visited demands,
        implemented.interface.name ∉ visited := by
  fun_induction interfacesFrom library visited demands with
  | case1 => simp
  | case2 visited demand rest missing ih => exact ih
  | case3 visited demand rest interface found fresh _ bound ih =>
      obtain ⟨distinct, unseen⟩ := ih
      rw [List.map_cons, List.nodup_cons, List.forall_mem_cons]
      refine ⟨⟨?_, distinct⟩, fresh, fun implemented walked again => ?_⟩
      · intro twice
        obtain ⟨implemented, walked, same⟩ := List.mem_map.1 twice
        exact unseen implemented walked (List.mem_cons.2 (.inl same))
      · exact unseen implemented walked (List.mem_cons_of_mem _ again)
  | case4 visited demand rest interface found seen ih => exact ih

/-- The interfaces of a class are those at the ends of the paths from it, each recorded once and with
the bindings along one of the paths to it. -/
theorem implementedInterfaces_along_paths (library : Library)
    (distinct : library.classNames.Nodup) (cls : Class) (member : cls ∈ library.classes) :
    ((implementedInterfaces library cls).map (·.interface.name)).Nodup ∧
      (∀ interface, interface ∈ (implementedInterfaces library cls).map Implemented.interface ↔
        ∃ path, InterfacePath library cls path interface) ∧
      ∀ implemented ∈ implementedInterfaces library cls, ∃ path,
        InterfacePath library cls path implemented.interface ∧
          implemented.bindings = bindingsAlong path := by
  refine ⟨(nodup_names_interfacesFrom library [] (demands library cls)).1, fun interface => ?_, ?_⟩
  · rw [mem_implementedInterfaces_iff distinct member, exists_interfacePath_iff]
  · exact interfacePath_of_mem_interfacesFrom fun demand => isPathTo_of_mem_demands

/-- A class below a generic one that extends it in turn. -/
def mesh : Class :=
  { name := "Mesh", superType := some { name := "Node", args := [.ofName "number"] } }

/-- An interface that extends an array instance of the next one. -/
def keyed : Interface :=
  { name := "Keyed", typeParams := ["K"],
    superTypes := [{ name := "Indexed", args := [.named { name := "K", isArray := true }] }] }

/-- An interface that leads back to the one that extends it. -/
def indexed : Interface :=
  { name := "Indexed", typeParams := ["I"],
    superTypes := [{ name := "Keyed", args := [.ofName "I"] }] }

/-- Classes above each other, and interfaces that extend each other. -/
def meshLibrary : Library :=
  { classes :=
      [ mesh,
        { name := "Node", typeParams := ["N"], superType := some { name := "Mesh" },
          interfaces := [{ name := "Keyed", args := [.ofName "N"] }] } ]
    interfaces := [keyed, indexed] }

/-- A mesh below a generic class, with interfaces that extend each other. -/
theorem implementedInterfaces_along_paths_mesh :
    meshLibrary.classNames.Nodup ∧ mesh ∈ meshLibrary.classes ∧
      ∃ path, InterfacePath meshLibrary mesh path indexed ∧
        bindingsAlong path = [("I", .named { name := "number", isArray := true })] := by
  have distinct : meshLibrary.classNames.Nodup := by decide
  have member : mesh ∈ meshLibrary.classes := List.mem_cons_self
  have above : mesh.superType = some { name := "Node", args := [.ofName "number"] } := rfl
  have met : demands meshLibrary mesh =
      [⟨{ name := "Keyed", args := [.ofName "N"] }, [("N", .ofName "number")]⟩] := by
    rw [demands, ancestors, above, ancestorsFrom_fresh rfl (by decide),
      ancestorsFrom_visited rfl (by decide)]
    rfl
  have recorded : implementedInterfaces meshLibrary mesh =
      [ ⟨keyed, [("K", .ofName "number")]⟩,
        ⟨indexed, [("I", .named { name := "number", isArray := true })]⟩ ] :=
    calc implementedInterfaces meshLibrary mesh
        = interfacesFrom meshLibrary []
            [⟨{ name := "Keyed", args := [.ofName "N"] }, [("N", .ofName "number")]⟩] :=
          congrArg _ met
      _ = ⟨keyed, [("K", .ofName "number")]⟩ :: interfacesFrom meshLibrary ["Keyed"]
            [⟨{ name := "Indexed", args := [.named { name := "K", isArray := true }] },
              [("K", .ofName "number")]⟩] := interfacesFrom_fresh rfl (by decide)
      _ = ⟨keyed, [("K", .ofName "number")]⟩ ::
            ⟨indexed, [("I", .named { name := "number", isArray := true })]⟩ ::
              interfacesFrom meshLibrary ["Indexed", "Keyed"]
                [⟨{ name := "Keyed", args := [.ofName "I"] },
                  [("I", .named { name := "number", isArray := true })]⟩] :=
          congrArg _ (interfacesFrom_fresh rfl (by decide))
      _ = [⟨keyed, [("K", .ofName "number")]⟩,
            ⟨indexed, [("I", .named { name := "number", isArray := true })]⟩] := by
          rw [interfacesFrom_visited rfl (by decide), interfacesFrom_nil]
  obtain ⟨-, -, along⟩ := implementedInterfaces_along_paths meshLibrary distinct mesh member
  rw [recorded] at along
  obtain ⟨path, leads, bound⟩ := along _ (List.mem_cons_of_mem _ List.mem_cons_self)
  exact ⟨distinct, member, path, leads, bound.symm⟩

end DartBindings.Heritage
