import DartBindings.Proofs.Library.Lookup

/-!
What the walks over heritages look at.

A walk looks declarations up by name and at nothing else.  Two libraries in which the same names mean
the same declarations are therefore walked alike, and a walk upward from a class needs that only for
the names on its way.

Main exports: SameAbove, SameAbove.of_lookups, SameAbove.of_positions
-/

namespace DartBindings.Heritage

variable {library other : Library}

section Ancestors

variable {visited : List String} {bindings : Bindings} {superType : NamedType} {parent : Class}

theorem ancestorsFrom_none : ancestorsFrom library visited bindings none = [] := by
  rw [ancestorsFrom]

theorem ancestorsFrom_unresolved (missing : library.class? superType.name = none) :
    ancestorsFrom library visited bindings (some superType) = [] := by
  rw [ancestorsFrom]
  split
  · rfl
  · next found => simp [missing] at found

theorem ancestorsFrom_visited (found : library.class? superType.name = some parent)
    (seen : parent.name ∈ visited) :
    ancestorsFrom library visited bindings (some superType) = [] := by
  rw [ancestorsFrom]
  split
  · rfl
  · next again =>
      cases found.symm.trans again
      rw [dif_neg (by simpa using seen)]

/-- A new class is met with its bindings, and the walk goes on above it. -/
theorem ancestorsFrom_fresh (found : library.class? superType.name = some parent)
    (fresh : parent.name ∉ visited) :
    ancestorsFrom library visited bindings (some superType) =
      ⟨parent, bind parent.typeParams superType.args bindings⟩
        :: ancestorsFrom library (parent.name :: visited)
          (bind parent.typeParams superType.args bindings) parent.superType := by
  rw [ancestorsFrom]
  split
  · next missing => simp [found] at missing
  · next again =>
      cases found.symm.trans again
      rw [dif_pos fresh]

/-- Walks upward agree when the names on the way mean the same classes. -/
theorem ancestorsFrom_congr {known : String → Prop}
    (agree : ∀ name, known name → library.class? name = other.class? name)
    (upward : ∀ name cls superType, known name → library.class? name = some cls →
      cls.superType = some superType → known superType.name)
    (visited : List String) (bindings : Bindings) (start : Option NamedType)
    (begins : ∀ superType, start = some superType → known superType.name) :
    ancestorsFrom library visited bindings start = ancestorsFrom other visited bindings start := by
  fun_induction ancestorsFrom library visited bindings start with
  | case1 visited bindings => rw [ancestorsFrom_none]
  | case2 visited bindings superType missing =>
      rw [agree _ (begins _ rfl)] at missing
      rw [ancestorsFrom_unresolved missing]
  | case3 visited bindings superType parent found fresh _ bound ih =>
      have next := ih fun above h => upward _ _ _ (begins _ rfl) found h
      rw [agree _ (begins _ rfl)] at found
      rw [ancestorsFrom_fresh found fresh, next]
  | case4 visited bindings superType parent found seen =>
      rw [agree _ (begins _ rfl)] at found
      rw [ancestorsFrom_visited found (by simpa using seen)]

end Ancestors

section Interfaces

variable {visited : List String} {demand : Demand} {rest : List Demand} {interface : Interface}

theorem interfacesFrom_nil : interfacesFrom library visited [] = [] := by
  rw [interfacesFrom]

theorem interfacesFrom_unresolved (missing : library.interface? demand.reference.name = none) :
    interfacesFrom library visited (demand :: rest) = interfacesFrom library visited rest := by
  rw [interfacesFrom]
  split
  · rfl
  · next found => simp [missing] at found

theorem interfacesFrom_visited (found : library.interface? demand.reference.name = some interface)
    (seen : interface.name ∈ visited) :
    interfacesFrom library visited (demand :: rest) = interfacesFrom library visited rest := by
  rw [interfacesFrom]
  split
  · rfl
  · next again =>
      cases found.symm.trans again
      rw [dif_neg (by simpa using seen)]

/-- A new interface is met with its bindings, and those that it extends come next. -/
theorem interfacesFrom_fresh (found : library.interface? demand.reference.name = some interface)
    (fresh : interface.name ∉ visited) :
    interfacesFrom library visited (demand :: rest) =
      ⟨interface, bind interface.typeParams demand.reference.args demand.bindings⟩
        :: interfacesFrom library (interface.name :: visited)
          (interface.superTypes.map
              (⟨·, bind interface.typeParams demand.reference.args demand.bindings⟩) ++ rest) := by
  rw [interfacesFrom]
  split
  · next missing => simp [found] at missing
  · next again =>
      cases found.symm.trans again
      rw [dif_pos fresh]

/-- Walks over interfaces agree when names mean the same interfaces. -/
theorem interfacesFrom_congr
    (agree : ∀ name, library.interface? name = other.interface? name)
    (visited : List String) (demands : List Demand) :
    interfacesFrom library visited demands = interfacesFrom other visited demands := by
  fun_induction interfacesFrom library visited demands with
  | case1 visited => rw [interfacesFrom_nil]
  | case2 visited demand rest missing ih =>
      rw [agree] at missing
      rw [interfacesFrom_unresolved missing, ih]
  | case3 visited demand rest interface found fresh _ bound ih =>
      rw [agree] at found
      rw [interfacesFrom_fresh found fresh, ih]
  | case4 visited demand rest interface found seen ih =>
      rw [agree] at found
      rw [interfacesFrom_visited found (by simpa using seen), ih]

end Interfaces

/-! ### Bare walks

A walk through the bare library finds the bare declarations of the same walk, with the same bindings.
-/

/-- The ancestor without the members of its class. -/
def Ancestor.bare (ancestor : Ancestor) : Ancestor :=
  { ancestor with cls := ancestor.cls.bare }

/-- The interface that a class has, without the constructors that the interface takes over. -/
def Implemented.bare (implemented : Implemented) : Implemented :=
  { implemented with interface := implemented.interface.bare }

theorem ancestorsFrom_bare (library : Library) (visited : List String) (bindings : Bindings)
    (start : Option NamedType) :
    ancestorsFrom library.bare visited bindings start =
      (ancestorsFrom library visited bindings start).map Ancestor.bare := by
  fun_induction ancestorsFrom library visited bindings start with
  | case1 visited bindings => rw [ancestorsFrom_none, List.map_nil]
  | case2 visited bindings superType missing =>
      rw [ancestorsFrom_unresolved (by rw [Library.class?_bare, missing, Option.map_none]),
        List.map_nil]
  | case3 visited bindings superType parent found fresh _ bound ih =>
      have found' : library.bare.class? superType.name = some parent.bare := by
        rw [Library.class?_bare, found, Option.map_some]
      rw [ancestorsFrom_fresh found' fresh, List.map_cons, ← ih]
      rfl
  | case4 visited bindings superType parent found seen =>
      have found' : library.bare.class? superType.name = some parent.bare := by
        rw [Library.class?_bare, found, Option.map_some]
      have seen' : parent.name ∈ visited := by simpa using seen
      rw [ancestorsFrom_visited found' seen', List.map_nil]

theorem interfacesFrom_bare (library : Library) (visited : List String) (demands : List Demand) :
    interfacesFrom library.bare visited demands =
      (interfacesFrom library visited demands).map Implemented.bare := by
  fun_induction interfacesFrom library visited demands with
  | case1 visited => rw [interfacesFrom_nil, List.map_nil]
  | case2 visited demand rest missing ih =>
      rw [interfacesFrom_unresolved (by rw [Library.interface?_bare, missing, Option.map_none]), ih]
  | case3 visited demand rest interface found fresh _ bound ih =>
      have found' : library.bare.interface? demand.reference.name = some interface.bare := by
        rw [Library.interface?_bare, found, Option.map_some]
      rw [interfacesFrom_fresh found' fresh, List.map_cons, ← ih]
      rfl
  | case4 visited demand rest interface found seen ih =>
      have found' : library.bare.interface? demand.reference.name = some interface.bare := by
        rw [Library.interface?_bare, found, Option.map_some]
      have seen' : interface.name ∈ visited := by simpa using seen
      rw [interfacesFrom_visited found' seen', ih]

theorem ancestors_bare (library : Library) (cls : Class) :
    ancestors library.bare cls.bare = (ancestors library cls).map Ancestor.bare :=
  ancestorsFrom_bare library [cls.name] [] cls.superType

theorem demands_bare (library : Library) (cls : Class) :
    demands library.bare cls.bare = demands library cls := by
  rw [demands, demands, ancestors_bare, List.flatMap_map]
  rfl

theorem implementedInterfaces_bare (library : Library) (cls : Class) :
    implementedInterfaces library.bare cls.bare =
      (implementedInterfaces library cls).map Implemented.bare := by
  rw [implementedInterfaces, demands_bare, interfacesFrom_bare, implementedInterfaces]

/-! ### What a class sees -/

/-- Two libraries show a class the same declarations above it and the same interfaces. -/
structure SameAbove (library other : Library) (cls : Class) : Prop where
  ancestors : ancestors library cls = ancestors other cls
  parent : (cls.superType.bind fun superType => library.class? superType.name) =
    cls.superType.bind fun superType => other.class? superType.name
  interface : ∀ name, library.interface? name = other.interface? name

namespace SameAbove

variable {cls : Class}

/-- The interfaces of a class depend on what stands above it. -/
theorem implementedInterfaces (same : SameAbove library other cls) :
    implementedInterfaces library cls = implementedInterfaces other cls := by
  unfold Heritage.implementedInterfaces demands
  rw [same.ancestors, interfacesFrom_congr same.interface]

/-- Names that mean the same declarations show every class the same. -/
theorem of_lookups (classes : ∀ name, library.class? name = other.class? name)
    (interfaces : ∀ name, library.interface? name = other.interface? name) :
    SameAbove library other cls where
  ancestors :=
    ancestorsFrom_congr (fun name (_ : True) => classes name) (fun _ _ _ _ _ _ => trivial) _ _ _
      fun _ _ => trivial
  parent := by simp only [classes]
  interface := interfaces

/-- Libraries with one bare form that agree at a set of positions show the same to a class, if the
set has the class above it and the classes above all of its own. -/
theorem of_positions {placed : List Nat} (bare : library.bare = other.bare)
    (interfaces : library.interfaces = other.interfaces)
    (agree : ∀ index ∈ placed, library.classes[index]? = other.classes[index]?)
    (upward : ∀ index ∈ placed, ∀ above, superIndex? library index = some above → above ∈ placed)
    (begins : ∀ superType, cls.superType = some superType →
      ∀ above, library.classIndex? superType.name = some above → above ∈ placed) :
    SameAbove library other cls := by
  let known (name : String) : Prop :=
    ∀ index, library.classIndex? name = some index → index ∈ placed
  have lookups : ∀ name, known name → library.class? name = other.class? name := by
    intro name isKnown
    rw [Library.class?_eq_bind_classIndex?, Library.class?_eq_bind_classIndex?,
      ← Library.classIndex?_eq bare]
    cases found : library.classIndex? name with
    | none => rfl
    | some index => exact agree index (isKnown index found)
  have closed : ∀ name cls superType, known name → library.class? name = some cls →
      cls.superType = some superType → known superType.name := by
    intro name cls superType isKnown found hasSuper above resolves
    rw [Library.class?_eq_bind_classIndex?] at found
    obtain ⟨index, position, atIndex⟩ := Option.bind_eq_some_iff.1 found
    exact upward index (isKnown index position) above
      (by simp [superIndex?, atIndex, hasSuper, resolves])
  exact
    { ancestors := ancestorsFrom_congr lookups closed _ _ _ begins
      parent := by
        cases hasSuper : cls.superType with
        | none => rfl
        | some superType => exact lookups _ (begins superType hasSuper)
      interface := fun name => by unfold Library.interface?; rw [interfaces] }

end SameAbove

end DartBindings.Heritage
