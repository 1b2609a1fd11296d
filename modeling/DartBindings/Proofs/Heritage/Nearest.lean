import DartBindings.Proofs.Heritage.Path

/-!
Which of several instances of an interface a class has.

An interface can be reached from a class in several ways, with different arguments.  The walk records the
first way there is: the demands of the class in their order, and inside a demand what its interface
extends, before the next demand is looked at.  So the demands of a class come in front of those of the
classes above it, but among the demands of one class a long way through the first one comes in front of
a short way through the second one.  The nearest instance is recorded exactly when the first way has the
arguments of a shortest one.

Main exports: FirstWay, BoundByNearest, nearest_recorded_iff
-/

namespace DartBindings.Heritage

variable {library : Library} {blocked visited : List String} {reference : NamedType}
  {demand : Demand} {front rest : List Demand} {interface between : Interface}
  {implemented other : Implemented}

/-- A chain of extensions from what the reference names to the interface, through names that are not
blocked and of which none comes twice. -/
inductive LeadsTo (library : Library) : List String → NamedType → Interface → Prop
  | here {blocked : List String} {reference : NamedType} {interface : Interface}
      (found : library.interface? reference.name = some interface)
      (free : interface.name ∉ blocked) : LeadsTo library blocked reference interface
  | onward {blocked : List String} {reference superType : NamedType} {between interface : Interface}
      (found : library.interface? reference.name = some between) (free : between.name ∉ blocked)
      (listed : superType ∈ between.superTypes)
      (further : LeadsTo library (between.name :: blocked) superType interface) :
      LeadsTo library blocked reference interface

/-- The first way from the demands to the interface, and its bindings: through the first demand that
leads there, and inside it through the first of what its interface extends that leads there. -/
inductive FirstWay (library : Library) : List String → List Demand → Implemented → Prop
  | passed {blocked : List String} {demand : Demand} {rest : List Demand} {implemented : Implemented}
      (misses : ¬LeadsTo library blocked demand.reference implemented.interface)
      (later : FirstWay library blocked rest implemented) :
      FirstWay library blocked (demand :: rest) implemented
  | met {blocked : List String} {demand : Demand} {rest : List Demand} {interface : Interface}
      (found : library.interface? demand.reference.name = some interface)
      (free : interface.name ∉ blocked) :
      FirstWay library blocked (demand :: rest)
        ⟨interface, bind interface.typeParams demand.reference.args demand.bindings⟩
  | inside {blocked : List String} {demand : Demand} {rest : List Demand} {between : Interface}
      {implemented : Implemented}
      (found : library.interface? demand.reference.name = some between)
      (free : between.name ∉ blocked)
      (further : FirstWay library (between.name :: blocked)
        (between.superTypes.map
          (⟨·, bind between.typeParams demand.reference.args demand.bindings⟩)) implemented) :
      FirstWay library blocked (demand :: rest) implemented

/-! ### Ways that avoid names -/

theorem LeadsTo.named (leads : LeadsTo library blocked reference interface) :
    library.interface? interface.name = some interface := by
  induction leads with
  | here found _ => rwa [Library.name_of_interface? found]
  | onward _ _ _ _ ih => exact ih

/-- A way begins with an interface that is not blocked. -/
theorem LeadsTo.exists_start (leads : LeadsTo library blocked reference interface) :
    ∃ start, library.interface? reference.name = some start ∧ start.name ∉ blocked := by
  cases leads with
  | here found free => exact ⟨_, found, free⟩
  | onward found free _ _ => exact ⟨_, found, free⟩

/-- A way does not lead to a blocked interface. -/
theorem LeadsTo.free (leads : LeadsTo library blocked reference interface) :
    interface.name ∉ blocked := by
  induction leads with
  | here _ free => exact free
  | onward _ _ _ _ ih => exact fun member => ih (List.mem_cons_of_mem _ member)

/-- With fewer names blocked, a way stays. -/
theorem LeadsTo.mono {fewer : List String} (leads : LeadsTo library blocked reference interface)
    (subset : fewer ⊆ blocked) : LeadsTo library fewer reference interface := by
  induction leads generalizing fewer with
  | here found free => exact .here found fun member => free (subset member)
  | onward found free listed _ ih =>
      exact .onward found (fun member => free (subset member)) listed
        (ih (List.cons_subset_cons _ subset))

/-- A way goes on when one more interface is blocked, or else there is a way from what that one
extends. -/
theorem LeadsTo.avoid (leads : LeadsTo library blocked reference interface)
    (isNamed : library.interface? between.name = some between)
    (different : interface.name ≠ between.name) :
    LeadsTo library (between.name :: blocked) reference interface ∨
      ∃ superType ∈ between.superTypes,
        LeadsTo library (between.name :: blocked) superType interface := by
  induction leads with
  | here found free => exact .inl (.here found (by simp [different, free]))
  | @onward blocked reference superType step interface found free listed further ih =>
      by_cases same : step.name = between.name
      · rw [Library.name_of_interface? found] at same
        have isBetween : step = between := by
          rw [same, isNamed] at found
          exact (Option.some.inj found).symm
        subst isBetween
        exact .inr ⟨superType, listed, further⟩
      · rcases ih different with avoiding | ⟨inner, extended, onward⟩
        · exact .inl (.onward found (by simp [same, free]) listed
            (avoiding.mono (List.Perm.swap _ _ _).subset))
        · exact .inr ⟨inner, extended, onward.mono
            (List.cons_subset_cons _ (List.subset_cons_self _ _))⟩

/-! ### What the walk finds -/

/-- The walk over interfaces finds everything that has a way to it that avoids what was visited before. -/
theorem mem_interfacesFrom_of_leadsTo (demands : List Demand) :
    ∀ demand ∈ demands, LeadsTo library visited demand.reference interface →
      interface ∈ (interfacesFrom library visited demands).map Implemented.interface := by
  fun_induction interfacesFrom library visited demands with
  | case1 => simp
  | case2 visited first rest missing ih =>
      intro demand member leads
      obtain ⟨start, found, -⟩ := leads.exists_start
      rcases List.mem_cons.1 member with rfl | later
      · rw [missing] at found
        cases found
      · exact ih demand later leads
  | case3 visited first rest met found fresh _ bound ih =>
      intro demand member leads
      rw [List.map_cons, List.mem_cons, or_iff_not_imp_left]
      intro other
      have isNamed : library.interface? met.name = some met := by
        rwa [Library.name_of_interface? found]
      have different : interface.name ≠ met.name := by
        intro same
        have named := leads.named
        rw [same, isNamed] at named
        exact other (Option.some.inj named).symm
      -- A way either avoids the interface that is met or goes on behind its last visit there.
      rcases leads.avoid isNamed different with avoiding | ⟨superType, listed, onward⟩
      · rcases List.mem_cons.1 member with rfl | later
        · -- A way through the first demand begins with the interface that is met.
          obtain ⟨start, again, free⟩ := avoiding.exists_start
          cases found.symm.trans again
          exact absurd List.mem_cons_self free
        · exact ih demand (List.mem_append_right _ later) avoiding
      · exact ih ⟨superType, bound⟩ (List.mem_append_left _ (List.mem_map_of_mem listed)) onward
  | case4 visited first rest met found seen ih =>
      intro demand member leads
      rcases List.mem_cons.1 member with rfl | later
      · obtain ⟨start, again, free⟩ := leads.exists_start
        cases found.symm.trans again
        exact absurd free seen
      · exact ih demand later leads

/-! ### The first way -/

/-- The first way leads on from one of the demands. -/
theorem FirstWay.leadsTo {demands : List Demand} (first : FirstWay library blocked demands implemented) :
    ∃ demand ∈ demands, LeadsTo library blocked demand.reference implemented.interface := by
  induction first with
  | passed _ _ ih =>
      obtain ⟨demand, member, leads⟩ := ih
      exact ⟨demand, List.mem_cons_of_mem _ member, leads⟩
  | met found free => exact ⟨_, List.mem_cons_self, .here found free⟩
  | inside found free _ ih =>
      obtain ⟨inner, member, leads⟩ := ih
      obtain ⟨superType, listed, rfl⟩ := List.mem_map.1 member
      exact ⟨_, List.mem_cons_self, .onward found free listed leads⟩

/-- The first way does not lead to a blocked interface. -/
theorem FirstWay.free {demands : List Demand} (first : FirstWay library blocked demands implemented) :
    implemented.interface.name ∉ blocked := by
  obtain ⟨_, _, leads⟩ := first.leadsTo
  exact leads.free

/-- A first way inside a demand is a way through the demand. -/
theorem FirstWay.leadsTo_through {bindings : Bindings}
    (first : FirstWay library (between.name :: blocked) (between.superTypes.map (⟨·, bindings⟩))
      implemented)
    (found : library.interface? reference.name = some between) (free : between.name ∉ blocked) :
    LeadsTo library blocked reference implemented.interface := by
  obtain ⟨_, member, leads⟩ := first.leadsTo
  obtain ⟨superType, listed, rfl⟩ := List.mem_map.1 member
  exact .onward found free listed leads

/-- The first way is through the first demands, or it passes them. -/
theorem FirstWay.of_append (first : FirstWay library blocked (front ++ rest) implemented) :
    FirstWay library blocked front implemented ∨
      (∀ demand ∈ front, ¬LeadsTo library blocked demand.reference implemented.interface) ∧
        FirstWay library blocked rest implemented := by
  induction front with
  | nil => exact .inr ⟨by simp, first⟩
  | cons demand front ih =>
      cases first with
      | passed misses later =>
          rcases ih later with inFront | ⟨missed, behind⟩
          · exact .inl (.passed misses inFront)
          · exact .inr ⟨List.forall_mem_cons.2 ⟨misses, missed⟩, behind⟩
      | met found free => exact .inl (.met found free)
      | inside found free further => exact .inl (.inside found free further)

/-- An interface from which no way leads on need not be blocked. -/
theorem FirstWay.unblock {demands : List Demand} (first : FirstWay library blocked demands implemented)
    (isNamed : library.interface? between.name = some between) {fewer : List String}
    (same : ∀ name, name ∈ blocked ↔ name = between.name ∨ name ∈ fewer)
    (dead : ∀ superType ∈ between.superTypes,
      ¬LeadsTo library (between.name :: fewer) superType implemented.interface) :
    FirstWay library fewer demands implemented := by
  have free : ∀ name, name ∉ blocked → name ∉ fewer := fun name absent member =>
    absent ((same name).2 (.inr member))
  induction first generalizing fewer with
  | @passed blocked demand rest implemented misses later ih =>
      refine .passed (fun leads => misses ?_) (ih same dead free)
      -- A way that needs the unblocked interface would go on from it, and none does.
      have different : implemented.interface.name ≠ between.name := fun equal =>
        later.free ((same _).2 (.inl equal))
      rcases leads.avoid isNamed different with avoiding | ⟨superType, listed, onward⟩
      · exact avoiding.mono fun name member => List.mem_cons.2 ((same name).1 member)
      · exact absurd onward (dead superType listed)
  | met found notBlocked => exact .met found (free _ notBlocked)
  | @inside blocked demand rest step implemented found notBlocked further ih =>
      refine .inside found (free _ notBlocked) (ih ?_ ?_ ?_)
      · intro name
        rw [List.mem_cons, List.mem_cons, same name]
        tauto
      · intro superType listed onward
        exact dead superType listed
          (onward.mono (List.cons_subset_cons _ (List.subset_cons_self _ _)))
      · intro name absent member
        rcases List.mem_cons.1 member with rfl | further
        · exact absent List.mem_cons_self
        · exact free name (fun known => absent (List.mem_cons_of_mem _ known)) further

/-- There is one first way to an interface. -/
theorem FirstWay.unique {demands : List Demand} (first : FirstWay library blocked demands implemented)
    (second : FirstWay library blocked demands other)
    (same : implemented.interface = other.interface) : implemented = other := by
  induction first with
  | passed misses _ ih =>
      cases second with
      | passed _ later => exact ih later same
      | met found free => exact absurd (same ▸ .here found free) misses
      | inside found free further => exact absurd (same ▸ further.leadsTo_through found free) misses
  | met found free =>
      cases second with
      | passed misses _ => exact absurd (same ▸ .here found free) misses
      | met again _ => cases found.symm.trans again; rfl
      | inside again _ further =>
          cases found.symm.trans again
          exact absurd (same ▸ List.mem_cons_self) further.free
  | inside found free further ih =>
      cases second with
      | passed misses _ => exact absurd (same ▸ further.leadsTo_through found free) misses
      | met again _ =>
          cases found.symm.trans again
          exact absurd (same ▸ List.mem_cons_self) further.free
      | inside again _ further' =>
          cases found.symm.trans again
          exact ih further' same

/-- The walk over interfaces records the first way to each of its finds. -/
theorem firstWay_of_mem_interfacesFrom (demands : List Demand) :
    ∀ implemented ∈ interfacesFrom library visited demands,
      FirstWay library visited demands implemented := by
  fun_induction interfacesFrom library visited demands with
  | case1 => simp
  | case2 visited demand rest missing ih =>
      intro implemented walked
      refine .passed (fun leads => ?_) (ih implemented walked)
      obtain ⟨start, found, -⟩ := leads.exists_start
      rw [missing] at found
      cases found
  | case3 visited demand rest met found fresh _ bound ih =>
      intro implemented walked
      rcases List.mem_cons.1 walked with rfl | further
      · exact .met found fresh
      -- What is found further on lies behind the interface that is met or behind a later demand.
      · rcases (ih implemented further).of_append with within | ⟨missed, behind⟩
        · exact .inside found fresh within
        · have isNamed : library.interface? met.name = some met := by
            rwa [Library.name_of_interface? found]
          have dead : ∀ superType ∈ met.superTypes,
              ¬LeadsTo library (met.name :: visited) superType implemented.interface :=
            fun superType listed => missed ⟨superType, bound⟩ (List.mem_map_of_mem listed)
          refine .passed (fun leads => ?_)
            (behind.unblock isNamed (fun name => List.mem_cons) dead)
          cases leads with
          | here again _ =>
              cases found.symm.trans again
              exact behind.free List.mem_cons_self
          | onward again _ listed onward =>
              cases found.symm.trans again
              exact dead _ listed onward
  | case4 visited demand rest met found seen ih =>
      intro implemented walked
      refine .passed (fun leads => ?_) (ih implemented walked)
      obtain ⟨start, again, free⟩ := leads.exists_start
      cases found.symm.trans again
      exact seen free

/-- The walk over interfaces records an interface with the bindings of the first way to it. -/
theorem mem_interfacesFrom_iff {demands : List Demand} :
    implemented ∈ interfacesFrom library visited demands ↔
      FirstWay library visited demands implemented := by
  refine ⟨firstWay_of_mem_interfacesFrom demands implemented, fun first => ?_⟩
  obtain ⟨demand, member, leads⟩ := first.leadsTo
  obtain ⟨recorded, walked, same⟩ :=
    List.mem_map.1 (mem_interfacesFrom_of_leadsTo demands demand member leads)
  have recordedFirst := firstWay_of_mem_interfacesFrom demands recorded walked
  rwa [first.unique recordedFirst same.symm]

/-- The interfaces of a class are recorded with the bindings of the first ways to them. -/
theorem mem_implementedInterfaces_iff_firstWay {cls : Class} :
    implemented ∈ implementedInterfaces library cls ↔
      FirstWay library [] (demands library cls) implemented :=
  mem_interfacesFrom_iff

/-! ### The nearest instance -/

/-- The bindings are those along a shortest path from the class to the interface. -/
def BoundByNearest (library : Library) (cls : Class) (implemented : Implemented) : Prop :=
  ∃ path, InterfacePath library cls path implemented.interface ∧
    (∀ other, InterfacePath library cls other implemented.interface → path.length ≤ other.length) ∧
    implemented.bindings = bindingsAlong path

/-- The nearest instances of its interfaces are recorded for a class exactly when the first way to each
of them has the bindings of a shortest path. -/
theorem nearest_recorded_iff (library : Library) (cls : Class) :
    (∀ implemented ∈ implementedInterfaces library cls, BoundByNearest library cls implemented) ↔
      ∀ implemented, FirstWay library [] (demands library cls) implemented →
        BoundByNearest library cls implemented := by
  constructor
  · intro recorded implemented first
    exact recorded implemented (mem_implementedInterfaces_iff_firstWay.2 first)
  · intro first implemented recorded
    exact first implemented (mem_implementedInterfaces_iff_firstWay.1 recorded)

theorem ClassPath.eq_of_nil {cls level : Class} {path : List Step}
    (leads : ClassPath library cls path level) (none : path = []) : level = cls := by
  cases leads with
  | here => rfl
  | up _ _ _ => simp at none

/-- A path to an interface has at least one step. -/
theorem InterfacePath.ne_nil {cls : Class} {path : List Step}
    (leads : InterfacePath library cls path interface) : path ≠ [] := by
  cases leads with
  | implemented _ _ _ => simp
  | extended _ _ _ => simp

/-- A path of one step is by a reference of the class itself. -/
theorem InterfacePath.exists_own {cls : Class} {path : List Step}
    (leads : InterfacePath library cls path interface) (short : path.length ≤ 1) :
    ∃ reference ∈ cls.interfaces, library.interface? reference.name = some interface ∧
      path = [⟨interface.typeParams, reference.args⟩] := by
  cases leads with
  | @implemented front level reference _ below listed found =>
      have none : front = [] := by simpa using short
      obtain rfl := below.eq_of_nil none
      exact ⟨reference, listed, found, by rw [none, List.nil_append]⟩
  | @extended front _ _ _ below _ _ =>
      have none : front = [] := by simpa using short
      exact absurd none below.ne_nil

/-- A direct reference to an interface. -/
def labelledByString : NamedType :=
  { name := "Labelled", args := [.ofName "string"] }

/-- A class with two ways to that interface, the longer of which comes first. -/
def shelf : Class :=
  { name := "Shelf", interfaces := [{ name := "Numbered" }, labelledByString] }

/-- The interface at the end of both ways. -/
def labelled : Interface :=
  { name := "Labelled", typeParams := ["L"], properties := [{ name := "label", type := .ofName "L" }] }

/-- The interface on the longer way. -/
def numbered : Interface :=
  { name := "Numbered", superTypes := [{ name := "Labelled", args := [.ofName "number"] }] }

/-- The class with the interfaces. -/
def shelfLibrary : Library :=
  { classes := [shelf], interfaces := [numbered, labelled] }

/-- A longer way that comes first hides the nearest instance. -/
theorem not_nearest_recorded_shelf :
    ¬ ∀ (library : Library) (cls : Class), library.classNames.Nodup → library.interfaceNames.Nodup →
      cls ∈ library.classes →
        ∀ implemented ∈ implementedInterfaces library cls, BoundByNearest library cls implemented := by
  intro nearest
  have none : shelf.superType = none := rfl
  have met : demands shelfLibrary shelf = [⟨{ name := "Numbered" }, []⟩, ⟨labelledByString, []⟩] := by
    rw [demands, ancestors, none, ancestorsFrom_none]
    rfl
  have recorded : implementedInterfaces shelfLibrary shelf =
      [⟨numbered, []⟩, ⟨labelled, [("L", .ofName "number")]⟩] :=
    calc implementedInterfaces shelfLibrary shelf
        = interfacesFrom shelfLibrary [] [⟨{ name := "Numbered" }, []⟩, ⟨labelledByString, []⟩] :=
          congrArg _ met
      _ = ⟨numbered, []⟩ :: interfacesFrom shelfLibrary ["Numbered"]
            [⟨{ name := "Labelled", args := [.ofName "number"] }, []⟩, ⟨labelledByString, []⟩] :=
          interfacesFrom_fresh rfl (by decide)
      _ = ⟨numbered, []⟩ :: ⟨labelled, [("L", .ofName "number")]⟩ ::
            interfacesFrom shelfLibrary ["Labelled", "Numbered"] [⟨labelledByString, []⟩] :=
          congrArg _ (interfacesFrom_fresh rfl (by decide))
      _ = [⟨numbered, []⟩, ⟨labelled, [("L", .ofName "number")]⟩] := by
          rw [interfacesFrom_visited rfl (by decide), interfacesFrom_nil]
  obtain ⟨path, leads, shortest, bound⟩ := nearest shelfLibrary shelf (by decide) (by decide)
    List.mem_cons_self ⟨labelled, [("L", .ofName "number")]⟩ (by rw [recorded]; simp)
  have direct : InterfacePath shelfLibrary shelf
      ([] ++ [⟨labelled.typeParams, labelledByString.args⟩]) labelled :=
    .implemented .here (List.mem_cons_of_mem _ List.mem_cons_self) rfl
  obtain ⟨reference, listed, found, rfl⟩ := leads.exists_own (shortest _ direct)
  have named : reference.name = "Labelled" := (Library.name_of_interface? found).symm
  rcases List.mem_cons.1 listed with rfl | later
  · exact absurd named (by decide)
  · cases List.mem_singleton.1 later
    have byString : [("L", Ty.ofName "number")] = [("L", Ty.ofName "string")] := bound
    simp [Ty.ofName] at byString

end DartBindings.Heritage
