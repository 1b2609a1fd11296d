import DartBindings.Extraction.Library
import DartBindings.Proofs.Lists
import DartBindings.Proofs.Syntax.Place

/-!
Which declarations are taken from a file.

The search goes down through containers and decides about exports on its way.  What it takes is told
here from the place of a declaration alone: the nodes around it are containers, the nearest of them that
is no ambient wrapper exports it, and it has a wanted name.  The classes and interfaces of a file are
those at such places, one for each of them, in document order.

Main exports: IsWanted, IsClassAt, IsInterfaceAt, extractOne_selects
-/

namespace DartBindings.Extraction

open Syntax (Node Place)
open Syntax.Node (placesFrom placesAmong placesFrom_eq)

/-- The kinds of nodes that declare classes. -/
def classKinds : List String :=
  ["class_declaration", "abstract_class_declaration"]

/-- The kinds of nodes that declare interfaces. -/
def interfaceKinds : List String :=
  ["interface_declaration"]

/-- The nearest of the nodes around, ambient wrappers apart, is an export or the program. -/
def ExportedWithin (around : List Node) : Prop :=
  ∃ outer ∈ around.find? fun outer => outer.kind != ambientKind,
    outer.kind = exportKind ∨ outer.kind = programKind

/-- The declaration has a name that is not hidden and that the configuration declares. -/
def HasWantedName (config : Config) (source : List Char) (node : Node) : Prop :=
  ∃ name ∈ fieldText? source "name" node.children,
    name.toList.head? ≠ some '_' ∧ name ∈ config.declarations.keys

/-- A named node of one of the kinds stands in containers only.  The mere token `module` is none of
them: containers below the root are named nodes. -/
structure StandsInContainers (kinds : List String) (place : Place) : Prop where
  kind : place.node.kind ∈ kinds
  named : ∀ inner ∈ place.belowRoot, inner.isNamed = true
  within : ∀ outer ∈ place.around, outer.kind ∈ containerKinds

/-- A declaration of one of the kinds is one to take. -/
structure IsWanted (config : Config) (source : List Char) (kinds : List String) (place : Place) :
    Prop extends StandsInContainers kinds place where
  exported : ExportedWithin place.around
  name : HasWantedName config source place.node

instance (around : List Node) : Decidable (ExportedWithin around) :=
  inferInstanceAs (Decidable (∃ _ ∈ _, _))

instance (config : Config) (source : List Char) (node : Node) :
    Decidable (HasWantedName config source node) :=
  inferInstanceAs (Decidable (∃ _ ∈ _, _))

instance (kinds : List String) (place : Place) : Decidable (StandsInContainers kinds place) :=
  decidable_of_iff
    (place.node.kind ∈ kinds ∧ (∀ inner ∈ place.belowRoot, inner.isNamed = true) ∧
      ∀ outer ∈ place.around, outer.kind ∈ containerKinds)
    ⟨fun ⟨kind, named, within⟩ => ⟨kind, named, within⟩,
      fun stands => ⟨stands.kind, stands.named, stands.within⟩⟩

instance (config : Config) (source : List Char) (kinds : List String) (place : Place) :
    Decidable (IsWanted config source kinds place) :=
  decidable_of_iff
    (StandsInContainers kinds place ∧ ExportedWithin place.around ∧
      HasWantedName config source place.node)
    ⟨fun ⟨stands, exported, name⟩ => ⟨stands, exported, name⟩,
      fun wanted => ⟨wanted.toStandsInContainers, wanted.exported, wanted.name⟩⟩

/-- The class is the one that the node at the place declares under its name. -/
def IsClassAt (source : List Char) (cls : Class) (place : Place) : Prop :=
  ∃ name ∈ fieldText? source "name" place.node.children, ∃ id setting,
    cls = (readClass id source name
      { isInterface := false
        isAbstract := place.node.kind == "abstract_class_declaration"
        setting := setting
        node := place.node }).1

/-- The interface is the one that the node at the place declares under its name. -/
def IsInterfaceAt (source : List Char) (interface : Interface) (place : Place) : Prop :=
  ∃ name ∈ fieldText? source "name" place.node.children, ∃ id setting,
    interface = (readInterface id source name
      { isInterface := true
        isAbstract := false
        setting := setting
        node := place.node }).1

/-! ### The search and the places -/

/-- The kinds of nodes that declare something. -/
def declarationKinds : List String :=
  classKinds ++ interfaceKinds

/-- The candidate is the declaration at the place. -/
structure IsCandidateAt (candidate : Candidate) (place : Place) : Prop where
  declares : place.node.kind ∈ declarationKinds
  node : candidate.node = place.node
  exported : candidate.setting.exported = true ↔ ExportedWithin place.around
  isInterface : candidate.isInterface = (place.node.kind == "interface_declaration")
  isAbstract : candidate.isAbstract = (place.node.kind == "abstract_class_declaration")

/-- Whether a place is exported is decided by the nearest node around it that is no ambient wrapper. -/
theorem exportedWithin_cons (parent : Node) (around : List Node) :
    ExportedWithin (parent :: around) ↔
      if parent.kind = ambientKind then ExportedWithin around
      else parent.kind = exportKind ∨ parent.kind = programKind := by
  by_cases ambient : parent.kind = ambientKind
  · simp [ExportedWithin, ambient]
  · simp [ExportedWithin, ambient]

/-- The export flag of the search says whether the place is exported. -/
theorem exported_inside {setting : Setting} {parent : Node} {around : List Node}
    (exported : setting.exported = true ↔ ExportedWithin around) (previous : Option Node) :
    (setting.inside parent.kind previous).exported = true ↔ ExportedWithin (parent :: around) := by
  rw [exportedWithin_cons, Setting.inside]
  split
  · exact exported
  · simp

/-- What stands at or below nodes in something that is no container is not found. -/
theorem not_standsInContainers_below {parent : Node} {around nodes : List Node} {kinds : List String}
    (noContainer : parent.kind ∉ containerKinds) :
    (placesAmong (parent :: around) nodes).filter (StandsInContainers kinds ·) = [] := by
  rw [List.filter_eq_nil_iff]
  intro place member stands
  have isAround := (Syntax.Node.suffix_of_mem_placesAmong member).subset List.mem_cons_self
  exact noContainer ((of_decide_eq_true stands).within parent isAround)

/-- What stands at or below a token is not found. -/
theorem not_standsInContainers_token {token : Node} {around : List Node} {kinds : List String}
    (inner : around ≠ []) (isToken : token.isNamed = false) :
    (placesFrom around token).filter (StandsInContainers kinds ·) = [] := by
  rw [List.filter_eq_nil_iff]
  intro place member stands
  have onTheWay := Syntax.Node.mem_belowRoot_of_mem_placesFrom inner member
  have named := (of_decide_eq_true stands).named token onTheWay
  rw [isToken] at named
  cases named

/-- A kind of node is a container or declares something or neither, and its role says which. -/
theorem Role.ofKind_cases (kind : String) :
    (ofKind kind = .container ∧ kind ∈ containerKinds ∧ kind ∉ declarationKinds) ∨
      (ofKind kind = .classDeclaration (kind == "abstract_class_declaration") ∧ kind ∈ classKinds ∧
        kind ∉ interfaceKinds ∧ kind ∉ containerKinds) ∨
      (ofKind kind = .interfaceDeclaration ∧ kind ∈ interfaceKinds ∧ kind ∉ classKinds ∧
        kind ∉ containerKinds) ∨
      (ofKind kind = .other ∧ kind ∉ declarationKinds ∧ kind ∉ containerKinds) := by
  by_cases concrete : kind = "class_declaration"
  · subst concrete
    exact .inr (.inl (by decide))
  by_cases abstract : kind = "abstract_class_declaration"
  · subst abstract
    exact .inr (.inl (by decide))
  by_cases interface : kind = "interface_declaration"
  · subst interface
    exact .inr (.inr (.inl (by decide)))
  have declaresNothing : kind ∉ declarationKinds := by
    simp [declarationKinds, classKinds, interfaceKinds, concrete, abstract, interface]
  by_cases container : kind ∈ containerKinds
  · exact .inl ⟨by simp [ofKind, concrete, abstract, interface, container], container, declaresNothing⟩
  · exact .inr (.inr (.inr
      ⟨by simp [ofKind, concrete, abstract, interface, container], declaresNothing, container⟩))

/-- The role of a node decides whether the search goes on, takes it, or stops. -/
theorem candidatesAt_eq (setting : Setting) (node : Node) :
    candidatesAt setting node =
      match Role.ofKind node.kind with
      | .container => candidatesAmong setting node.kind none node.children
      | .classDeclaration isAbstract => [⟨false, isAbstract, setting, node⟩]
      | .interfaceDeclaration => [⟨true, false, setting, node⟩]
      | .other => [] := by
  obtain ⟨label, children⟩ := node
  rw [candidatesAt]
  rfl

/-- The search has come down to a place, and the setting fits what is around it. -/
structure Reached (setting : Setting) (place : Place) : Prop where
  exported : setting.exported = true ↔ ExportedWithin place.around
  named : ∀ inner ∈ place.belowRoot, inner.isNamed = true
  within : ∀ outer ∈ place.around, outer.kind ∈ containerKinds

theorem Reached.root (root : Node) : Reached {} ⟨root, []⟩ where
  exported := by simp [ExportedWithin]
  named := by simp [Place.belowRoot]
  within := by simp

/-- From a container the search comes to the named nodes in it. -/
theorem Reached.child {setting : Setting} {parent child : Node} {around : List Node}
    (reached : Reached setting ⟨parent, around⟩) (container : parent.kind ∈ containerKinds)
    (named : child.isNamed = true) (previous : Option Node) :
    Reached (setting.inside parent.kind previous) ⟨child, parent :: around⟩ where
  exported := exported_inside reached.exported previous
  named := List.forall_mem_cons.2 ⟨named, reached.named⟩
  within := List.forall_mem_cons.2 ⟨container, reached.within⟩

variable {setting : Setting} {node : Node} {around : List Node}

/-- Nothing but declarations is found. -/
theorem filter_placesFrom_of_declaresNothing (declaresNothing : node.kind ∉ declarationKinds) :
    (placesFrom around node).filter (StandsInContainers declarationKinds ·) =
      (placesAmong (node :: around) node.children).filter
        (StandsInContainers declarationKinds ·) := by
  rw [placesFrom_eq, List.filter_cons_of_neg]
  intro stands
  exact declaresNothing (of_decide_eq_true stands).kind

/-- At a declaration the search ends with it. -/
theorem isCandidateAt_of_reached {isInterface isAbstract : Bool}
    (reached : Reached setting ⟨node, around⟩) (declares : node.kind ∈ declarationKinds)
    (noContainer : node.kind ∉ containerKinds)
    (kind : isInterface = (node.kind == "interface_declaration"))
    (marker : isAbstract = (node.kind == "abstract_class_declaration")) :
    List.Forall₂ IsCandidateAt [⟨isInterface, isAbstract, setting, node⟩]
      ((placesFrom around node).filter (StandsInContainers declarationKinds ·)) := by
  have stands : StandsInContainers declarationKinds ⟨node, around⟩ :=
    ⟨declares, reached.named, reached.within⟩
  rw [placesFrom_eq, List.filter_cons_of_pos (by simpa using stands),
    not_standsInContainers_below noContainer]
  exact .cons ⟨declares, rfl, reached.exported, kind, marker⟩ .nil

-- The search and the list of places go down the same tree.  `Reached` is what every step down keeps; at a
-- node that is no container both end, the search by its cases and the places by the filter.

mutual

/-- The search finds what stands in containers, in document order. -/
theorem candidatesAt_places {setting : Setting} {around : List Node} :
    ∀ {node : Node}, Reached setting ⟨node, around⟩ →
      List.Forall₂ IsCandidateAt (candidatesAt setting node)
        ((placesFrom around node).filter (StandsInContainers declarationKinds ·))
  | ⟨label, children⟩, reached => by
      rw [candidatesAt_eq]
      rcases Role.ofKind_cases (Node.kind ⟨label, children⟩) with ⟨role, container, declaresNothing⟩ |
        ⟨role, isClass, noInterface, noContainer⟩ | ⟨role, isInterface, noClass, noContainer⟩ |
        ⟨role, declaresNothing, noContainer⟩
      · rw [role, filter_placesFrom_of_declaresNothing declaresNothing]
        exact candidatesAmong_places reached container
      · rw [role]
        refine isCandidateAt_of_reached reached (List.mem_append_left _ isClass) noContainer ?_ rfl
        exact (beq_false_of_ne fun same => noInterface (List.mem_singleton.2 same)).symm
      · rw [role]
        have declares := List.mem_append_right classKinds isInterface
        refine isCandidateAt_of_reached reached declares noContainer ?_ ?_
        · exact (beq_iff_eq.2 (List.mem_singleton.1 isInterface)).symm
        · refine (beq_false_of_ne fun same => noClass ?_).symm
          simp [same, classKinds]
      · rw [role, filter_placesFrom_of_declaresNothing declaresNothing,
          not_standsInContainers_below noContainer]
        exact .nil

/-- Among nodes the candidates are the declarations at places in containers, in document order. -/
theorem candidatesAmong_places {setting : Setting} {parent : Node} {around : List Node} :
    ∀ {nodes : List Node} {previous : Option Node}, Reached setting ⟨parent, around⟩ →
      parent.kind ∈ containerKinds →
      List.Forall₂ IsCandidateAt (candidatesAmong setting parent.kind previous nodes)
        ((placesAmong (parent :: around) nodes).filter (StandsInContainers declarationKinds ·))
  | [], _, _, _ => .nil
  | node :: rest, previous, reached, container => by
      rw [candidatesAmong, placesAmong, List.filter_append]
      cases named : node.label.isNamed with
      | true =>
          rw [if_pos rfl]
          exact List.rel_append (candidatesAt_places (reached.child container named previous))
            (candidatesAmong_places reached container)
      | false =>
          rw [if_neg Bool.false_ne_true,
            not_standsInContainers_token (List.cons_ne_nil _ _) named, List.nil_append]
          exact candidatesAmong_places reached container

end

/-! ### What is taken of the candidates -/

variable {config : Config} {source : List Char} {candidate : Candidate} {place : Place}

/-- A candidate is accepted by its own name if that is visible, wanted and exported. -/
theorem acceptedName?_eq_some_iff {name : String} :
    acceptedName? config source candidate = some name ↔
      fieldText? source "name" candidate.node.children = some name ∧
        name.toList.head? ≠ some '_' ∧ name ∈ config.declarations.keys ∧
          candidate.setting.exported = true := by
  simp [acceptedName?, visibleName?, Option.filter_eq_some_iff, isHidden,
    Config.includesDeclaration, Table.contains_iff_mem_keys]

/-- A candidate has a name to be taken under when it is exported and its name is wanted. -/
theorem exists_acceptedName_iff (isAt : IsCandidateAt candidate place) :
    (∃ name, acceptedName? config source candidate = some name) ↔
      ExportedWithin place.around ∧ HasWantedName config source place.node := by
  simp only [acceptedName?_eq_some_iff, HasWantedName, ← isAt.exported, ← isAt.node,
    Option.mem_def]
  constructor
  · rintro ⟨name, found, visible, wanted, exported⟩
    exact ⟨exported, name, found, visible, wanted⟩
  · rintro ⟨exported, name, found, visible, wanted⟩
    exact ⟨name, found, visible, wanted, exported⟩

/-- What is taken is what the node at the place declares. -/
def IsDeclaredAt (source : List Char) (declared : Declared) (place : Place) : Prop :=
  match declared with
  | .ofClass cls => place.node.kind ∈ classKinds ∧ IsClassAt source cls place
  | .ofInterface interface => place.node.kind ∈ interfaceKinds ∧ IsInterfaceAt source interface place

/-- A candidate with a name to be taken under is taken as what its place declares. -/
theorem readCandidate?_of_accepted {name : String} (id : SourceId)
    (isAt : IsCandidateAt candidate place)
    (accepted : acceptedName? config source candidate = some name) :
    ∃ taken, readCandidate? config id source candidate = some taken ∧
      IsDeclaredAt source taken.1 place := by
  have found := (acceptedName?_eq_some_iff.1 accepted).1
  obtain ⟨isInterface, isAbstract, setting, node⟩ := candidate
  obtain ⟨declares, rfl, _, rfl, rfl⟩ := isAt
  rcases List.mem_append.1 declares with isClass | isInterface
  · have noInterface : (place.node.kind == "interface_declaration") = false := by
      refine beq_false_of_ne fun same => ?_
      rw [same] at isClass
      exact absurd isClass (by decide)
    rw [noInterface] at accepted ⊢
    let taken := readClass id source name
      ⟨false, place.node.kind == "abstract_class_declaration", setting, place.node⟩
    refine ⟨(.ofClass taken.1, taken.2), ?_, isClass, name, found, id, setting, rfl⟩
    rw [readCandidate?, accepted]
    rfl
  · have isKind := List.mem_singleton.1 isInterface
    have noClass : (place.node.kind == "abstract_class_declaration") = false := by
      rw [isKind]
      decide
    rw [beq_iff_eq.2 isKind, noClass] at accepted ⊢
    let taken := readInterface id source name ⟨true, false, setting, place.node⟩
    refine ⟨(.ofInterface taken.1, taken.2), ?_, isInterface, name, found, id, setting, rfl⟩
    rw [readCandidate?, accepted]
    rfl

/-- What is read at a candidate is declared at its place. -/
theorem isDeclaredAt_of_readCandidate? {id : SourceId} {taken : Declared × Diagnostics}
    (isAt : IsCandidateAt candidate place)
    (read : readCandidate? config id source candidate = some taken) :
    IsDeclaredAt source taken.1 place := by
  obtain ⟨name, accepted, -⟩ := Option.map_eq_some_iff.1 read
  obtain ⟨declared, readAgain, isDeclared⟩ := readCandidate?_of_accepted id isAt accepted
  rw [read] at readAgain
  cases readAgain
  exact isDeclared

/-- Being wanted is being exported with a wanted name and standing in containers. -/
theorem decide_isWanted (kinds : List String) :
    decide (IsWanted config source kinds place) =
      (decide (ExportedWithin place.around ∧ HasWantedName config source place.node) &&
        decide (StandsInContainers kinds place)) := by
  rw [← Bool.decide_and, decide_eq_decide, and_comm]
  exact ⟨fun wanted => ⟨wanted.toStandsInContainers, wanted.exported, wanted.name⟩,
    fun ⟨stands, exported, name⟩ => ⟨stands, exported, name⟩⟩

/-- Of the places of several kinds those of some of the kinds. -/
theorem decide_isWanted_of_subset {kinds more : List String} (included : kinds ⊆ more) :
    decide (IsWanted config source kinds place) =
      (decide (place.node.kind ∈ kinds) && decide (IsWanted config source more place)) := by
  rw [← Bool.decide_and, decide_eq_decide]
  exact ⟨fun wanted => ⟨wanted.kind, ⟨included wanted.kind, wanted.named, wanted.within⟩,
      wanted.exported, wanted.name⟩,
    fun ⟨kind, wanted⟩ => ⟨⟨kind, wanted.named, wanted.within⟩, wanted.exported, wanted.name⟩⟩

/-- One declaration is taken from every wanted place, in document order, and what is read from the
candidates at the places holds of it. -/
theorem forall₂_declarationsIn {config : Config} {id : SourceId} {document : Document}
    {related : Declared × Diagnostics → Place → Prop}
    (each : ∀ candidate place taken, IsCandidateAt candidate place →
      readCandidate? config id document.source.text.toList candidate = some taken →
        related taken place) :
    List.Forall₂ related (declarationsIn config id document)
      (document.tree.places.filter
        (IsWanted config document.source.text.toList declarationKinds ·)) := by
  simp only [decide_isWanted]
  rw [← List.filter_filter]
  refine forall₂_filterMap_filter (candidatesAt_places (Reached.root document.tree)) ?_
  intro candidate place isAt
  by_cases wanted : ExportedWithin place.around ∧
      HasWantedName config document.source.text.toList place.node
  · obtain ⟨name, accepted⟩ := (exists_acceptedName_iff isAt).2 wanted
    obtain ⟨taken, read, -⟩ := readCandidate?_of_accepted id isAt accepted
    exact .inr ⟨taken, read, decide_eq_true wanted, each candidate place taken isAt read⟩
  · refine .inl ⟨?_, decide_eq_false wanted⟩
    rw [readCandidate?, Option.map_eq_none_iff, Option.eq_none_iff_forall_ne_some]
    exact fun name accepted => wanted ((exists_acceptedName_iff isAt).1 ⟨name, accepted⟩)

/-- What is taken from a file is what the wanted places in it declare, in document order. -/
theorem declarationsIn_selects (config : Config) (id : SourceId) (document : Document) :
    List.Forall₂ (fun taken place => IsDeclaredAt document.source.text.toList taken.1 place)
      (declarationsIn config id document)
      (document.tree.places.filter
        (IsWanted config document.source.text.toList declarationKinds ·)) :=
  forall₂_declarationsIn fun _ _ _ => isDeclaredAt_of_readCandidate?

/-- The classes and the interfaces of a file are those that the wanted places in it declare, one for
each of them, in document order. -/
theorem extractOne_selects (config : Config) (id : SourceId) (document : Document) :
    List.Forall₂ (IsClassAt document.source.text.toList)
        (extractOne config id document).1.classes
        (document.tree.places.filter
          (IsWanted config document.source.text.toList classKinds ·)) ∧
      List.Forall₂ (IsInterfaceAt document.source.text.toList)
        (extractOne config id document).1.interfaces
        (document.tree.places.filter
          (IsWanted config document.source.text.toList interfaceKinds ·)) := by
  have selected := declarationsIn_selects config id document
  -- The declarations of both kinds stand in one list; its kinds tell classes from interfaces.
  have disjoint : ∀ kind ∈ classKinds, kind ∉ interfaceKinds := by decide
  simp only [extractOne, libraryOf, List.filterMap_map]
  constructor
  · simp only [decide_isWanted_of_subset (List.subset_append_left classKinds interfaceKinds)]
    rw [← List.filter_filter]
    refine forall₂_filterMap_filter selected ?_
    rintro ⟨declared, reports⟩ place isAt
    cases declared with
    | ofClass cls => exact .inr ⟨cls, rfl, decide_eq_true isAt.1, isAt.2⟩
    | ofInterface interface =>
        exact .inl ⟨rfl, decide_eq_false fun isClass => disjoint _ isClass isAt.1⟩
  · simp only [decide_isWanted_of_subset (List.subset_append_right classKinds interfaceKinds)]
    rw [← List.filter_filter]
    refine forall₂_filterMap_filter selected ?_
    rintro ⟨declared, reports⟩ place isAt
    cases declared with
    | ofClass cls => exact .inl ⟨rfl, decide_eq_false (disjoint _ isAt.1)⟩
    | ofInterface interface => exact .inr ⟨interface, rfl, decide_eq_true isAt.1, isAt.2⟩

end DartBindings.Extraction
