import DartBindings.Extraction.Declaration
import DartBindings.Proofs.Lists

/-!
Accessors in the bodies of interfaces.

Accessors of one name become one property.  The fold that makes it keeps the names of accessors met and
the properties placed, and a setter changes a property that was placed before.  Told from the nodes of a
body alone, the property stands where the first accessor of its name stands, is what that accessor
spells, and can be written when some accessor of the body writes it.

Main exports: FoldsAccessors, Past.stands, accessors_fold_to_one_property
-/

namespace DartBindings.Extraction

open Syntax (Node)

/-! ### The nodes of a body -/

/-- The name of the property whose signature a node spells, unless it is hidden. -/
def signatureName? (source : List Char) (node : Node) : Option String :=
  if node.isNamed = true ∧ node.kind = "property_signature" then visibleName? source node.children
  else none

/-- The name of the accessor that a node spells, unless it is hidden. -/
def accessorName? (source : List Char) (node : Node) : Option String :=
  if node.isNamed = true ∧ node.kind = "method_signature" ∧
      ("get" ∈ node.keywords ∨ "set" ∈ node.keywords) then
    visibleName? source node.children
  else none

/-- The name of the accessor that a node spells, when it is a setter. -/
def setterName? (source : List Char) (node : Node) : Option String :=
  if "get" ∈ node.keywords then none else accessorName? source node

/-- The name of the property that a node places behind other nodes: that of a property signature, and that
of an accessor if none of the other nodes spells an accessor of its name. -/
def placedName? (source : List Char) (earlier : List Node) (node : Node) : Option String :=
  (signatureName? source node).or
    ((accessorName? source node).filter fun name =>
      name ∉ earlier.filterMap (accessorName? source))

/-- The names of the properties that nodes place, in source order. -/
def placedNames (source : List Char) (nodes : List Node) : List String :=
  (withEarlier nodes).filterMap fun entry => placedName? source entry.1 entry.2

/-- A property that can be read only unless one of the nodes is a setter of its name. -/
def writtenAmong (source : List Char) (nodes : List Node) (property : Property) : Property :=
  { property with isReadonly := decide (property.name ∉ nodes.filterMap (setterName? source)) }

/-- The accessors of a name among nodes stand as one property among properties.  It is what the first of
them spells, stands behind what is placed by the nodes in front of this one, and can be written exactly
when one of the nodes is a setter of the name. -/
structure FoldsAccessors (source : List Char) (nodes : List Node) (name : String)
    (properties : List Property) : Prop where
  names : properties.map (·.name) = placedNames source nodes
  one : ∃ front first behind before after, nodes = front ++ first :: behind ∧
    accessorName? source first = some name ∧ name ∉ front.filterMap (accessorName? source) ∧
    properties = before ++
      writtenAmong source nodes
        (accessorProperty source name (setterName? source first).isSome
          (front.filter Node.isNamed).getLast? first) :: after ∧
    before.map (·.name) = placedNames source front ∧
    name ∉ before.map (·.name) ∧ name ∉ after.map (·.name)

variable {source : List Char} {name : String} {nodes : List Node}

/-- A placed name is that of a property or of an accessor. -/
theorem mem_of_mem_placedNames (placed : name ∈ placedNames source nodes) :
    name ∈ nodes.filterMap (signatureName? source) ∨
      name ∈ nodes.filterMap (accessorName? source) := by
  obtain ⟨⟨earlier, node⟩, entry, found⟩ := List.mem_filterMap.1 placed
  have member : node ∈ nodes := (List.of_mem_zip entry).2
  rcases Option.or_eq_some_iff.1 found with signature | ⟨-, accessor⟩
  · exact .inl (List.mem_filterMap.2 ⟨node, member, signature⟩)
  · exact .inr (List.mem_filterMap.2 ⟨node, member, (Option.filter_eq_some_iff.1 accessor).1⟩)

/-- A setter is an accessor. -/
theorem accessorName?_of_setterName? {node : Node} (setter : setterName? source node = some name) :
    accessorName? source node = some name := by
  unfold setterName? at setter
  split at setter
  · cases setter
  · exact setter

/-- A setter has no name but the one it has as an accessor. -/
theorem eq_of_setterName? {node : Node} {other : String} (setter : setterName? source node = some other)
    (accessor : accessorName? source node = some name) : other = name :=
  Option.some.inj ((accessorName?_of_setterName? setter).symm.trans accessor)

theorem setterName?_ne_of_noAccessor {node : Node} (noAccessor : accessorName? source node = none) :
    setterName? source node ≠ some name := fun setter => by
  rw [accessorName?_of_setterName? setter] at noAccessor
  cases noAccessor

/-- The names of setters are among those of accessors. -/
theorem mem_accessors_of_mem_setters (setter : name ∈ nodes.filterMap (setterName? source)) :
    name ∈ nodes.filterMap (accessorName? source) := by
  obtain ⟨node, member, writes⟩ := List.mem_filterMap.1 setter
  exact List.mem_filterMap.2 ⟨node, member, accessorName?_of_setterName? writes⟩

/-! ### The members that nodes spell -/

/-- The member of an interface that a child of its body spells, given the named node in front of it. -/
def memberAt? (source : List Char) (entry : Option Node × Node) : Option InterfaceMember :=
  if entry.2.isNamed then interfaceMember? source entry.1 entry.2 else none

/-- The members that children of a body spell. -/
def membersAt (source : List Char) (entries : List (Option Node × Node)) : List InterfaceMember :=
  entries.filterMap (memberAt? source)

/-- The member that a child of a body spells, if any, has the names of the child. -/
inductive Spells (source : List Char) (previous : Option Node) (node : Node) :
    Option InterfaceMember → Prop
  | signature {property : Property} (signature : signatureName? source node = some property.name)
      (noAccessor : accessorName? source node = none) :
      Spells source previous node (some (.property property))
  | accessor {name : String} (noSignature : signatureName? source node = none)
      (accessor : accessorName? source node = some name) :
      Spells source previous node
        (some (.accessor (setterName? source node).isSome
          (accessorProperty source name (setterName? source node).isSome previous node)))
  | method {method : MethodSignature} (noSignature : signatureName? source node = none)
      (noAccessor : accessorName? source node = none) :
      Spells source previous node (some (.method method))
  | nothing (noSignature : signatureName? source node = none)
      (noAccessor : accessorName? source node = none) : Spells source previous node none

theorem spells_interfaceMethod {previous : Option Node} {node : Node} (named : node.isNamed = true)
    (kind : node.kind = "method_signature") (visible : visibleName? source node.children = some name) :
    Spells source previous node (some (interfaceMethod source name previous node)) := by
  have noSignature : signatureName? source node = none := if_neg (by simp [kind])
  unfold interfaceMethod Use.ofKeywords
  by_cases reads : "get" ∈ node.keywords
  · have accessor : accessorName? source node = some name := by
      simp [accessorName?, named, kind, reads, visible]
    have noSetter : setterName? source node = none := if_pos reads
    have spells : Spells source previous node _ := .accessor noSignature accessor
    rw [noSetter] at spells
    simpa [reads] using spells
  · by_cases writes : "set" ∈ node.keywords
    · have accessor : accessorName? source node = some name := by
        simp [accessorName?, named, kind, writes, visible]
      have setter : setterName? source node = some name := (if_neg reads).trans accessor
      have spells : Spells source previous node _ := .accessor noSignature accessor
      rw [setter] at spells
      simpa [reads, writes] using spells
    · have noAccessor : accessorName? source node = none := if_neg (by simp [reads, writes])
      simpa [reads, writes] using Spells.method noSignature noAccessor

/-- What is read at a node of an interface is what the node spells. -/
theorem spells_memberAt? (source : List Char) (previous : Option Node) (node : Node) :
    Spells source previous node (memberAt? source (previous, node)) := by
  unfold memberAt? interfaceMember? InterfaceMemberForm.ofKind
  by_cases named : node.isNamed = true
  · rw [if_pos named]
    by_cases property : node.kind = "property_signature"
    · have noAccessor : accessorName? source node = none := if_neg (by simp [property])
      have signature : signatureName? source node = visibleName? source node.children :=
        if_pos ⟨named, property⟩
      rw [if_pos property]
      cases visible : visibleName? source node.children with
      | none =>
          simp only [propertyOf?, property?, visible, Option.map_none]
          exact .nothing (signature.trans visible) noAccessor
      | some name =>
          simp only [propertyOf?, property?, visible, Option.map_some]
          exact .signature (signature.trans visible) noAccessor
    · rw [if_neg property]
      have noSignature : signatureName? source node = none := if_neg (by simp [property])
      by_cases method : node.kind = "method_signature"
      · rw [if_pos method]
        cases visible : visibleName? source node.children with
        | none =>
            refine .nothing noSignature ?_
            unfold accessorName?
            split
            · exact visible
            · rfl
        | some name => exact spells_interfaceMethod named method visible
      · rw [if_neg method]
        exact .nothing noSignature (if_neg (by simp [method]))
  · rw [if_neg named]
    exact .nothing (if_neg (by simp [named])) (if_neg (by simp [named]))

theorem withPreviousFrom_append (previous : Option Node) (front rest : List Node) :
    Node.withPreviousFrom previous (front ++ rest) =
      Node.withPreviousFrom previous front ++
        Node.withPreviousFrom ((front.filter Node.isNamed).getLast?.or previous) rest := by
  induction front generalizing previous with
  | nil => rfl
  | cons node front ih =>
      rw [List.cons_append, Node.withPreviousFrom, ih, Node.withPreviousFrom, List.cons_append]
      by_cases named : node.isNamed = true
      · rw [if_pos named, List.filter_cons_of_pos named, List.getLast?_cons]
        cases (front.filter Node.isNamed).getLast? <;> rfl
      · rw [if_neg named, List.filter_cons_of_neg named]

theorem map_snd_withPreviousFrom (previous : Option Node) (nodes : List Node) :
    (Node.withPreviousFrom previous nodes).map Prod.snd = nodes := by
  induction nodes generalizing previous with
  | nil => rfl
  | cons node nodes ih => rw [Node.withPreviousFrom, List.map_cons, ih]

/-! ### Properties made writable -/

section Writable

variable {placed rest : List Property}

/-- Making a property writable changes no names. -/
theorem map_name_makeWritable (name : String) (placed : List Property) :
    (makeWritable name placed).map (·.name) = placed.map (·.name) := by
  induction placed with
  | nil => rfl
  | cons property rest ih =>
      rw [makeWritable]
      split
      · rfl
      · rw [List.map_cons, ih, List.map_cons]

/-- A property that is placed in front is changed there. -/
theorem makeWritable_append_of_mem (member : name ∈ placed.map (·.name)) :
    makeWritable name (placed ++ rest) = makeWritable name placed ++ rest := by
  induction placed with
  | nil => cases member
  | cons property placed ih =>
      rw [List.cons_append, makeWritable, makeWritable]
      split
      · rfl
      · next other =>
          rw [ih ((List.mem_cons.1 member).resolve_left fun same => other same.symm),
            List.cons_append]

/-- A property that is not placed in front is changed in the rest. -/
theorem makeWritable_append_of_notMem (absent : name ∉ placed.map (·.name)) :
    makeWritable name (placed ++ rest) = placed ++ makeWritable name rest := by
  induction placed with
  | nil => rfl
  | cons property placed ih =>
      rw [List.map_cons, List.mem_cons, not_or] at absent
      rw [List.cons_append, makeWritable, if_neg fun same => absent.1 same.symm, ih absent.2,
        List.cons_append]

/-- The first property of a name is the one that is changed. -/
theorem makeWritable_of_first (property : Property)
    (fresh : property.name ∉ placed.map (·.name)) :
    makeWritable property.name (placed ++ property :: rest) =
      placed ++ { property with isReadonly := false } :: rest := by
  rw [makeWritable_append_of_notMem fresh, makeWritable, if_pos rfl]

/-- A property stays as it is when one of another name is made writable. -/
theorem exists_makeWritable_around {property : Property} (other : property.name ≠ name)
    (placed rest : List Property) :
    ∃ placed' rest', makeWritable name (placed ++ property :: rest) = placed' ++ property :: rest' ∧
      placed'.map (·.name) = placed.map (·.name) ∧ rest'.map (·.name) = rest.map (·.name) := by
  by_cases member : name ∈ placed.map (·.name)
  · exact ⟨makeWritable name placed, rest, makeWritable_append_of_mem member,
      map_name_makeWritable name placed, rfl⟩
  · refine ⟨placed, makeWritable name rest, ?_, rfl, map_name_makeWritable name rest⟩
    rw [makeWritable_append_of_notMem member, makeWritable, if_neg other]

end Writable

/-! ### The fold over the children of a body -/

/-- A further node places at most one name, behind the others. -/
theorem placedNames_concat (nodes : List Node) (node : Node) :
    placedNames source (nodes ++ [node]) =
      placedNames source nodes ++ [node].filterMap (placedName? source nodes) := by
  rw [placedNames, withEarlier_concat, List.filterMap_append, placedNames]
  rfl

/-- A property always places its name. -/
theorem placedName?_of_signature {node : Node} (signature : signatureName? source node = some name) :
    placedName? source nodes node = some name := by
  simp [placedName?, signature]

/-- What is no property and no accessor places nothing. -/
theorem placedName?_of_noName {node : Node} (noSignature : signatureName? source node = none)
    (noAccessor : accessorName? source node = none) : placedName? source nodes node = none := by
  simp [placedName?, noSignature, noAccessor]

/-- An accessor places its name unless one of that name came before. -/
theorem placedName?_of_accessor (nodes : List Node) {node : Node}
    (noSignature : signatureName? source node = none)
    (accessor : accessorName? source node = some name) :
    placedName? source nodes node =
      if name ∈ nodes.filterMap (accessorName? source) then none else some name := by
  by_cases known : name ∈ nodes.filterMap (accessorName? source) <;>
    simp only [placedName?, noSignature, accessor, Option.none_or, Option.filter_some, known,
      not_true, not_false_eq_true, decide_true, decide_false, if_true, if_false, Bool.false_eq_true]

/-- What the fold over members holds: the properties placed and the names of accessors met. -/
structure Folded where
  placed : List Property
  accessors : List String

/-- The fold behind one more child of a body, given the member that the child spells. -/
def Folded.behind (folded : Folded) : Option InterfaceMember → Folded
  | some (.property property) => { folded with placed := folded.placed ++ [property] }
  | some (.accessor writes property) =>
      if folded.accessors.contains property.name then
        { folded with
          placed := if writes then makeWritable property.name folded.placed else folded.placed }
      else ⟨folded.placed ++ [property], property.name :: folded.accessors⟩
  | some (.method _) => folded
  | none => folded

/-- The fold behind children of a body. -/
def Folded.behindAll (source : List Char) (folded : Folded) (entries : List (Option Node × Node)) :
    Folded :=
  entries.foldl (fun folded entry => folded.behind (memberAt? source entry)) folded

/-- Folding the members is going through the nodes one after the other. -/
theorem foldProperties_membersAt (folded : Folded) (entries : List (Option Node × Node)) :
    foldProperties folded.placed folded.accessors (membersAt source entries) =
      (folded.behindAll source entries).placed := by
  induction entries generalizing folded with
  | nil => rfl
  | cons entry entries ih =>
      rw [Folded.behindAll, List.foldl_cons, ← Folded.behindAll, ← ih]
      cases spelled : memberAt? source entry with
      | none => rw [membersAt, List.filterMap_cons_none spelled, membersAt, Folded.behind]
      | some member =>
          rw [membersAt, List.filterMap_cons_some spelled, membersAt]
          cases member with
          | property property => rw [foldProperties, Folded.behind]
          | method method => rw [foldProperties, Folded.behind]
          | accessor writes property =>
              rw [foldProperties, Folded.behind]
              split
              · rfl
              · rfl

/-- What every child of a body keeps true, the children of a body keep true together. -/
theorem Folded.behindAll_keeps {holds : List Node → Folded → Prop} {folded : Folded}
    (entries : List (Option Node × Node))
    (step : ∀ nodes folded, ∀ entry ∈ entries, holds nodes folded →
      holds (nodes ++ [entry.2]) (folded.behind (memberAt? source entry)))
    (start : holds nodes folded) :
    holds (nodes ++ entries.map Prod.snd) (folded.behindAll source entries) := by
  induction entries generalizing nodes folded with
  | nil => simpa [behindAll] using start
  | cons entry entries ih =>
      have behind := ih (fun nodes folded other member => step nodes folded other (.tail _ member))
        (step nodes folded entry (.head _) start)
      simpa [behindAll] using behind

/-- What the fold holds behind nodes: the properties they place, and the names of their accessors. -/
structure Past (source : List Char) (nodes : List Node) (folded : Folded) : Prop where
  names : folded.placed.map (·.name) = placedNames source nodes
  accessors : ∀ name, name ∈ folded.accessors ↔ name ∈ nodes.filterMap (accessorName? source)

theorem Past.start (source : List Char) : Past source [] ⟨[], []⟩ where
  names := rfl
  accessors := fun _ => Iff.rfl

variable {node : Node} {folded : Folded}

/-- A child that is no accessor leaves the names of accessors as they are. -/
theorem Past.accessors_of_noAccessor (past : Past source nodes folded)
    (noAccessor : accessorName? source node = none) (name : String) :
    name ∈ folded.accessors ↔ name ∈ (nodes ++ [node]).filterMap (accessorName? source) := by
  rw [mem_filterMap_concat, past.accessors, noAccessor]
  simp

/-- A child that spells no property leaves everything as it is. -/
theorem Past.of_noName (past : Past source nodes folded)
    (noSignature : signatureName? source node = none)
    (noAccessor : accessorName? source node = none) : Past source (nodes ++ [node]) folded where
  names := by
    rw [past.names, placedNames_concat,
      List.filterMap_cons_none (placedName?_of_noName noSignature noAccessor), List.filterMap_nil,
      List.append_nil]
  accessors := past.accessors_of_noAccessor noAccessor

/-- One more node is behind the fold. -/
theorem Past.step (past : Past source nodes folded) (previous : Option Node) (node : Node) :
    Past source (nodes ++ [node]) (folded.behind (memberAt? source (previous, node))) := by
  have spells := spells_memberAt? source previous node
  generalize memberAt? source (previous, node) = spelled at spells
  cases spells with
  | @signature property signature noAccessor =>
      refine ⟨?_, past.accessors_of_noAccessor noAccessor⟩
      rw [placedNames_concat, List.filterMap_cons_some (placedName?_of_signature signature),
        ← past.names]
      exact List.map_append
  | @accessor name noSignature accessor =>
      have placedName := placedName?_of_accessor nodes noSignature accessor
      -- The first accessor of a name places its property; a later one changes what was placed.
      by_cases known : name ∈ folded.accessors
      · have before := (past.accessors name).1 known
        rw [if_pos before] at placedName
        rw [Folded.behind, if_pos (by simpa [accessorProperty] using known)]
        refine ⟨?_, fun other => ?_⟩
        · rw [placedNames_concat, List.filterMap_cons_none placedName, List.filterMap_nil,
            List.append_nil, ← past.names]
          dsimp only
          split
          · exact map_name_makeWritable name folded.placed
          · rfl
        · rw [mem_filterMap_concat, ← past.accessors, accessor, or_iff_left_of_imp]
          rintro ⟨⟩
          exact known
      · rw [if_neg fun before => known ((past.accessors name).2 before)] at placedName
        rw [Folded.behind, if_neg (by simpa [accessorProperty] using known)]
        refine ⟨?_, fun other => ?_⟩
        · rw [placedNames_concat, List.filterMap_cons_some placedName, ← past.names]
          exact List.map_append
        · rw [mem_filterMap_concat, ← past.accessors, accessor, List.mem_cons, or_comm,
            Option.some.injEq, eq_comm]
          rfl
  | method noSignature noAccessor => exact past.of_noName noSignature noAccessor
  | nothing noSignature noAccessor => exact past.of_noName noSignature noAccessor

/-- The fold holds what the children of a body place. -/
theorem past_behindAll (source : List Char) (entries : List (Option Node × Node)) :
    Past source (entries.map Prod.snd) (Folded.behindAll source ⟨[], []⟩ entries) :=
  Folded.behindAll_keeps entries (fun _ _ entry _ past => past.step entry.1 entry.2)
    (Past.start source)

/-! ### The property of an accessor's name -/

/-- The property of an accessor's name stands behind properties of the given names, is the only one of
its name, and can be written if one of the nodes writes it. -/
structure Stands (source : List Char) (property : Property) (front : List String)
    (nodes : List Node) (folded : Folded) : Prop where
  known : property.name ∈ folded.accessors
  fresh : property.name ∉ front
  place : ∃ before after, folded.placed = before ++ writtenAmong source nodes property :: after ∧
    before.map (·.name) = front ∧ property.name ∉ after.map (·.name)

variable {property : Property} {front : List String}

/-- A node that does not write a property leaves it as it is. -/
theorem writtenAmong_concat_of_noWrite (noWrite : setterName? source node ≠ some property.name) :
    writtenAmong source (nodes ++ [node]) property = writtenAmong source nodes property := by
  simp only [writtenAmong, mem_filterMap_concat, noWrite, or_false]

/-- A node that writes a property makes it writable. -/
theorem writtenAmong_concat_of_write (write : setterName? source node = some property.name) :
    writtenAmong source (nodes ++ [node]) property = { property with isReadonly := false } := by
  simp only [writtenAmong, mem_filterMap_concat, write, or_true, not_true, decide_false]

/-- A child that does not write the property leaves it as it is, whatever happens around it. -/
theorem Stands.beside (stands : Stands source property front nodes folded) {folded' : Folded}
    (noWrite : setterName? source node ≠ some property.name)
    (known : property.name ∈ folded'.accessors)
    (moved : ∀ before stood after, stood.name = property.name →
      folded.placed = before ++ stood :: after → property.name ∉ after.map (·.name) →
      ∃ before' after', folded'.placed = before' ++ stood :: after' ∧
        before'.map (·.name) = before.map (·.name) ∧ property.name ∉ after'.map (·.name)) :
    Stands source property front (nodes ++ [node]) folded' where
  known := known
  fresh := stands.fresh
  place := by
    obtain ⟨before, after, placed, names, unique⟩ := stands.place
    obtain ⟨before', after', placed', names', unique'⟩ :=
      moved before (writtenAmong source nodes property) after rfl placed unique
    rw [← writtenAmong_concat_of_noWrite noWrite] at placed'
    exact ⟨before', after', placed', names'.trans names, unique'⟩

/-- A child that spells no property leaves everything as it is. -/
theorem Stands.of_noName (stands : Stands source property front nodes folded)
    (noAccessor : accessorName? source node = none) :
    Stands source property front (nodes ++ [node]) folded :=
  stands.beside (setterName?_ne_of_noAccessor noAccessor) stands.known
    fun before _ after _ placed unique => ⟨before, after, placed, rfl, unique⟩

/-- A new property of another name stands behind it. -/
theorem exists_place_append {placed before after : List Property} {stood new : Property}
    (other : new.name ≠ name) (place : placed = before ++ stood :: after)
    (unique : name ∉ after.map (·.name)) :
    ∃ before' after', placed ++ [new] = before' ++ stood :: after' ∧
      before'.map (·.name) = before.map (·.name) ∧ name ∉ after'.map (·.name) := by
  refine ⟨before, after ++ [new], by rw [place, List.append_assoc, List.cons_append], rfl, ?_⟩
  rw [List.map_append, List.mem_append, not_or]
  exact ⟨unique, fun member => other (List.mem_singleton.1 member).symm⟩

/-- An accessor of the property's own name makes it writable if it is a setter. -/
theorem Stands.of_accessor (stands : Stands source property front nodes folded)
    (previous : Option Node) (accessor : accessorName? source node = some property.name) :
    Stands source property front (nodes ++ [node])
      (folded.behind (some (.accessor (setterName? source node).isSome
        (accessorProperty source property.name (setterName? source node).isSome previous node)))) := by
  rw [Folded.behind, if_pos (by simpa [accessorProperty] using stands.known)]
  cases setter : setterName? source node with
  | none =>
      refine stands.beside (by simp [setter]) stands.known fun before _ after _ placed unique =>
        ⟨before, after, placed, rfl, unique⟩
  | some name =>
      have same : name = property.name := eq_of_setterName? setter accessor
      obtain ⟨before, after, placed, names, unique⟩ := stands.place
      refine ⟨stands.known, stands.fresh, before, after, ?_, names, unique⟩
      rw [writtenAmong_concat_of_write (same ▸ setter)]
      dsimp only
      rw [placed]
      exact makeWritable_of_first (writtenAmong source nodes property) (names ▸ stands.fresh)

/-- A property stands where it stood, and a further setter of its name makes it writable. -/
theorem Stands.step (stands : Stands source property front nodes folded) (previous : Option Node)
    (noSignature : signatureName? source node ≠ some property.name) :
    Stands source property front (nodes ++ [node])
      (folded.behind (memberAt? source (previous, node))) := by
  have spells := spells_memberAt? source previous node
  generalize memberAt? source (previous, node) = spelled at spells
  cases spells with
  | @signature new signature noAccessor =>
      have other : new.name ≠ property.name := fun same => noSignature (same ▸ signature)
      exact stands.beside (setterName?_ne_of_noAccessor noAccessor) stands.known
        fun before stood after _ => exists_place_append other
  | @accessor name _ accessor =>
      by_cases same : name = property.name
      · subst same
        exact stands.of_accessor previous accessor
      · have noWrite : setterName? source node ≠ some property.name := fun setter =>
          same (eq_of_setterName? setter accessor).symm
        rw [Folded.behind]
        split
        · -- A name met before: what changes is another property, on either side of this one.
          refine stands.beside noWrite stands.known fun before stood after named placed unique => ?_
          dsimp only
          split
          · obtain ⟨before', after', moved, names, names'⟩ :=
              exists_makeWritable_around (named.trans_ne (Ne.symm same)) before after
            exact ⟨before', after', placed ▸ moved, names, names' ▸ unique⟩
          · exact ⟨before, after, placed, rfl, unique⟩
        · exact stands.beside noWrite (.tail _ stands.known) fun before stood after _ =>
            exists_place_append same
  | method _ noAccessor => exact stands.of_noName noAccessor
  | nothing _ noAccessor => exact stands.of_noName noAccessor

/-- What the first accessor of a name spells can be written when that accessor is a setter. -/
theorem writtenAmong_of_first (previous : Option Node)
    (accessor : accessorName? source node = some name)
    (first : name ∉ nodes.filterMap (accessorName? source)) :
    writtenAmong source (nodes ++ [node])
        (accessorProperty source name (setterName? source node).isSome previous node) =
      accessorProperty source name (setterName? source node).isSome previous node := by
  cases setter : setterName? source node with
  | none =>
      have noSetter : name ∉ nodes.filterMap (setterName? source) := fun written =>
        first (mem_accessors_of_mem_setters written)
      rw [writtenAmong_concat_of_noWrite (by simp [setter])]
      simp [writtenAmong, accessorProperty, noSetter]
  | some other =>
      rw [writtenAmong_concat_of_write (eq_of_setterName? setter accessor ▸ setter)]
      rfl

/-- Behind the first accessor of a name its property stands at the end of what is placed. -/
theorem Past.stands (past : Past source nodes folded) (previous : Option Node)
    (accessor : accessorName? source node = some name)
    (noSignature : name ∉ (nodes ++ [node]).filterMap (signatureName? source))
    (first : name ∉ nodes.filterMap (accessorName? source)) :
    Stands source (accessorProperty source name (setterName? source node).isSome previous node)
      (placedNames source nodes) (nodes ++ [node])
      (folded.behind (memberAt? source (previous, node))) := by
  rw [mem_filterMap_concat, not_or] at noSignature
  have spells := spells_memberAt? source previous node
  generalize memberAt? source (previous, node) = spelled at spells
  cases spells with
  | signature _ noAccessor => exact absurd (noAccessor.symm.trans accessor) (by simp)
  | method _ noAccessor => exact absurd (noAccessor.symm.trans accessor) (by simp)
  | nothing _ noAccessor => exact absurd (noAccessor.symm.trans accessor) (by simp)
  | accessor _ accessor' =>
      obtain rfl := Option.some.inj (accessor.symm.trans accessor')
      have fresh : name ∉ folded.accessors := fun met => first ((past.accessors name).1 met)
      rw [Folded.behind, if_neg (by simpa [accessorProperty] using fresh)]
      refine ⟨.head _, fun placed => ?_, folded.placed, [], ?_, past.names, List.not_mem_nil⟩
      · exact (mem_of_mem_placedNames placed).elim noSignature.1 first
      · rw [writtenAmong_of_first previous accessor first]

/-- Behind all the children of a body the property of an accessor's name stands where the first accessor
of the name placed it. -/
theorem stands_behindAll (front behind : List Node) (first : Node)
    (accessor : accessorName? source first = some name)
    (noSignature : name ∉ (front ++ first :: behind).filterMap (signatureName? source))
    (fresh : name ∉ front.filterMap (accessorName? source)) :
    Stands source
      (accessorProperty source name (setterName? source first).isSome
        (front.filter Node.isNamed).getLast? first)
      (placedNames source front) (front ++ first :: behind)
      (Folded.behindAll source ⟨[], []⟩ (Node.withPrevious (front ++ first :: behind))) := by
  rw [List.append_cons] at noSignature ⊢
  rw [List.filterMap_append, List.mem_append, not_or] at noSignature
  -- The walk in front of the accessor has not met its name; the accessor places the property, and the
  -- walk behind it keeps what `Stands` says of it.
  have past := past_behindAll source (Node.withPreviousFrom none front)
  rw [map_snd_withPreviousFrom] at past
  have start := past.stands (front.filter Node.isNamed).getLast? accessor noSignature.1 fresh
  let previous := if first.isNamed then some first else (front.filter Node.isNamed).getLast?
  have otherNames : ∀ entry ∈ Node.withPreviousFrom previous behind,
      signatureName? source entry.2 ≠ some name := fun entry member signature => by
    have inBehind := List.mem_map_of_mem (f := Prod.snd) member
    rw [map_snd_withPreviousFrom] at inBehind
    exact noSignature.2 (List.mem_filterMap.2 ⟨entry.2, inBehind, signature⟩)
  have run := Folded.behindAll_keeps (Node.withPreviousFrom previous behind)
    (fun _ _ entry member stands => stands.step entry.1 (otherNames entry member)) start
  rw [map_snd_withPreviousFrom] at run
  rw [← List.append_cons] at run ⊢
  rw [Node.withPrevious, withPreviousFrom_append, Option.or_none, Node.withPreviousFrom,
    Folded.behindAll, List.foldl_append, List.foldl_cons]
  exact run

/-- The members of a body make one property of the accessors of a name. -/
theorem foldsAccessors_foldProperties (children : List Node)
    (accessor : name ∈ children.filterMap (accessorName? source))
    (noSignature : name ∉ children.filterMap (signatureName? source)) :
    FoldsAccessors source children name
      (foldProperties [] [] (membersAt source (Node.withPrevious children))) := by
  rw [foldProperties_membersAt ⟨[], []⟩]
  have past := past_behindAll source (Node.withPrevious children)
  rw [Node.withPrevious, map_snd_withPreviousFrom] at past
  refine ⟨past.names, ?_⟩
  obtain ⟨front, first, behind, rfl, found, fresh⟩ := exists_first_of_mem_filterMap accessor
  have stands := stands_behindAll front behind first found noSignature fresh
  obtain ⟨before, after, placed, names, unique⟩ := stands.place
  exact ⟨front, first, behind, before, after, rfl, found, fresh, placed, names,
    names ▸ stands.fresh, unique⟩

theorem interfaceMembers_eq (source : List Char) (body : Node) :
    interfaceMembers source body = membersAt source (Node.withPrevious body.children) := by
  rfl

/-- In an interface the accessors of a name that is not hidden fold to one property, whatever else the
body holds, unless a property signature has the same name. -/
theorem accessors_fold_to_one_property (id : SourceId) (source : List Char) (owner name : String)
    (candidate : Candidate) (body : Node) (hasBody : candidate.node.child? "body" = some body)
    (accessor : name ∈ body.children.filterMap (accessorName? source))
    (noSignature : name ∉ body.children.filterMap (signatureName? source)) :
    FoldsAccessors source body.children name
      (readInterface id source owner candidate).1.properties := by
  have folds := foldsAccessors_foldProperties body.children accessor noSignature
  rw [← interfaceMembers_eq] at folds
  simpa only [readInterface, bodyMembers, hasBody] using folds

/-- The text of an interface in which a property stands between a getter and a setter. -/
def mixedText : List Char :=
  "interface A \x7b get b(): C; d: C; set b(e: C); \x7d".toList

/-- A type with a colon in front of it. -/
def colonTypeNode (field : String) (start : Nat) : Node :=
  ⟨{ kind := "type_annotation", isNamed := true, start := start, stop := start + 3,
     field := some field },
    [⟨{ kind := ":", start := start, stop := start + 1 }, []⟩,
      ⟨{ kind := "type_identifier", isNamed := true, start := start + 2, stop := start + 3 }, []⟩]⟩

/-- An empty parameter list. -/
def noParametersNode (start : Nat) : Node :=
  ⟨{ kind := "formal_parameters", isNamed := true, start := start, stop := start + 2,
     field := some "parameters" },
    [⟨{ kind := "(", start := start, stop := start + 1 }, []⟩,
      ⟨{ kind := ")", start := start + 1, stop := start + 2 }, []⟩]⟩

/-- The getter in the body. -/
def mixedGetterNode : Node :=
  ⟨{ kind := "method_signature", isNamed := true, start := 14, stop := 24 },
    [⟨{ kind := "get", start := 14, stop := 17 }, []⟩,
      ⟨{ kind := "property_identifier", isNamed := true, start := 18, stop := 19,
         field := some "name" }, []⟩,
      noParametersNode 19, colonTypeNode "return_type" 21]⟩

/-- The property in the body. -/
def mixedPropertyNode : Node :=
  ⟨{ kind := "property_signature", isNamed := true, start := 26, stop := 30 },
    [⟨{ kind := "property_identifier", isNamed := true, start := 26, stop := 27,
        field := some "name" }, []⟩,
      colonTypeNode "type" 27]⟩

/-- The setter in the body. -/
def mixedSetterNode : Node :=
  ⟨{ kind := "method_signature", isNamed := true, start := 32, stop := 43 },
    [⟨{ kind := "set", start := 32, stop := 35 }, []⟩,
      ⟨{ kind := "property_identifier", isNamed := true, start := 36, stop := 37,
         field := some "name" }, []⟩,
      ⟨{ kind := "formal_parameters", isNamed := true, start := 37, stop := 43,
         field := some "parameters" },
        [⟨{ kind := "(", start := 37, stop := 38 }, []⟩,
          ⟨{ kind := "required_parameter", isNamed := true, start := 38, stop := 42 },
            [⟨{ kind := "identifier", isNamed := true, start := 38, stop := 39,
                field := some "pattern" }, []⟩,
              colonTypeNode "type" 39]⟩,
          ⟨{ kind := ")", start := 42, stop := 43 }, []⟩]⟩]⟩

/-- The body of the interface. -/
def mixedBodyNode : Node :=
  ⟨{ kind := "interface_body", isNamed := true, start := 12, stop := 46, field := some "body" },
    [⟨{ kind := "\x7b", start := 12, stop := 13 }, []⟩,
      mixedGetterNode,
      ⟨{ kind := ";", start := 24, stop := 25 }, []⟩,
      mixedPropertyNode,
      ⟨{ kind := ";", start := 30, stop := 31 }, []⟩,
      mixedSetterNode,
      ⟨{ kind := ";", start := 43, stop := 44 }, []⟩,
      ⟨{ kind := "\x7d", start := 45, stop := 46 }, []⟩]⟩

/-- The interface. -/
def mixedCandidate : Candidate where
  isInterface := true
  isAbstract := false
  setting := {}
  node :=
    ⟨{ kind := "interface_declaration", isNamed := true, stop := 46 },
      [⟨{ kind := "interface", stop := 9 }, []⟩,
        ⟨{ kind := "type_identifier", isNamed := true, start := 10, stop := 11,
           field := some "name" }, []⟩,
        mixedBodyNode]⟩

/-- A getter with a setter behind a property stands in front of that property, and can be written. -/
theorem accessors_fold_to_one_property_mixed :
    mixedCandidate.node.child? "body" = some mixedBodyNode ∧
      "b" ∈ mixedBodyNode.children.filterMap (accessorName? mixedText) ∧
      "b" ∉ mixedBodyNode.children.filterMap (signatureName? mixedText) ∧
      FoldsAccessors mixedText mixedBodyNode.children "b"
        (readInterface 0 mixedText "A" mixedCandidate).1.properties ∧
      placedNames mixedText mixedBodyNode.children = ["b", "d"] ∧
      "b" ∈ mixedBodyNode.children.filterMap (setterName? mixedText) := by
  have hasBody : mixedCandidate.node.child? "body" = some mixedBodyNode := by rfl
  have accessor : "b" ∈ mixedBodyNode.children.filterMap (accessorName? mixedText) := by decide
  have noSignature : "b" ∉ mixedBodyNode.children.filterMap (signatureName? mixedText) := by decide
  exact ⟨hasBody, accessor, noSignature,
    accessors_fold_to_one_property 0 mixedText "A" "b" mixedCandidate mixedBodyNode hasBody
      accessor noSignature, by decide, by decide⟩

end DartBindings.Extraction
