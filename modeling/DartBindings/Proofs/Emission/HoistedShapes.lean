import DartBindings.Proofs.Emission.Occurrence
import DartBindings.Proofs.Table

/-!
The table of hoisted shapes.

Noting an occurrence may go deep into its shape before the occurrences behind it are noted, and it
stops where a name is known.  So in the middle of the walk the table is not closed: the names inside
a recorded shape may still be missing.  What holds of every stretch of the walk is stated of the
table before it and the table behind it, and stretches compose.

Main exports: Nested, memberShapes, hoistedShapes_noted, nested_of_mem_hoistedShapes,
name_mem_hoistedShapes
-/

namespace DartBindings.Emission

/-- The shapes inside a hoisted shape. -/
def shapesInside (entry : String × Shape) : List Occurrence :=
  (shapeSites entry.1 entry.2).flatMap Site.shapes

/-- The name of a shape and the shape. -/
def Occurrence.entry (occurrence : Occurrence) : String × Shape :=
  (occurrence.name, occurrence.shape)

/-- The occurrences that are met, and whatever stands inside their shapes at any depth. -/
inductive Nested (met : List Occurrence) : Occurrence → Prop
  | met {occurrence : Occurrence} (member : occurrence ∈ met) : Nested met occurrence
  | inside {outer inner : Occurrence} (nested : Nested met outer)
      (member : inner ∈ shapesInside outer.entry) : Nested met inner

namespace Nested

variable {met further : List Occurrence} {occurrence : Occurrence}

/-- What is nested in some occurrences is nested in more of them. -/
theorem of_subset (nested : Nested met occurrence) (subset : met ⊆ further) :
    Nested further occurrence := by
  induction nested with
  | met member =>
      exact .met (subset member)
  | inside _ member ih =>
      exact .inside ih member

/-- What is nested inside the shape of an occurrence is nested in the occurrence. -/
theorem of_inside {outer : Occurrence} (nested : Nested (shapesInside outer.entry) occurrence) :
    Nested [outer] occurrence := by
  induction nested with
  | met member =>
      exact .inside (.met (List.mem_singleton_self outer)) member
  | inside _ member ih =>
      exact .inside ih member

end Nested

/-- A stretch of the walk that meets some occurrences, from one table to another.  Entries stay, each
occurrence gets its name, and with each new entry the names inside it; and a new entry is nested in
what was met. -/
structure Noted (before : Table Shape) (met : List Occurrence) (after : Table Shape) : Prop where
  kept : before.entries <+: after.entries
  named : ∀ occurrence ∈ met, occurrence.name ∈ after.keys
  closed : ∀ entry ∈ after.entries, entry ∈ before.entries ∨
    ∀ inner ∈ shapesInside entry, inner.name ∈ after.keys
  found : ∀ entry ∈ after.entries, entry ∈ before.entries ∨
    ∃ occurrence, entry = occurrence.entry ∧ Nested met occurrence

namespace Noted

variable {before between after : Table Shape} {met further : List Occurrence}

theorem nil (table : Table Shape) : Noted table [] table where
  kept := List.prefix_refl _
  named := by
    intro occurrence member
    cases member
  closed := fun _ member => .inl member
  found := fun _ member => .inl member

/-- A stretch of the walk keeps the names that were known. -/
theorem keys_subset (noted : Noted before met after) : before.keys ⊆ after.keys :=
  Table.keys_subset_of_prefix noted.kept

/-- Stretches of the walk compose. -/
theorem append (first : Noted before met between) (second : Noted between further after) :
    Noted before (met ++ further) after where
  kept := first.kept.trans second.kept
  named := by
    intro occurrence member
    rcases List.mem_append.1 member with inMet | inFurther
    · exact second.keys_subset (first.named occurrence inMet)
    · exact second.named occurrence inFurther
  closed := by
    intro entry member
    rcases second.closed entry member with isBetween | inside
    · rcases first.closed entry isBetween with isBefore | inside
      · exact .inl isBefore
      · exact .inr fun inner isInner => second.keys_subset (inside inner isInner)
    · exact .inr inside
  found := by
    intro entry member
    rcases second.found entry member with isBetween | ⟨occurrence, same, nested⟩
    · rcases first.found entry isBetween with isBefore | ⟨occurrence, same, nested⟩
      · exact .inl isBefore
      · exact .inr ⟨occurrence, same, nested.of_subset (List.subset_append_left met further)⟩
    · exact .inr ⟨occurrence, same, nested.of_subset (List.subset_append_right met further)⟩

/-- Passing over an occurrence of a known name. -/
theorem known {table : Table Shape} {occurrence : Occurrence} (isKey : occurrence.name ∈ table.keys) :
    Noted table [occurrence] table where
  kept := List.prefix_refl _
  named := by
    intro other member
    rw [List.mem_singleton.1 member]
    exact isKey
  closed := fun _ member => .inl member
  found := fun _ member => .inl member

/-- Recording an occurrence of a new name and noting what is inside its shape. -/
theorem fresh {occurrence : Occurrence} (absent : occurrence.name ∉ before.keys)
    (inside : Noted (before.set occurrence.name occurrence.shape) (shapesInside occurrence.entry)
      after) :
    Noted before [occurrence] after := by
  have entries : (before.set occurrence.name occurrence.shape).entries
      = before.entries ++ [occurrence.entry] :=
    Table.entries_set_of_absent absent
  -- The walk inside only adds entries, so what is recorded first stays to the end.
  have recorded : occurrence.entry ∈ after.entries := by
    apply inside.kept.subset
    rw [entries]
    exact List.mem_append_right _ (List.mem_singleton_self _)
  have old : ∀ entry ∈ (before.set occurrence.name occurrence.shape).entries,
      entry ∈ before.entries ∨ entry = occurrence.entry := by
    intro entry member
    rw [entries, List.mem_append, List.mem_singleton] at member
    exact member
  refine ⟨?kept, ?named, ?closed, ?found⟩
  case kept =>
    have kept := inside.kept
    rw [entries] at kept
    exact (List.prefix_append _ _).trans kept
  case named =>
    intro other member
    rw [List.mem_singleton.1 member]
    exact Table.mem_keys_of_mem_entries recorded
  case closed =>
    intro entry member
    rcases inside.closed entry member with isOld | closed
    · rcases old entry isOld with isBefore | rfl
      · exact .inl isBefore
      · exact .inr inside.named
    · exact .inr closed
  case found =>
    intro entry member
    rcases inside.found entry member with isOld | ⟨inner, same, nested⟩
    · rcases old entry isOld with isBefore | rfl
      · exact .inl isBefore
      · exact .inr ⟨occurrence, rfl, .met (List.mem_singleton_self _)⟩
    · exact .inr ⟨inner, same, nested.of_inside⟩

end Noted

theorem sizeOf_lt_of_mem_signatureSites {scope : Scope} {signature : Signature} {site : Site}
    (member : site ∈ signatureSites scope signature) :
    sizeOf site.type < sizeOf (Ty.function signature) := by
  rcases mem_signatureSites_iff.1 member with rfl | ⟨parameter, isParameter, rfl⟩
  · exact Ty.sizeOf_result_lt signature
  · exact Ty.sizeOf_parameter_lt isParameter

/-- The type of a site of a shape is smaller than the shape. -/
theorem sizeOf_lt_of_mem_shapeSites {name : String} {shape : Shape} {site : Site}
    (member : site ∈ shapeSites name shape) : sizeOf site.type < sizeOf shape := by
  obtain ⟨properties, calls⟩ := shape
  rw [Shape.mk.sizeOf_spec]
  rcases List.mem_append.1 member with inProperties | inCalls
  · obtain ⟨⟨propertyName, type, isStatic, isReadonly, doc⟩, isProperty, rfl⟩ :=
      List.mem_map.1 inProperties
    have smaller := List.sizeOf_lt_of_mem isProperty
    simp only [Property.mk.sizeOf_spec] at smaller
    simp only
    omega
  · obtain ⟨signature, isCall, isSite⟩ := List.mem_flatMap.1 inCalls
    have inCall := sizeOf_lt_of_mem_signatureSites isSite
    have smaller : sizeOf signature < sizeOf calls := List.sizeOf_lt_of_mem isCall
    rw [Ty.function.sizeOf_spec] at inCall
    omega

theorem sizeOf_lt_of_mem_shapesInside {occurrence inner : Occurrence}
    (member : inner ∈ shapesInside occurrence.entry) :
    sizeOf inner.shape < sizeOf occurrence.shape := by
  obtain ⟨site, isSite, inSite⟩ := List.mem_flatMap.1 member
  exact Nat.lt_trans (sizeOf_lt_of_mem_shapesIn inSite) (sizeOf_lt_of_mem_shapeSites isSite)

section Walk

variable {holds : Table Shape → List Occurrence → Table Shape → Prop}
  (nil : ∀ table, holds table [] table)
  (append : ∀ {before between after : Table Shape} {met further : List Occurrence},
    holds before met between → holds between further after → holds before (met ++ further) after)
  (known : ∀ {table : Table Shape} {occurrence : Occurrence}, occurrence.name ∈ table.keys →
    holds table [occurrence] table)
  (fresh : ∀ {before after : Table Shape} {occurrence : Occurrence},
    occurrence.name ∉ before.keys →
      holds (before.set occurrence.name occurrence.shape) (shapesInside occurrence.entry) after →
        holds before [occurrence] after)

include nil append known fresh

/-- The induction is on a bound of the sizes of the shapes, since a new shape sends the walk into
smaller ones. -/
theorem foldl_note_of_small (bound : Nat) :
    ∀ (met : List Occurrence) (found : Table Shape),
      (∀ occurrence ∈ met, sizeOf occurrence.shape < bound) →
        holds found met (met.foldl note found) := by
  induction bound with
  | zero =>
      intro met found small
      cases met with
      | nil =>
          exact nil found
      | cons occurrence rest =>
          exact absurd (small occurrence List.mem_cons_self) (Nat.not_lt_zero _)
  | succ bound ihBound =>
      intro met
      induction met with
      | nil =>
          intro found _
          exact nil found
      | cons occurrence rest ihRest =>
          intro found small
          obtain ⟨headSmall, restSmall⟩ := List.forall_mem_cons.1 small
          -- The inner induction follows the list; only a new name needs the bound.
          have head : holds found [occurrence] (note found occurrence) := by
            rw [note_eq]
            by_cases isKey : occurrence.name ∈ found.keys
            · rw [if_pos (Table.contains_iff_mem_keys.2 isKey)]
              exact known isKey
            · rw [if_neg fun contains => isKey (Table.contains_iff_mem_keys.1 contains)]
              refine fresh isKey (ihBound _ _ fun inner member => ?_)
              have smaller := sizeOf_lt_of_mem_shapesInside member
              omega
          exact append head (ihRest _ restSmall)

/-- What holds of passing over a known name and of recording a new one, and of stretches of the walk
one after the other, holds of noting occurrences from any table. -/
theorem foldl_note (met : List Occurrence) (found : Table Shape) :
    holds found met (met.foldl note found) := by
  apply foldl_note_of_small nil append known fresh (sizeOf met)
  intro occurrence member
  have smaller := List.sizeOf_lt_of_mem member
  rw [Occurrence.mk.sizeOf_spec] at smaller
  omega

end Walk

/-- The shapes in the types of the wanted members of a class. -/
def memberShapes (config : Config) (cls : Class) : List Occurrence :=
  (memberSites config cls).flatMap Site.shapes

/-- A site of the wanted members of a class or of a shape that is hoisted from them. -/
def Spells (config : Config) (cls : Class) (site : Site) : Prop :=
  site ∈ memberSites config cls ∨
    ∃ entry ∈ (hoistedShapes config cls).entries, site ∈ shapeSites entry.1 entry.2

variable {config : Config} {cls : Class}

/-- Hoisting notes the shapes in the wanted members, one after the other. -/
theorem hoistedShapes_eq_foldl (config : Config) (cls : Class) :
    hoistedShapes config cls = (memberShapes config cls).foldl note Table.empty := by
  rw [hoistedShapes_eq, collectSites_eq_foldl]
  rfl

/-- Hoisting is a stretch of the walk that meets the shapes in the wanted members. -/
theorem hoistedShapes_noted (config : Config) (cls : Class) :
    Noted Table.empty (memberShapes config cls) (hoistedShapes config cls) := by
  rw [hoistedShapes_eq_foldl]
  exact foldl_note .nil .append .known .fresh _ _

/-- A hoisted shape is nested in the wanted members, and has the name of its place there. -/
theorem nested_of_mem_hoistedShapes {entry : String × Shape}
    (isEntry : entry ∈ (hoistedShapes config cls).entries) :
    ∃ occurrence, entry = occurrence.entry ∧ Nested (memberShapes config cls) occurrence := by
  rcases (hoistedShapes_noted config cls).found entry isEntry with inEmpty | nested
  · cases inEmpty
  · exact nested

/-- Every shape at a site has its name in the table. -/
theorem name_mem_hoistedShapes {site : Site} {occurrence : Occurrence}
    (spells : Spells config cls site) (inSite : occurrence ∈ site.shapes) :
    occurrence.name ∈ (hoistedShapes config cls).keys := by
  have noted := hoistedShapes_noted config cls
  rcases spells with isMember | ⟨entry, isEntry, isSite⟩
  · exact noted.named occurrence (List.mem_flatMap.2 ⟨site, isMember, inSite⟩)
  · rcases noted.closed entry isEntry with inEmpty | inside
    · cases inEmpty
    · exact inside occurrence (List.mem_flatMap.2 ⟨site, isSite, inSite⟩)

/-- Every shape at a site is nested in the wanted members. -/
theorem nested_of_spells {site : Site} {occurrence : Occurrence}
    (spells : Spells config cls site) (inSite : occurrence ∈ site.shapes) :
    Nested (memberShapes config cls) occurrence := by
  rcases spells with isMember | ⟨entry, isEntry, isSite⟩
  · exact .met (List.mem_flatMap.2 ⟨site, isMember, inSite⟩)
  · obtain ⟨outer, rfl, nested⟩ := nested_of_mem_hoistedShapes isEntry
    exact .inside nested (List.mem_flatMap.2 ⟨site, isSite, inSite⟩)

end DartBindings.Emission
