import Mathlib.Data.List.Flatten
import Mathlib.Data.List.Forall2
import Mathlib.Data.List.Nodup
import Mathlib.Data.List.Pairwise
import DartBindings.Proofs.Emission.HoistedNames
import DartBindings.Proofs.Emission.UnitText

/-!
The names of the classes that all units of a library declare.

The units are parts of one library, so no two of them may declare one name.  Within a unit the hoisted
names are the keys of a table, and so they differ.  Nothing looks beyond the unit: a place in one class
can give the name of another class, or a name that another class hoists as well.  The names of all
classes differ exactly when no name that is printed for a shape is in use elsewhere.

Main exports: declaredNames, PrintedApart, nodup_flatMap_declaredNames_iff
-/

namespace DartBindings.Emission

/-! ### Where keys come from -/

/-- A stretch of the walk that meets some occurrences, from one table to another.  Each new key names an
occurrence that was met or one that stands inside an entry. -/
structure KeysNamed (before : Table Shape) (met : List Occurrence) (after : Table Shape) : Prop where
  kept : before.entries <+: after.entries
  named : ∀ key ∈ after.keys, key ∈ before.keys ∨ (∃ occurrence ∈ met, occurrence.name = key) ∨
    ∃ entry ∈ after.entries, ∃ inner ∈ shapesInside entry, inner.name = key

namespace KeysNamed

variable {before between after : Table Shape} {met further : List Occurrence}

theorem nil (table : Table Shape) : KeysNamed table [] table where
  kept := List.prefix_refl _
  named := fun _ isKey => .inl isKey

theorem known {table : Table Shape} {occurrence : Occurrence} (_ : occurrence.name ∈ table.keys) :
    KeysNamed table [occurrence] table where
  kept := List.prefix_refl _
  named := fun _ isKey => .inl isKey

/-- Stretches of the walk compose. -/
theorem append (first : KeysNamed before met between) (second : KeysNamed between further after) :
    KeysNamed before (met ++ further) after where
  kept := first.kept.trans second.kept
  named := by
    intro key isKey
    rcases second.named key isKey with isBetween | ⟨occurrence, member, same⟩ | inside
    · rcases first.named key isBetween with isBefore | ⟨occurrence, member, same⟩ |
        ⟨entry, isEntry, inside⟩
      · exact .inl isBefore
      · exact .inr (.inl ⟨occurrence, List.mem_append_left _ member, same⟩)
      · exact .inr (.inr ⟨entry, second.kept.subset isEntry, inside⟩)
    · exact .inr (.inl ⟨occurrence, List.mem_append_right _ member, same⟩)
    · exact .inr (.inr inside)

/-- Recording an occurrence of a new name and noting what is inside its shape. -/
theorem fresh {occurrence : Occurrence} (absent : occurrence.name ∉ before.keys)
    (inside : KeysNamed (before.set occurrence.name occurrence.shape)
      (shapesInside occurrence.entry) after) :
    KeysNamed before [occurrence] after := by
  have entries : (before.set occurrence.name occurrence.shape).entries
      = before.entries ++ [occurrence.entry] :=
    Table.entries_set_of_absent absent
  have kept := inside.kept
  rw [entries] at kept
  refine ⟨(List.prefix_append _ _).trans kept, fun key isKey => ?_⟩
  rcases inside.named key isKey with isOld | ⟨inner, isInner, same⟩ | further
  · rw [Table.keys_set, if_neg absent, List.mem_append, List.mem_singleton] at isOld
    rcases isOld with isBefore | rfl
    · exact .inl isBefore
    · exact .inr (.inl ⟨occurrence, List.mem_singleton_self _, rfl⟩)
  · have recorded : occurrence.entry ∈ after.entries :=
      kept.subset (List.mem_append_right _ (List.mem_singleton_self _))
    exact .inr (.inr ⟨occurrence.entry, recorded, inner, isInner, same⟩)
  · exact .inr (.inr further)

end KeysNamed

variable {config : Config} {cls : Class} {name : String}

/-- The unit of a class prints the name for a shape, with some rules. -/
def PrintsName (config : Config) (cls : Class) (name : String) : Prop :=
  ∃ mapper place shape, (⟨config, mapper⟩ : Emitter).Prints cls place shape ∧
    place.literalName = name

/-- The hoisted names are those that are printed for shapes. -/
theorem mem_keys_hoistedShapes_iff :
    name ∈ (hoistedShapes config cls).keys ↔ PrintsName config cls name := by
  constructor
  · intro isKey
    have walk : KeysNamed Table.empty (memberShapes config cls) (hoistedShapes config cls) := by
      rw [hoistedShapes_eq_foldl]
      exact foldl_note .nil .append .known .fresh _ _
    rcases walk.named name isKey with inEmpty | ⟨occurrence, member, same⟩ |
      ⟨entry, isEntry, inner, isInner, same⟩
    · cases inEmpty
    · obtain ⟨site, isMember, inSite⟩ := List.mem_flatMap.1 member
      exact ⟨.identity, _, _, prints_of_mem_shapes (.inl isMember) inSite, same⟩
    · obtain ⟨site, isSite, inSite⟩ := List.mem_flatMap.1 isInner
      exact ⟨.identity, _, _, prints_of_mem_shapes (.inr ⟨entry, isEntry, isSite⟩) inSite, same⟩
  · rintro ⟨mapper, place, shape, printed, rfl⟩
    obtain ⟨site, spells, inSite⟩ := printed.occurrence
    exact name_mem_hoistedShapes spells inSite

/-! ### Names of all units -/

/-- The names of the classes that the unit of a class declares: the hoisted ones in the order of their
declarations, and the class itself. -/
def declaredNames (config : Config) (cls : Class) : List String :=
  (hoistedShapes config cls).keys ++ [cls.name]

/-- The lines of a unit that begin a class are one for each declared name, in order. -/
theorem Emitter.declaredNames_begin (emitter : Emitter) (cls : Class) :
    List.Forall₂ BeginsClass (declaredNames emitter.config cls)
      (((emitter.items cls).flatMap Item.lines).filter isClassLine) := by
  rw [emitter.filter_isClassLine cls, declaredNames]
  refine List.rel_append ?_ (.cons (emitter.beginsClass_headerLine cls) .nil)
  rw [List.forall₂_map_right_iff, List.forall₂_same]
  exact fun name _ => beginsClass_shape name

/-- The names in one unit differ unless the class has the name of a shape in it. -/
theorem nodup_declaredNames_iff :
    (declaredNames config cls).Nodup ↔ ¬PrintsName config cls cls.name := by
  have keys : (hoistedShapes config cls).keys.Nodup := (hoistedShapes config cls).distinct
  rw [declaredNames, List.nodup_append_comm, List.singleton_append, List.nodup_cons,
    mem_keys_hoistedShapes_iff]
  exact and_iff_left keys

/-- A unit declares its class and the names that it prints for shapes. -/
theorem mem_declaredNames_iff :
    name ∈ declaredNames config cls ↔ PrintsName config cls name ∨ name = cls.name := by
  rw [declaredNames, List.mem_append, List.mem_singleton, mem_keys_hoistedShapes_iff]

/-- No name that a unit prints for a shape is in use elsewhere: it is not the name of a class, and no
unit of a class with another name prints it. -/
structure PrintedApart (config : Config) (library : Library) : Prop where
  ofClasses : ∀ cls ∈ library.classes, ∀ other ∈ library.classes, ¬PrintsName config cls other.name
  ofUnits : ∀ cls ∈ library.classes, ∀ other ∈ library.classes, cls.name ≠ other.name →
    ∀ name, PrintsName config cls name → ¬PrintsName config other name

variable {library : Library} {other : Class}

/-- Where printed names are apart, units of differently named classes declare different names. -/
theorem PrintedApart.disjoint (apart : PrintedApart config library) (known : cls ∈ library.classes)
    (otherKnown : other ∈ library.classes) (different : cls.name ≠ other.name) :
    (declaredNames config cls).Disjoint (declaredNames config other) := by
  intro name isFirst isSecond
  rw [mem_declaredNames_iff] at isFirst isSecond
  rcases isFirst with printed | rfl
  · rcases isSecond with printedToo | rfl
    · exact apart.ofUnits cls known other otherKnown different name printed printedToo
    · exact apart.ofClasses cls known other otherKnown printed
  · rcases isSecond with printed | same
    · exact apart.ofClasses other otherKnown cls known printed
    · exact different same

/-- Where printed names are apart and classes have different names, so have all declarations. -/
theorem PrintedApart.nodup (apart : PrintedApart config library)
    (distinct : (library.classes.map (·.name)).Nodup) :
    (library.classes.flatMap (declaredNames config)).Nodup := by
  rw [List.nodup_flatMap]
  refine ⟨fun cls known => nodup_declaredNames_iff.2 (apart.ofClasses cls known cls known), ?_⟩
  exact (List.pairwise_map.1 distinct).imp_of_mem fun known otherKnown different =>
    apart.disjoint known otherKnown different

section Different

variable (different : (library.classes.flatMap (declaredNames config)).Nodup)
include different

/-- If all declarations have different names, so have the classes of the library. -/
theorem nodup_names_of_nodup : (library.classes.map (·.name)).Nodup := by
  obtain ⟨-, acrossUnits⟩ := List.nodup_flatMap.1 different
  refine List.pairwise_map.2 (acrossUnits.imp fun {cls other} apart same => ?_)
  exact apart (mem_declaredNames_iff.2 (.inr rfl)) (mem_declaredNames_iff.2 (.inr same))

/-- If all declarations have different names, no printed name is in use elsewhere. -/
theorem PrintedApart.of_nodup : PrintedApart config library := by
  obtain ⟨inUnits, acrossUnits⟩ := List.nodup_flatMap.1 different
  have symmetric : Std.Symm (Function.onFun List.Disjoint (declaredNames config)) :=
    ⟨fun _ _ => List.disjoint_symm⟩
  have across : ∀ cls ∈ library.classes, ∀ other ∈ library.classes, cls ≠ other →
      (declaredNames config cls).Disjoint (declaredNames config other) :=
    fun _ known _ otherKnown => acrossUnits.forall known otherKnown
  constructor
  · -- A class and a shape of the same class meet within its unit, all other pairs across units.
    intro cls known other otherKnown printed
    by_cases same : cls = other
    · subst same
      exact nodup_declaredNames_iff.1 (inUnits cls known) printed
    · exact across cls known other otherKnown same (mem_declaredNames_iff.2 (.inl printed))
        (mem_declaredNames_iff.2 (.inr rfl))
  · intro cls known other otherKnown differentNames name printed printedToo
    exact across cls known other otherKnown (fun same => differentNames (congrArg Class.name same))
      (mem_declaredNames_iff.2 (.inl printed)) (mem_declaredNames_iff.2 (.inl printedToo))

end Different

/-- All classes that the units of a library declare have different names exactly when the classes of
the library do and no name that is printed for a shape is in use elsewhere.  The names are those in the
lines that begin a class: whatever the rules, each unit has one such line for each of them. -/
theorem nodup_flatMap_declaredNames_iff (config : Config) (library : Library) :
    (∀ mapper, ∀ cls ∈ library.classes, List.Forall₂ BeginsClass (declaredNames config cls)
        ((((⟨config, mapper⟩ : Emitter).items cls).flatMap Item.lines).filter isClassLine)) ∧
      ((library.classes.flatMap (declaredNames config)).Nodup ↔
        (library.classes.map (·.name)).Nodup ∧ PrintedApart config library) := by
  refine ⟨fun mapper cls _ => Emitter.declaredNames_begin ⟨config, mapper⟩ cls, ?_, ?_⟩
  · intro different
    exact ⟨nodup_names_of_nodup different, .of_nodup different⟩
  · rintro ⟨distinct, apart⟩
    exact apart.nodup distinct

/-- A class with a getter that gives a shape. -/
def scene : Class :=
  { name := "Scene"
    getters :=
      [ { name := "options"
          type := .literal { properties := [{ name := "antialias", type := .ofName "bool" }] } } ] }

/-- A class that has the name of the place of that shape. -/
def sceneOptions : Class :=
  { name := "SceneOptions", getters := [{ name := "zoom", type := .ofName "num" }] }

/-- The configuration that wants both classes. -/
def wantingScene : Config :=
  { libraryName := "lib"
    declarations := (Table.empty.set "Scene" .all).set "SceneOptions" .all }

/-- The name of a place can be the name of a class of the library: then two units declare it. -/
theorem not_nodup_flatMap_declaredNames_scene :
    ¬ ∀ (config : Config) (library : Library), (library.classes.map (·.name)).Nodup →
      (library.classes.flatMap (declaredNames config)).Nodup := by
  intro different
  have names : [scene, sceneOptions].flatMap (declaredNames wantingScene)
      = ["SceneOptions", "Scene", "SceneOptions"] := by
    rfl
  have nodup := different wantingScene { classes := [scene, sceneOptions] } (by decide)
  rw [names] at nodup
  revert nodup
  decide

end DartBindings.Emission
