import DartBindings.Proofs.Files.Directory
import DartBindings.Proofs.Pipeline.Outcome
import DartBindings.Proofs.Text.Casing
import Mathlib.Data.List.Nodup

/-!
What the files of units hold.

Units are written one after the other, and a later one replaces an earlier one at the same place.  So
after all of them the file of a class holds the unit of the last class whose file has that place.  Two
names without a separator have one place exactly when they are equal in lowercase.

Main exports: OnePlace, UnitsKept, onePlace_iff, unitsKept_iff_of_written
-/

namespace DartBindings

open Emission (OutputUnit Emitter unitFileName)

/-! ### Names of files -/

namespace Emission

variable {name other : String}

/-- The file of a class whose name has no separator is named without one. -/
theorem separator_notMem_unitFileName (plain : '/' ∉ name.toList) :
    '/' ∉ (unitFileName name).toList := by
  rw [unitFileName, String.toList_append, List.mem_append, Text.lowercase, String.toList_ofList]
  rintro (inName | inExtension)
  · exact Text.separator_notMem_lowerFrom plain inName
  · exact absurd inExtension (by decide)

theorem getLast?_unitFileName (name : String) : (unitFileName name).toList.getLast? = some 't' := by
  rw [unitFileName, String.toList_append, List.getLast?_append]
  rfl

/-- The file of a class has a name, and is neither the folder nor the one above. -/
theorem names_unitFileName (name : String) : Directory.Names (unitFileName name) := by
  have ends := getLast?_unitFileName name
  constructor
  · rw [Directory.isStay, Bool.or_eq_false_iff, beq_eq_false_iff_ne]
    constructor
    · rw [← Bool.not_eq_true, String.isEmpty_iff]
      intro empty
      rw [empty] at ends
      cases ends
    · intro dot
      rw [dot] at ends
      cases ends
  · intro up
    rw [up] at ends
    cases ends

/-- Two names have one file name exactly when they are equal in lowercase. -/
theorem unitFileName_eq_iff :
    unitFileName name = unitFileName other ↔ Text.lowercase name = Text.lowercase other :=
  String.append_left_inj ".dart"

end Emission

/-! ### Units written one after the other -/

section Units

variable {folder : String} {before between after : Directory} {unit : OutputUnit}
  {units : List OutputUnit}

/-- The last unit whose file has a place. -/
def lastUnitAt? (directory : Directory) (folder : String) (place : List String)
    (units : List OutputUnit) : Option OutputUnit :=
  (units.filter fun unit => directory.locate (Path.join folder unit.fileName) = .ok place).getLast?

/-- What the write of a unit comes to in a directory in memory. -/
theorem write_of_run {path content : String}
    (written : (Directory.access.write path content).run before = (.ok (), between)) :
    ∃ place, before.locate path = .ok place ∧ before.entry? place ≠ some .folder ∧
      between = before.put place (.file content) := by
  apply Directory.write_eq_ok_iff.1
  change Directory.change (·.write path content) before = (.ok (), between) at written
  rw [Directory.change] at written
  split at written
  · cases written
  · next changed =>
      cases written
      exact changed

namespace AllWritten

/-- Units are files, and they leave the folders as they were. -/
theorem sameFolders (written : AllWritten Directory.access folder before units after) :
    before.SameFolders after := by
  induction written with
  | nil => exact .refl _
  | cons first _ ih =>
      obtain ⟨place, -, free, rfl⟩ := write_of_run first
      exact (Directory.sameFolders_put_file _ free).trans ih

/-- Every unit has a place. -/
theorem exists_place (written : AllWritten Directory.access folder before units after)
    (member : unit ∈ units) :
    ∃ place, after.locate (Path.join folder unit.fileName) = .ok place := by
  induction written with
  | nil => cases member
  | cons first further ih =>
      obtain ⟨place, leads, free, rfl⟩ := write_of_run first
      rcases List.mem_cons.1 member with rfl | later
      · have same := (Directory.sameFolders_put_file _ free).trans further.sameFolders
        exact ⟨place, same.locate_eq leads⟩
      · exact ih later

/-- At a place stands the last unit whose file has it, and without one what stood there before. -/
theorem entry?_eq (written : AllWritten Directory.access folder before units after)
    (place : List String) :
    after.entry? place =
      ((lastUnitAt? after folder place units).map fun unit => Entry.file unit.content).or
        (before.entry? place) := by
  -- From the first write on: what it puts is behind what the rest writes, and its place is still found
  -- at the end because the folders stay.
  induction written with
  | nil => rfl
  | @cons before between after unit rest first further ih =>
      obtain ⟨standing, leads, free, rfl⟩ := write_of_run first
      have same := (Directory.sameFolders_put_file unit.content free).trans further.sameFolders
      have leadsAfter := same.locate_eq leads
      rw [ih, lastUnitAt?, lastUnitAt?]
      by_cases here : standing = place
      · subst here
        rw [List.filter_cons_of_pos (by simpa using leadsAfter), List.getLast?_cons,
          Directory.entry?_put_self _ free]
        cases (rest.filter fun unit =>
            after.locate (Path.join folder unit.fileName) = .ok standing).getLast? with
        | none => rfl
        | some last => rfl
      · have elsewhere : ¬after.locate (Path.join folder unit.fileName) = .ok place := by
          intro leadsHere
          exact here (Except.ok.inj (leadsAfter.symm.trans leadsHere))
        rw [List.filter_cons_of_neg (by simpa using elsewhere),
          Directory.entry?_put_of_ne _ (Ne.symm here)]

end AllWritten

end Units

/-! ### The files of the classes of a library -/

section Classes

/-- The path of the file of a class. -/
def classPath (folder : String) (cls : Class) : String :=
  Path.join folder (unitFileName cls.name)

/-- The files of two classes have one place. -/
def OnePlace (directory : Directory) (folder : String) (first second : Class) : Prop :=
  directory.locate (classPath folder first) = directory.locate (classPath folder second)

instance (directory : Directory) (folder : String) (first second : Class) :
    Decidable (OnePlace directory folder first second) :=
  inferInstanceAs (Decidable (_ = _))

/-- The last class of a library whose file has the place of the file of a class. -/
def lastAtPlaceOf? (directory : Directory) (folder : String) (library : Library) (cls : Class) :
    Option Class :=
  (library.classes.filter fun other => OnePlace directory folder other cls).getLast?

/-- The file of every class of a library holds the unit of the class. -/
def UnitsKept (directory : Directory) (folder : String) (emitter : Emitter) (library : Library) :
    Prop :=
  ∀ cls ∈ library.classes,
    directory.read (classPath folder cls) = .ok (emitter.unit cls).content

variable {emitter : Emitter} {library : Library} {folder : String} {directory made after : Directory}
  {cls first second : Class}

/-- The unit of a class is written to the path of the class. -/
theorem join_fileName_unit (emitter : Emitter) (folder : String) (cls : Class) :
    Path.join folder (emitter.unit cls).fileName = classPath folder cls :=
  rfl

/-- The last unit at a place is that of the last class with this place. -/
theorem lastUnitAt?_units {place : List String}
    (leads : directory.locate (classPath folder cls) = .ok place) :
    lastUnitAt? directory folder place (emitter.units library) =
      (lastAtPlaceOf? directory folder library cls).map emitter.unit := by
  have same : ∀ other ∈ library.classes,
      decide (directory.locate (Path.join folder (emitter.unit other).fileName) = .ok place) =
        decide (OnePlace directory folder other cls) := by
    intro other _
    rw [decide_eq_decide, join_fileName_unit, OnePlace, leads]
  rw [lastUnitAt?, lastAtPlaceOf?, Emitter.units, List.filter_map, List.getLast?_map,
    Function.comp_def, List.filter_congr same]

/-- Every class has a last class with its place. -/
theorem exists_lastAtPlaceOf (directory : Directory) (folder : String)
    (known : cls ∈ library.classes) :
    ∃ last ∈ lastAtPlaceOf? directory folder library cls,
      last ∈ library.classes ∧ OnePlace directory folder last cls := by
  have candidate : cls ∈ library.classes.filter fun other => OnePlace directory folder other cls :=
    List.mem_filter.2 ⟨known, decide_eq_true (Eq.refl _)⟩
  obtain ⟨last, isLast⟩ := Option.isSome_iff_exists.1
    (List.getLast?_isSome.2 (List.ne_nil_of_mem candidate))
  obtain ⟨lastKnown, samePlace⟩ := List.mem_filter.1 (List.mem_of_getLast? isLast)
  exact ⟨last, isLast, lastKnown, of_decide_eq_true samePlace⟩

/-- The file of a class holds the unit of the last class with its place. -/
theorem AllWritten.read_classPath
    (written : AllWritten Directory.access folder made (emitter.units library) after)
    (known : cls ∈ library.classes) {last : Class}
    (isLast : last ∈ lastAtPlaceOf? after folder library cls) :
    after.read (classPath folder cls) = .ok (emitter.unit last).content := by
  obtain ⟨place, leads⟩ := written.exists_place (List.mem_map_of_mem known)
  apply Directory.read_of_entry leads
  rw [written.entry?_eq place, lastUnitAt?_units leads, Option.mem_def.1 isLast]
  rfl

/-- The units of all classes are kept exactly when classes with one place have one unit text. -/
theorem AllWritten.unitsKept_iff
    (written : AllWritten Directory.access folder made (emitter.units library) after) :
    UnitsKept after folder emitter library ↔
      ∀ first ∈ library.classes, ∀ second ∈ library.classes, OnePlace after folder first second →
        (emitter.unit first).content = (emitter.unit second).content := by
  constructor
  · intro kept first firstKnown second secondKnown samePlace
    have same : after.read (classPath folder first) = after.read (classPath folder second) := by
      rw [Directory.read, Directory.read, samePlace]
    rw [kept first firstKnown, kept second secondKnown] at same
    exact Except.ok.inj same
  · intro agree cls known
    obtain ⟨last, isLast, lastKnown, samePlace⟩ :=
      exists_lastAtPlaceOf after folder known
    rw [written.read_classPath known isLast, agree last lastKnown cls known samePlace]

/-- Names without a separator have one place exactly when they are equal in lowercase. -/
theorem onePlace_iff {place : List String} (plain : '/' ∉ first.name.toList)
    (plainToo : '/' ∉ second.name.toList)
    (leads : directory.locate (classPath folder first) = .ok place) :
    OnePlace directory folder first second ↔
      Text.lowercase first.name = Text.lowercase second.name := by
  rw [← Emission.unitFileName_eq_iff]
  constructor
  · intro samePlace
    have ends := Directory.getLast?_of_locate_join (Emission.separator_notMem_unitFileName plain)
      (Emission.names_unitFileName _) leads
    have endsToo := Directory.getLast?_of_locate_join
      (Emission.separator_notMem_unitFileName plainToo) (Emission.names_unitFileName _)
      (samePlace.symm.trans leads)
    exact Option.some.inj (ends.symm.trans endsToo)
  · intro sameFile
    rw [OnePlace, classPath, classPath, sameFile]

/-- Two classes have one path exactly when their names are equal in lowercase. -/
theorem classPath_eq_iff (plain : '/' ∉ first.name.toList) (plainToo : '/' ∉ second.name.toList) :
    classPath folder first = classPath folder second ↔
      Text.lowercase first.name = Text.lowercase second.name := by
  rw [← Emission.unitFileName_eq_iff]
  constructor
  · intro samePath
    have ends := Path.getLast?_components_join folder (Emission.separator_notMem_unitFileName plain)
    have endsToo :=
      Path.getLast?_components_join folder (Emission.separator_notMem_unitFileName plainToo)
    rw [classPath, classPath] at samePath
    rw [samePath] at ends
    exact Option.some.inj (ends.symm.trans endsToo)
  · intro sameFile
    rw [classPath, classPath, sameFile]

/-- The paths of files differ exactly when the names differ in lowercase. -/
theorem nodup_classPath_iff (plain : ∀ cls ∈ library.classes, '/' ∉ cls.name.toList) :
    (library.classes.map (classPath folder)).Nodup ↔
      (library.classes.map fun cls => Text.lowercase cls.name).Nodup := by
  have apart : ∀ {first second : Class}, first ∈ library.classes → second ∈ library.classes →
      (classPath folder first ≠ classPath folder second ↔
        Text.lowercase first.name ≠ Text.lowercase second.name) := by
    intro first second firstKnown secondKnown
    exact not_congr (classPath_eq_iff (plain first firstKnown) (plain second secondKnown))
  exact (List.pairwise_map.trans (List.Pairwise.iff_of_mem apart)).trans List.pairwise_map.symm

/-- All units are kept exactly when classes whose names are equal in lowercase have one unit. -/
theorem AllWritten.unitsKept_iff_of_plain
    (written : AllWritten Directory.access folder made (emitter.units library) after)
    (plain : ∀ cls ∈ library.classes, '/' ∉ cls.name.toList) :
    UnitsKept after folder emitter library ↔
      ∀ first ∈ library.classes, ∀ second ∈ library.classes,
        Text.lowercase first.name = Text.lowercase second.name →
          (emitter.unit first).content = (emitter.unit second).content := by
  rw [written.unitsKept_iff]
  apply forall₂_congr
  intro first firstKnown
  apply forall₂_congr
  intro second secondKnown
  obtain ⟨place, leads⟩ := written.exists_place (List.mem_map_of_mem firstKnown)
  rw [onePlace_iff (plain first firstKnown) (plain second secondKnown) leads]

end Classes

/-- After a run of writes without a fault, the file of a class holds the unit of the last class whose
file has its place.  So every class has its unit exactly when classes with one place have one unit
text; and where names have no separator, the paths differ exactly when the names differ in lowercase,
and it is classes with one name in lowercase that must have one unit text. -/
theorem unitsKept_iff_of_written (emitter : Emitter) (library : Library) (folder : String)
    (before after : Directory) (paths : List String)
    (written : (Directory.access.writeUnits folder (emitter.units library)).run before =
      (.ok paths, after)) :
    paths = library.classes.map (classPath folder) ∧
      (∀ cls ∈ library.classes, ∃ last ∈ lastAtPlaceOf? after folder library cls,
        after.read (classPath folder cls) = .ok (emitter.unit last).content) ∧
      (UnitsKept after folder emitter library ↔
        ∀ first ∈ library.classes, ∀ second ∈ library.classes, OnePlace after folder first second →
          (emitter.unit first).content = (emitter.unit second).content) ∧
      ((∀ cls ∈ library.classes, '/' ∉ cls.name.toList) →
        (paths.Nodup ↔ (library.classes.map fun cls => Text.lowercase cls.name).Nodup) ∧
          (UnitsKept after folder emitter library ↔
            ∀ first ∈ library.classes, ∀ second ∈ library.classes,
              Text.lowercase first.name = Text.lowercase second.name →
                (emitter.unit first).content = (emitter.unit second).content)) := by
  obtain ⟨rfl, made, -, allWritten⟩ := writeUnits_eq_ok_iff.1 written
  have pathsOf : unitPaths folder (emitter.units library) =
      library.classes.map (classPath folder) := by
    rw [unitPaths, Emitter.units, List.map_map]
    rfl
  refine ⟨pathsOf, fun cls known => ?_, allWritten.unitsKept_iff, fun plain => ⟨?_, ?_⟩⟩
  · obtain ⟨last, isLast, -⟩ := exists_lastAtPlaceOf after folder known
    exact ⟨last, isLast, allWritten.read_classPath known isLast⟩
  · rw [pathsOf]
    exact nodup_classPath_iff plain
  · exact allWritten.unitsKept_iff_of_plain plain

/-- An action that gives an answer leaves some state. -/
theorem exists_run_eq {σ α : Type} {action : StateM σ α} {before : σ} {answer : α}
    (given : (action.run before).1 = answer) : ∃ after, action.run before = (answer, after) :=
  ⟨_, Prod.ext given rfl⟩

/-- The emitter of a configuration that wants some classes. -/
def linkEmitter : Emitter :=
  Config.emitter
    { libraryName := "lib"
      declarations := ((Table.empty.set "Link" .all).set "URL" .all).set "Url" .all }

/-- Two classes with names that differ in lowercase. -/
def links : Library :=
  { classes := [{ name := "Link" }, { name := "Url" }] }

/-- The units of links are written to two files. -/
theorem run_links :
    ∃ after, (Directory.access.writeUnits "" (linkEmitter.units links)).run {} =
      (.ok ["link.dart", "url.dart"], after) :=
  exists_run_eq (by decide +kernel)

/-- Both classes have their own units. -/
theorem unitsKept_iff_of_written_links :
    ∃ after, (Directory.access.writeUnits "" (linkEmitter.units links)).run {} =
        (.ok ["link.dart", "url.dart"], after) ∧
      ["link.dart", "url.dart"].Nodup ∧ UnitsKept after "" linkEmitter links := by
  obtain ⟨after, written⟩ := run_links
  obtain ⟨-, -, -, ofPlain⟩ := unitsKept_iff_of_written linkEmitter links "" {} after _ written
  have plain : ∀ cls ∈ links.classes, '/' ∉ cls.name.toList := by
    decide
  have different : (links.classes.map fun cls => Text.lowercase cls.name).Nodup := by
    decide +kernel
  obtain ⟨nodup_iff, kept_iff⟩ := ofPlain plain
  refine ⟨after, written, nodup_iff.2 different, kept_iff.2 ?_⟩
  intro first firstKnown second secondKnown sameName
  rw [List.inj_on_of_nodup_map different firstKnown secondKnown sameName]

/-- Two classes with names that are equal in lowercase. -/
def namesakes : Library :=
  { classes := [{ name := "URL" }, { name := "Url" }] }

/-- Both files are written to one path, and no write meets a fault. -/
theorem run_namesakes :
    ∃ after, (Directory.access.writeUnits "" (linkEmitter.units namesakes)).run {} =
      (.ok ["url.dart", "url.dart"], after) :=
  exists_run_eq (by decide +kernel)

/-- Different names do not keep the unit of every class, as they can be one name in lowercase. -/
theorem not_unitsKept_namesakes :
    ¬ ∀ (emitter : Emitter) (library : Library) (folder : String) (before after : Directory)
        (paths : List String), (library.classes.map (·.name)).Nodup →
      (emitter.libraryReports library).hasErrors = false →
        (Directory.access.writeUnits folder (emitter.units library)).run before =
          (.ok paths, after) →
        UnitsKept after folder emitter library := by
  intro keeps
  obtain ⟨after, written⟩ := run_namesakes
  have kept := keeps linkEmitter namesakes "" {} after _ (by decide) (by decide +kernel) written
  obtain ⟨-, made, -, allWritten⟩ := writeUnits_eq_ok_iff.1 written
  have onePath : classPath "" { name := "URL" } = classPath "" { name := "Url" } := by
    decide +kernel
  have sameText : (linkEmitter.unit { name := "URL" }).content =
      (linkEmitter.unit { name := "Url" }).content := by
    apply allWritten.unitsKept_iff.1 kept
    · exact List.mem_cons_self
    · exact List.mem_cons_of_mem _ List.mem_cons_self
    · exact congrArg after.locate onePath
  revert sameText
  decide +kernel

end DartBindings
