import DartBindings.Files.Directory
import Mathlib.Logic.Basic

/-!
What a write does to a directory.

A file that is written stands at the place where its path leads, and nothing else changes.  Where a
path leads depends on the folders only, so that it leads there after every further write.  A path that
ends in a name leads to a place that ends in it.

Main exports: Leads, SameFolders, locateFrom_eq_ok_iff, write_eq_ok_iff
-/

namespace DartBindings

/-! ### The last component of a path -/

namespace Path

variable {path name : String}

/-- What follows the last separator of a path is its last component. -/
theorem getLast?_components {front : List Char} (parts : path.toList = front ++ '/' :: name.toList)
    (plain : '/' ∉ name.toList) : (components path).getLast? = some name := by
  rw [components, parts, List.splitOn_append_cons_self, List.splitOn_eq_singleton plain,
    List.map_append, List.map_singleton, String.ofList_toList, List.getLast?_concat]

/-- A path that is joined from a directory and a name ends in the name. -/
theorem getLast?_components_join (directory : String) (plain : '/' ∉ name.toList) :
    (components (join directory name)).getLast? = some name := by
  rw [join]
  split
  · rw [components, List.splitOn_eq_singleton plain, List.map_singleton, String.ofList_toList]
    rfl
  · split
    · next separated =>
        obtain ⟨front, ends⟩ := List.getLast?_eq_some_iff.1 separated
        have parts : (directory ++ name).toList = front ++ '/' :: name.toList := by
          rw [String.toList_append, ends, List.append_assoc, List.singleton_append]
        exact getLast?_components parts plain
    · have parts : (directory ++ "/" ++ name).toList = directory.toList ++ '/' :: name.toList := by
        rw [String.toList_append, String.toList_append, List.append_assoc]
        rfl
      exact getLast?_components parts plain

end Path

namespace Directory

variable {directory first second third : Directory} {place elsewhere : List String}

/-! ### Putting something at a place -/

/-- Leaving out the entry of one place changes nothing elsewhere. -/
theorem lookup_filter_ne (entries : List (List String × Entry)) (different : elsewhere ≠ place) :
    (entries.filter fun old => old.1 != place).lookup elsewhere = entries.lookup elsewhere := by
  induction entries with
  | nil => rfl
  | cons entry rest ih =>
      obtain ⟨known, standing⟩ := entry
      by_cases same : known = place
      · subst same
        rw [List.filter_cons_of_neg (by simp), ih, List.lookup_cons, beq_false_of_ne different]
      · rw [List.filter_cons_of_pos (by simpa using same), List.lookup_cons, List.lookup_cons, ih]

/-- What is put at a place stands there, unless the place is outside. -/
theorem entry?_put_self (entry : Entry) (inside : directory.entry? place ≠ some .folder) :
    Directory.entry? (directory.put place entry) place = some entry := by
  have within : ¬place.all isOutward = true := by
    intro outside
    rw [ entry?, if_pos outside] at inside
    exact inside rfl
  rw [ entry?, if_neg within, put, List.lookup_cons, beq_self_eq_true]

/-- At every other place stands what stood there. -/
theorem entry?_put_of_ne (entry : Entry) (different : elsewhere ≠ place) :
    Directory.entry? (directory.put place entry) elsewhere = directory.entry? elsewhere := by
  rw [ entry?, entry?, put, List.lookup_cons, beq_false_of_ne different,
    lookup_filter_ne directory.entries different]

/-! ### Where components lead -/

/-- A component is a name, and no step. -/
structure Names (component : String) : Prop where
  moves : isStay component = false
  isNoStepUp : component ≠ ".."

/-- Components lead from a folder to a place.  Each but the last is a step or the name of a folder. -/
inductive Leads (directory : Directory) : List String → List String → List String → Prop
  | here {folder : List String} : Leads directory folder [] folder
  | stay {folder : List String} {component : String} {rest place : List String}
      (stays : isStay component = true) (further : Leads directory folder rest place) :
      Leads directory folder (component :: rest) place
  | up {folder rest place : List String} (further : Leads directory (above folder) rest place) :
      Leads directory folder (".." :: rest) place
  | last {folder : List String} {component : String} (names : Names component)
      (short : isTooLong component = false) :
      Leads directory folder [component] (folder ++ [component])
  | down {folder : List String} {component : String} {rest place : List String}
      (names : Names component) (short : isTooLong component = false) (more : rest ≠ [])
      (standing : directory.entry? (folder ++ [component]) = some .folder)
      (further : Leads directory (folder ++ [component]) rest place) :
      Leads directory folder (component :: rest) place

/-- The place that is located is where the components lead. -/
theorem leads_of_locateFrom {folder components : List String}
    (found : directory.locateFrom folder components = .ok place) :
    Leads directory folder components place := by
  induction components generalizing folder with
  | nil =>
      cases found
      exact .here
  | cons component rest ih =>
      rw [locateFrom] at found
      by_cases stays : isStay component = true
      · rw [if_pos stays] at found
        exact .stay stays (ih found)
      · rw [if_neg stays] at found
        by_cases isStepUp : component = ".."
        · subst isStepUp
          exact .up (ih found)
        · rw [if_neg isStepUp] at found
          split at found
          · cases found
          · next long =>
              have names : Names component := ⟨Bool.eq_false_iff.2 stays, isStepUp⟩
              have short : isTooLong component = false := Bool.eq_false_iff.2 long
              cases rest with
              | nil =>
                  cases found
                  exact .last names short
              | cons next others =>
                  rw [List.isEmpty_cons, if_neg Bool.false_ne_true] at found
                  split at found
                  · next standing =>
                      exact .down names short (List.cons_ne_nil _ _) standing (ih found)
                  · cases found
                  · cases found

/-- Where the components lead is located. -/
theorem Leads.locateFrom_eq {folder components : List String}
    (leads : Leads directory folder components place) :
    directory.locateFrom folder components = .ok place := by
  induction leads with
  | here => rfl
  | stay stays _ ih => rw [locateFrom, if_pos stays, ih]
  | @up folder rest _ _ ih =>
      have moves : ¬isStay ".." = true := by decide
      rw [locateFrom, if_neg moves, if_pos rfl, ih]
  | last names short =>
      rw [locateFrom, names.moves, short, if_neg Bool.false_ne_true, if_neg names.isNoStepUp,
        if_neg Bool.false_ne_true]
      rfl
  | @down _ _ rest _ names short more standing _ ih =>
      have further : ¬rest.isEmpty = true := by
        rw [List.isEmpty_iff]
        exact more
      rw [locateFrom, names.moves, short, if_neg Bool.false_ne_true, if_neg names.isNoStepUp,
        if_neg Bool.false_ne_true, if_neg further, standing]
      exact ih

/-- Locating a path finds exactly the place where it leads. -/
theorem locateFrom_eq_ok_iff {folder components : List String} :
    directory.locateFrom folder components = .ok place ↔
      Leads directory folder components place :=
  ⟨leads_of_locateFrom, Leads.locateFrom_eq⟩

/-! ### Directories with the same folders -/

/-- The same places are folders in two directories. -/
def SameFolders (first second : Directory) : Prop :=
  ∀ place, first.entry? place = some .folder ↔ second.entry? place = some .folder

theorem SameFolders.refl (directory : Directory) : SameFolders directory directory :=
  fun _ => Iff.rfl

theorem SameFolders.trans (one : SameFolders first second) (two : SameFolders second third) :
    SameFolders first third :=
  fun place => (one place).trans (two place)

/-- A file is put where no folder is, and the folders stay. -/
theorem sameFolders_put_file (content : String) (free : directory.entry? place ≠ some .folder) :
    SameFolders directory (directory.put place (.file content)) := by
  intro elsewhere
  by_cases same : elsewhere = place
  · subst same
    rw [entry?_put_self _ free]
    exact ⟨fun folder => absurd folder free, fun file => by cases file⟩
  · rw [entry?_put_of_ne _ same]

/-- Components lead to one place in all directories with the same folders. -/
theorem SameFolders.leads (same : SameFolders first second) {folder components : List String}
    (leads : Leads first folder components place) : Leads second folder components place := by
  induction leads with
  | here => exact .here
  | stay stays _ ih => exact .stay stays ih
  | up _ ih => exact .up ih
  | last names short => exact .last names short
  | down names short more standing _ ih => exact .down names short more ((same _).1 standing) ih

/-- Paths lead to the same places where the folders are the same. -/
theorem SameFolders.locate_eq (same : SameFolders first second) {path : String}
    (leads : first.locate path = .ok place) : second.locate path = .ok place := by
  rw [locate] at leads ⊢
  split at leads
  · cases leads
  · exact locateFrom_eq_ok_iff.2 (same.leads (locateFrom_eq_ok_iff.1 leads))

/-! ### Places and names -/

/-- Components that end in a name lead to a place that ends in it. -/
theorem Leads.getLast?_eq {folder components : List String} {name : String}
    (leads : Leads directory folder components place) (ends : components.getLast? = some name)
    (names : Names name) : place.getLast? = some name := by
  induction leads with
  | here => cases ends
  | @stay _ component rest _ stays _ ih =>
      cases rest with
      | nil =>
          obtain rfl : component = name := Option.some.inj ends
          exact absurd stays (Bool.eq_false_iff.1 names.moves)
      | cons next others => exact ih ends
  | @up _ rest _ _ ih =>
      cases rest with
      | nil =>
          cases ends
          exact absurd rfl names.isNoStepUp
      | cons next others => exact ih ends
  | last _ _ =>
      cases ends
      exact List.getLast?_concat
  | @down _ component rest _ _ _ more _ _ ih =>
      cases rest with
      | nil => exact absurd rfl more
      | cons next others => exact ih ends

/-- A path that ends in a plain name leads to a place of that name. -/
theorem getLast?_of_locate_join {folder name : String} (plain : '/' ∉ name.toList)
    (names : Names name) (leads : directory.locate (Path.join folder name) = .ok place) :
    place.getLast? = some name := by
  rw [locate] at leads
  split at leads
  · cases leads
  · exact (locateFrom_eq_ok_iff.1 leads).getLast?_eq (Path.getLast?_components_join folder plain)
      names

/-! ### Writing and reading -/

variable {path content : String}

/-- A write succeeds where no folder stands, and it puts the file there. -/
theorem write_eq_ok_iff :
    first.write path content = .ok second ↔
      ∃ place, first.locate path = .ok place ∧ first.entry? place ≠ some .folder ∧
        second = first.put place (.file content) := by
  rw [write]
  constructor
  · intro written
    split at written
    · cases written
    · next place leads =>
        split at written
        · cases written
        · next free =>
            cases written
            exact ⟨place, leads, free, rfl⟩
  · rintro ⟨place, leads, free, rfl⟩
    rw [leads]
    dsimp only
    split
    · next folder => exact absurd folder free
    · rfl

/-- Reading a path gives the content of the file at its place. -/
theorem read_of_entry (leads : directory.locate path = .ok place)
    (standing : directory.entry? place = some (.file content)) :
    directory.read path = .ok content := by
  rw [read, leads]
  dsimp only
  rw [standing]

end Directory

end DartBindings
