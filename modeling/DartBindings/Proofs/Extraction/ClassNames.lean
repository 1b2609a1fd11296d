import Mathlib.Data.List.Nodup
import DartBindings.Heritage.Ancestor
import DartBindings.Proofs.Extraction.Selection

/-!
The names of extracted classes.

Every wanted class declaration gives a class of its own name, in the order of the files and within a file
in document order.  What came before is not looked at, so a name that is declared twice is the name of
two classes: the names differ exactly when no file, at any depth of its modules, and no two files declare
a name twice.

Main exports: wantedClassNames, classNames_extract_nodup_iff
-/

namespace DartBindings.Extraction

open Syntax (Place)

/-- The name that the node at a place declares. -/
def declaredName? (source : List Char) (place : Place) : Option String :=
  fieldText? source "name" place.node.children

/-- The names at the places of a file where a wanted class is declared, in document order. -/
def wantedClassNames (config : Config) (document : Document) : List String :=
  (document.tree.places.filter
    (IsWanted config document.source.text.toList classKinds ·)).filterMap
      (declaredName? document.source.text.toList)

variable {source : List Char} {cls : Class} {classes : List Class} {place : Place}
  {places : List Place}

/-- A class has the name that its place declares. -/
theorem IsClassAt.declaredName? (isAt : IsClassAt source cls place) :
    declaredName? source place = some cls.name := by
  obtain ⟨name, found, id, setting, rfl⟩ := isAt
  exact found

/-- Classes that stand at places have the names that are declared there. -/
theorem map_name_of_forall₂ (areAt : List.Forall₂ (IsClassAt source) classes places) :
    classes.map (·.name) = places.filterMap (declaredName? source) := by
  induction areAt with
  | nil => rfl
  | cons first _ ih => rw [List.map_cons, List.filterMap_cons_some first.declaredName?, ih]

/-- A file gives a class for each wanted name, in document order. -/
theorem map_name_extractOne (config : Config) (id : SourceId) (document : Document) :
    (extractOne config id document).1.classes.map (·.name) = wantedClassNames config document :=
  map_name_of_forall₂ (extractOne_selects config id document).1

/-- The names of a library's classes are the names of the wanted declarations, file by file. -/
theorem classNames_extract_eq (config : Config) (documents : List Document) :
    (extract config documents).1.classNames = documents.flatMap (wantedClassNames config) := by
  have parts : ∀ part ∈ documents.zipIdx,
      (extractOne config part.2 part.1).1.classes.map (·.name) = wantedClassNames config part.1 :=
    fun part _ => map_name_extractOne config part.2 part.1
  calc (extract config documents).1.classNames
      = documents.zipIdx.flatMap fun part =>
          (extractOne config part.2 part.1).1.classes.map (·.name) := by
        simp only [extract, Library.classNames, List.flatMap_map, List.map_flatMap]
    _ = documents.zipIdx.flatMap fun part => wantedClassNames config part.1 :=
        List.flatMap_congr parts
    _ = (documents.zipIdx.map Prod.fst).flatMap (wantedClassNames config) := by
        rw [List.flatMap_map]
    _ = documents.flatMap (wantedClassNames config) := by
        rw [List.zipIdx_map_fst]

/-- Extraction names classes as the wanted declarations do, one class for each of them, and so the names
differ exactly when no file declares a wanted class name twice and no two files declare the same one. -/
theorem classNames_extract_nodup_iff (config : Config) (documents : List Document) :
    (extract config documents).1.classNames = documents.flatMap (wantedClassNames config) ∧
      ((extract config documents).1.classNames.Nodup ↔
        (∀ document ∈ documents, (wantedClassNames config document).Nodup) ∧
          documents.Pairwise fun first second =>
            (wantedClassNames config first).Disjoint (wantedClassNames config second)) := by
  have names := classNames_extract_eq config documents
  refine ⟨names, ?_⟩
  rw [names]
  exact List.nodup_flatMap

/-- A file that declares one class. -/
def classDocument : Document where
  source := { text := "class A {}" }
  tree :=
    { label := { kind := "program", isNamed := true, stop := 10 }
      children :=
        [ { label := { kind := "class_declaration", isNamed := true, stop := 10 }
            children :=
              [ ⟨{ kind := "class", stop := 5 }, []⟩,
                ⟨{ kind := "type_identifier", isNamed := true, start := 6, stop := 7,
                   field := some "name" }, []⟩,
                ⟨{ kind := "class_body", isNamed := true, start := 8, stop := 10,
                   field := some "body" },
                  [⟨{ kind := "\x7b", start := 8, stop := 9 }, []⟩,
                    ⟨{ kind := "\x7d", start := 9, stop := 10 }, []⟩]⟩ ] } ] }

/-- Two files may declare classes of one name: then the library has two of them. -/
theorem not_classNames_extract_nodup :
    ¬∀ (config : Config) (documents : List Document),
      (extract config documents).1.classNames.Nodup := by
  intro distinct
  have names : (extract { libraryName := "lib", declarations := Table.empty.set "A" .all }
      [classDocument, classDocument]).1.classNames = ["A", "A"] := by
    rfl
  have nodup := distinct { libraryName := "lib", declarations := Table.empty.set "A" .all }
    [classDocument, classDocument]
  rw [names] at nodup
  exact absurd nodup (by decide)

end DartBindings.Extraction
