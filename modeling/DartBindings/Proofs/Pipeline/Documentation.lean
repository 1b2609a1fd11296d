import DartBindings.Emission.Unit
import DartBindings.Proofs.Extraction.CommentBody

/-!
From a written comment to the documentation of a unit.

Lines can be written as a comment: each of them on a row of its own, behind an indentation and a gutter.
Reading the comment gives back the lines as they were, also where they begin with stars or spaces, and
printing them gives each line a row of its own again.

Main exports: IsDocumentation, writtenComment, documentation_survives
-/

namespace DartBindings

open Extraction
open Emission (docLines indented)
open Text (isBlank)

/-- Blanks within one row. -/
def IsIndentation (text : String) : Prop :=
  ∀ c ∈ text.toList, isBlank c = true ∧ c ≠ '\n'

/-- Whether a text is an indentation can be computed. -/
theorem isIndentation_iff {text : String} :
    IsIndentation text ↔ (text.toList.all fun c => isBlank c && c != '\n') = true := by
  simp only [IsIndentation, List.all_eq_true, Bool.and_eq_true, bne_iff_ne]

instance (text : String) : Decidable (IsIndentation text) :=
  decidable_of_iff _ isIndentation_iff.symm

/-- Lines that can stand in a comment and come back: none of them ends in a blank, and neither the first
nor the last is empty. -/
structure IsDocumentation (lines : List String) : Prop where
  noFeed : ∀ line ∈ lines, '\n' ∉ line.toList
  noBlankEnd : ∀ line ∈ lines, ∀ c ∈ line.toList.getLast?, isBlank c = false
  first : ∃ first ∈ lines.head?, first ≠ ""
  last : ∃ last ∈ lines.getLast?, last ≠ ""

/-- Whether lines are a documentation can be computed. -/
theorem isDocumentation_iff {lines : List String} : IsDocumentation lines ↔
    (∀ line ∈ lines, '\n' ∉ line.toList) ∧
      (∀ line ∈ lines, line.toList.getLast?.all (!isBlank ·) = true) ∧
      lines.head?.any (· != "") = true ∧ lines.getLast?.any (· != "") = true := by
  simp only [Option.all_eq_true, Option.any_eq_true, Bool.not_eq_true', bne_iff_ne]
  exact ⟨fun ⟨noFeed, noBlankEnd, first, last⟩ => ⟨noFeed, noBlankEnd, first, last⟩,
    fun ⟨noFeed, noBlankEnd, first, last⟩ => ⟨noFeed, noBlankEnd, first, last⟩⟩

instance (lines : List String) : Decidable (IsDocumentation lines) :=
  decidable_of_iff _ isDocumentation_iff.symm

/-- A line behind the gutter, which has a space only if the line is not empty. -/
def withGutter (line : String) : String :=
  if line = "" then "*" else "* " ++ line

/-- The comment that lines are written as, with the indentations of the rows and of its last row. -/
def writtenComment (indentation closing : String) (lines : List String) : String :=
  "\n".intercalate
    ("/**" :: lines.map (fun line => indentation ++ withGutter line) ++ [closing ++ "*/"])

/-! ### Rows -/

variable {indentation closing line : String} {lines : List String}

theorem IsIndentation.blanks (blank : IsIndentation indentation) : Text.Blanks indentation.toList :=
  fun c member => (blank c member).1

theorem IsIndentation.noFeed (blank : IsIndentation indentation) : '\n' ∉ indentation.toList :=
  fun member => (blank '\n' member).2 rfl

theorem toList_withGutter (line : String) :
    (withGutter line).toList = if line = "" then ['*'] else '*' :: ' ' :: line.toList := by
  unfold withGutter
  split
  · rfl
  · rw [String.toList_append]
    rfl

/-- A row behind its gutter has no blank ends. -/
theorem tight_withGutter (noBlankEnd : ∀ c ∈ line.toList.getLast?, isBlank c = false) :
    Text.Tight (withGutter line).toList := by
  rw [toList_withGutter]
  split
  · decide
  · next nonempty =>
      have written : line.toList ≠ [] := fun empty => nonempty (String.toList_eq_nil_iff.1 empty)
      refine ⟨List.cons_ne_nil _ _, ?_, ?_⟩
      · intro c member
        obtain rfl : '*' = c := Option.some.inj member
        decide
      · intro c member
        apply noBlankEnd c
        rwa [← List.getLast?_append_of_ne_nil ['*', ' '] written]

/-- What is left of the row of a line is the line. -/
theorem bareRow_withGutter (blank : IsIndentation indentation)
    (noBlankEnd : ∀ c ∈ line.toList.getLast?, isBlank c = false) :
    bareRow (Text.dropCarriageReturn (indentation ++ withGutter line).toList) = line.toList := by
  have tight := tight_withGutter noBlankEnd
  have trimmed := tight.trim_blanks blank.blanks Text.Blanks.nil
  have kept : Text.dropCarriageReturn (indentation ++ withGutter line).toList =
      (indentation ++ withGutter line).toList := by
    apply Text.dropCarriageReturn_of_last
    rw [String.toList_append, List.getLast?_append_of_ne_nil _ tight.nonempty]
    exact tight.last
  rw [kept, bareRow, String.toList_append, ← List.append_nil (_ ++ _), trimmed, toList_withGutter]
  split
  · next empty =>
      rw [empty]
      rfl
  · rfl

/-- A row with its indentation and its gutter is a single row. -/
theorem noFeed_withGutter (blank : IsIndentation indentation) (noFeed : '\n' ∉ line.toList) :
    '\n' ∉ (indentation ++ withGutter line).toList := by
  rw [String.toList_append, toList_withGutter, List.mem_append, not_or]
  refine ⟨blank.noFeed, ?_⟩
  split
  · decide
  · simp [noFeed]

/-! ### The comment -/

/-- A line of a documentation that is not empty is not blank. -/
theorem IsDocumentation.isBlankRow_of_ne (documentation : IsDocumentation lines)
    (member : line ∈ lines) (nonempty : line ≠ "") : isBlankRow line.toList = false := by
  rw [isBlankRow_of_last (documentation.noBlankEnd line member), List.isEmpty_eq_false_iff]
  exact fun empty => nonempty (String.toList_eq_nil_iff.1 empty)

/-- A documentation does not begin with a blank row. -/
theorem IsDocumentation.firstRow (documentation : IsDocumentation lines) :
    ∃ row ∈ (lines.map String.toList).head?, isBlankRow row = false := by
  obtain ⟨first, isFirst, written⟩ := documentation.first
  refine ⟨first.toList, ?_, documentation.isBlankRow_of_ne (List.mem_of_mem_head? isFirst) written⟩
  rw [List.head?_map, Option.mem_def.1 isFirst]
  rfl

/-- A documentation does not end with a blank row. -/
theorem IsDocumentation.lastRow (documentation : IsDocumentation lines) :
    ∃ row ∈ (lines.map String.toList).getLast?, isBlankRow row = false := by
  obtain ⟨last, isLast, written⟩ := documentation.last
  refine ⟨last.toList, ?_, documentation.isBlankRow_of_ne (List.mem_of_mem_getLast? isLast) written⟩
  rw [List.getLast?_map, Option.mem_def.1 isLast]
  rfl

/-- The rows between the markers of a written comment. -/
def writtenRows (indentation : String) (lines : List String) : List (List Char) :=
  [] :: lines.map fun line => (indentation ++ withGutter line).toList

theorem toList_writtenComment (indentation closing : String) (lines : List String) :
    (writtenComment indentation closing lines).toList =
      docOpening ++
        (['\n'].intercalate (writtenRows indentation lines ++ [closing.toList]) ++ commentClosing) := by
  have feed : "\n".toList = ['\n'] := rfl
  have opening : "/**".toList = docOpening := rfl
  have ending : "*/".toList = commentClosing := rfl
  rw [writtenComment, writtenRows, String.toList_intercalate, feed, List.map_append, List.map_cons,
    List.map_map, List.cons_append, List.cons_append, intercalate_singleton_cons,
    intercalate_singleton_cons, opening]
  simp [List.flatMap_append, String.toList_append, ending, Function.comp_def]

/-- Each line is written on a row of its own. -/
theorem noFeed_writtenRows (blank : IsIndentation indentation)
    (documentation : IsDocumentation lines) :
    ∀ row ∈ writtenRows indentation lines, '\n' ∉ row := by
  rw [writtenRows, List.forall_mem_cons, List.forall_mem_map]
  refine ⟨List.not_mem_nil, ?_⟩
  intro line member
  exact noFeed_withGutter blank (documentation.noFeed line member)

/-- Without indentation and gutter the written rows are the lines again. -/
theorem map_bareRow_writtenRows (blank : IsIndentation indentation)
    (documentation : IsDocumentation lines) :
    (writtenRows indentation lines).map (fun row => bareRow (Text.dropCarriageReturn row)) =
      [[]] ++ lines.map String.toList := by
  rw [writtenRows, List.map_cons, List.map_map]
  apply congrArg (List.cons [])
  apply List.map_congr_left
  intro line member
  exact bareRow_withGutter blank (documentation.noBlankEnd line member)

/-- The last row has nothing but blanks in front of the marker. -/
theorem isBlankRow_closing (blankClosing : IsIndentation closing) :
    ∀ row ∈ (if closing.toList.isEmpty then [] else [closing.toList]).map bareRow,
      isBlankRow row = true := by
  rw [List.forall_mem_map]
  intro row member
  split at member
  · cases member
  · rw [List.mem_singleton.1 member, bareRow, Text.trim_of_blanks blankClosing.blanks]
    rfl

/-- The rows of a written comment without their gutters, and without the first and the last one, are its
lines. -/
theorem bareRows_writtenComment (blank : IsIndentation indentation)
    (blankClosing : IsIndentation closing) (documentation : IsDocumentation lines) :
    withoutBlankEnds
        ((Text.lines (['\n'].intercalate (writtenRows indentation lines ++ [closing.toList]))).map
          bareRow) =
      lines.map String.toList := by
  have opening : ∀ row ∈ [([] : List Char)], isBlankRow row = true :=
    List.forall_mem_singleton.2 rfl
  have rows := Text.lines_intercalate_concat (noFeed_writtenRows blank documentation)
    blankClosing.noFeed
  have bare := map_bareRow_writtenRows blank documentation
  rw [rows, List.map_append, List.map_map]
  refine (congrArg (withoutBlankEnds <| · ++ _) bare).trans ?_
  exact withoutBlankEnds_between opening (isBlankRow_closing blankClosing) documentation.firstRow
    documentation.lastRow

/-! ### The documentation -/

/-- The lines of a documentation are found again in the joined text. -/
theorem IsDocumentation.linesOf_eq (documentation : IsDocumentation lines) :
    Text.linesOf ("\n".intercalate lines) = lines := by
  have feed : "\n".toList = ['\n'] := rfl
  have written : ∃ row ∈ (lines.map String.toList).getLast?, row ≠ [] := by
    obtain ⟨row, isLast, notBlank⟩ := documentation.lastRow
    refine ⟨row, isLast, ?_⟩
    rintro rfl
    cases notBlank
  rw [Text.linesOf, String.toList_intercalate, feed,
    Text.lines_intercalate (List.forall_mem_map.2 documentation.noFeed)
      (List.forall_mem_map.2 documentation.noBlankEnd) written, List.map_map]
  simp [Function.comp_def]

/-- Lines that are written as a comment are read back as they were, and printed as one row each. -/
theorem documentation_survives {indentation closing : String} {lines : List String}
    (blank : IsIndentation indentation) (blankClosing : IsIndentation closing)
    (documentation : IsDocumentation lines) (depth : Nat) :
    cleanDoc (writtenComment indentation closing lines) = "\n".intercalate lines ∧
      docLines depth (cleanDoc (writtenComment indentation closing lines)) =
        lines.map fun line => indented depth (if line = "" then "///" else "/// " ++ line) := by
  have cleaned : cleanDoc (writtenComment indentation closing lines) = "\n".intercalate lines := by
    rw [cleanDoc_of_body (toList_writtenComment indentation closing lines),
      bareRows_writtenComment blank blankClosing documentation]
    apply String.toList_injective
    rw [String.toList_intercalate, String.toList_ofList]
    rfl
  refine ⟨cleaned, ?_⟩
  rw [cleaned, Emission.docLines, documentation.linesOf_eq]
  apply List.map_congr_left
  intro line _
  simp only [Emission.docLine, String.isEmpty_iff]

/-- A star in front of a line, an empty line, spaces in front of a line and a return inside one are kept. -/
theorem documentation_survives_between :
    cleanDoc (writtenComment "\t " " " ["* Moves", "", "  the\r box"]) = "* Moves\n\n  the\r box" ∧
      docLines 1 (cleanDoc (writtenComment "\t " " " ["* Moves", "", "  the\r box"])) =
        ["  /// * Moves", "  ///", "  ///   the\r box"] := by
  have documentation : IsDocumentation ["* Moves", "", "  the\r box"] := by decide
  have blank : IsIndentation "\t " := by decide
  have blankClosing : IsIndentation " " := by decide
  exact documentation_survives blank blankClosing documentation 1

end DartBindings
