import DartBindings.Extraction.Doc
import DartBindings.Proofs.Text.Line
import Mathlib.Data.List.DropRight

/-!
Documentation in block comments.

The documentation in a comment is told here from its body alone: the rows behind a star at its beginning,
each without its gutter.  The markers of a comment are found by its first and its last characters, which
is the same as cutting off `/**` and `*/` unless the body is empty: the two stars of `/**/` are one.

Main exports: blockDoc, IsBlockComment, docBefore_of_isBlockComment
-/

namespace DartBindings.Extraction

open Syntax (Node)
open Text

/-! ### Rows of a comment -/

/-- A text without the star that it begins with, and without one space behind that star. -/
def withoutStar : List Char → List Char
  | '*' :: ' ' :: rest => rest
  | '*' :: rest => rest
  | whole => whole

/-- A row without the blanks around it and without its star. -/
def bareRow (row : List Char) : List Char :=
  withoutStar (trim row)

/-- A row of blanks only. -/
def isBlankRow (row : List Char) : Bool :=
  row.all isBlank

/-- Rows without the blank ones at both ends. -/
def withoutBlankEnds (rows : List (List Char)) : List (List Char) :=
  (rows.dropWhile isBlankRow).rdropWhile isBlankRow

theorem withoutStar_isSuffix (text : List Char) : withoutStar text <:+ text := by
  unfold withoutStar
  split
  · exact ⟨['*', ' '], rfl⟩
  · exact List.suffix_cons _ _
  · exact List.suffix_rfl

/-- A row that does not end blank does not end blank without its star. -/
theorem getLast?_withoutStar {text : List Char} (last : ∀ c ∈ text.getLast?, isBlank c = false) :
    ∀ c ∈ (withoutStar text).getLast?, isBlank c = false := by
  intro c member
  have nonempty : withoutStar text ≠ [] := by
    intro empty
    rw [empty] at member
    cases member
  obtain ⟨front, split⟩ := withoutStar_isSuffix text
  apply last c
  rwa [← split, List.getLast?_append_of_ne_nil front nonempty]

/-- A bare row does not end in a blank. -/
theorem getLast?_bareRow (row : List Char) : ∀ c ∈ (bareRow row).getLast?, isBlank c = false :=
  getLast?_withoutStar (getLast?_trimEnd (trimStart row))

/-- Behind the star there are no blanks at the end to drop once more. -/
theorem dropGutter_eq (row : List Char) : dropGutter row = bareRow row := by
  have last := getLast?_bareRow row
  unfold dropGutter
  unfold bareRow at last ⊢
  generalize trim row = whole at last ⊢
  split
  · exact trimEnd_of_last last
  · next rest noSpace =>
      have star : withoutStar ('*' :: rest) = rest := withoutStar.eq_2 rest noSpace
      rw [star] at last ⊢
      exact trimEnd_of_last last
  · next noSpace noStar => rw [withoutStar.eq_3 whole noSpace noStar]

/-- A row that does not end in a blank is blank only when it is empty. -/
theorem isBlankRow_of_last {row : List Char} (last : ∀ c ∈ row.getLast?, isBlank c = false) :
    isBlankRow row = row.isEmpty := by
  rcases List.eq_nil_or_concat' row with rfl | ⟨front, c, rfl⟩
  · rfl
  · have notBlank : isBlank c = false := last c List.getLast?_concat
    simp [isBlankRow, notBlank]

/-- Blank rows around rows are dropped, as long as neither the first nor the last of these is blank. -/
theorem withoutBlankEnds_between {before rows behind : List (List Char)}
    (blankBefore : ∀ row ∈ before, isBlankRow row = true)
    (blankBehind : ∀ row ∈ behind, isBlankRow row = true)
    (first : ∃ row ∈ rows.head?, isBlankRow row = false)
    (last : ∃ row ∈ rows.getLast?, isBlankRow row = false) :
    withoutBlankEnds (before ++ rows ++ behind) = rows := by
  obtain ⟨firstRow, isFirst, firstWritten⟩ := first
  obtain ⟨lastRow, isLast, lastWritten⟩ := last
  have front : (before ++ rows ++ behind).dropWhile isBlankRow = rows ++ behind := by
    obtain ⟨rest, rfl⟩ := List.head?_eq_some_iff.1 isFirst
    rw [List.append_assoc, List.dropWhile_append_of_pos blankBefore, List.cons_append,
      List.dropWhile_cons_of_neg (by simp [firstWritten])]
  have blankReversed : ∀ row ∈ behind.reverse, isBlankRow row = true := by
    intro row member
    exact blankBehind row (List.mem_reverse.1 member)
  obtain ⟨rest, rfl⟩ := List.getLast?_eq_some_iff.1 isLast
  rw [withoutBlankEnds, front, List.rdropWhile, List.reverse_append,
    List.dropWhile_append_of_pos blankReversed, List.reverse_concat,
    List.dropWhile_cons_of_neg (by simp [lastWritten]), List.reverse_cons, List.reverse_reverse]

/-- On bare rows, to be empty is to be blank. -/
theorem dropEmptyEnds_bareRows (rows : List (List Char)) :
    dropEmptyEnds (rows.map bareRow) = withoutBlankEnds (rows.map bareRow) := by
  have agree : ∀ row ∈ rows.map bareRow, isBlankRow row = row.isEmpty :=
    List.forall_mem_map.2 fun row _ => isBlankRow_of_last (getLast?_bareRow row)
  have front : (rows.map bareRow).dropWhile isBlankRow = (rows.map bareRow).dropWhile List.isEmpty :=
    dropWhile_congr agree
  have agreeBehind : ∀ row ∈ ((rows.map bareRow).dropWhile List.isEmpty).reverse,
      isBlankRow row = row.isEmpty := by
    intro row member
    exact agree row ((List.dropWhile_sublist _).subset (List.mem_reverse.1 member))
  rw [dropEmptyEnds, withoutBlankEnds, List.rdropWhile, front, dropWhile_congr agreeBehind]

/-! ### Bodies of comments -/

/-- Rows are joined with a feed between any two of them. -/
theorem joinLines_eq (rows : List (List Char)) : joinLines rows = ['\n'].intercalate rows := by
  induction rows with
  | nil => rfl
  | cons row rows ih =>
      cases rows with
      | nil => simp [joinLines]
      | cons next rows =>
          have joined : joinLines (row :: next :: rows) = row ++ '\n' :: joinLines (next :: rows) := rfl
          rw [joined, ih, List.intercalate_cons_cons, List.append_assoc, List.singleton_append]

theorem dropOpening_append (opening text : List Char) : dropOpening opening (opening ++ text) = text := by
  have begins : opening.isPrefixOf (opening ++ text) = true :=
    List.isPrefixOf_iff_prefix.2 (List.prefix_append opening text)
  rw [dropOpening, if_pos begins, List.drop_left]

theorem dropClosing_append (text closing : List Char) : dropClosing closing (text ++ closing) = text := by
  have ends : closing.isSuffixOf (text ++ closing) = true :=
    List.isSuffixOf_iff_suffix.2 (List.suffix_append text closing)
  rw [dropClosing, if_pos ends, List.length_append, Nat.add_sub_cancel, List.take_left]

/-- The text of a documentation comment is that of the rows between its markers. -/
theorem cleanDoc_of_body {comment : String} {body : List Char}
    (written : comment.toList = docOpening ++ (body ++ commentClosing)) :
    cleanDoc comment =
      String.ofList (['\n'].intercalate (withoutBlankEnds ((lines body).map bareRow))) := by
  have gutters : (lines body).map dropGutter = (lines body).map bareRow :=
    List.map_congr_left fun row _ => dropGutter_eq row
  rw [cleanDoc, docLines, written, dropOpening_append, dropClosing_append, gutters,
    dropEmptyEnds_bareRows, joinLines_eq]

/-- The documentation in a block comment with this body: the rows behind a star at its beginning, and
nothing without a star. -/
def blockDoc (body : String) : String :=
  match body.toList with
  | '*' :: rest =>
      String.ofList (['\n'].intercalate (withoutBlankEnds ((lines rest).map bareRow)))
  | _ => ""

/-- The node is a block comment with this body. -/
structure IsBlockComment (source : List Char) (comment : Node) (body : String) : Prop where
  named : comment.isNamed = true
  kind : comment.kind = "comment"
  text : comment.text source = "/*" ++ body ++ "*/"

/-- In the comment without a body one star is read twice, and the last slash is taken for its text. -/
theorem cleanDoc_empty : cleanDoc "/**/" = "/" := by
  decide

/-- A block comment documents what its body says, except that an empty one leaves a slash. -/
theorem docBefore_of_isBlockComment {source : List Char} {comment : Node} {body : String}
    (block : IsBlockComment source comment body) :
    docBefore source (some comment) = if body = "" then "/" else blockDoc body := by
  have isComment : comment.isComment = true := beq_iff_eq.2 block.kind
  have written : (comment.text source).toList = ['/', '*'] ++ (body.toList ++ commentClosing) := by
    rw [block.text, String.toList_append, String.toList_append, List.append_assoc]
    rfl
  have opens : docOpening.isPrefixOf (comment.text source).toList =
      ['*'].isPrefixOf (body.toList ++ commentClosing) := by
    rw [written]
    rfl
  rw [docBefore, if_pos isComment]
  simp only [opens]
  cases chars : body.toList with
  | nil =>
      obtain rfl : body = "" := String.toList_eq_nil_iff.1 chars
      rw [block.text]
      exact cleanDoc_empty
  | cons c rest =>
      have nonempty : body ≠ "" := by
        rintro rfl
        cases chars
      rw [if_neg nonempty, blockDoc, chars]
      -- Only a body that begins with a star makes a documentation comment.
      by_cases star : c = '*'
      · subst star
        rw [chars] at written
        exact cleanDoc_of_body written
      · have noStar : ['*'].isPrefixOf (c :: rest ++ commentClosing) = false := by
          simp [List.isPrefixOf, Ne.symm star]
        rw [noStar, if_neg Bool.false_ne_true]
        split
        · next text begins => exact absurd (List.cons.inj begins).1 star
        · rfl

end DartBindings.Extraction
