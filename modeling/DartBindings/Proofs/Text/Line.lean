import DartBindings.Proofs.Lists
import DartBindings.Proofs.Text.Trim
import DartBindings.Text.Line

/-!
Lines of texts that are put together from rows.

Rows without line feeds, with a feed between any two of them, are the pieces between the feeds.  A row
loses a carriage return at its end when it becomes a line, so rows whose last character is not blank are
lines as they are.

Main exports: Unbroken, lines_intercalate, lines_of_unbroken
-/

namespace DartBindings.Text

variable {row text : List Char}

/-- A row without a feed is the first piece when a feed stands behind it. -/
theorem splitAtFeeds_append_feed (noFeed : '\n' ∉ row) (text : List Char) :
    splitAtFeeds (row ++ '\n' :: text) = row :: splitAtFeeds text := by
  induction row with
  | nil => rfl
  | cons c row ih =>
      obtain ⟨other, noFeed⟩ := not_or.1 (List.mem_cons.not.1 noFeed)
      rw [List.cons_append, splitAtFeeds, if_neg (Ne.symm other), ih noFeed]

/-- A row without a feed is its own only piece. -/
theorem splitAtFeeds_of_noFeed (noFeed : '\n' ∉ row) : splitAtFeeds row = [row] := by
  induction row with
  | nil => rfl
  | cons c row ih =>
      obtain ⟨other, noFeed⟩ := not_or.1 (List.mem_cons.not.1 noFeed)
      rw [splitAtFeeds, if_neg (Ne.symm other), ih noFeed]

/-- Rows are the pieces between the feeds that join them. -/
theorem splitAtFeeds_intercalate {rows : List (List Char)} (nonempty : rows ≠ [])
    (noFeed : ∀ row ∈ rows, '\n' ∉ row) : splitAtFeeds (['\n'].intercalate rows) = rows := by
  induction rows with
  | nil => exact absurd rfl nonempty
  | cons row rows ih =>
      obtain ⟨noFeedHere, noFeedBehind⟩ := List.forall_mem_cons.1 noFeed
      cases rows with
      | nil => simpa using splitAtFeeds_of_noFeed noFeedHere
      | cons next rows =>
          rw [List.intercalate_cons_cons, List.append_assoc, List.singleton_append,
            splitAtFeeds_append_feed noFeedHere, ih (List.cons_ne_nil _ _) noFeedBehind]

/-- All pieces but the last were ended by a feed. -/
theorem linesOfPieces_concat (pieces : List (List Char)) (last : List Char) :
    linesOfPieces (pieces ++ [last]) =
      pieces.map dropCarriageReturn ++ if last.isEmpty then [] else [last] := by
  induction pieces with
  | nil => rfl
  | cons piece pieces ih =>
      have ended : linesOfPieces (piece :: (pieces ++ [last])) =
          dropCarriageReturn piece :: linesOfPieces (pieces ++ [last]) := by
        cases pieces <;> rfl
      rw [List.cons_append, ended, ih, List.map_cons, List.cons_append]

/-- A row whose last character is not blank has no carriage return to lose. -/
theorem dropCarriageReturn_of_last (last : ∀ c ∈ row.getLast?, isBlank c = false) :
    dropCarriageReturn row = row := by
  rw [dropCarriageReturn, if_neg]
  intro isReturn
  exact absurd (last '\r' isReturn) (by decide)

/-- Rows joined by feeds are lines, up to returns at their ends; an empty last one is none. -/
theorem lines_intercalate_concat {front : List (List Char)} {last : List Char}
    (noFeed : ∀ row ∈ front, '\n' ∉ row) (noFeedLast : '\n' ∉ last) :
    lines (['\n'].intercalate (front ++ [last])) =
      front.map dropCarriageReturn ++ if last.isEmpty then [] else [last] := by
  have noFeedAll : ∀ row ∈ front ++ [last], '\n' ∉ row :=
    List.forall_mem_append.2 ⟨noFeed, List.forall_mem_singleton.2 noFeedLast⟩
  rw [lines, splitAtFeeds_intercalate (by simp) noFeedAll, linesOfPieces_concat]

/-- Rows that do not end in a blank are the lines of the text that they make, if the last one is not
empty. -/
theorem lines_intercalate {rows : List (List Char)} (noFeed : ∀ row ∈ rows, '\n' ∉ row)
    (noBlankEnd : ∀ row ∈ rows, ∀ c ∈ row.getLast?, isBlank c = false)
    (written : ∃ last ∈ rows.getLast?, last ≠ []) : lines (['\n'].intercalate rows) = rows := by
  obtain ⟨last, isLast, notEmpty⟩ := written
  obtain ⟨front, rfl⟩ := List.getLast?_eq_some_iff.1 isLast
  have kept : front.map dropCarriageReturn = front := by
    refine (List.map_congr_left fun row member => ?_).trans (List.map_id front)
    exact dropCarriageReturn_of_last (noBlankEnd row (List.mem_append_left _ member))
  obtain ⟨noFeedFront, noFeedLast⟩ := List.forall_mem_append.1 noFeed
  rw [lines_intercalate_concat noFeedFront (noFeedLast last List.mem_cons_self), kept,
    List.isEmpty_eq_false_iff.2 notEmpty]
  rfl

/-- A text without the characters that end lines. -/
def Unbroken (text : List Char) : Prop :=
  ∀ c ∈ text, c ≠ '\n' ∧ c ≠ '\r'

theorem unbroken_iff : Unbroken text ↔ (text.all fun c => c != '\n' && c != '\r') = true := by
  simp only [Unbroken, List.all_eq_true, Bool.and_eq_true, bne_iff_ne]

instance (text : List Char) : Decidable (Unbroken text) :=
  decidable_of_iff _ unbroken_iff.symm

/-- Unbroken texts make an unbroken text. -/
theorem Unbroken.append {other : List Char} (first : Unbroken text) (second : Unbroken other) :
    Unbroken (text ++ other) :=
  List.forall_mem_append.2 ⟨first, second⟩

/-- Characters that satisfy a predicate that no line end satisfies break no line. -/
theorem unbroken_of_all {p : Char → Bool} (feed : p '\n' = false) (carriage : p '\r' = false)
    (satisfied : ∀ c ∈ text, p c = true) : Unbroken text := by
  intro c member
  have holds := satisfied c member
  constructor
  · rintro rfl
    exact Bool.false_ne_true (feed.symm.trans holds)
  · rintro rfl
    exact Bool.false_ne_true (carriage.symm.trans holds)

theorem Unbroken.noFeed (unbroken : Unbroken row) : '\n' ∉ row :=
  fun member => (unbroken '\n' member).1 rfl

/-- An unbroken row has no carriage return to lose. -/
theorem Unbroken.dropCarriageReturn_eq (unbroken : Unbroken row) : dropCarriageReturn row = row := by
  rw [dropCarriageReturn, if_neg]
  intro isReturn
  exact (unbroken '\r' (List.mem_of_getLast? isReturn)).2 rfl

/-- Unbroken rows that are each ended by a feed are the lines of the text that they make. -/
theorem lines_of_unbroken {first : List Char} {rows : List (List Char)}
    (unbroken : ∀ row ∈ first :: rows, Unbroken row) :
    lines (first ++ rows.flatMap ('\n' :: ·) ++ ['\n']) = first :: rows := by
  have ended : first ++ rows.flatMap ('\n' :: ·) ++ ['\n'] =
      ['\n'].intercalate (first :: rows ++ [[]]) := by
    rw [List.cons_append, intercalate_singleton_cons, List.flatMap_append, List.append_assoc]
    rfl
  have kept : (first :: rows).map dropCarriageReturn = first :: rows :=
    (List.map_congr_left fun row member => (unbroken row member).dropCarriageReturn_eq).trans
      (List.map_id _)
  rw [ended, lines_intercalate_concat (fun row member => (unbroken row member).noFeed)
    List.not_mem_nil, kept]
  exact List.append_nil _

end DartBindings.Text
