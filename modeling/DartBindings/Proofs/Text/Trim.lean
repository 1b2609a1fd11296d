import Mathlib.Data.List.Basic
import DartBindings.Text.Blank

/-!
Trimming removes exactly the blank ends of a text.  Two texts are alike up to blanks when nothing else
tells them apart.

Main exports: Blanks, Tight, unspaced, unspaced_trim
-/

namespace DartBindings.Text

/-- A text of blank characters only. -/
def Blanks (text : List Char) : Prop :=
  ∀ c ∈ text, isBlank c = true

instance (text : List Char) : Decidable (Blanks text) :=
  decidable_of_iff (text.all isBlank = true) List.all_eq_true

/-- A text that has a first and a last character, neither of them blank. -/
structure Tight (text : List Char) : Prop where
  nonempty : text ≠ []
  head : ∀ c ∈ text.head?, isBlank c = false
  last : ∀ c ∈ text.getLast?, isBlank c = false

theorem tight_iff {text : List Char} : Tight text ↔
    text ≠ [] ∧ text.head?.all (!isBlank ·) = true ∧ text.getLast?.all (!isBlank ·) = true := by
  simp only [Option.all_eq_true, Bool.not_eq_true']
  exact ⟨fun tight => ⟨tight.nonempty, tight.head, tight.last⟩,
    fun ⟨nonempty, head, last⟩ => ⟨nonempty, head, last⟩⟩

instance (text : List Char) : Decidable (Tight text) :=
  decidable_of_iff _ tight_iff.symm

variable {gap text other : List Char}

theorem Blanks.nil : Blanks [] := by
  intro c member
  cases member

theorem Blanks.append (first : Blanks gap) (second : Blanks text) : Blanks (gap ++ text) := by
  intro c member
  rcases List.mem_append.1 member with inFirst | inSecond
  · exact first c inFirst
  · exact second c inSecond

theorem trimStart_blanks_append (blanks : Blanks gap) (text : List Char) :
    trimStart (gap ++ text) = trimStart text :=
  List.dropWhile_append_of_pos blanks

/-- Nothing is left of blanks. -/
theorem trim_of_blanks (blanks : Blanks text) : trim text = [] := by
  rw [trim, ← List.append_nil text, trimStart_blanks_append blanks]
  rfl

theorem trimEnd_append_blanks (text : List Char) (blanks : Blanks gap) :
    trimEnd (text ++ gap) = trimEnd text := by
  have reversed : ∀ c ∈ gap.reverse, isBlank c = true := by
    intro c member
    exact blanks c (List.mem_reverse.1 member)
  rw [trimEnd, List.reverse_append, List.dropWhile_append_of_pos reversed, trimEnd]

theorem Tight.trimStart_append (tight : Tight text) (other : List Char) :
    trimStart (text ++ other) = text ++ other := by
  cases text with
  | nil => exact absurd rfl tight.nonempty
  | cons c rest =>
      have notBlank : isBlank c = false := tight.head c rfl
      simp [trimStart, notBlank]

/-- A text whose last character is not blank has nothing to lose at its end. -/
theorem trimEnd_of_last (last : ∀ c ∈ text.getLast?, isBlank c = false) : trimEnd text = text := by
  rcases List.eq_nil_or_concat' text with rfl | ⟨front, c, rfl⟩
  · rfl
  · have notBlank : isBlank c = false := last c List.getLast?_concat
    simp [trimEnd, notBlank]

theorem getLast?_trimEnd (text : List Char) : ∀ c ∈ (trimEnd text).getLast?, isBlank c = false := by
  intro c member
  rw [trimEnd, List.getLast?_reverse] at member
  have notBlank := List.head?_dropWhile_not isBlank text.reverse
  rwa [Option.mem_def.1 member] at notBlank

theorem Tight.trimEnd (tight : Tight text) : trimEnd text = text :=
  trimEnd_of_last tight.last

/-- Two tight texts with any text between them are tight as a whole. -/
theorem Tight.append {first second : List Char} (tightFirst : Tight first)
    (tightSecond : Tight second) (between : List Char) : Tight (first ++ between ++ second) := by
  refine ⟨by simp [tightFirst.nonempty], ?_, ?_⟩
  · intro c member
    rw [List.append_assoc, List.head?_append_of_ne_nil first tightFirst.nonempty] at member
    exact tightFirst.head c member
  · intro c member
    rw [List.getLast?_append_of_ne_nil _ tightSecond.nonempty] at member
    exact tightSecond.last c member

/-- Trimming finds the tight text between blanks. -/
theorem Tight.trim_blanks (tight : Tight text) {before after : List Char} (first : Blanks before)
    (second : Blanks after) : trim (before ++ text ++ after) = text := by
  rw [trim, List.append_assoc, trimStart_blanks_append first, tight.trimStart_append,
    trimEnd_append_blanks text second, tight.trimEnd]

/-- Trimming keeps the last character unless it is blank. -/
theorem getLast?_trim {c : Char} (last : text.getLast? = some c) (notBlank : isBlank c = false) :
    (trim text).getLast? = some c := by
  obtain ⟨front, rfl⟩ := List.getLast?_eq_some_iff.1 last
  have single : Tight [c] := ⟨List.cons_ne_nil c [], by simp [notBlank], by simp [notBlank]⟩
  have start : ∃ kept, trimStart (front ++ [c]) = kept ++ [c] := by
    rw [trimStart, List.dropWhile_append]
    split
    · exact ⟨[], by simp [notBlank]⟩
    · exact ⟨_, rfl⟩
  obtain ⟨kept, start⟩ := start
  rw [trim, start, trimEnd, List.reverse_concat, List.dropWhile_cons_of_neg (by simp [notBlank])]
  simp

theorem trimStart_isSuffix (text : List Char) : trimStart text <:+ text :=
  List.dropWhile_suffix isBlank

theorem trimEnd_isPrefix (text : List Char) : trimEnd text <+: text := by
  have reversed := List.reverse_prefix.2 (List.dropWhile_suffix (l := text.reverse) isBlank)
  rwa [List.reverse_reverse] at reversed

theorem trim_isInfix (text : List Char) : trim text <:+: text :=
  (trimEnd_isPrefix _).isInfix.trans (trimStart_isSuffix text).isInfix

/-! ### Texts without blanks -/

/-- The text without its blank characters, wherever they stand. -/
def unspaced (text : List Char) : List Char :=
  text.filter (!isBlank ·)

theorem unspaced_append (text other : List Char) :
    unspaced (text ++ other) = unspaced text ++ unspaced other :=
  List.filter_append text other

theorem unspaced_eq_nil (blanks : Blanks text) : unspaced text = [] := by
  rw [unspaced, List.filter_eq_nil_iff]
  intro c member
  simp [blanks c member]

theorem unspaced_trimStart (text : List Char) : unspaced (trimStart text) = unspaced text := by
  have front : Blanks (text.takeWhile isBlank) := List.all_eq_true.1 List.all_takeWhile
  calc unspaced (trimStart text)
      = unspaced (text.takeWhile isBlank) ++ unspaced (trimStart text) := by
        rw [unspaced_eq_nil front, List.nil_append]
    _ = unspaced text := by
        rw [← unspaced_append, trimStart, List.takeWhile_append_dropWhile]

theorem unspaced_reverse (text : List Char) : unspaced text.reverse = (unspaced text).reverse :=
  List.filter_reverse

theorem unspaced_trimEnd (text : List Char) : unspaced (trimEnd text) = unspaced text := by
  calc unspaced (trimEnd text)
      = (unspaced (trimStart text.reverse)).reverse := unspaced_reverse _
    _ = unspaced text := by
        rw [unspaced_trimStart, unspaced_reverse, List.reverse_reverse]

/-- Trimming does not matter up to blanks. -/
theorem unspaced_trim (text : List Char) : unspaced (trim text) = unspaced text := by
  rw [trim, unspaced_trimEnd, unspaced_trimStart]

/-- Blanks are left out of the parts and of the separator between them. -/
theorem unspaced_intercalate (separator : List Char) (parts : List (List Char)) :
    unspaced (separator.intercalate parts) =
      (unspaced separator).intercalate (parts.map unspaced) := by
  induction parts with
  | nil => rfl
  | cons first rest ih =>
      cases rest with
      | nil => simp
      | cons second others =>
          rw [List.intercalate_cons_cons, unspaced_append, unspaced_append, ih]
          simp only [List.map_cons, List.intercalate_cons_cons]

end DartBindings.Text
