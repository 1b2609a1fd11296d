import DartBindings.Proofs.Replacement.Reach
import DartBindings.Proofs.Types.Respelling

/-!
Which texts come back.

What is read from a text and spelled as no array has no more marks than the text.  An array mark at the
end is dropped, one inside becomes the one bracket of a list, and an empty place goes with its comma.  So
if the spelled text is the text up to blanks, no mark was lost anywhere, and then the marks cut both
texts into the same names.  This tells exactly which texts come back, as long as the class around the
place has a name without marks, which cannot make up for a lost one.

Main exports: marks, unspaced_asElement_eq_iff
-/

namespace DartBindings.TypeExpr

open Text

/-! ### Marks -/

/-- What a character counts as a mark.  An array mark counts more than the bracket of a list that is
spelled for it. -/
def markWeight (c : Char) : Nat :=
  if c = '[' then 2 else if c = '<' ∨ c = ',' then 1 else 0

/-- What the marks in a text count. -/
def marks : List Char → Nat
  | [] => 0
  | c :: rest => markWeight c + marks rest

/-- What the marks in texts count, with one mark for each text. -/
def slots : List (List Char) → Nat
  | [] => 0
  | text :: rest => marks text + 1 + slots rest

variable {text part name inner : List Char} {scope : Scope}

theorem marks_append (text other : List Char) : marks (text ++ other) = marks text + marks other := by
  induction text with
  | nil => rw [List.nil_append, marks, Nat.zero_add]
  | cons c rest ih => rw [List.cons_append, marks, marks, ih, Nat.add_assoc]

/-- A blank is no mark. -/
theorem markWeight_of_isBlank {c : Char} (blank : isBlank c = true) : markWeight c = 0 := by
  have others : c ≠ '[' ∧ c ≠ '<' ∧ c ≠ ',' := by
    refine ⟨?_, ?_, ?_⟩ <;> rintro rfl <;> exact absurd blank (by decide)
  simp [markWeight, others]

theorem marks_unspaced (text : List Char) : marks (unspaced text) = marks text := by
  induction text with
  | nil => rfl
  | cons c rest ih =>
      rw [unspaced] at ih ⊢
      by_cases blank : isBlank c = true
      · rw [List.filter_cons_of_neg (by simp [blank]), ih, marks, markWeight_of_isBlank blank,
          Nat.zero_add]
      · rw [List.filter_cons_of_pos (by simp [blank]), marks, marks, ih]

theorem marks_trim (text : List Char) : marks (trim text) = marks text := by
  rw [← marks_unspaced, unspaced_trim, marks_unspaced]

/-- Texts between separators that count one have the marks of their slots but one. -/
theorem marks_intercalate {separator : List Char} (single : marks separator = 1)
    {texts : List (List Char)} (nonempty : texts ≠ []) :
    marks (separator.intercalate texts) + 1 = slots texts := by
  induction texts with
  | nil => exact absurd rfl nonempty
  | cons first rest ih =>
      cases rest with
      | nil => simp [slots]
      | cons second others =>
          rw [List.intercalate_cons_cons, marks_append, marks_append, single, slots,
            ← ih (List.cons_ne_nil _ _)]
          omega

/-- An array mark at the end is all that the element lacks. -/
theorem marks_elementText (text : List Char) :
    marks (elementText (trim text)) + (if endsAsArray (trim text) then 2 else 0) = marks text := by
  rw [← marks_trim text, elementText]
  split
  · next ends =>
      obtain ⟨front, whole⟩ := List.isSuffixOf_iff_suffix.1 ends
      have cut : (trim text).take ((trim text).length - 2) = front := by
        rw [← whole]
        simp [arrayMark]
      have trimmed : marks (trimEnd front) = marks front := by
        rw [← marks_unspaced, unspaced_trimEnd, marks_unspaced]
      rw [cut, trimmed, ← whole, marks_append]
      rfl
  · rfl

/-! ### Marks of what is spelled -/

/-- The class around the place, if there is one, has a name without blanks and without marks. -/
def UnmarkedClass (scope : Scope) : Prop :=
  ∀ cls, scope.enclosingClass? = some cls →
    marks cls.toList = 0 ∧ unspaced cls.toList = cls.toList

/-- The expression as no array. -/
def asElement (expression : TypeExpr) : TypeExpr :=
  { expression with isArray := false }

/-- A name that the class replaces has no marks, and the class has none. -/
theorem marks_typeName (unmarked : UnmarkedClass scope) (name : String) :
    marks (Spelling.typeName scope name).toList = marks name.toList := by
  rw [Spelling.typeName]
  split
  · next cls found =>
      split
      · next same =>
          rw [(unmarked cls found).1, same]
          rfl
      · rfl
  · rfl

/-- A name that is spelled as it is up to blanks is kept. -/
theorem typeName_eq_of_unspaced (unmarked : UnmarkedClass scope) {name : String}
    (same : unspaced (Spelling.typeName scope name).toList = unspaced name.toList) :
    Spelling.typeName scope name = name := by
  rw [Spelling.typeName] at same ⊢
  split
  · next cls found =>
      rw [found] at same
      split
      · next isSelf =>
          simp only [isSelf, if_true] at same
          have spaced : unspaced Ty.selfName.toList = Ty.selfName.toList := by decide
          rw [(unmarked cls found).2, spaced] at same
          rw [isSelf, String.toList_inj.1 same]
      · rfl
  · rfl

/-- What is spelled of a name with arguments has the marks of the name and of its slots. -/
theorem marks_named (unmarked : UnmarkedClass scope) (name : String) (args : List String) :
    marks (Spelling.named scope name args false).toList =
      marks name.toList + slots (args.map String.toList) := by
  cases args with
  | nil => simp [Spelling.named, slots, marks_typeName unmarked]
  | cons first rest =>
      have inside := @marks_intercalate ", ".toList (by decide) _
        (List.cons_ne_nil first.toList (rest.map String.toList))
      have spelled : (Spelling.named scope name (first :: rest) false).toList =
          (Spelling.typeName scope name).toList ++ ("<".toList ++
            (", ".toList.intercalate ((first :: rest).map String.toList) ++ ">".toList)) := by
        simp [Spelling.named]
      have opening : marks "<".toList = 1 := by decide
      have closing : marks ">".toList = 0 := by decide
      rw [spelled, marks_append, marks_append, marks_append, marks_typeName unmarked, opening,
        closing, List.map_cons]
      omega

/-- An array is spelled with one mark more than its element. -/
theorem marks_spell (expression : TypeExpr) :
    marks (expression.spell scope).toList =
      marks (expression.asElement.spell scope).toList + (if expression.isArray then 1 else 0) := by
  obtain ⟨name, args, isArray⟩ := expression
  cases isArray with
  | false => rfl
  | true =>
      have opening : marks "List<".toList = 1 := by decide
      have closing : marks ">".toList = 0 := by decide
      simp only [asElement, spell, Spelling.named_array, Spelling.inList, String.toList_append,
        marks_append, opening, closing, if_true]
      omega

/-- Dropped slots, and slots with fewer marks, are missed in the sum. -/
theorem slots_le {texts : List (List Char)} {spelled : List Char → List Char}
    (fewer : ∀ text ∈ texts, marks (spelled text) ≤ marks text) :
    slots ((texts.filter isPresent).map spelled) ≤ slots texts ∧
      (slots texts ≤ slots ((texts.filter isPresent).map spelled) →
        ∀ text ∈ texts, isPresent text = true ∧ marks (spelled text) = marks text) := by
  induction texts with
  | nil => simp [slots]
  | cons first rest ih =>
      obtain ⟨firstFewer, restFewer⟩ := List.forall_mem_cons.1 fewer
      obtain ⟨restLe, restKept⟩ := ih restFewer
      cases present : isPresent first with
      | false =>
          rw [List.filter_cons_of_neg (by simp [present]), slots]
          exact ⟨by omega, fun all => absurd all (by omega)⟩
      | true =>
          rw [List.filter_cons_of_pos present, List.map_cons, slots, slots]
          refine ⟨by omega, fun all => List.forall_mem_cons.2 ⟨⟨present, by omega⟩, ?_⟩⟩
          exact restKept (by omega)

/-! ### Marks of what was read -/

/-- The text of a name with brackets has the marks of its name and of the places in the brackets. -/
theorem marks_of_splitGeneric (split : splitGeneric text = some (name, inner)) :
    marks text = marks name + slots (splitArgs 0 inner) := by
  have inside := @marks_intercalate [','] (by decide) _ (splitArgs_ne_nil 0 inner)
  have closing : marks ['>'] = 0 := by decide
  have opening : markWeight '<' = 1 := by decide
  rw [intercalate_splitArgs] at inside
  rw [eq_of_splitGeneric split, marks_append, marks, marks_append, closing, opening, ← inside]
  omega

theorem asElement_read_of_bare (bare : splitGeneric (elementText (trim text)) = none) :
    (read text).asElement = ⟨String.ofList (elementText (trim text)), [], false⟩ := by
  rw [read_of_splitGeneric_eq_none bare, asElement]

/-- A text with brackets is spelled as its name and what is read between its commas. -/
theorem spell_asElement_of_generic (generic : splitGeneric (elementText (trim text)) =
    some (name, inner)) :
    (read text).asElement.spell scope =
      Spelling.named scope (String.ofList (trim name))
        ((((splitArgs 0 inner).filter isPresent).map read).map (spell scope)) false := by
  rw [read_of_splitGeneric_eq_some generic, asElement, spell, spellAll_eq_map]

/-- The marks of a spelled generic are those of its name, its parts and the places between them. -/
theorem marks_asElement_of_generic (unmarked : UnmarkedClass scope)
    (generic : splitGeneric (elementText (trim text)) = some (name, inner)) :
    marks ((read text).asElement.spell scope).toList =
      marks name + slots (((splitArgs 0 inner).filter isPresent).map (respelled scope)) := by
  rw [spell_asElement_of_generic generic, marks_named unmarked, String.toList_ofList, marks_trim,
    List.map_map, List.map_map]
  rfl

/-- If the element of a text keeps to the marks of the text, the array does, with one to spare. -/
theorem marks_respelled_le (element : marks ((read part).asElement.spell scope).toList +
      (if endsAsArray (trim part) then 2 else 0) ≤ marks part) :
    marks (respelled scope part) + (if endsAsArray (trim part) then 1 else 0) ≤ marks part := by
  rw [respelled, marks_spell, isArray_read]
  split <;> simp_all

theorem length_piece_lt (generic : splitGeneric (elementText (trim text)) = some (name, inner))
    (member : part ∈ splitArgs 0 inner) : part.length < text.length :=
  Nat.lt_of_le_of_lt (length_le_of_mem_splitArgs member) (length_inner_lt_of_trim generic)

/-- What is read and spelled as no array has no more marks than the text, and two less if the text has an
array mark at its end. -/
theorem marks_asElement_le (unmarked : UnmarkedClass scope) (text : List Char) :
    marks ((read text).asElement.spell scope).toList + (if endsAsArray (trim text) then 2 else 0) ≤
      marks text := by
  rw [← marks_elementText text]
  apply Nat.add_le_add_right
  rcases split : splitGeneric (elementText (trim text)) with _ | ⟨name, inner⟩
  · rw [asElement_read_of_bare split, spell, spellAll, marks_named unmarked, String.toList_ofList]
    exact Nat.le_refl _
  · rw [marks_asElement_of_generic unmarked split, marks_of_splitGeneric split]
    apply Nat.add_le_add_left
    have fewer : ∀ piece ∈ splitArgs 0 inner, marks (respelled scope piece) ≤ marks piece := by
      intro piece member
      have shorter := length_piece_lt split member
      exact Nat.le_of_add_right_le (marks_respelled_le (marks_asElement_le unmarked piece))
    exact (slots_le fewer).1
termination_by text.length

/-! ### Texts with the same marks -/

/-- Two texts that go on with a mark end in front of it at the same place if they have the same marks. -/
theorem append_inj_of_marks {c : Char} {rest other : List Char} (mark : 0 < markWeight c)
    (sameMarks : marks text = marks part) (same : text ++ c :: rest = part ++ c :: other) :
    text = part ∧ rest = other := by
  rcases List.append_eq_append_iff.1 same with ⟨between, longer, further⟩ | ⟨between, longer, further⟩
  all_goals
    cases between with
    | nil =>
        rw [List.append_nil] at longer
        cases further
        simp [longer]
    | cons first others =>
        cases further
        rw [longer, marks_append, marks] at sameMarks
        omega

/-- Texts behind commas are the same one by one if they have the same marks one by one. -/
theorem eq_of_intercalate {texts : List (List Char)} {left right : List Char → List Char}
    (sameMarks : ∀ text ∈ texts, marks (left text) = marks (right text))
    (same : [','].intercalate (texts.map left) = [','].intercalate (texts.map right)) :
    ∀ text ∈ texts, left text = right text := by
  have comma : 0 < markWeight ',' := by decide
  induction texts with
  | nil => simp
  | cons first rest ih =>
      obtain ⟨firstMarks, restMarks⟩ := List.forall_mem_cons.1 sameMarks
      cases rest with
      | nil => simpa using same
      | cons second others =>
          simp only [List.map_cons, List.intercalate_cons_cons, List.append_assoc,
            List.singleton_append] at same
          obtain ⟨firstSame, restSame⟩ := append_inj_of_marks comma firstMarks same
          exact List.forall_mem_cons.2 ⟨firstSame, ih restMarks restSame⟩

/-! ### Texts that come back -/

theorem asElement_eq_self {expression : TypeExpr} (plain : expression.isArray = false) :
    expression.asElement = expression := by
  obtain ⟨name, args, isArray⟩ := expression
  cases plain
  rfl

/-- A text that comes back is not read as an array. -/
theorem ReadsBack.isArray_read (readsBack : ReadsBack scope text) : (read text).isArray = false := by
  cases readsBack with
  | bare noArray noBrackets _ => rw [read_of_bare noArray noBrackets]
  | generic split _ _ _ => rw [read_of_generic split]

/-- A text has no array mark at its end if its marks are all spelled. -/
theorem noArray_of_marks (unmarked : UnmarkedClass scope)
    (all : marks text ≤ marks (respelled scope text)) : endsAsArray (trim text) = false := by
  have bound := marks_respelled_le (marks_asElement_le unmarked text)
  rw [Bool.eq_false_iff]
  intro ends
  rw [ends, if_pos rfl] at bound
  omega

/-- If the marks of a name with brackets are all spelled, no place in the brackets is empty, and the
marks of each are spelled. -/
theorem pieces_kept (unmarked : UnmarkedClass scope)
    (split : splitGeneric (trim text) = some (name, inner))
    (all : marks (respelled scope text) = marks text) :
    ∀ piece ∈ splitArgs 0 inner,
      isPresent piece = true ∧ marks (respelled scope piece) = marks piece := by
  have generic : splitGeneric (elementText (trim text)) = some (name, inner) := by
    rw [elementText_of_noArray (endsAsArray_of_splitGeneric split), split]
  have plain : (read text).isArray = false := by
    rw [isArray_read, endsAsArray_of_splitGeneric split]
  have spelled := marks_asElement_of_generic unmarked generic
  rw [asElement_eq_self plain] at spelled
  have fewer : ∀ piece ∈ splitArgs 0 inner, marks (respelled scope piece) ≤ marks piece :=
    fun piece _ => Nat.le_of_add_right_le (marks_respelled_le (marks_asElement_le unmarked piece))
  apply (slots_le fewer).2
  rw [← marks_trim text, marks_of_splitGeneric split, respelled, spelled] at all
  exact Nat.le_of_eq (Nat.add_left_cancel all).symm

/-- Only a text that comes back is spelled as it was, up to blanks. -/
theorem readsBack_of_unspaced (unmarked : UnmarkedClass scope) (text : List Char)
    (same : unspaced (respelled scope text) = unspaced text) : ReadsBack scope text := by
  have all : marks (respelled scope text) = marks text := by
    rw [← marks_unspaced, same, marks_unspaced]
  rcases split : splitGeneric (trim text) with _ | ⟨name, inner⟩
  · have noArray := noArray_of_marks unmarked (Nat.le_of_eq all.symm)
    apply ReadsBack.bare noArray split
    apply typeName_eq_of_unspaced unmarked
    rw [← respelled_of_bare noArray split, same, String.toList_ofList, unspaced_trim]
  · have kept := pieces_kept unmarked split all
    -- Equal marks cut both texts at the same places, so that equality goes down to the pieces.
    have present := fun piece member => (kept piece member).1
    have nameMarks : marks (unspaced (Spelling.typeName scope (String.ofList (trim name))).toList) =
        marks (unspaced name) := by
      rw [marks_unspaced, marks_typeName unmarked, String.toList_ofList, marks_trim, marks_unspaced]
    rw [← unspaced_trim text, unspaced_of_splitGeneric split,
      unspaced_respelled_of_generic split present] at same
    obtain ⟨sameName, inside⟩ := append_inj_of_marks (by decide) nameMarks same
    have samePieces := eq_of_intercalate
      (fun piece member => by rw [marks_unspaced, marks_unspaced, (kept piece member).2])
      (List.append_cancel_right inside)
    apply ReadsBack.generic split _ present
    · intro piece member
      have shorter := length_lt_of_piece split member
      exact readsBack_of_unspaced unmarked piece (samePieces piece member)
    · apply typeName_eq_of_unspaced unmarked
      rw [sameName, String.toList_ofList, unspaced_trim]
termination_by text.length

/-- As no array, a text is spelled as it was, up to blanks, exactly if it comes back. -/
theorem unspaced_asElement_eq_iff (unmarked : UnmarkedClass scope) :
    unspaced ((read text).asElement.spell scope).toList = unspaced text ↔ ReadsBack scope text := by
  constructor
  · intro same
    have all : marks text ≤ marks (respelled scope text) := by
      rw [respelled, marks_spell, ← marks_unspaced, ← same, marks_unspaced]
      exact Nat.le_add_right _ _
    have noArray := noArray_of_marks unmarked all
    rw [asElement_eq_self (by rw [isArray_read, noArray])] at same
    exact readsBack_of_unspaced unmarked text same
  · intro readsBack
    rw [asElement_eq_self readsBack.isArray_read]
    exact readsBack.unspaced_respelled

end DartBindings.TypeExpr
