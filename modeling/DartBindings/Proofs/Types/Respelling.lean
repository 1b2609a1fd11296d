import Mathlib.Data.List.Infix
import DartBindings.Proofs.Types.WrittenExpression
import DartBindings.Replacement.Mapper

/-!
A text is spelled again as it was, up to blanks.

Any text can be read as a type expression, whether it was meant as one or not, and every expression can
be spelled.  Reading takes a text apart at its first angle bracket and at some of its commas; spelling
puts the parts together with the same marks.  What may get lost on the way is an array mark, a place
between marks where nothing stands, and a name that stands for the class around it.  A text without these
comes back.

Main exports: Respellable, ReadsBack, Respellable.readsBack
-/

namespace DartBindings

namespace TypeExpr

open Text Replacement

/-! ### Texts that come back -/

/-- Marks that stand next to each other when a place of an argument list is empty. -/
def emptySlots : List (List Char) :=
  [['<', '>'], ['<', ','], [',', ','], [',', '>']]

/-- A text without array marks in which, up to blanks, no place of an argument list is empty. -/
structure Respellable (text : List Char) : Prop where
  noArrayMark : ¬arrayMark <:+: text
  noEmptySlot : ∀ slot ∈ emptySlots, ¬slot <:+: unspaced text

/-- Whether one text stands in another. -/
def standsIn (part text : List Char) : Bool :=
  text.tails.any fun tail => part.isPrefixOf tail

/-- Standing in a text is being a stretch of it. -/
theorem standsIn_iff {part text : List Char} : standsIn part text = true ↔ part <:+: text := by
  simp only [standsIn, List.any_eq_true, List.mem_tails, List.isPrefixOf_iff_prefix,
    List.infix_iff_prefix_suffix]
  exact exists_congr fun tail => and_comm

-- By tails: the library's own decision for infixes is out of reach for texts of some dozen characters.
instance (text : List Char) : Decidable (Respellable text) :=
  decidable_of_iff
    ((!standsIn arrayMark text && emptySlots.all fun slot => !standsIn slot (unspaced text)) = true)
    (by
      simp only [Bool.and_eq_true, Bool.not_eq_true', List.all_eq_true, ← Bool.not_eq_true,
        standsIn_iff]
      exact ⟨fun ⟨noArrayMark, noEmptySlot⟩ => ⟨noArrayMark, noEmptySlot⟩,
        fun respellable => ⟨respellable.noArrayMark, respellable.noEmptySlot⟩⟩)

/-- At the place, spelling replaces no name of the expression by that of a class. -/
def KeepsNames (scope : Scope) (expression : TypeExpr) : Prop :=
  occursIn Ty.selfName expression = false ∨ scope.enclosingClass? = none

variable {text part name inner : List Char} {scope : Scope} {depth : Nat}

/-- A stretch of a text is a stretch up to blanks. -/
theorem unspaced_isInfix (inside : part <:+: text) : unspaced part <:+: unspaced text :=
  inside.filter _

/-- Every stretch of a respellable text is respellable. -/
theorem Respellable.of_infix (respellable : Respellable text) (inside : part <:+: text) :
    Respellable part where
  noArrayMark := fun within => respellable.noArrayMark (within.trans inside)
  noEmptySlot := fun slot isSlot within =>
    respellable.noEmptySlot slot isSlot (within.trans (unspaced_isInfix inside))

/-- A respellable text does not end as an array. -/
theorem Respellable.endsAsArray (respellable : Respellable text) : endsAsArray text = false := by
  rw [TypeExpr.endsAsArray, Bool.eq_false_iff]
  intro ends
  exact respellable.noArrayMark (List.isSuffixOf_iff_suffix.1 ends).isInfix

/-! ### Parts of a text -/

/-- The name, the opening bracket, the text inside and the closing bracket are the text. -/
theorem eq_of_splitGeneric (split : splitGeneric text = some (name, inner)) :
    text = name ++ '<' :: (inner ++ ['>']) := by
  rw [splitGeneric] at split
  split at split
  · next last =>
      split at split
      · cases split
      · next c behind found =>
          cases split
          have opening : c = '<' := by
            have stops := List.head?_dropWhile_not (· != '<') text
            rw [found] at stops
            simpa using stops
          subst opening
          have whole := List.takeWhile_append_dropWhile (p := (· != '<')) (l := text)
          rw [found] at whole
          have closing : behind.getLast? = some '>' := by
            rw [← whole, List.getLast?_append_of_ne_nil _ (by simp)] at last
            cases behind with
            | nil => exact absurd last (by decide)
            | cons first rest => simpa using last
          rw [List.dropLast_append_getLast? '>' closing, whole]
  · cases split

/-- Splitting at commas takes nothing away but the commas. -/
theorem intercalate_splitArgs (depth : Nat) (text : List Char) :
    [','].intercalate (splitArgs depth text) = text := by
  induction text generalizing depth with
  | nil => rfl
  | cons c rest ih =>
      rw [splitArgs]
      split
      · next comma =>
          rw [comma.1]
          rcases pieces : splitArgs depth rest with _ | ⟨piece, further⟩
          · exact absurd pieces (splitArgs_ne_nil depth rest)
          · rw [List.intercalate_cons_cons, ← pieces, ih]
            rfl
      · have whole := ih (nesting depth c)
        split
        · next nothing => exact absurd nothing (splitArgs_ne_nil _ rest)
        · next piece further pieces =>
            rw [pieces] at whole
            rw [← whole]
            cases further with
            | nil => simp
            | cons second others => simp [List.intercalate_cons_cons]

/-- A text between commas in brackets stands between an opening bracket or a comma and a closing
bracket or a comma. -/
theorem exists_marks_around {texts : List (List Char)} (opening : Char) (member : part ∈ texts) :
    ∃ front before after behind,
      opening :: ([','].intercalate texts ++ ['>']) = front ++ before :: (part ++ after :: behind) ∧
        (before = opening ∨ before = ',') ∧ (after = ',' ∨ after = '>') := by
  induction texts generalizing opening with
  | nil => cases member
  | cons first rest ih =>
      rcases List.mem_cons.1 member with rfl | further
      · cases rest with
        | nil => exact ⟨[], opening, '>', [], by simp, .inl rfl, .inr rfl⟩
        | cons second others =>
            refine ⟨[], opening, ',', [','].intercalate (second :: others) ++ ['>'], ?_, .inl rfl,
              .inl rfl⟩
            simp [List.intercalate_cons_cons]
      · cases rest with
        | nil => cases further
        | cons second others =>
            obtain ⟨front, before, after, behind, split, isBefore, isAfter⟩ := ih ',' further
            refine ⟨opening :: first ++ front, before, after, behind, ?_, .inr (isBefore.elim id id),
              isAfter⟩
            rw [List.intercalate_cons_cons, List.append_assoc, List.append_assoc, List.cons_append,
              List.append_assoc, ← split]
            simp

/-- The pieces of an argument list are parts of the text, and none of them is blank. -/
theorem Respellable.piece (respellable : Respellable text)
    (split : splitGeneric text = some (name, inner)) (member : part ∈ splitArgs 0 inner) :
    part <:+: text ∧ isPresent part = true := by
  obtain ⟨front, before, after, behind, around, isBefore, isAfter⟩ := exists_marks_around '<' member
  rw [intercalate_splitArgs] at around
  have whole : text = name ++ front ++ [before] ++ part ++ [after] ++ behind := by
    rw [eq_of_splitGeneric split, around]
    simp
  constructor
  · exact ⟨name ++ front ++ [before], [after] ++ behind, by simp [whole]⟩
  · by_contra blank
    have blanks : Blanks part := by simpa [isPresent, Blanks] using blank
    have beforeStays : unspaced [before] = [before] := by
      rcases isBefore with rfl | rfl <;> decide
    have afterStays : unspaced [after] = [after] := by
      rcases isAfter with rfl | rfl <;> decide
    have adjacent : [before, after] <:+: unspaced text := by
      refine ⟨unspaced (name ++ front), unspaced behind, ?_⟩
      simp only [whole, unspaced_append, unspaced_eq_nil blanks, beforeStays, afterStays]
      simp
    have isSlot : [before, after] ∈ emptySlots := by
      rcases isBefore with rfl | rfl <;> rcases isAfter with rfl | rfl <;> decide
    exact respellable.noEmptySlot _ isSlot adjacent

/-! ### Spelling what was read -/

/-- What is spelled for a text that is read as a type expression. -/
def respelled (scope : Scope) (text : List Char) : List Char :=
  ((read text).spell scope).toList

/-- Expressions are spelled one by one. -/
theorem spellAll_eq_map (scope : Scope) (expressions : List TypeExpr) :
    spellAll scope expressions = expressions.map (spell scope) := by
  induction expressions with
  | nil => rw [spellAll, List.map_nil]
  | cons expression rest ih => rw [spellAll, ih, List.map_cons]

theorem occursIn_eq_false_of_mem {wanted : String} {expressions : List TypeExpr}
    {expression : TypeExpr} (absent : occursAmong wanted expressions = false)
    (member : expression ∈ expressions) : occursIn wanted expression = false := by
  induction expressions with
  | nil => cases member
  | cons first rest ih =>
      rw [occursAmong, Bool.or_eq_false_iff] at absent
      rcases List.mem_cons.1 member with rfl | further
      · exact absent.1
      · exact ih absent.2 further

/-- Where all names are kept, those in an argument are. -/
theorem KeepsNames.arg {name : String} {args : List TypeExpr} {isArray : Bool} {arg : TypeExpr}
    (keeps : KeepsNames scope ⟨name, args, isArray⟩) (member : arg ∈ args) :
    KeepsNames scope arg := by
  apply keeps.imp_left
  intro absent
  rw [occursIn, Bool.or_eq_false_iff] at absent
  exact occursIn_eq_false_of_mem absent.2 member

/-- Where all names are kept, the first one is. -/
theorem KeepsNames.typeName {name : String} {args : List TypeExpr} {isArray : Bool}
    (keeps : KeepsNames scope ⟨name, args, isArray⟩) : Spelling.typeName scope name = name := by
  rw [Spelling.typeName]
  split
  · next cls found =>
      rcases keeps with absent | noClass
      · rw [occursIn, Bool.or_eq_false_iff, beq_eq_false_iff_ne] at absent
        exact if_neg absent.1
      · rw [noClass] at found
        cases found
  · rfl

/-- A name with texts in brackets, up to blanks. -/
theorem unspaced_brackets {separator : List Char} (comma : unspaced separator = [','])
    (name : List Char) (texts : List (List Char)) :
    unspaced (name ++ '<' :: (separator.intercalate texts ++ ['>'])) =
      unspaced name ++ '<' :: ([','].intercalate (texts.map unspaced) ++ ['>']) := by
  have opening : unspaced ['<'] = ['<'] := by decide
  have closing : unspaced ['>'] = ['>'] := by decide
  rw [← List.singleton_append, unspaced_append, unspaced_append, unspaced_append,
    unspaced_intercalate, comma, opening, closing, List.singleton_append]

/-- The spelling of a name with arguments, up to blanks. -/
theorem unspaced_spelling_named (name : String) {args : List String} (nonempty : args ≠ []) :
    unspaced (Spelling.named scope name args false).toList =
      unspaced (Spelling.typeName scope name).toList ++
        '<' :: ([','].intercalate ((args.map String.toList).map unspaced) ++ ['>']) := by
  have hasArgs : args.isEmpty = false := List.isEmpty_eq_false_iff.2 nonempty
  have spelled : (Spelling.named scope name args false).toList =
      (Spelling.typeName scope name).toList ++
        '<' :: (", ".toList.intercalate (args.map String.toList) ++ ['>']) := by
    simp [Spelling.named, hasArgs]
  rw [spelled, unspaced_brackets (by decide)]

/-- Reading and spelling bring the text back, up to blanks: it has no array mark at its end, spelling
keeps its name, and if it is a name with brackets, no place between the commas is empty and each text
there comes back. -/
inductive ReadsBack (scope : Scope) : List Char → Prop
  | bare {text : List Char} (noArray : endsAsArray (trim text) = false)
      (noBrackets : splitGeneric (trim text) = none)
      (kept : Spelling.typeName scope (String.ofList (trim text)) = String.ofList (trim text)) :
      ReadsBack scope text
  | generic {text name inner : List Char} (split : splitGeneric (trim text) = some (name, inner))
      (kept : Spelling.typeName scope (String.ofList (trim name)) = String.ofList (trim name))
      (present : ∀ piece ∈ splitArgs 0 inner, isPresent piece = true)
      (further : ∀ piece ∈ splitArgs 0 inner, ReadsBack scope piece) : ReadsBack scope text

/-- A text is read as an array when it ends as one. -/
theorem isArray_read (text : List Char) : (read text).isArray = endsAsArray (trim text) := by
  rcases split : splitGeneric (elementText (trim text)) with _ | ⟨name, inner⟩
  · rw [read_of_splitGeneric_eq_none split]
  · rw [read_of_splitGeneric_eq_some split]

/-- What ends in a bracket does not end as an array. -/
theorem endsAsArray_of_splitGeneric (split : splitGeneric text = some (name, inner)) :
    endsAsArray text = false := by
  rw [eq_of_splitGeneric split, endsAsArray, Bool.eq_false_iff, ne_eq, List.isSuffixOf_iff_suffix]
  rintro ⟨front, same⟩
  have lasts := congrArg List.getLast? same
  rw [List.getLast?_append_of_ne_nil _ (by decide),
    List.getLast?_append_of_ne_nil _ (List.cons_ne_nil _ _), getLast?_brackets] at lasts
  exact absurd lasts (by decide)

theorem elementText_of_noArray (noArray : endsAsArray text = false) : elementText text = text := by
  rw [elementText, noArray, if_neg Bool.false_ne_true]

theorem read_of_bare (noArray : endsAsArray (trim text) = false)
    (noBrackets : splitGeneric (trim text) = none) :
    read text = ⟨String.ofList (trim text), [], false⟩ := by
  have element := elementText_of_noArray noArray
  rw [read_of_splitGeneric_eq_none (by rw [element, noBrackets]), element, noArray]

/-- A text with brackets is read as its name and the pieces between them that are present. -/
theorem read_of_generic (split : splitGeneric (trim text) = some (name, inner)) :
    read text =
      ⟨String.ofList (trim name), ((splitArgs 0 inner).filter isPresent).map read, false⟩ := by
  have noArray := endsAsArray_of_splitGeneric split
  rw [read_of_splitGeneric_eq_some (by rw [elementText_of_noArray noArray, split]), noArray]

/-- A name with brackets, up to blanks. -/
theorem unspaced_of_splitGeneric (split : splitGeneric text = some (name, inner)) :
    unspaced text =
      unspaced name ++ '<' :: ([','].intercalate ((splitArgs 0 inner).map unspaced) ++ ['>']) := by
  rw [← @unspaced_brackets [','] (by decide), intercalate_splitArgs, ← eq_of_splitGeneric split]

theorem respelled_of_bare (noArray : endsAsArray (trim text) = false)
    (noBrackets : splitGeneric (trim text) = none) :
    respelled scope text = (Spelling.typeName scope (String.ofList (trim text))).toList := by
  rw [respelled, read_of_bare noArray noBrackets, spell, spellAll]
  simp [Spelling.named]

/-- Up to blanks a text with brackets is spelled as its name and its pieces between them. -/
theorem unspaced_respelled_of_generic (split : splitGeneric (trim text) = some (name, inner))
    (present : ∀ piece ∈ splitArgs 0 inner, isPresent piece = true) :
    unspaced (respelled scope text) =
      unspaced (Spelling.typeName scope (String.ofList (trim name))).toList ++
        '<' :: ([','].intercalate ((splitArgs 0 inner).map fun piece =>
          unspaced (respelled scope piece)) ++ ['>']) := by
  rw [respelled, read_of_generic split, List.filter_eq_self.2 present, spell, spellAll_eq_map,
    unspaced_spelling_named _ (by simpa using splitArgs_ne_nil 0 inner)]
  simp only [List.map_map]
  rfl

/-- Spelling a text that was read gives the text, up to blanks, if the text comes back. -/
theorem ReadsBack.unspaced_respelled (readsBack : ReadsBack scope text) :
    unspaced (respelled scope text) = unspaced text := by
  induction readsBack with
  | bare noArray noBrackets kept =>
      rw [respelled_of_bare noArray noBrackets, kept, String.toList_ofList, unspaced_trim]
  | @generic text name inner split kept present _ ih =>
      rw [unspaced_respelled_of_generic split present, kept, String.toList_ofList, unspaced_trim,
        List.map_congr_left ih, ← unspaced_of_splitGeneric split, unspaced_trim]

/-- A piece of an argument list is shorter than the text. -/
theorem length_lt_of_piece (split : splitGeneric (trim text) = some (name, inner))
    (member : part ∈ splitArgs 0 inner) : part.length < text.length :=
  Nat.lt_of_le_of_lt (length_le_of_mem_splitArgs member)
    (Nat.lt_of_lt_of_le (length_inner_lt split) (length_trim_le text))

/-- A respellable text comes back where its names are kept. -/
theorem Respellable.readsBack {text : List Char} (respellable : Respellable text)
    (keeps : KeepsNames scope (read text)) : ReadsBack scope text := by
  have trimmed := respellable.of_infix (trim_isInfix text)
  rcases split : splitGeneric (trim text) with _ | ⟨name, inner⟩
  · rw [read_of_bare trimmed.endsAsArray split] at keeps
    exact .bare trimmed.endsAsArray split keeps.typeName
  · have present : ∀ piece ∈ splitArgs 0 inner, isPresent piece = true :=
      fun piece member => (trimmed.piece split member).2
    rw [read_of_generic split, List.filter_eq_self.2 present] at keeps
    refine .generic split keeps.typeName present fun piece member => ?_
    have shorter := length_lt_of_piece split member
    exact (trimmed.of_infix (trimmed.piece split member).1).readsBack
      (keeps.arg (List.mem_map_of_mem member))
termination_by text.length

end TypeExpr

end DartBindings
