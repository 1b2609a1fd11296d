import DartBindings.Proofs.Lists
import DartBindings.Proofs.Text.Trim
import DartBindings.Types.Expression

/-!
Written type expressions are read back.

An expression is written as its name, its arguments between angle brackets and its array mark.  Blanks
may stand between these pieces.  If the names can be told from the marks, the text is read as the
expression: blanks at the ends of a piece are trimmed, the first and the last angle bracket enclose the
arguments, and commas inside an argument stand in angle brackets of its own.

Main exports: Spaced, WellNamed, read_of_spaced, ofString_of_spaced
-/

namespace DartBindings

namespace TypeExpr

open Text

/-! ### Written forms -/

mutual

/-- The pieces of the written form `name<arg,…>[]`, in order. -/
def pieces : TypeExpr → List (List Char)
  | ⟨name, args, isArray⟩ =>
      name.toList :: (listPieces args ++ if isArray then [arrayMark] else [])

/-- The pieces of an argument list; without arguments there is none. -/
def listPieces : List TypeExpr → List (List Char)
  | [] => []
  | arg :: args => ['<'] :: (arg.pieces ++ furtherPieces args)

/-- The pieces behind an argument: further arguments, each behind a comma, and the closing bracket. -/
def furtherPieces : List TypeExpr → List (List Char)
  | [] => [['>']]
  | arg :: args => [','] :: (arg.pieces ++ furtherPieces args)

end

/-- The text consists of the pieces, in order, and of blanks in front of, between and behind them. -/
inductive Spaced : List (List Char) → List Char → Prop
  | done {gap : List Char} (blanks : Blanks gap) : Spaced [] gap
  | piece {gap piece rest : List Char} {pieces : List (List Char)} (blanks : Blanks gap)
      (further : Spaced pieces rest) : Spaced (piece :: pieces) (gap ++ piece ++ rest)

/-- A name that can be told from the marks of an expression. -/
structure IsName (name : List Char) : Prop where
  tight : Tight name
  noMark : ∀ c ∈ name, c ≠ '<' ∧ c ≠ '>' ∧ c ≠ ','
  noArray : ¬arrayMark <:+ name

instance (name : List Char) : Decidable (IsName name) :=
  decidable_of_iff
    (Tight name ∧ (name.all fun c => c ≠ '<' ∧ c ≠ '>' ∧ c ≠ ',') = true ∧ ¬arrayMark <:+ name)
    ⟨fun ⟨tight, noMark, noArray⟩ => ⟨tight, by simpa using noMark, noArray⟩,
      fun isName => ⟨isName.tight, by simpa using isName.noMark, isName.noArray⟩⟩

/-- An expression all of whose names can be told from its marks. -/
inductive WellNamed : TypeExpr → Prop
  | intro {name : String} {args : List TypeExpr} {isArray : Bool} (isName : IsName name.toList)
      (inside : ∀ arg ∈ args, WellNamed arg) : WellNamed ⟨name, args, isArray⟩

namespace Spaced

variable {first second : List (List Char)} {text gap : List Char}

/-- The text of pieces and further pieces is a text of the pieces and one of the further pieces. -/
theorem split (spaced : Spaced (first ++ second) text) :
    ∃ front rest, text = front ++ rest ∧ Spaced first front ∧ Spaced second rest := by
  induction first generalizing text with
  | nil => exact ⟨[], text, rfl, .done .nil, spaced⟩
  | cons piece pieces ih =>
      cases spaced with
      | piece blanks further =>
          obtain ⟨front, rest, rfl, spacedFront, spacedRest⟩ := ih further
          exact ⟨_, rest, by simp, .piece blanks spacedFront, spacedRest⟩

/-- Further blanks may stand behind a text. -/
theorem append_blanks (spaced : Spaced first text) (blanks : Blanks gap) :
    Spaced first (text ++ gap) := by
  induction spaced with
  | done before => exact .done (before.append blanks)
  | piece before _ ih =>
      rw [List.append_assoc]
      exact .piece before ih

end Spaced

/-! ### Commas outside brackets -/

/-- The pieces with a text in front of the first of them. -/
def glue (text : List Char) : List (List Char) → List (List Char)
  | [] => [text]
  | piece :: pieces => (text ++ piece) :: pieces

theorem glue_append (first second : List Char) (pieces : List (List Char)) :
    glue (first ++ second) pieces = glue first (glue second pieces) := by
  cases pieces with
  | nil => rfl
  | cons piece pieces => simp [glue]

/-- Splitting passes over the text as a whole, from one depth to the other. -/
def Passes (before : Nat) (text : List Char) (after : Nat) : Prop :=
  ∀ rest, splitArgs before (text ++ rest) = glue text (splitArgs after rest)

/-- A text whose brackets come in pairs, without commas outside of them. -/
def Balanced (text : List Char) : Prop :=
  ∀ depth, Passes depth text depth

variable {depth : Nat} {text : List Char} {texts : List (List Char)}

/-- A character that is no comma outside of brackets does not end an argument. -/
theorem passes_singleton {c : Char} (inside : ¬(c = ',' ∧ depth = 0)) :
    Passes depth [c] (nesting depth c) := by
  intro rest
  rw [List.singleton_append, splitArgs, if_neg inside]
  cases splitArgs (nesting depth c) rest with
  | nil => rfl
  | cons piece pieces => rfl

/-- Texts that end no argument end none together. -/
theorem Passes.append {before between after : Nat} {first second : List Char}
    (passes : Passes before first between) (further : Passes between second after) :
    Passes before (first ++ second) after := by
  intro rest
  rw [List.append_assoc, passes, further, glue_append]

/-- Balanced texts make a balanced text. -/
theorem Balanced.append {first second : List Char} (balanced : Balanced first)
    (further : Balanced second) : Balanced (first ++ second) := by
  intro depth
  exact (balanced depth).append (further depth)

/-- There is always a piece, perhaps an empty one. -/
theorem splitArgs_ne_nil (depth : Nat) (text : List Char) : splitArgs depth text ≠ [] := by
  cases text with
  | nil => simp [splitArgs]
  | cons c rest =>
      rw [splitArgs]
      split
      · simp
      · split <;> simp

theorem Balanced.nil : Balanced [] := by
  intro depth rest
  cases pieces : splitArgs depth rest with
  | nil => exact absurd pieces (splitArgs_ne_nil depth rest)
  | cons piece pieces' => simp [glue, pieces]

/-- A text without marks is passed over. -/
theorem balanced_of_noMark (noMark : ∀ c ∈ text, c ≠ '<' ∧ c ≠ '>' ∧ c ≠ ',') : Balanced text := by
  induction text with
  | nil => exact .nil
  | cons c rest ih =>
      intro depth
      obtain ⟨noOpening, noClosing, noComma⟩ := noMark c List.mem_cons_self
      have single : Passes depth [c] depth := by
        have passes : Passes depth [c] (nesting depth c) := passes_singleton (by simp [noComma])
        simpa [nesting, noOpening, noClosing] using passes
      exact single.append (ih (fun other member => noMark other (List.mem_cons_of_mem c member)) depth)

theorem balanced_of_blanks (blanks : Blanks text) : Balanced text := by
  apply balanced_of_noMark
  intro c member
  have blank := blanks c member
  refine ⟨?_, ?_, ?_⟩ <;>
    · rintro rfl
      exact absurd blank (by decide)

/-- Inside brackets commas are passed over like other characters. -/
theorem passes_intercalate (balanced : ∀ text ∈ texts, Balanced text) :
    Passes (depth + 1) ([','].intercalate texts) (depth + 1) := by
  induction texts with
  | nil => exact Balanced.nil _
  | cons first rest ih =>
      have firstBalanced := balanced first List.mem_cons_self
      cases rest with
      | nil =>
          rw [List.intercalate_singleton]
          exact firstBalanced _
      | cons second others =>
          have comma : Passes (depth + 1) [','] (depth + 1) := passes_singleton (by simp)
          rw [List.intercalate_cons_cons]
          exact ((firstBalanced _).append comma).append
            (ih fun text member => balanced text (List.mem_cons_of_mem _ member))

/-- Texts in brackets, with commas between them, are balanced as a whole. -/
theorem balanced_brackets (balanced : ∀ text ∈ texts, Balanced text) :
    Balanced ('<' :: ([','].intercalate texts ++ ['>'])) := by
  intro depth
  have opening : Passes depth ['<'] (depth + 1) := passes_singleton (by simp)
  have closing : Passes (depth + 1) ['>'] depth := passes_singleton (by simp)
  exact opening.append ((passes_intercalate balanced).append closing)

/-- Outside brackets commas separate the texts. -/
theorem splitArgs_intercalate (nonempty : texts ≠ []) (balanced : ∀ text ∈ texts, Balanced text) :
    splitArgs 0 ([','].intercalate texts) = texts := by
  induction texts with
  | nil => exact absurd rfl nonempty
  | cons first rest ih =>
      have firstBalanced := balanced first List.mem_cons_self 0
      cases rest with
      | nil =>
          have whole := firstBalanced []
          simpa [splitArgs, glue] using whole
      | cons second others =>
          have further := ih (by simp) fun text member => balanced text (List.mem_cons_of_mem _ member)
          rw [List.intercalate_cons_cons, List.append_assoc, firstBalanced, List.singleton_append,
            splitArgs, if_pos ⟨rfl, rfl⟩, further]
          simp [glue]

/-! ### The parts of a written form -/

/-- A name with the arguments behind it, from the first character of the name to the last one of the
name or the closing bracket. -/
inductive ElementText (name : List Char) : List TypeExpr → List Char → Prop
  | bare : ElementText name [] name
  | generic {args : List TypeExpr} {gap : List Char} {texts : List (List Char)} (blanks : Blanks gap)
      (nonempty : texts ≠ [])
      (written : List.Forall₂ (fun arg text => Spaced arg.pieces text) args texts) :
      ElementText name args (name ++ gap ++ '<' :: ([','].intercalate texts ++ ['>']))

/-- What stands behind an element: an array mark behind blanks, or nothing. -/
inductive MarkText : Bool → List Char → Prop
  | plain : MarkText false []
  | array {gap : List Char} (blanks : Blanks gap) : MarkText true (gap ++ arrayMark)

/-- The texts between the brackets of an argument list, and what follows the closing bracket. -/
theorem exists_texts {arg : TypeExpr} {args : List TypeExpr}
    (spaced : Spaced (arg.pieces ++ furtherPieces args) text) :
    ∃ texts trailing, text = [','].intercalate texts ++ '>' :: trailing ∧ Blanks trailing ∧
      texts ≠ [] ∧ List.Forall₂ (fun arg text => Spaced arg.pieces text) (arg :: args) texts := by
  induction args generalizing arg text with
  | nil =>
      obtain ⟨front, rest, rfl, spacedFront, spacedRest⟩ := spaced.split
      rw [furtherPieces] at spacedRest
      cases spacedRest with
      | @piece gap _ trailing _ blanks further =>
          cases further with
          | done trailingBlanks =>
              refine ⟨[front ++ gap], trailing, by simp, trailingBlanks, by simp, ?_⟩
              exact .cons (spacedFront.append_blanks blanks) .nil
  | cons next args ih =>
      obtain ⟨front, rest, rfl, spacedFront, spacedRest⟩ := spaced.split
      rw [furtherPieces] at spacedRest
      cases spacedRest with
      | @piece gap _ behind _ blanks further =>
          obtain ⟨texts, trailing, rfl, trailingBlanks, nonempty, written⟩ := ih further
          refine ⟨(front ++ gap) :: texts, trailing, ?_, trailingBlanks, by simp,
            .cons (spacedFront.append_blanks blanks) written⟩
          cases texts with
          | nil => exact absurd rfl nonempty
          | cons first others => simp [List.intercalate_cons_cons]

/-- A text of a name and an argument list begins with an element; blanks follow. -/
theorem exists_elementText {args : List TypeExpr} (name : List Char)
    (spaced : Spaced (listPieces args) text) :
    ∃ element trailing, name ++ text = element ++ trailing ∧ ElementText name args element ∧
      Blanks trailing := by
  cases args with
  | nil =>
      cases spaced with
      | done blanks => exact ⟨name, text, rfl, .bare, blanks⟩
  | cons arg args =>
      rw [listPieces] at spaced
      cases spaced with
      | @piece gap _ behind _ blanks further =>
          obtain ⟨texts, trailing, rfl, trailingBlanks, nonempty, written⟩ := exists_texts further
          exact ⟨_, trailing, by simp, .generic blanks nonempty written, trailingBlanks⟩

/-- A written form is an element and what stands behind it, between blanks. -/
theorem exists_parts {name : String} {args : List TypeExpr} {isArray : Bool}
    (spaced : Spaced (pieces ⟨name, args, isArray⟩) text) :
    ∃ before element mark after, text = before ++ (element ++ mark) ++ after ∧ Blanks before ∧
      ElementText name.toList args element ∧ MarkText isArray mark ∧ Blanks after := by
  rw [pieces] at spaced
  cases spaced with
  | @piece before _ behind _ blanksBefore further =>
      -- Blanks behind the element count to the array mark if there is one, and to what follows otherwise.
      obtain ⟨list, marks, rfl, spacedList, spacedMarks⟩ := further.split
      obtain ⟨element, gap, split, isElement, gapBlanks⟩ := exists_elementText name.toList spacedList
      have regrouped : before ++ name.toList ++ (list ++ marks) = before ++ (element ++ (gap ++ marks)) := by
        rw [List.append_assoc, ← List.append_assoc name.toList, split, List.append_assoc]
      rw [regrouped]
      cases isArray with
      | false =>
          cases spacedMarks with
          | done blanks =>
              exact ⟨before, element, [], gap ++ marks, by simp, blanksBefore, isElement, .plain,
                gapBlanks.append blanks⟩
      | true =>
          rw [if_pos rfl] at spacedMarks
          cases spacedMarks with
          | @piece gap' _ after _ blanks behindMark =>
              cases behindMark with
              | done blanksAfter =>
                  exact ⟨before, element, gap ++ gap' ++ arrayMark, after, by simp, blanksBefore,
                    isElement, .array (gapBlanks.append blanks), blanksAfter⟩

/-! ### Elements -/

section Element

variable {name element mark inner : List Char} {args : List TypeExpr} {isArray : Bool}

theorem tight_arrayMark : Tight arrayMark := by
  decide

theorem getLast?_brackets (inner : List Char) : ('<' :: (inner ++ ['>'])).getLast? = some '>' := by
  rw [← List.cons_append, List.getLast?_concat]

theorem tight_brackets (inner : List Char) : Tight ('<' :: (inner ++ ['>'])) := by
  refine ⟨by simp, ?_, ?_⟩
  · intro c member
    cases member
    decide
  · intro c member
    rw [getLast?_brackets] at member
    cases member
    decide

/-- What an element is written as has no blank ends. -/
theorem ElementText.tight (isElement : ElementText name args element) (isName : IsName name) :
    Tight element := by
  cases isElement with
  | bare => exact isName.tight
  | generic => exact isName.tight.append (tight_brackets _) _

/-- What an element is written as does not end in an array mark. -/
theorem ElementText.noArray (isElement : ElementText name args element) (isName : IsName name) :
    ¬arrayMark <:+ element := by
  cases isElement with
  | bare => exact isName.noArray
  | generic =>
      rintro ⟨front, ends⟩
      have last := congrArg List.getLast? ends
      rw [List.getLast?_append_of_ne_nil front tight_arrayMark.nonempty,
        List.getLast?_append_of_ne_nil _ (by simp), getLast?_brackets] at last
      exact absurd last (by decide)

/-- What an element is written as is balanced if its arguments are. -/
theorem ElementText.balanced (isElement : ElementText name args element) (isName : IsName name)
    (inside : ∀ arg ∈ args, ∀ text, Spaced arg.pieces text → Balanced text) : Balanced element := by
  have nameBalanced := balanced_of_noMark isName.noMark
  cases isElement with
  | bare => exact nameBalanced
  | generic blanks nonempty written =>
      apply (nameBalanced.append (balanced_of_blanks blanks)).append
      apply balanced_brackets
      intro text member
      obtain ⟨arg, known, spaced⟩ := exists_of_mem_forall₂ written.flip member
      exact inside arg known text spaced

theorem MarkText.balanced (marked : MarkText isArray mark) : Balanced mark := by
  cases marked with
  | plain => exact .nil
  | array blanks => exact (balanced_of_blanks blanks).append (balanced_of_noMark (by simp [arrayMark]))

theorem IsName.noOpening (isName : IsName name) {gap : List Char} (blanks : Blanks gap) :
    '<' ∉ name ++ gap := by
  intro member
  rcases List.mem_append.1 member with inName | inGap
  · exact (isName.noMark '<' inName).1 rfl
  · exact absurd (blanks '<' inGap) (by decide)

/-- With its mark an element is what trimming leaves. -/
theorem trim_parts (tight : Tight element) (marked : MarkText isArray mark)
    {before after : List Char} (blanksBefore : Blanks before) (blanksAfter : Blanks after) :
    trim (before ++ (element ++ mark) ++ after) = element ++ mark := by
  have whole : Tight (element ++ mark) := by
    cases marked with
    | plain => simpa using tight
    | array => simpa using tight.append tight_arrayMark _
  exact whole.trim_blanks blanksBefore blanksAfter

/-- The array mark is found behind the element. -/
theorem endsAsArray_parts (noArray : ¬arrayMark <:+ element) (marked : MarkText isArray mark) :
    endsAsArray (element ++ mark) = isArray := by
  cases marked with
  | plain => simpa [endsAsArray, Bool.eq_false_iff] using noArray
  | array => simp [endsAsArray, ← List.append_assoc]

/-- Without its array mark a text is the element. -/
theorem elementText_parts (tight : Tight element) (noArray : ¬arrayMark <:+ element)
    (marked : MarkText isArray mark) : elementText (element ++ mark) = element := by
  have ends := endsAsArray_parts noArray marked
  cases marked with
  | plain => rw [elementText, ends, List.append_nil, if_neg (by simp)]
  | @array gap blanks =>
      have front : (element ++ (gap ++ arrayMark)).take ((element ++ (gap ++ arrayMark)).length - 2) =
          element ++ gap := by
        simp [← List.append_assoc, arrayMark]
      rw [elementText, ends, if_pos rfl, front, trimEnd_append_blanks element blanks, tight.trimEnd]

/-- A name alone has no brackets to split at. -/
theorem splitGeneric_name (isName : IsName name) : splitGeneric name = none := by
  apply if_neg
  intro last
  exact (isName.noMark '>' (List.mem_of_getLast? last)).2.1 rfl

/-- The first bracket ends the name and the last one the arguments. -/
theorem splitGeneric_brackets (noOpening : '<' ∉ name) (inner : List Char) :
    splitGeneric (name ++ '<' :: (inner ++ ['>'])) = some (name, inner) := by
  have front : ∀ c ∈ name, (c != '<') = true := by
    intro c member
    simpa using fun same : c = '<' => noOpening (same ▸ member)
  have last : (name ++ '<' :: (inner ++ ['>'])).getLast? = some '>' := by
    rw [List.getLast?_append_of_ne_nil _ (by simp), getLast?_brackets]
  rw [splitGeneric, if_pos last, List.dropWhile_append_of_pos front,
    List.takeWhile_append_of_pos front]
  simp

end Element

/-! ### Reading -/

/-- A text without brackets is read as its name and its array mark. -/
theorem read_of_splitGeneric_eq_none (bare : splitGeneric (elementText (trim text)) = none) :
    read text = ⟨String.ofList (elementText (trim text)), [], endsAsArray (trim text)⟩ := by
  rw [read]
  split
  · rfl
  · next generic =>
      rw [bare] at generic
      cases generic

/-- A text with brackets is read as its name, its arguments and its array mark. -/
theorem read_of_splitGeneric_eq_some {name inner : List Char}
    (generic : splitGeneric (elementText (trim text)) = some (name, inner)) :
    read text = ⟨String.ofList (trim name), ((splitArgs 0 inner).filter isPresent).map read,
      endsAsArray (trim text)⟩ := by
  rw [read]
  split
  · next bare =>
      rw [bare] at generic
      cases generic
  · next found =>
      cases found.symm.trans generic
      simp

section WellNamed

variable {expr : TypeExpr}

/-- A written expression is balanced. -/
theorem balanced_of_spaced (wellNamed : WellNamed expr) (spaced : Spaced expr.pieces text) :
    Balanced text := by
  induction wellNamed generalizing text with
  | intro isName _ ih =>
      obtain ⟨before, element, mark, after, rfl, blanksBefore, isElement, marked, blanksAfter⟩ :=
        exists_parts spaced
      have elementBalanced := isElement.balanced isName fun arg member text => ih arg member
      exact ((balanced_of_blanks blanksBefore).append
        (elementBalanced.append marked.balanced)).append (balanced_of_blanks blanksAfter)

/-- A written expression is not blank. -/
theorem isPresent_of_spaced (wellNamed : WellNamed expr) (spaced : Spaced expr.pieces text) :
    isPresent text = true := by
  cases wellNamed with
  | intro isName _ =>
      obtain ⟨before, element, mark, after, rfl, -, isElement, -, -⟩ := exists_parts spaced
      have tight := isElement.tight isName
      cases element with
      | nil => exact absurd rfl tight.nonempty
      | cons c rest =>
          have notBlank : isBlank c = false := tight.head c rfl
          simp [isPresent, notBlank]

/-- The texts between the brackets of a written form are found and kept. -/
theorem filter_splitArgs_intercalate {args : List TypeExpr} {texts : List (List Char)}
    (wellNamed : ∀ arg ∈ args, WellNamed arg) (nonempty : texts ≠ [])
    (written : List.Forall₂ (fun arg text => Spaced arg.pieces text) args texts) :
    (splitArgs 0 ([','].intercalate texts)).filter isPresent = texts := by
  have origin : ∀ text ∈ texts, ∃ arg ∈ args, Spaced arg.pieces text := by
    intro text member
    exact exists_of_mem_forall₂ written.flip member
  rw [splitArgs_intercalate nonempty, List.filter_eq_self]
  · intro text member
    obtain ⟨arg, known, spaced⟩ := origin text member
    exact isPresent_of_spaced (wellNamed arg known) spaced
  · intro text member
    obtain ⟨arg, known, spaced⟩ := origin text member
    exact balanced_of_spaced (wellNamed arg known) spaced

/-- Written arguments are read back one by one. -/
theorem map_read_of_written {args : List TypeExpr} {texts : List (List Char)}
    (reads : ∀ arg ∈ args, ∀ text, Spaced arg.pieces text → read text = arg)
    (written : List.Forall₂ (fun arg text => Spaced arg.pieces text) args texts) :
    texts.map read = args := by
  induction written with
  | nil => rfl
  | cons spaced _ ih =>
      rw [List.map_cons, reads _ List.mem_cons_self _ spaced,
        ih fun arg member => reads arg (List.mem_cons_of_mem _ member)]

/-- A written form is read as its expression. -/
theorem read_of_spaced (wellNamed : WellNamed expr) (spaced : Spaced expr.pieces text) :
    read text = expr := by
  induction wellNamed generalizing text with
  | @intro name args isArray isName inside ih =>
      obtain ⟨before, element, mark, after, rfl, blanksBefore, isElement, marked, blanksAfter⟩ :=
        exists_parts spaced
      have tight := isElement.tight isName
      have noArray := isElement.noArray isName
      have trimmed := trim_parts tight marked blanksBefore blanksAfter
      have ends := endsAsArray_parts noArray marked
      have front := elementText_parts tight noArray marked
      cases isElement with
      | bare =>
          have bare := splitGeneric_name isName
          rw [read_of_splitGeneric_eq_none (by rw [trimmed, front, bare]), trimmed, front, ends,
            String.ofList_toList]
      | @generic _ gap texts blanks nonempty written =>
          have split := splitGeneric_brackets (isName.noOpening blanks) ([','].intercalate texts)
          have reads := map_read_of_written (fun arg member text => ih arg member) written
          have trimmedName : trim (name.toList ++ gap) = name.toList := by
            simpa using isName.tight.trim_blanks .nil blanks
          rw [read_of_splitGeneric_eq_some (by rw [trimmed, front, split]), trimmed, ends,
            filter_splitArgs_intercalate inside nonempty written, reads, trimmedName,
            String.ofList_toList]

end WellNamed

/-- Whatever blanks stand between its pieces, a written expression denotes the expression. -/
theorem ofString_of_spaced (expr : TypeExpr) (wellNamed : WellNamed expr) (text : String)
    (spaced : Spaced expr.pieces text.toList) : ofString text = expr :=
  read_of_spaced wellNamed spaced

/-- An array of maps from names to arrays of a placeholder's type. -/
def mapOfArrays : TypeExpr :=
  { name := "Map"
    args := [{ name := "a.b" }, { name := "Array", args := [{ name := "#1" }], isArray := true }]
    isArray := true }

example : mapOfArrays.pieces.flatten = "Map<a.b,Array<#1>[]>[]".toList := by
  cbv

theorem wellNamed_mapOfArrays : WellNamed mapOfArrays := by
  have mapName : IsName "Map".toList := by decide
  have dottedName : IsName "a.b".toList := by decide
  have arrayName : IsName "Array".toList := by decide
  have placeholder : IsName "#1".toList := by decide
  have array : WellNamed { name := "Array", args := [{ name := "#1" }], isArray := true } := by
    apply WellNamed.intro arrayName
    intro arg member
    cases List.mem_singleton.1 member
    exact .intro placeholder (by simp)
  apply WellNamed.intro mapName
  intro arg member
  rcases List.mem_cons.1 member with rfl | member
  · exact .intro dottedName (by simp)
  · cases List.mem_singleton.1 member
    exact array

/-- Blanks of several kinds, some of them beside the array mark. -/
theorem spaced_mapOfArrays :
    Spaced mapOfArrays.pieces " Map <a.b, Array< #1>[]\u3000>\n[]".toList := by
  apply @Spaced.piece [' '] "Map".toList _ _ (by decide)
  apply @Spaced.piece [' '] ['<'] _ _ (by decide)
  apply @Spaced.piece [] "a.b".toList _ _ (by decide)
  apply @Spaced.piece [] [','] _ _ (by decide)
  apply @Spaced.piece [' '] "Array".toList _ _ (by decide)
  apply @Spaced.piece [] ['<'] _ _ (by decide)
  apply @Spaced.piece [' '] "#1".toList _ _ (by decide)
  apply @Spaced.piece [] ['>'] _ _ (by decide)
  apply @Spaced.piece [] arrayMark _ _ (by decide)
  apply @Spaced.piece ['\u3000'] ['>'] _ _ (by decide)
  apply @Spaced.piece ['\n'] arrayMark _ _ (by decide)
  exact .done .nil

theorem ofString_of_spaced_map :
    WellNamed mapOfArrays ∧
      Spaced mapOfArrays.pieces " Map <a.b, Array< #1>[]\u3000>\n[]".toList ∧
      ofString " Map <a.b, Array< #1>[]\u3000>\n[]" = mapOfArrays :=
  ⟨wellNamed_mapOfArrays, spaced_mapOfArrays,
    ofString_of_spaced mapOfArrays wellNamed_mapOfArrays _ spaced_mapOfArrays⟩

end TypeExpr

end DartBindings
