import DartBindings.Proofs.Lists
import DartBindings.Proofs.Syntax.Sight
import DartBindings.Proofs.Text.Quoted

/-!
The rows of an outline.

A row shows a place: blanks for the depth, an entry, and parentheses that close this node and those
around it of which it is the last.  A row can be read back.  Names have none of the characters that
stand around them, ranges have neither quotation marks nor parentheses, and quotations can be read back
themselves, so every part of a row tells where it ends.

Main exports: IsRowOf, IsRowOf.sight_eq, IsRowOf.unbroken
-/

namespace DartBindings.Syntax

variable {options : OutlineOptions} {source : List Char}

/-- A character of a name: neither blank nor one of those that an outline sets around names. -/
def isNameChar (c : Char) : Bool :=
  !(Text.isBlank c || ['"', '(', ')', ':'].contains c)

/-- A text that an outline can show as a name, as it can every identifier. -/
def IsName (text : String) : Prop :=
  ∀ c ∈ text.toList, isNameChar c = true

instance (text : String) : Decidable (IsName text) :=
  decidable_of_iff (text.toList.all isNameChar = true) List.all_eq_true

/-- A label whose field, and kind if the node is named, are names. -/
structure Label.HasNames (label : Label) : Prop where
  kind : label.isNamed = true → IsName label.kind
  field : ∀ field ∈ label.field, IsName field

/-- Kind and field are told from a label, so whether they are names can be computed. -/
theorem Label.hasNames_iff {label : Label} : label.HasNames ↔
    (label.isNamed = true → IsName label.kind) ∧ ∀ field ∈ label.field, IsName field :=
  ⟨fun names => ⟨names.kind, names.field⟩, fun ⟨kind, field⟩ => ⟨kind, field⟩⟩

instance (label : Label) : Decidable label.HasNames :=
  decidable_of_iff _ Label.hasNames_iff.symm

/-- A tree whose labels have names. -/
def Node.HasNames (root : Node) : Prop :=
  ∀ place ∈ root.places, place.node.label.HasNames

instance (root : Node) : Decidable root.HasNames :=
  inferInstanceAs (Decidable (∀ place ∈ root.places, place.node.label.HasNames))

/-! ### What a row is made of -/

/-- The text of a leaf behind its kind. -/
def shownText : Option String → String
  | none => ""
  | some text => " " ++ Text.quoted text

/-- What an outline says about a node behind its field, up to the closing parentheses. -/
def Place.body (options : OutlineOptions) (source : List Char) (place : Place) : String :=
  if place.node.isNamed then
    "(" ++ place.node.kind ++ Outline.rangeText options source place.node.label ++
      shownText (place.leafText options source)
  else Text.quoted place.node.kind ++ Outline.rangeText options source place.node.label

/-- What an outline says about a place between the blanks and the closing parentheses. -/
def Place.entry (options : OutlineOptions) (source : List Char) (place : Place) : String :=
  Outline.fieldText place.node.label ++ place.body options source

/-- The blanks of a depth. -/
def blanksOf (depth : Nat) : List Char :=
  List.replicate (2 * depth) ' '

/-- Parentheses that close nodes. -/
def closing (count : Nat) : List Char :=
  List.replicate count ')'

/-- A row that shows a place. -/
def IsRowOf (options : OutlineOptions) (source : List Char) (place : Place) (row : List Char) : Prop :=
  ∃ closed, row =
    blanksOf place.around.length ++ ((place.entry options source).toList ++ closing closed)

/-- How far a row is indented. -/
def indentation (row : List Char) : Nat :=
  (row.takeWhile (· == ' ')).length

/-! ### Ranges -/

/-- A character of a range. -/
def isRangeChar (c : Char) : Bool :=
  c.isDigit || [' ', '[', ']', ':', '-'].contains c

/-- A text of which a range may consist. -/
def IsRange (text : String) : Prop :=
  ∀ c ∈ text.toList, isRangeChar c = true

instance (text : String) : Decidable (IsRange text) :=
  decidable_of_iff (text.toList.all isRangeChar = true) List.all_eq_true

theorem IsRange.append {first second : String} (one : IsRange first) (two : IsRange second) :
    IsRange (first ++ second) := by
  rw [IsRange, String.toList_append]
  exact List.forall_mem_append.2 ⟨one, two⟩

theorem isRange_toString (n : Nat) : IsRange (toString n) := by
  intro c member
  rw [Nat.toString_eq_ofList_toDigits, String.toList_ofList] at member
  rw [isRangeChar, Nat.isDigit_of_mem_toDigits (by decide) (by decide) member, Bool.true_or]

theorem isRange_placeText (position : Text.Place) : IsRange (Outline.placeText position) := by
  have colon : IsRange ":" := by decide
  exact ((isRange_toString _).append colon).append (isRange_toString _)

theorem isRange_rangeText (label : Label) : IsRange (Outline.rangeText options source label) := by
  have marks : IsRange " [" ∧ IsRange "-" ∧ IsRange "]" ∧ IsRange "" := by decide
  obtain ⟨front, dash, back, nothing⟩ := marks
  unfold Outline.rangeText
  split
  · apply IsRange.append _ back
    apply IsRange.append _ (isRange_placeText _)
    apply IsRange.append _ dash
    exact front.append (isRange_placeText _)
  · exact nothing

theorem head_rangeText (label : Label) :
    ∀ c ∈ (Outline.rangeText options source label).toList.head?, c = ' ' := by
  unfold Outline.rangeText
  split
  · simp [String.toList_append]
  · rintro c ⟨⟩

/-! ### Fields -/

/-- The name of a field. -/
def nameOf : Option String → List Char
  | none => []
  | some name => name.toList

/-- What stands behind the name of a field. -/
def colonOf : Option String → List Char
  | none => []
  | some _ => [':', ' ']

theorem toList_fieldText (label : Label) :
    (Outline.fieldText label).toList = nameOf label.field ++ colonOf label.field := by
  unfold Outline.fieldText
  cases label.field with
  | none => rfl
  | some field => rw [String.toList_append]; rfl

/-- The name of a field has none of the characters that end a name. -/
theorem Label.HasNames.nameOf_field {label : Label} (names : label.HasNames) :
    ∀ c ∈ nameOf label.field, isNameChar c = true := by
  cases found : label.field with
  | none => exact fun c member => absurd member List.not_mem_nil
  | some field => exact names.field field found

/-- A text that begins as the body of a node does. -/
inductive Opens : List Char → Prop where
  | named (inside : List Char) : Opens ('(' :: inside)
  | token (inside : List Char) : Opens ('"' :: inside)

variable {place : Place} {behind rest : List Char}

theorem opens_body_append (options : OutlineOptions) (source : List Char) (place : Place)
    (behind : List Char) : Opens ((place.body options source).toList ++ behind) := by
  unfold Place.body
  split
  · rw [String.append_assoc, String.append_assoc, String.toList_append]
    exact .named _
  · rw [String.toList_append, Text.quoted, String.toList_ofList, List.append_assoc,
      Text.quotedChars_append]
    exact .token _

theorem Opens.head_colonOf_append (opens : Opens behind) (field : Option String) :
    ∀ c ∈ (colonOf field ++ behind).head?, c ∈ [':', '(', '"'] := by
  intro c member
  cases field with
  | some _ =>
      obtain rfl : ':' = c := Option.some.inj member
      exact List.mem_cons_self
  | none =>
      cases opens with
      | named _ =>
          obtain rfl : '(' = c := Option.some.inj member
          decide
      | token _ =>
          obtain rfl : '"' = c := Option.some.inj member
          decide

/-- What stands behind the name of a field ends it, and is no blank of a depth either. -/
theorem mark_ends_name {c : Char} (mark : c ∈ [':', '(', '"']) :
    isNameChar c = false ∧ (c == ' ') = false := by
  simp only [List.mem_cons, List.not_mem_nil, or_false] at mark
  rcases mark with rfl | rfl | rfl
  all_goals decide

theorem Opens.colonOf_stop (opens : Opens behind) (field : Option String) :
    ∀ c ∈ (colonOf field ++ behind).head?, isNameChar c = false :=
  fun c member => (mark_ends_name (opens.head_colonOf_append field c member)).1

theorem Opens.ne_colonOf_some {name : String} (opens : Opens behind) :
    behind ≠ colonOf (some name) ++ rest := by
  rintro rfl
  cases opens

/-- Once the name of a field is read, the colon tells whether there is a field. -/
theorem colonOf_append_inj {field other : Option String} (opens : Opens behind)
    (otherOpens : Opens rest) (sameName : nameOf field = nameOf other)
    (same : colonOf field ++ behind = colonOf other ++ rest) : field = other ∧ behind = rest := by
  cases field with
  | none =>
      cases other with
      | none => exact ⟨rfl, same⟩
      | some _ => exact absurd same opens.ne_colonOf_some
  | some name =>
      cases other with
      | none => exact absurd same.symm otherOpens.ne_colonOf_some
      | some otherName =>
          exact ⟨congrArg some (String.toList_injective sameName), List.append_cancel_left same⟩

/-- The field of a node can be read in front of its body. -/
theorem fieldText_append_inj {label other : Label} (names : label.HasNames)
    (otherNames : other.HasNames) (opens : Opens behind) (otherOpens : Opens rest)
    (same : (Outline.fieldText label).toList ++ behind = (Outline.fieldText other).toList ++ rest) :
    label.field = other.field ∧ behind = rest := by
  rw [toList_fieldText, toList_fieldText, List.append_assoc, List.append_assoc] at same
  obtain ⟨sameName, further⟩ := append_inj_of_stop names.nameOf_field otherNames.nameOf_field
    (opens.colonOf_stop _) (otherOpens.colonOf_stop _) same
  exact colonOf_append_inj opens otherOpens sameName further

/-! ### Bodies -/

/-- The space in front of a text. -/
def gapOf : Option String → List Char
  | none => []
  | some _ => [' ']

/-- The quotation of a text. -/
def quotationOf : Option String → List Char
  | none => []
  | some text => Text.quotedChars text.toList

theorem toList_shownText (text : Option String) :
    (shownText text).toList = gapOf text ++ quotationOf text := by
  cases text with
  | none => rfl
  | some text => simp [shownText, Text.quoted, gapOf, quotationOf]

theorem closing_ne_quote (closed : Nat) (text : List Char) : closing closed ≠ '"' :: text := by
  intro same
  have member : '"' ∈ closing closed := by
    rw [same]
    exact List.mem_cons_self
  exact absurd (List.eq_of_mem_replicate member) (by decide)

/-- A quotation in front of closing parentheses can be read back, and so can its absence. -/
theorem quotationOf_append_inj {text other : Option String} {closed otherClosed : Nat}
    (same : quotationOf text ++ closing closed = quotationOf other ++ closing otherClosed) :
    text = other := by
  cases text with
  | none =>
      cases other with
      | none => rfl
      | some other =>
          rw [quotationOf, quotationOf, Text.quotedChars_append] at same
          exact absurd same (closing_ne_quote _ _)
  | some text =>
      cases other with
      | none =>
          rw [quotationOf, quotationOf, Text.quotedChars_append] at same
          exact absurd same.symm (closing_ne_quote _ _)
      | some other =>
          exact congrArg some (String.toList_injective (Text.quotedChars_append_inj same).1)

theorem head_closing (closed : Nat) : ∀ c ∈ (closing closed).head?, c = ')' :=
  fun _ member => List.eq_of_mem_replicate (List.mem_of_mem_head? member)

theorem quotationOf_stop (text : Option String) (closed : Nat) :
    ∀ c ∈ (quotationOf text ++ closing closed).head?, isRangeChar c = false := by
  intro c member
  cases text with
  | none =>
      rw [head_closing closed c member]
      decide
  | some text =>
      rw [quotationOf, Text.quotedChars_append] at member
      obtain rfl : '"' = c := Option.some.inj member
      decide

/-- The text of a leaf can be read behind the range, which need not be the same. -/
theorem shownText_append_inj {range otherRange : String} {text other : Option String}
    {closed otherClosed : Nat} (isRange : IsRange range) (otherIsRange : IsRange otherRange)
    (same : range.toList ++ ((shownText text).toList ++ closing closed) =
      otherRange.toList ++ ((shownText other).toList ++ closing otherClosed)) : text = other := by
  have ranges : ∀ {range : String} (text : Option String), IsRange range →
      ∀ c ∈ range.toList ++ gapOf text, isRangeChar c = true := by
    intro range text isRange
    refine List.forall_mem_append.2 ⟨isRange, ?_⟩
    cases text with
    | none => exact fun c member => absurd member List.not_mem_nil
    | some _ => exact List.forall_mem_singleton.2 rfl
  -- The space in front of the text may stand in a range too, so it is read together with the range.
  rw [toList_shownText, toList_shownText, List.append_assoc, List.append_assoc,
    ← List.append_assoc, ← List.append_assoc otherRange.toList] at same
  exact quotationOf_append_inj (append_inj_of_stop (ranges text isRange) (ranges other otherIsRange)
    (quotationOf_stop _ _) (quotationOf_stop _ _) same).2

theorem head_shownText_append (text : Option String) (closed : Nat) :
    ∀ c ∈ ((shownText text).toList ++ closing closed).head?, isNameChar c = false := by
  intro c member
  rw [toList_shownText] at member
  cases text with
  | none =>
      rw [head_closing closed c member]
      decide
  | some text =>
      obtain rfl : ' ' = c := Option.some.inj member
      decide

/-- What stands behind the kind of a named node does not go on as a name does. -/
theorem rangeText_stop (label : Label) (text : Option String) (closed : Nat) :
    ∀ c ∈ ((Outline.rangeText options source label).toList ++
      ((shownText text).toList ++ closing closed)).head?, isNameChar c = false := by
  intro c member
  rw [List.head?_append] at member
  rcases Option.or_eq_some_iff.1 member with range | ⟨_, behind⟩
  · rw [head_rangeText label c range]
    decide
  · exact head_shownText_append text closed c behind

variable {other : Place} {otherSource : List Char} {closed otherClosed : Nat}

/-- A named node is written as a parenthesis, its kind, its range and its text. -/
theorem body_append_of_named (named : place.node.isNamed = true) (behind : List Char) :
    (place.body options source).toList ++ behind = '(' :: (place.node.kind.toList ++
      ((Outline.rangeText options source place.node.label).toList ++
        ((shownText (place.leafText options source)).toList ++ behind))) := by
  simp [Place.body, named]

/-- A token is written as the quotation of its text and its range. -/
theorem body_append_of_token (token : place.node.isNamed = false) (behind : List Char) :
    (place.body options source).toList ++ behind = Text.quotedChars place.node.kind.toList ++
      ((Outline.rangeText options source place.node.label).toList ++ behind) := by
  simp [Place.body, token, Text.quoted]

/-- A token shows no text apart from its kind. -/
theorem leafText_of_token (token : place.node.isNamed = false) :
    place.leafText options source = none := by
  rw [Place.leafText, if_neg]
  rintro ⟨named, _⟩
  rw [token] at named
  cases named

/-- A named node and a token never begin alike. -/
theorem named_ne_token (named : place.node.isNamed = true) (token : other.node.isNamed = false) :
    (place.body options source).toList ++ behind ≠ (other.body options otherSource).toList ++ rest := by
  rw [body_append_of_named named, body_append_of_token token, Text.quotedChars_append]
  intro same
  exact absurd (List.cons.inj same).1 (by decide)

/-- Whether a node is named, its kind and its text can be read from its body. -/
theorem body_append_inj (names : place.node.label.HasNames) (otherNames : other.node.label.HasNames)
    (same : (place.body options source).toList ++ closing closed =
      (other.body options otherSource).toList ++ closing otherClosed) :
    place.node.isNamed = other.node.isNamed ∧ place.node.kind = other.node.kind ∧
      place.leafText options source = other.leafText options otherSource := by
  cases named : place.node.isNamed with
  | true =>
      cases otherNamed : other.node.isNamed with
      | true =>
          rw [body_append_of_named named, body_append_of_named otherNamed] at same
          obtain ⟨sameKind, further⟩ := append_inj_of_stop (names.kind named)
            (otherNames.kind otherNamed) (rangeText_stop _ _ _) (rangeText_stop _ _ _)
            (List.cons.inj same).2
          have sameText := shownText_append_inj (isRange_rangeText _) (isRange_rangeText _) further
          exact ⟨rfl, String.toList_injective sameKind, sameText⟩
      | false => exact absurd same (named_ne_token named otherNamed)
  | false =>
      cases otherNamed : other.node.isNamed with
      | true => exact absurd same.symm (named_ne_token otherNamed named)
      | false =>
          rw [body_append_of_token named, body_append_of_token otherNamed] at same
          have sameKind := (Text.quotedChars_append_inj same).1
          rw [leafText_of_token named, leafText_of_token otherNamed]
          exact ⟨rfl, String.toList_injective sameKind, rfl⟩

/-! ### Reading rows -/

variable {row : List Char}

theorem ne_blank_of_isNameChar {c : Char} (isName : isNameChar c = true) : (c == ' ') = false := by
  apply beq_eq_false_iff_ne.2
  rintro rfl
  exact absurd isName (by decide)

/-- An entry does not begin with a blank. -/
theorem head_entry_append (names : place.node.label.HasNames) (behind : List Char) :
    ∀ c ∈ ((place.entry options source).toList ++ behind).head?, (c == ' ') = false := by
  intro c member
  rw [Place.entry, String.toList_append, List.append_assoc, toList_fieldText, List.append_assoc,
    List.head?_append] at member
  rcases Option.or_eq_some_iff.1 member with name | ⟨_, mark⟩
  · exact ne_blank_of_isNameChar (names.nameOf_field c (List.mem_of_mem_head? name))
  · have opens := opens_body_append options source place behind
    exact (mark_ends_name (opens.head_colonOf_append _ c mark)).2

theorem isBlank_blanksOf (depth : Nat) : ∀ c ∈ blanksOf depth, (c == ' ') = true :=
  fun _ member => beq_iff_eq.2 (List.eq_of_mem_replicate member)

theorem blanksOf_injective : Function.Injective blanksOf := by
  intro depth other same
  have lengths := congrArg List.length same
  rw [blanksOf, blanksOf, List.length_replicate, List.length_replicate] at lengths
  exact Nat.eq_of_mul_eq_mul_left (by decide) lengths

/-- A row is indented by two blanks for each node around its place. -/
theorem IsRowOf.indentation_eq (shown : IsRowOf options source place row)
    (names : place.node.label.HasNames) : indentation row = 2 * place.around.length := by
  obtain ⟨closed, rfl⟩ := shown
  rw [indentation, takeWhile_append_of_stop (isBlank_blanksOf _) (head_entry_append names _),
    blanksOf, List.length_replicate]

/-- Two places with the same row show the same. -/
theorem IsRowOf.sight_eq (shown : IsRowOf options source place row)
    (otherShown : IsRowOf options otherSource other row) (names : place.node.label.HasNames)
    (otherNames : other.node.label.HasNames) :
    place.sight options source = other.sight options otherSource := by
  obtain ⟨closed, rfl⟩ := shown
  obtain ⟨otherClosed, same⟩ := otherShown
  obtain ⟨sameBlanks, sameEntry⟩ := append_inj_of_stop (isBlank_blanksOf _) (isBlank_blanksOf _)
    (head_entry_append names _) (head_entry_append otherNames _) same
  rw [Place.entry, Place.entry, String.toList_append, String.toList_append, List.append_assoc,
    List.append_assoc] at sameEntry
  obtain ⟨sameField, sameBody⟩ := fieldText_append_inj names otherNames
    (opens_body_append _ _ _ _) (opens_body_append _ _ _ _) sameEntry
  obtain ⟨sameNamed, sameKind, sameText⟩ := body_append_inj names otherNames sameBody
  rw [Place.sight, Place.sight, blanksOf_injective sameBlanks, sameField, sameNamed, sameKind,
    sameText]

/-! ### Rows are lines -/

theorem unbroken_of_isNameChar {text : List Char} (isName : ∀ c ∈ text, isNameChar c = true) :
    Text.Unbroken text :=
  Text.unbroken_of_all (by decide) (by decide) isName

theorem unbroken_blanksOf (depth : Nat) : Text.Unbroken (blanksOf depth) :=
  Text.unbroken_of_all (by decide) (by decide) (isBlank_blanksOf depth)

theorem unbroken_closing (closed : Nat) : Text.Unbroken (closing closed) :=
  Text.unbroken_of_all (p := (· == ')')) (by decide) (by decide) fun _ member =>
    beq_iff_eq.2 (List.eq_of_mem_replicate member)

theorem unbroken_shownText (text : Option String) : Text.Unbroken (shownText text).toList := by
  cases text with
  | none => decide
  | some text =>
      have space : Text.Unbroken [' '] := by decide
      rw [toList_shownText]
      exact space.append (Text.unbroken_quotedChars _)

theorem unbroken_body (names : place.node.label.HasNames) :
    Text.Unbroken (place.body options source).toList := by
  have range : Text.Unbroken (Outline.rangeText options source place.node.label).toList :=
    Text.unbroken_of_all (by decide) (by decide) (isRange_rangeText _)
  rw [← List.append_nil (String.toList _)]
  cases named : place.node.isNamed with
  | true =>
      have parenthesis : Text.Unbroken ['('] := by decide
      rw [body_append_of_named named, List.append_nil]
      apply parenthesis.append
      apply (unbroken_of_isNameChar (names.kind named)).append
      exact range.append (unbroken_shownText _)
  | false =>
      rw [body_append_of_token named, List.append_nil]
      exact (Text.unbroken_quotedChars _).append range

/-- A row is a single line. -/
theorem IsRowOf.unbroken (shown : IsRowOf options source place row)
    (names : place.node.label.HasNames) : Text.Unbroken row := by
  obtain ⟨closed, rfl⟩ := shown
  have colon : Text.Unbroken (colonOf place.node.label.field) := by
    cases place.node.label.field with
    | none => decide
    | some _ =>
        have mark : Text.Unbroken [':', ' '] := by decide
        exact mark
  rw [Place.entry, String.toList_append, toList_fieldText]
  apply (unbroken_blanksOf _).append
  apply Text.Unbroken.append _ (unbroken_closing closed)
  apply Text.Unbroken.append _ (unbroken_body names)
  exact (unbroken_of_isNameChar names.nameOf_field).append colon

end DartBindings.Syntax
