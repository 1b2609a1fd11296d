import DartBindings.Diagnostic.Excerpt

/-!
Ranges that an excerpt marks.

What is marked should be a part of the text: a range that is not empty, lies inside the text and cuts no
character.  A range of the text that is not empty is marked as it is.  An empty one, such as the place
of a missing token, is widened by a byte and not by a character, and not at all at the end of the text.
So it is widened to a part of the text exactly in front of a character that takes one byte.

Main exports: IsPrintable, isPrintable_highlighted_iff
-/

namespace DartBindings

namespace Text

/-- A character of the text begins at the offset, or the text ends there. -/
def IsBoundary (text : List Char) (offset : Nat) : Prop :=
  ∃ front rest, text = front ++ rest ∧ byteLength front = offset

/-- A character that takes one byte begins at the offset. -/
def IsBeforeByte (text : List Char) (offset : Nat) : Prop :=
  ∃ front c rest, text = front ++ c :: rest ∧ byteLength front = offset ∧ c.utf8Size = 1

theorem byteLength_append (front rest : List Char) :
    byteLength (front ++ rest) = byteLength front + byteLength rest := by
  induction front with
  | nil => simp [byteLength]
  | cons c front ih => simp only [List.cons_append, byteLength, ih, Nat.add_assoc]

/-- A text of one byte is one character. -/
theorem eq_singleton_of_byteLength {text : List Char} (one : byteLength text = 1) :
    ∃ c, text = [c] ∧ c.utf8Size = 1 := by
  cases text with
  | nil => cases one
  | cons c rest =>
      have size := c.utf8Size_pos
      cases rest with
      | nil => exact ⟨c, rfl, one⟩
      | cons next rest =>
          have nextSize := next.utf8Size_pos
          simp only [byteLength] at one
          omega

variable {text : List Char} {offset : Nat}

/-- In front of a byte is not at the end of the text. -/
theorem IsBeforeByte.lt_byteLength (before : IsBeforeByte text offset) :
    offset < byteLength text := by
  obtain ⟨front, c, rest, rfl, rfl, size⟩ := before
  rw [byteLength_append, byteLength, size]
  omega

/-- Behind a boundary the next byte is a boundary again exactly if a character of one byte stands
between them. -/
theorem IsBoundary.succ_iff (boundary : IsBoundary text offset) :
    IsBoundary text (offset + 1) ↔ IsBeforeByte text offset := by
  constructor
  · obtain ⟨front, rest, rfl, rfl⟩ := boundary
    rintro ⟨further, behind, same, length⟩
    rcases List.append_eq_append_iff.1 same with ⟨more, rfl, rfl⟩ | ⟨more, rfl, rfl⟩
    · have one : byteLength more = 1 := by
        rw [byteLength_append] at length
        omega
      obtain ⟨c, rfl, size⟩ := eq_singleton_of_byteLength one
      exact ⟨front, c, behind, rfl, rfl, size⟩
    · rw [byteLength_append] at length
      omega
  · rintro ⟨front, c, rest, rfl, rfl, size⟩
    refine ⟨front ++ [c], rest, by simp, ?_⟩
    rw [byteLength_append, byteLength, byteLength, size]

end Text

namespace ByteRange

open Text

/-- The range lies inside the text and cuts no character.  It may be empty. -/
structure LiesIn (range : ByteRange) (text : List Char) : Prop where
  ordered : range.start ≤ range.stop
  inside : range.stop ≤ byteLength text
  opens : IsBoundary text range.start
  closes : IsBoundary text range.stop

/-- The range is a part of the text that can be shown. -/
structure IsPrintable (range : ByteRange) (text : List Char) : Prop extends LiesIn range text where
  nonempty : range.start < range.stop

variable {range : ByteRange} {text : List Char}

/-- A range that is not empty is marked as it is. -/
theorem highlighted_of_nonempty {length : Nat} (inside : range.stop ≤ length)
    (nonempty : range.start < range.stop) : range.highlighted length = range := by
  have start : min range.start length = range.start := by omega
  have stop : min range.stop length = range.stop := by omega
  rw [highlighted, start, stop, if_neg (Nat.ne_of_lt nonempty)]

/-- An empty range is widened by a byte, if there is one. -/
theorem highlighted_of_empty {length : Nat} (inside : range.stop ≤ length)
    (empty : range.start = range.stop) :
    range.highlighted length = ⟨range.start, min (range.start + 1) length⟩ := by
  have start : min range.start length = range.start := by omega
  have stop : min range.stop length = range.start := by omega
  rw [highlighted, start, stop, if_pos rfl]

/-- What is marked for an empty range can be shown exactly in front of a character that takes one
byte. -/
theorem LiesIn.isPrintable_iff_of_empty (lies : range.LiesIn text)
    (empty : range.start = range.stop) :
    (range.highlighted (byteLength text)).IsPrintable text ↔ IsBeforeByte text range.start := by
  rw [highlighted_of_empty lies.inside empty]
  constructor
  · intro printable
    have nonempty : range.start < min (range.start + 1) (byteLength text) := printable.nonempty
    have widened : min (range.start + 1) (byteLength text) = range.start + 1 := by omega
    have closes : IsBoundary text (range.start + 1) := widened ▸ printable.closes
    exact lies.opens.succ_iff.1 closes
  · intro before
    have room : range.start + 1 ≤ byteLength text := before.lt_byteLength
    rw [Nat.min_eq_left room]
    exact ⟨⟨Nat.le_succ _, room, lies.opens, lies.opens.succ_iff.2 before⟩, Nat.lt_succ_self _⟩

/-- What is marked for a range of the text can be shown exactly if the range is not empty, or stands in
front of a character that takes one byte. -/
theorem isPrintable_highlighted_iff (lies : range.LiesIn text) :
    (range.highlighted (byteLength text)).IsPrintable text ↔
      range.start < range.stop ∨ IsBeforeByte text range.start := by
  rcases Nat.lt_or_eq_of_le lies.ordered with nonempty | empty
  · rw [highlighted_of_nonempty lies.inside nonempty]
    exact ⟨fun _ => .inl nonempty, fun _ => ⟨lies, nonempty⟩⟩
  · rw [lies.isPrintable_iff_of_empty empty]
    exact ⟨.inr, fun either => either.resolve_left (by omega)⟩

/-- The place behind a letter of two bytes, where a name is missing in front of a semicolon. -/
theorem isPrintable_highlighted_iff_semicolon :
    (⟨2, 2⟩ : ByteRange).LiesIn ['é', ';'] ∧
      ((⟨2, 2⟩ : ByteRange).highlighted (byteLength ['é', ';'])).IsPrintable ['é', ';'] := by
  have boundary : IsBoundary ['é', ';'] 2 := ⟨['é'], [';'], rfl, by decide⟩
  have lies : (⟨2, 2⟩ : ByteRange).LiesIn ['é', ';'] := ⟨Nat.le_refl 2, by decide, boundary, boundary⟩
  exact ⟨lies, (isPrintable_highlighted_iff lies).2 (.inr ⟨['é'], ';', [], rfl, by decide, by decide⟩)⟩

/-- A declaration whose last token is missing. -/
def openClass : List Char :=
  "class A \x7b".toList

/-- The token is missing at the end of the text, where an empty range stays empty.  In front of a letter
of two bytes an empty range is widened to the first of them.  Neither can be shown. -/
theorem not_isPrintable_highlighted :
    ((⟨9, 9⟩ : ByteRange).LiesIn openClass ∧
      ¬((⟨9, 9⟩ : ByteRange).highlighted (byteLength openClass)).IsPrintable openClass) ∧
    ((⟨0, 0⟩ : ByteRange).LiesIn ['é'] ∧
      ¬((⟨0, 0⟩ : ByteRange).highlighted (byteLength ['é'])).IsPrintable ['é']) := by
  have atEnd : IsBoundary openClass 9 := ⟨openClass, [], (List.append_nil _).symm, by decide⟩
  have atStart : IsBoundary ['é'] 0 := ⟨[], ['é'], rfl, rfl⟩
  have liesAtEnd : (⟨9, 9⟩ : ByteRange).LiesIn openClass := ⟨Nat.le_refl 9, by decide, atEnd, atEnd⟩
  have liesAtStart : (⟨0, 0⟩ : ByteRange).LiesIn ['é'] := ⟨Nat.le_refl 0, by decide, atStart, atStart⟩
  refine ⟨⟨liesAtEnd, fun printable => ?_⟩, ⟨liesAtStart, fun printable => ?_⟩⟩
  · have before := (liesAtEnd.isPrintable_iff_of_empty rfl).1 printable
    exact absurd before.lt_byteLength (by decide)
  · have before := (liesAtStart.isPrintable_iff_of_empty rfl).1 printable
    obtain ⟨front, c, rest, same, length, size⟩ := before
    cases front with
    | nil =>
        cases same
        exact absurd size (by decide)
    | cons first front =>
        have firstSize := first.utf8Size_pos
        simp only [byteLength] at length
        omega

end ByteRange

end DartBindings
