import DartBindings.Text.Blank

/-!
Type expressions: the small notation for types in a configuration.

An expression is `name<arg, …>[]`, where the arguments and the array mark may be missing.  Names are
taken as they stand, so dotted names and placeholders such as `#1` need no rule of their own.  Every
text can be read: what does not fit the notation is a bare name.

Main exports: TypeExpr, TypeExpr.read, TypeExpr.ofString, isPlaceholder
-/

namespace DartBindings

/-- A type made of names only. -/
structure TypeExpr where
  name : String
  args : List TypeExpr := []
  isArray : Bool := false
deriving Repr, Inhabited

namespace TypeExpr

open Text

/-- How deep in angle brackets the text after a character is. -/
def nesting (depth : Nat) (c : Char) : Nat :=
  if c = '<' then depth + 1 else if c = '>' then depth - 1 else depth

/-- The pieces between commas that stand outside all angle brackets. -/
def splitArgs (depth : Nat) : List Char → List (List Char)
  | [] => [[]]
  | c :: rest =>
      if c = ',' ∧ depth = 0 then [] :: splitArgs depth rest
      else
        match splitArgs (nesting depth c) rest with
        | [] => [[c]]
        | piece :: pieces => (c :: piece) :: pieces

theorem length_le_of_mem_splitArgs {depth : Nat} {text piece : List Char}
    (h : piece ∈ splitArgs depth text) : piece.length ≤ text.length := by
  induction text generalizing depth piece with
  | nil => simp_all [splitArgs]
  | cons c rest ih =>
      rw [splitArgs] at h
      split at h
      · rcases List.mem_cons.1 h with rfl | h
        · simp
        · exact Nat.le_succ_of_le (ih h)
      · split at h
        · simp_all
        · next head tail hs =>
            rcases List.mem_cons.1 h with rfl | h
            · have hm : head ∈ splitArgs (nesting depth c) rest := by rw [hs]; simp
              exact Nat.succ_le_succ (ih hm)
            · have hm : piece ∈ splitArgs (nesting depth c) rest := by rw [hs]; simp [h]
              exact Nat.le_succ_of_le (ih hm)

/-- The array mark at the end of an expression. -/
def arrayMark : List Char := ['[', ']']

/-- Whether a trimmed text ends with the array mark. -/
def endsAsArray (text : List Char) : Bool :=
  arrayMark.isSuffixOf text

/-- A trimmed text without its array mark and the blanks in front of it. -/
def elementText (text : List Char) : List Char :=
  if endsAsArray text then trimEnd (text.take (text.length - 2)) else text

/-- The text of the name and the text between the outer angle brackets, when the text is a name with
an argument list. -/
def splitGeneric (text : List Char) : Option (List Char × List Char) :=
  if text.getLast? = some '>' then
    match text.dropWhile (· != '<') with
    | [] => none
    | _ :: inner => some (text.takeWhile (· != '<'), inner.dropLast)
  else none

/-- Whether a text has a character that is not blank. -/
def isPresent (text : List Char) : Bool :=
  !text.all isBlank

theorem length_elementText_le (text : List Char) :
    (elementText text).length ≤ text.length := by
  unfold elementText
  split
  · exact Nat.le_trans (length_trimEnd_le _) (by simp)
  · exact Nat.le_refl _

/-- What stands between brackets is shorter than the text. -/
theorem length_inner_lt {text name inner : List Char}
    (h : splitGeneric text = some (name, inner)) : inner.length < text.length := by
  unfold splitGeneric at h
  split at h
  · split at h
    · cases h
    · next c tail hd =>
        have hs := (List.dropWhile_sublist (l := text) (· != '<')).length_le
        rw [hd] at hs
        cases h
        simp only [List.length_cons] at hs
        simp only [List.length_dropLast]
        omega
  · cases h

theorem length_inner_lt_of_trim {text name inner : List Char}
    (h : splitGeneric (elementText (trim text)) = some (name, inner)) :
    inner.length < text.length :=
  Nat.lt_of_lt_of_le (length_inner_lt h)
    (Nat.le_trans (length_elementText_le _) (length_trim_le _))

/-- Read a text as a type expression. -/
def read (text : List Char) : TypeExpr :=
  let element := elementText (trim text)
  let isArray := endsAsArray (trim text)
  match h : splitGeneric element with
  | none => ⟨String.ofList element, [], isArray⟩
  | some (name, inner) =>
      have : inner.length < text.length := length_inner_lt_of_trim h
      let pieces := (splitArgs 0 inner).filter isPresent
      ⟨String.ofList (trim name), pieces.attach.map fun piece => read piece.1, isArray⟩
termination_by text.length
decreasing_by
  exact Nat.lt_of_le_of_lt
    (length_le_of_mem_splitArgs (List.mem_filter.1 piece.2).1) this

/-- The type expression that a string denotes. -/
def ofString (text : String) : TypeExpr :=
  read text.toList

end TypeExpr

/-- Whether a name is a placeholder of a replacement pattern. -/
def isPlaceholder (name : String) : Bool :=
  name.toList.head? == some '#'

end DartBindings
