import DartBindings.Text.CaseTable

/-!
Upper and lower case of names.

Both directions are the full mappings of the Unicode standard: one character may become several, and
a capital sigma that ends a word takes its final form.  A name is capitalized by changing its first
character only, so that inner capitals keep names such as `getArea` readable when they are joined.

Main exports: capitalize, lowercase
-/

namespace DartBindings.Text

/-- The character with the given code point, moved by the shift of the run that holds it. -/
def shiftCase (runs : List CaseRun) (c : Char) : Char :=
  match runs.find? (·.holds c.toNat) with
  | some run => Char.ofNat (Int.toNat (c.toNat + run.shift))
  | none => c

/-- The other case of a character: its listed expansion, or else the character its run leads to. -/
def changeCase (expansions : List (Nat × List Nat)) (runs : List CaseRun) (c : Char) : List Char :=
  match expansions.lookup c.toNat with
  | some codes => codes.map Char.ofNat
  | none => [shiftCase runs c]

/-- The uppercase of a character. -/
def upper (c : Char) : List Char :=
  changeCase upperExpansions upperRuns c

/-- The lowercase of a character by itself. -/
def lower (c : Char) : List Char :=
  changeCase lowerExpansions lowerRuns c

/-- The text with its first character in uppercase. -/
def capitalizeChars : List Char → List Char
  | [] => []
  | c :: rest => upper c ++ rest

/-- The string with its first character in uppercase. -/
def capitalize (name : String) : String :=
  String.ofList (capitalizeChars name.toList)

/-- Whether the first character that does not depend on its neighbours' case is a cased one. -/
def meetsCased (text : List Char) : Bool :=
  match text.dropWhile (fun c => inRanges caseIgnorableRanges c.toNat) with
  | [] => false
  | c :: _ => inRanges casedRanges c.toNat

/-- The capital sigma, the one letter whose lowercase depends on its place. -/
def capitalSigma : Char := 'Σ'

/-- Lowercase of a text whose characters in front are given in reverse.  A capital sigma is final
when a cased character stands before it and none follows in its word. -/
def lowerFrom (before : List Char) : List Char → List Char
  | [] => []
  | c :: rest =>
      (if c = capitalSigma then
        if meetsCased before && !meetsCased rest then ['ς'] else ['σ']
      else lower c) ++ lowerFrom (c :: before) rest

/-- The string in lowercase. -/
def lowercase (name : String) : String :=
  String.ofList (lowerFrom [] name.toList)

end DartBindings.Text
