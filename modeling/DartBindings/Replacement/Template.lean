/-!
Templates of type replacements.

A template is a text in which tokens, a number sign and the digits behind it, are to be filled.
Tokens are found from left to right, and each takes all the digits there are.

Main exports: Piece, pieces, tokensOf
-/

namespace DartBindings.Replacement

/-- A part of a template. -/
inductive Piece where
  | char (c : Char)
  | token (digits : List Char)
deriving Repr, DecidableEq, Inhabited

/-- The text of a token with the given digits. -/
def tokenText (digits : List Char) : String :=
  String.ofList ('#' :: digits)

/-- The parts of a template. -/
def pieces : List Char → List Piece
  | [] => []
  | c :: rest =>
      if c = '#' ∧ rest.head?.any Char.isDigit then
        .token (rest.takeWhile Char.isDigit) :: pieces (rest.dropWhile Char.isDigit)
      else .char c :: pieces rest
termination_by text => text.length
decreasing_by
  · exact Nat.lt_succ_of_le (List.dropWhile_sublist _).length_le
  · exact Nat.lt_succ_self _

/-- The token that a part is. -/
def Piece.token? : Piece → Option String
  | .char _ => none
  | .token digits => some (tokenText digits)

/-- The tokens of a template, in order. -/
def tokensOf (template : String) : List String :=
  (pieces template.toList).filterMap Piece.token?

end DartBindings.Replacement
