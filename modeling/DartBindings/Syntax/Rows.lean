import DartBindings.Json.Token
import DartBindings.Syntax.Node

/-!
Written syntax trees: a JSON array of the rows of a tree.

A row is an array of depth, kind, flags, start and end, and of a field name if the node has one.  The
flags add up: 1 for a named part of the grammar, 2 for a missing one, 4 for a fault, 8 for a node
that is or contains a fault.

Main exports: Row.ofDocument?
-/

namespace DartBindings.Syntax

open Json (Token)

/-- Whether a flag is among those that add up to a number. -/
def hasFlag (flags : Int) (flag : Nat) : Bool :=
  flags.toNat / flag % 2 == 1

/-- The label with the flags that add up to a number. -/
def Label.ofFlags (kind : String) (flags start stop : Int) (field : Option String) : Label :=
  { kind := kind
    isNamed := hasFlag flags 1
    isMissing := hasFlag flags 2
    isError := hasFlag flags 4
    hasError := hasFlag flags 8
    start := start.toNat
    stop := stop.toNat
    field := field }

namespace Row

/-- The field name at the end of a row, if there is one, and what follows the row. -/
def ending? : List Token → Option (Option String × List Token)
  | .closeBracket :: rest => some (none, rest)
  | .comma :: .string field :: .closeBracket :: rest => some (some field, rest)
  | _ => none

/-- The row that tokens begin with, and what follows it. -/
def ofTokens? : List Token → Option (Row × List Token)
  | .openBracket :: .number (.whole depth) :: .comma :: .string kind :: .comma
      :: .number (.whole flags) :: .comma :: .number (.whole start) :: .comma
      :: .number (.whole stop) :: rest =>
      match ending? rest with
      | none => none
      | some (field, left) =>
          some (⟨depth.toNat, Label.ofFlags kind flags start stop field⟩, left)
  | _ => none

theorem length_ending? {tokens rest : List Token} {field : Option String}
    (h : ending? tokens = some (field, rest)) : rest.length < tokens.length := by
  unfold ending? at h
  split at h
  · cases h
    simp
  · cases h
    simp only [List.length_cons]
    omega
  · cases h

theorem length_ofTokens? {tokens rest : List Token} {row : Row}
    (h : ofTokens? tokens = some (row, rest)) : rest.length < tokens.length := by
  unfold ofTokens? at h
  split at h
  · split at h
    · cases h
    · next found =>
        cases h
        have shorter := length_ending? found
        simp only [List.length_cons]
        omega
  · cases h

/-- The rows behind a row, each behind a comma, up to the end of the document. -/
def moreOfTokens? : List Token → Option (List Row)
  | [.closeBracket] => some []
  | .comma :: tokens =>
      match found : ofTokens? tokens with
      | none => none
      | some (row, rest) =>
          have : rest.length < tokens.length := length_ofTokens? found
          (moreOfTokens? rest).map (row :: ·)
  | _ => none
termination_by tokens => tokens.length

/-- The rows of a written tree, of which there is at least one. -/
def ofDocument? (document : String) : Option (List Row) :=
  match Token.tokens document.toList with
  | .openBracket :: tokens => moreOfTokens? (.comma :: tokens)
  | _ => none

end Row

end DartBindings.Syntax
