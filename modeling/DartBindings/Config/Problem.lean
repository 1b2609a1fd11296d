import DartBindings.Decimal.Shortest
import DartBindings.Json.Token
import DartBindings.Text.Quoted

/-!
What can be wrong with a configuration document.

A document is malformed when it is not JSON or has too many elements.  Otherwise it has the wrong
contents, and the problem says what was found and what was wanted.

Main exports: Found, Wanted, Problem, Problem.message
-/

namespace DartBindings.Config

/-- What stands in a document where something else was wanted. -/
inductive Found where
  | null
  | bool (value : Bool)
  | number (value : Json.Number)
  | string (text : String)
  | sequence
  | map
deriving Inhabited

namespace Found

/-- What a token begins, if a value can begin with it. -/
def ofToken? : Json.Token → Option Found
  | .null => some .null
  | .bool value => some (.bool value)
  | .number value => some (.number value)
  | .string text => some (.string text)
  | .openBracket => some .sequence
  | .openBrace => some .map
  | .closeBracket | .closeBrace | .comma | .colon | .invalid => none

/-- The words for what was found. -/
def words : Found → String
  | .null => "null"
  | .bool value => "boolean `" ++ (if value then "true" else "false") ++ "`"
  | .number (.whole value) => "integer `" ++ toString value ++ "`"
  | .number (.fractional value) => "floating point `" ++ Decimal.text value ++ "`"
  | .string text => "string " ++ Text.quoted text
  | .sequence => "sequence"
  | .map => "map"

end Found

/-- What a place of a document is meant to hold. -/
inductive Wanted where
  | text
  | path
  | sequence
  | map
  | config
  | filter
deriving Repr, DecidableEq, Inhabited

/-- The words for what was wanted. -/
def Wanted.words : Wanted → String
  | .text => "a string"
  | .path => "path string"
  | .sequence => "a sequence"
  | .map => "a map"
  | .config => "struct Config"
  | .filter => "struct MemberFilter"

/-- A problem of a configuration document. -/
inductive Problem where
  | malformed
  | missingField (name : String)
  | unknownField (name : String) (known : List String)
  | duplicateField (name : String)
  | wrongKind (found : Found) (wanted : Wanted)
  | tooShort (found needed : Nat) (wanted : Wanted)
deriving Inhabited

namespace Problem

/-- A name in a message. -/
def mark (name : String) : String :=
  "`" ++ name ++ "`"

/-- The words for a choice among names. -/
def choice : List String → String
  | [] => "nothing"
  | [name] => mark name
  | [first, second] => mark first ++ " or " ++ mark second
  | names => "one of " ++ ", ".intercalate (names.map mark)

/-- The message of a problem. -/
def message : Problem → String
  | .malformed => "not a JSON document"
  | .missingField name => "missing field " ++ mark name
  | .unknownField name known => "unknown field " ++ mark name ++ ", expected " ++ choice known
  | .duplicateField name => "duplicate field " ++ mark name
  | .wrongKind found wanted => "invalid type: " ++ found.words ++ ", expected " ++ wanted.words
  | .tooShort found needed wanted =>
      "invalid length " ++ toString found ++ ", expected " ++ wanted.words ++ " with "
        ++ toString needed ++ " elements"

end Problem

end DartBindings.Config
