/-!
JSON documents as values, and their two written forms.

The compact form has no blanks.  The indented form puts each element and each member on a line of its
own, two spaces deeper than its container, and writes an empty container without a line.  In strings
a quotation mark, a backslash and the control characters are escaped, and nothing else.

Main exports: Json, Json.compact, Json.indented
-/

namespace DartBindings

/-- A JSON document.  Numbers are the natural ones, which is all that is ever written. -/
inductive Json where
  | null
  | bool (value : Bool)
  | number (value : Nat)
  | string (value : String)
  | array (elements : List Json)
  | object (members : List (String × Json))
deriving Inhabited

namespace Json

/-- A digit of a hexadecimal number, in lowercase. -/
def hexDigit (n : Nat) : Char :=
  if n < 10 then Char.ofNat ('0'.toNat + n) else Char.ofNat ('a'.toNat + (n - 10))

/-- The four hexadecimal digits of a number below 2 to the 16th. -/
def hexQuad (n : Nat) : List Char :=
  [hexDigit (n / 4096 % 16), hexDigit (n / 256 % 16), hexDigit (n / 16 % 16), hexDigit (n % 16)]

/-- A character inside a quoted string. -/
def escapeChar (c : Char) : List Char :=
  if c = '"' then ['\\', '"']
  else if c = '\\' then ['\\', '\\']
  else if c = '\n' then ['\\', 'n']
  else if c = '\r' then ['\\', 'r']
  else if c = '\t' then ['\\', 't']
  else if c = '\x08' then ['\\', 'b']
  else if c = '\x0c' then ['\\', 'f']
  else if c.toNat < 0x20 then '\\' :: 'u' :: hexQuad c.toNat
  else [c]

/-- A string in quotation marks. -/
def quoteChars (text : List Char) : List Char :=
  '"' :: text.flatMap escapeChar ++ ['"']

/-- A string in quotation marks. -/
def quote (text : String) : String :=
  String.ofList (quoteChars text.toList)

mutual

/-- The compact written form. -/
def compact : Json → String
  | .null => "null"
  | .bool value => if value then "true" else "false"
  | .number value => toString value
  | .string value => quote value
  | .array elements => "[" ++ ",".intercalate (compactElements elements) ++ "]"
  | .object members => "\x7b" ++ ",".intercalate (compactMembers members) ++ "\x7d"

/-- The compact written forms of elements. -/
def compactElements : List Json → List String
  | [] => []
  | element :: rest => element.compact :: compactElements rest

/-- The compact written forms of members. -/
def compactMembers : List (String × Json) → List String
  | [] => []
  | (key, value) :: rest => (quote key ++ ":" ++ value.compact) :: compactMembers rest

end

/-- A line feed and the blanks in front of what stands at a depth. -/
def newline (depth : Nat) : String :=
  "\n" ++ String.ofList (List.replicate (2 * depth) ' ')

/-- The indented form of a container from the indented forms of its parts. -/
def indentedBlock (depth : Nat) (opening closing : String) (parts : List String) : String :=
  if parts.isEmpty then opening ++ closing
  else
    opening ++ newline (depth + 1) ++ ("," ++ newline (depth + 1)).intercalate parts
      ++ newline depth ++ closing

mutual

/-- The indented written form of a document that stands at a depth. -/
def indentedAt (depth : Nat) : Json → String
  | .null => "null"
  | .bool value => if value then "true" else "false"
  | .number value => toString value
  | .string value => quote value
  | .array elements => indentedBlock depth "[" "]" (indentedElements (depth + 1) elements)
  | .object members =>
      indentedBlock depth "\x7b" "\x7d" (indentedMembers (depth + 1) members)

/-- The indented written forms of elements. -/
def indentedElements (depth : Nat) : List Json → List String
  | [] => []
  | element :: rest => indentedAt depth element :: indentedElements depth rest

/-- The indented written forms of members. -/
def indentedMembers (depth : Nat) : List (String × Json) → List String
  | [] => []
  | (key, value) :: rest =>
      (quote key ++ ": " ++ indentedAt depth value) :: indentedMembers depth rest

end

/-- The indented written form. -/
def indented (document : Json) : String :=
  indentedAt 0 document

/-- A text, or null. -/
def ofOption {α : Type u} (encode : α → Json) : Option α → Json
  | none => .null
  | some value => encode value

/-- An array of strings. -/
def strings (texts : List String) : Json :=
  .array (texts.map .string)

end Json

end DartBindings
