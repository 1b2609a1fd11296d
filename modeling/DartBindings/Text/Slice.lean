/-!
Byte ranges of a text.

Offsets count the bytes of a text's UTF-8 encoding.  A cut is possible only between characters; a
range whose ends are not both between characters of the text denotes no text.

Main exports: slice, Place, placeOf
-/

namespace DartBindings.Text

/-- Bytes that the UTF-8 encoding of a text takes. -/
def byteLength : List Char → Nat
  | [] => 0
  | c :: rest => c.utf8Size + byteLength rest

/-- What follows the first `count` bytes, if a character begins there or the text ends there. -/
def dropBytes : Nat → List Char → Option (List Char)
  | 0, text => some text
  | _ + 1, [] => none
  | count + 1, c :: rest =>
      if c.utf8Size ≤ count + 1 then dropBytes (count + 1 - c.utf8Size) rest else none

/-- The first `count` bytes, if a character ends there. -/
def takeBytes : Nat → List Char → Option (List Char)
  | 0, _ => some []
  | _ + 1, [] => none
  | count + 1, c :: rest =>
      if c.utf8Size ≤ count + 1 then
        (takeBytes (count + 1 - c.utf8Size) rest).map (c :: ·)
      else none

/-- The text between two byte offsets, empty when the range cuts a character. -/
def slice (text : List Char) (start stop : Nat) : String :=
  String.ofList (((dropBytes start text).bind (takeBytes (stop - start))).getD [])

/-- A place in a text: lines before it, and bytes between the last line feed and it. -/
structure Place where
  row : Nat
  column : Nat
deriving Repr, DecidableEq, Inhabited

/-- The place that one character further on leads to. -/
def Place.after (place : Place) (c : Char) : Place :=
  if c = '\n' then ⟨place.row + 1, 0⟩ else ⟨place.row, place.column + c.utf8Size⟩

/-- The place of a byte offset, walking on from a place already reached. -/
def placeFrom (place : Place) : Nat → List Char → Place
  | 0, _ => place
  | _ + 1, [] => place
  | offset + 1, c :: rest => placeFrom (place.after c) (offset + 1 - c.utf8Size) rest

/-- The place of a byte offset. -/
def placeOf (text : List Char) (offset : Nat) : Place :=
  placeFrom ⟨0, 0⟩ offset text

end DartBindings.Text
