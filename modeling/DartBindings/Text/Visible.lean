import DartBindings.Text.Blank

/-!
Texts as they are shown on a line of output.

A control character is shown by its picture, a tab by four spaces, and a character that turns the
direction of writing by the replacement character.  The joiner of characters is not shown.  Line feeds
stay, so that a text can be split at them afterwards.  A column holds one character that is shown.

Main exports: visible, indentation
-/

namespace DartBindings.Text

/-- Whether a character turns the direction of writing. -/
def turnsDirection (c : Char) : Bool :=
  let n := c.toNat
  (0x202A ≤ n && n ≤ 0x202E) || (0x2066 ≤ n && n ≤ 0x2069)

/-- A character as it is shown. -/
def visibleChar (c : Char) : List Char :=
  if c = '\t' then [' ', ' ', ' ', ' ']
  else if c = '\n' then ['\n']
  else if c.toNat < 0x20 then [Char.ofNat (0x2400 + c.toNat)]
  else if c.toNat = 0x7F then [Char.ofNat 0x2421]
  else if c.toNat = 0x200D then []
  else if turnsDirection c then [Char.ofNat 0xFFFD]
  else [c]

/-- A text as it is shown. -/
def visible (text : List Char) : List Char :=
  text.flatMap visibleChar

/-- The columns that the blank characters in front of a line take.  A line of blank characters alone
has none. -/
def indentation (line : List Char) : Nat :=
  if line.all isBlank then 0 else (visible (line.takeWhile isBlank)).length

end DartBindings.Text
