import DartBindings.Text.Concealed

/-!
Quotations that show every character of a text.

A quotation stands between quotation marks.  Inside, quotation marks and backslashes are escaped,
line feeds, carriage returns, tabs and nulls have short escapes, and a concealed character is shown
by its number.

Main exports: quotedChars, quoted
-/

namespace DartBindings.Text

/-- A character shown by its number, in lowercase hexadecimal between braces. -/
def numberedChar (c : Char) : List Char :=
  ['\\', 'u', '\x7b'] ++ Nat.toDigits 16 c.toNat ++ ['\x7d']

/-- A character as a quotation shows it. -/
def quotedChar (c : Char) : List Char :=
  if c = '"' then ['\\', '"']
  else if c = '\\' then ['\\', '\\']
  else if c = '\n' then ['\\', 'n']
  else if c = '\r' then ['\\', 'r']
  else if c = '\t' then ['\\', 't']
  else if c = '\x00' then ['\\', '0']
  else if isConcealed c then numberedChar c
  else [c]

/-- The quotation of a text. -/
def quotedChars (text : List Char) : List Char :=
  '"' :: text.flatMap quotedChar ++ ['"']

/-- The quotation of a string. -/
def quoted (text : String) : String :=
  String.ofList (quotedChars text.toList)

end DartBindings.Text
