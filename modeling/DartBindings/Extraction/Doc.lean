import DartBindings.Syntax.Node
import DartBindings.Text.Blank
import DartBindings.Text.Line

/-!
Documentation comments.

The comment in front of a declaration documents it when it opens with two stars.  Its text is what is
left without the markers, without the gutter of stars on its lines, and without blank lines at both
ends.

Main exports: docLines, cleanDoc, docBefore
-/

namespace DartBindings.Extraction

open Syntax (Node)
open Text

/-- What opens a documentation comment. -/
def docOpening : List Char := ['/', '*', '*']

/-- What closes a block comment. -/
def commentClosing : List Char := ['*', '/']

/-- A text without a beginning, if it begins like that. -/
def dropOpening (opening text : List Char) : List Char :=
  if opening.isPrefixOf text then text.drop opening.length else text

/-- A text without an end, if it ends like that. -/
def dropClosing (closing text : List Char) : List Char :=
  if closing.isSuffixOf text then text.take (text.length - closing.length) else text

/-- A line without the blanks around it, the star of its gutter and one space behind that star. -/
def dropGutter (line : List Char) : List Char :=
  match trim line with
  | '*' :: ' ' :: rest => trimEnd rest
  | '*' :: rest => trimEnd rest
  | whole => whole

/-- Lines without empty lines at both ends. -/
def dropEmptyEnds (lines : List (List Char)) : List (List Char) :=
  ((lines.dropWhile List.isEmpty).reverse.dropWhile List.isEmpty).reverse

/-- Lines joined by line feeds. -/
def joinLines : List (List Char) → List Char
  | [] => []
  | [line] => line
  | line :: rest => line ++ '\n' :: joinLines rest

/-- The lines of a comment that are documentation. -/
def docLines (comment : List Char) : List (List Char) :=
  let body := dropClosing commentClosing (dropOpening docOpening comment)
  dropEmptyEnds ((lines body).map dropGutter)

/-- The documentation in a comment. -/
def cleanDoc (comment : String) : String :=
  String.ofList (joinLines (docLines comment.toList))

/-- The documentation that the node in front of a declaration gives it. -/
def docBefore (source : List Char) : Option Node → String
  | none => ""
  | some node =>
      if node.isComment then
        let comment := node.text source
        if docOpening.isPrefixOf comment.toList then cleanDoc comment else ""
      else ""

end DartBindings.Extraction
