import DartBindings.Syntax.Node
import DartBindings.Text.Quoted

/-!
Outlines of syntax trees.

An outline has one line for every node that is shown, two spaces deeper than the line of its parent.
A named node stands in parentheses, which close behind its last line; it shows its text when none of
its children is shown.  A token shows its kind in quotation marks.  Tokens are left out unless all
nodes are wanted.

Main exports: OutlineOptions, Node.outline
-/

namespace DartBindings.Syntax

/-- What an outline shows. -/
structure OutlineOptions where
  tokens : Bool := false
  places : Bool := false
deriving Repr, DecidableEq, Inhabited

namespace Outline

/-- A place as row and column. -/
def placeText (place : Text.Place) : String :=
  toString place.row ++ ":" ++ toString place.column

/-- The range of a node, when places are wanted. -/
def rangeText (options : OutlineOptions) (source : List Char) (label : Label) : String :=
  if options.places then
    " [" ++ placeText (Text.placeOf source label.start) ++ "-"
      ++ placeText (Text.placeOf source label.stop) ++ "]"
  else ""

/-- The field of a node in front of it. -/
def fieldText (label : Label) : String :=
  match label.field with
  | none => ""
  | some field => field ++ ": "

/-- What stands in front of a node that is not the root: the end of the line before it and the blanks
of its depth. -/
def lead (depth : Nat) : String :=
  (if depth = 0 then "" else "\n") ++ String.ofList (List.replicate (2 * depth) ' ')

/-- Whether a node is shown. -/
def shows (options : OutlineOptions) (node : Node) : Bool :=
  options.tokens || node.isNamed

mutual

/-- The outline of a node at a depth. -/
def node (options : OutlineOptions) (source : List Char) (depth : Nat) : Node → String
  | ⟨label, children⟩ =>
      lead depth ++ fieldText label ++
        if label.isNamed then
          "(" ++ label.kind ++ rangeText options source label
            ++ nodes options source (depth + 1) children
            ++ (if children.any (shows options) then ""
                else " " ++ Text.quoted (label.text source))
            ++ ")"
        else Text.quoted label.kind ++ rangeText options source label

/-- The outlines of those nodes that are shown. -/
def nodes (options : OutlineOptions) (source : List Char) (depth : Nat) : List Node → String
  | [] => ""
  | child :: rest =>
      (if shows options child then node options source depth child else "")
        ++ nodes options source depth rest

end

end Outline

/-- The outline of a tree, which ends its last line. -/
def Node.outline (options : OutlineOptions) (source : String) (root : Node) : String :=
  Outline.node options source.toList 0 root ++ "\n"

end DartBindings.Syntax
