import DartBindings.Text.Slice

/-!
Syntax trees of declaration texts.

A node has a label and children.  The label says what the node is, whether it is a named part of the
grammar or a mere token, where it stands in the text, whether it is or contains a fault, and which
field of its parent it fills.  A tree can be written as the rows of its nodes in preorder, each with
its depth.

Main exports: Label, Node, Node.namedChildren, Node.withPrevious, Node.ofRows?
-/

namespace DartBindings.Syntax

/-- What a tree says about one of its nodes. -/
structure Label where
  kind : String
  isNamed : Bool := false
  isMissing : Bool := false
  isError : Bool := false
  hasError : Bool := false
  start : Nat := 0
  stop : Nat := 0
  field : Option String := none
deriving Repr, DecidableEq, Inhabited

namespace Label

/-- Whether the node fills the field of its parent. -/
def fills (label : Label) (field : String) : Bool :=
  label.field == some field

/-- The text of the node in the text of its source. -/
def text (source : List Char) (label : Label) : String :=
  Text.slice source label.start label.stop

end Label

/-- A node of a syntax tree. -/
structure Node where
  label : Label
  children : List Node
deriving Repr, Inhabited

namespace Node

/-- The kind of a node. -/
def kind (node : Node) : String :=
  node.label.kind

/-- Whether the node is a named part of the grammar. -/
def isNamed (node : Node) : Bool :=
  node.label.isNamed

/-- Whether the node is a comment. -/
def isComment (node : Node) : Bool :=
  node.kind == "comment"

/-- The text of the node in the text of its source. -/
def text (source : List Char) (node : Node) : String :=
  node.label.text source

/-- The children that are named parts of the grammar, comments among them. -/
def namedChildren (node : Node) : List Node :=
  node.children.filter isNamed

/-- The first child that fills a field. -/
def child? (node : Node) (field : String) : Option Node :=
  node.children.find? (·.label.fills field)

/-- The kinds of the tokens among nodes. -/
def keywordsAmong (nodes : List Node) : List String :=
  (nodes.filter fun node => !node.isNamed).map kind

/-- The kinds of the tokens directly below the node. -/
def keywords (node : Node) : List String :=
  keywordsAmong node.children

/-- Every node with the nearest named node in front of it, walking on from one already seen. -/
def withPreviousFrom (previous : Option Node) : List Node → List (Option Node × Node)
  | [] => []
  | node :: rest =>
      (previous, node) :: withPreviousFrom (if node.isNamed then some node else previous) rest

/-- Every node with the nearest named node in front of it. -/
def withPrevious (nodes : List Node) : List (Option Node × Node) :=
  withPreviousFrom none nodes

end Node

/-- A node of a tree in preorder. -/
structure Row where
  depth : Nat
  label : Label
deriving Repr, DecidableEq, Inhabited

/-- Put a row in front of the trees that its followers make: those directly behind it that are
deeper become its children. -/
def Row.gather (row : Row) (trees : List (Nat × Node)) : List (Nat × Node) :=
  let deeper := fun (tree : Nat × Node) => decide (row.depth < tree.1)
  (row.depth, ⟨row.label, (trees.takeWhile deeper).map Prod.snd⟩) :: trees.dropWhile deeper

/-- The tree of the first row. -/
def Node.ofRows? (rows : List Row) : Option Node :=
  (rows.foldr Row.gather []).head?.map Prod.snd

end DartBindings.Syntax
