import DartBindings.Syntax.Node

/-!
Syntax trees with comments deleted.

Comments may stand anywhere below a node.  They fill no field, so what is looked up by its field is found
with and without them.  The first named node stays the same when no comment in its place is deleted, and
what stands directly in front of a node when no comment there is.

Main exports: Deletable, Node.Uncommented, Node.Uncommented.head?_namedChildren
-/

namespace DartBindings.Syntax

/-- Whether the label is that of a comment that fills no field. -/
def Label.isLooseComment (label : Label) : Bool :=
  label.kind == "comment" && label.field.isNone

/-- A loose comment is of the kind of comments. -/
theorem Label.kind_of_isLooseComment {label : Label} (isComment : label.isLooseComment) :
    label.kind = "comment" :=
  eq_of_beq (Bool.and_eq_true_iff.1 isComment).1

/-- A loose comment is what no field of its parent looks up. -/
theorem Label.fills_of_isLooseComment {label : Label} (isComment : label.isLooseComment)
    (field : String) : label.fills field = false := by
  have fillsNone := Option.isNone_iff_eq_none.1 (Bool.and_eq_true_iff.1 isComment).2
  rw [Label.fills, fillsNone]
  rfl

theorem Node.contains_keywordsAmong (nodes : List Node) (word : String) :
    (Node.keywordsAmong nodes).contains word =
      nodes.any fun node => !node.label.isNamed && node.label.kind == word := by
  rw [Node.keywordsAmong, List.contains_eq_any_beq, List.any_map, List.any_filter]
  refine congrArg (nodes.any ·) (funext fun node => ?_)
  rw [Function.comp_apply, BEq.comm]
  rfl

/-- What is read from a label is equal where the labels are. -/
theorem Node.map_congr_label {α : Type} {first second : Option Node}
    (same : first.map Node.label = second.map Node.label) (read : Label → α) :
    (first.map fun node => read node.label) = second.map fun node => read node.label := by
  have mapped := congrArg (Option.map read) same
  rwa [Option.map_map, Option.map_map] at mapped

/-- Whether no node stands in front that a comment could document: the first named node is a comment
itself, or there is none. -/
def nothingToDocument (nodes : List Node) : Bool :=
  (nodes.find? Node.isNamed).all Node.isComment

/-- A named node in front is something to document unless it is a comment. -/
theorem nothingToDocument_named {label : Label} {children nodes : List Node}
    (named : label.isNamed) :
    nothingToDocument (⟨label, children⟩ :: nodes) = (label.kind == "comment") := by
  have found : Node.isNamed ⟨label, children⟩ := named
  rw [nothingToDocument, List.find?_cons_of_pos found, Option.all_some]
  rfl

/-- A token in front, such as a separator, does not decide what is documented. -/
theorem nothingToDocument_token {label : Label} {children nodes : List Node}
    (token : ¬label.isNamed) :
    nothingToDocument (⟨label, children⟩ :: nodes) = nothingToDocument nodes := by
  have passed : ¬Node.isNamed ⟨label, children⟩ := token
  rw [nothingToDocument, List.find?_cons_of_neg passed, nothingToDocument]

/-- Which comments directly below a node may be deleted: any of them, only those behind the first named
node, or only those that do not stand directly in front of anything they could document. -/
inductive Deletable where
  | all
  | behindFirst
  | undocumenting
deriving Repr, DecidableEq

/-- Which comments may be deleted behind a node that stays. -/
def Deletable.behind (label : Label) : Deletable → Deletable
  | .all => .all
  | .behindFirst => if label.isNamed then .all else .behindFirst
  | .undocumenting => .undocumenting

/-- Whether a comment in front of the nodes may be deleted. -/
def Deletable.allows (nodes : List Node) : Deletable → Bool
  | .all => true
  | .behindFirst => false
  | .undocumenting => nothingToDocument nodes

/-- The remaining nodes are the nodes without some comments among them and below them.  Which comments
below a node may be deleted depends on its kind. -/
inductive Uncommented (deletable : String → Deletable) : Deletable → List Node → List Node → Prop
  | nil {here : Deletable} : Uncommented deletable here [] []
  | keep {here : Deletable} {label : Label} {children fewer nodes remaining : List Node}
      (below : Uncommented deletable (deletable label.kind) children fewer)
      (further : Uncommented deletable (here.behind label) nodes remaining) :
      Uncommented deletable here (⟨label, children⟩ :: nodes) (⟨label, fewer⟩ :: remaining)
  | delete {here : Deletable} {comment : Node} {nodes remaining : List Node}
      (isComment : comment.label.isLooseComment) (allowed : here.allows nodes)
      (further : Uncommented deletable here nodes remaining) :
      Uncommented deletable here (comment :: nodes) remaining

/-- The tree is what remains of a tree when some comments below its root are deleted.  Nodes of the two
that correspond are such trees themselves. -/
structure Node.Uncommented (deletable : String → Deletable) (node remaining : Node) : Prop where
  label : remaining.label = node.label
  children : Syntax.Uncommented deletable (deletable node.kind) node.children remaining.children

namespace Uncommented

variable {deletable : String → Deletable} {here : Deletable} {nodes remaining : List Node}

/-- A test that no comment passes finds the same node, apart from comments below it. -/
theorem find?_label (deleted : Uncommented deletable here nodes remaining) (test : Label → Bool)
    (blind : ∀ label, label.isLooseComment → test label = false) :
    Option.Rel (Node.Uncommented deletable) (nodes.find? fun node => test node.label)
      (remaining.find? fun node => test node.label) := by
  induction deleted with
  | nil => exact .none
  | @keep here label children fewer nodes remaining below further _ ih =>
      rw [List.find?_cons, List.find?_cons]
      cases test label with
      | true => exact .some ⟨rfl, below⟩
      | false => exact ih
  | @delete here comment nodes remaining isComment _ further ih =>
      rw [List.find?_cons, blind _ isComment]
      exact ih

/-- A comment fills no field, so what fills one is found without the comments as well. -/
theorem find?_fills (deleted : Uncommented deletable here nodes remaining) (field : String) :
    Option.Rel (Node.Uncommented deletable) (nodes.find? (·.label.fills field))
      (remaining.find? (·.label.fills field)) :=
  deleted.find?_label (·.fills field) fun _ isComment => Label.fills_of_isLooseComment isComment field

/-- What fills a field keeps its label. -/
theorem label_find?_fills (deleted : Uncommented deletable here nodes remaining) (field : String) :
    (remaining.find? (·.label.fills field)).map Node.label =
      (nodes.find? (·.label.fills field)).map Node.label := by
  have found := deleted.find?_fills field
  generalize nodes.find? (·.label.fills field) = before at found
  generalize remaining.find? (·.label.fills field) = after at found
  cases found with
  | some same => rw [Option.map_some, Option.map_some, same.label]
  | none => rfl

/-- A test that no comment passes is passed alike. -/
theorem any_label (deleted : Uncommented deletable here nodes remaining) (test : Label → Bool)
    (blind : ∀ label, label.isLooseComment → test label = false) :
    (remaining.any fun node => test node.label) = nodes.any fun node => test node.label := by
  induction deleted with
  | nil => rfl
  | @keep here label children fewer nodes remaining below further _ ih =>
      rw [List.any_cons, List.any_cons, ih]
  | @delete here comment nodes remaining isComment _ further ih =>
      rw [List.any_cons, blind _ isComment, Bool.false_or, ih]

/-- The same tokens stand among the nodes. -/
theorem contains_keywordsAmong (deleted : Uncommented deletable here nodes remaining)
    {word : String} (isWord : word ≠ "comment") :
    (Node.keywordsAmong remaining).contains word = (Node.keywordsAmong nodes).contains word := by
  rw [Node.contains_keywordsAmong, Node.contains_keywordsAmong]
  apply deleted.any_label (fun label => !label.isNamed && label.kind == word)
  intro label isComment
  rw [Label.kind_of_isLooseComment isComment, beq_eq_false_iff_ne.2 isWord.symm, Bool.and_false]

/-- Where only what is behind the first named node may be deleted, that node keeps its label. -/
theorem find?_named (deleted : Uncommented deletable .behindFirst nodes remaining) :
    (remaining.find? Node.isNamed).map Node.label = (nodes.find? Node.isNamed).map Node.label := by
  generalize guarded : Deletable.behindFirst = here at deleted
  induction deleted with
  | nil => rfl
  | @keep here label children fewer nodes remaining below further _ ih =>
      have same : Node.isNamed ⟨label, fewer⟩ = Node.isNamed ⟨label, children⟩ := rfl
      rw [List.find?_cons, List.find?_cons, same]
      cases named : Node.isNamed ⟨label, children⟩ with
      | true => rfl
      | false =>
          subst guarded
          have token : ¬label.isNamed := Bool.eq_false_iff.1 named
          exact ih (if_neg token).symm
  | delete _ allowed =>
      subst guarded
      cases allowed

end Uncommented

/-- Where only what is behind the first named child may be deleted, that child keeps its label. -/
theorem Node.Uncommented.head?_namedChildren {deletable : String → Deletable}
    {node remaining : Node} (deleted : Node.Uncommented deletable node remaining)
    (guarded : deletable node.kind = .behindFirst) :
    remaining.namedChildren.head?.map Node.label = node.namedChildren.head?.map Node.label := by
  have children := deleted.children
  rw [guarded] at children
  rw [Node.namedChildren, Node.namedChildren, List.head?_filter, List.head?_filter]
  exact children.find?_named

end DartBindings.Syntax
