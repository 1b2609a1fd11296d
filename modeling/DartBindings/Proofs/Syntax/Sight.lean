import DartBindings.Proofs.Syntax.Place
import DartBindings.Syntax.Outline

/-!
What can be seen of a syntax tree.

The root of a tree can always be seen.  Another node can be seen if it is wanted and all nodes around it
are named; tokens are wanted only if all nodes are.  What is seen of a node is its depth, its field,
whether it is named, its kind, and its text if it is a named node and no child of it can be seen.

Main exports: Place.IsVisible, Place.sight, Node.sights
-/

namespace DartBindings.Syntax

variable {options : OutlineOptions} {node : Node} {around : List Node}

/-- Whether a node is wanted in an outline. -/
def Node.IsShown (options : OutlineOptions) (node : Node) : Prop :=
  options.tokens = true ∨ node.isNamed = true

instance (options : OutlineOptions) (node : Node) : Decidable (node.IsShown options) :=
  inferInstanceAs (Decidable (_ ∨ _))

/-- The outline shows exactly the nodes that the options want. -/
theorem Node.isShown_iff : node.IsShown options ↔ Outline.shows options node = true :=
  Bool.or_eq_true_iff.symm

/-- A place that can be seen: the root, or a wanted node that is reached through named nodes. -/
structure Place.IsVisible (options : OutlineOptions) (place : Place) : Prop where
  shown : place.around = [] ∨ place.node.IsShown options
  reached : ∀ above ∈ place.around, above.isNamed = true

/-- A place is visible when its node is wanted or the root and all nodes around it are named. -/
theorem Place.isVisible_iff {place : Place} : place.IsVisible options ↔
    (place.around = [] ∨ place.node.IsShown options) ∧
      ∀ above ∈ place.around, above.isNamed = true :=
  ⟨fun visible => ⟨visible.shown, visible.reached⟩, fun ⟨shown, reached⟩ => ⟨shown, reached⟩⟩

instance (options : OutlineOptions) (place : Place) : Decidable (place.IsVisible options) :=
  decidable_of_iff _ Place.isVisible_iff.symm

/-- The places that can be seen, in document order. -/
def Node.visible (options : OutlineOptions) (root : Node) : List Place :=
  root.places.filter fun place => place.IsVisible options

/-- What is seen of a node. -/
structure Sight where
  depth : Nat
  field : Option String
  isNamed : Bool
  kind : String
  text : Option String
deriving Repr, DecidableEq

/-- The text of a named node without a child that can be seen. -/
def Place.leafText (options : OutlineOptions) (source : List Char) (place : Place) : Option String :=
  if place.node.isNamed = true ∧ ¬ ∃ child ∈ place.node.children, child.IsShown options then
    some (place.node.text source)
  else none

/-- What is seen at a place. -/
def Place.sight (options : OutlineOptions) (source : List Char) (place : Place) : Sight :=
  { depth := place.around.length
    field := place.node.label.field
    isNamed := place.node.isNamed
    kind := place.node.kind
    text := place.leafText options source }

/-- What is seen of a tree, in document order. -/
def Node.sights (options : OutlineOptions) (source : List Char) (root : Node) : List Sight :=
  (root.visible options).map fun place => place.sight options source

/-! ### Places below a node -/

/-- Nothing below a token can be seen. -/
theorem filter_placesAmong_of_token (token : node.isNamed = false) (nodes : List Node) :
    (Node.placesAmong (node :: around) nodes).filter (fun place => place.IsVisible options) = [] := by
  apply List.filter_eq_nil_iff.2
  intro place member visible
  have inside : node ∈ place.around :=
    (Node.suffix_of_mem_placesAmong member).subset List.mem_cons_self
  have named := (of_decide_eq_true visible).reached node inside
  rw [token] at named
  cases named

/-- Neither an unwanted node nor anything below it can be seen. -/
theorem filter_placesFrom_of_hidden (inner : around ≠ []) (hidden : ¬ node.IsShown options) :
    (Node.placesFrom around node).filter (fun place => place.IsVisible options) = [] := by
  have token : node.isNamed = false := Bool.eq_false_iff.2 fun named => hidden (.inr named)
  rw [Node.placesFrom_eq, List.filter_cons_of_neg, filter_placesAmong_of_token token]
  intro visible
  rcases (of_decide_eq_true visible).shown with root | shown
  · exact inner root
  · exact hidden shown

/-- A node that can be seen is listed in front of the visible places below it. -/
theorem filter_placesFrom_of_shown (shown : around = [] ∨ node.IsShown options)
    (reached : ∀ above ∈ around, above.isNamed = true) :
    (Node.placesFrom around node).filter (fun place => place.IsVisible options) =
      ⟨node, around⟩ ::
        (Node.placesAmong (node :: around) node.children).filter
          fun place => place.IsVisible options := by
  rw [Node.placesFrom_eq, List.filter_cons_of_pos]
  exact decide_eq_true ⟨shown, reached⟩

end DartBindings.Syntax
