import DartBindings.Syntax.Node
import Mathlib.Data.List.Infix

/-!
The places of a syntax tree.

A place is a node together with the nodes around it, from its parent up to the root.  The places of a
tree are listed in document order: a node comes in front of what is below it.

Main exports: Place, Node.places, Node.map_node_placesFrom
-/

namespace DartBindings.Syntax

/-- A node of a tree and the nodes around it, nearest first. -/
structure Place where
  node : Node
  around : List Node

/-- The nodes on the way from the place up to the root, without the root. -/
def Place.belowRoot (place : Place) : List Node :=
  (place.node :: place.around).dropLast

namespace Node

mutual

/-- The places at a node and below it, given the nodes around it. -/
def placesFrom (around : List Node) : Node → List Place
  | ⟨label, children⟩ =>
      ⟨⟨label, children⟩, around⟩ :: placesAmong (⟨label, children⟩ :: around) children

/-- The places at nodes and below them, given the nodes around them. -/
def placesAmong (around : List Node) : List Node → List Place
  | [] => []
  | node :: rest => placesFrom around node ++ placesAmong around rest

end

/-- The places of a tree in document order. -/
def places (root : Node) : List Place :=
  placesFrom [] root

variable {around nodes : List Node} {node : Node} {place : Place}

/-- The places from a node on are its own and those of its children, with the node around them. -/
theorem placesFrom_eq (around : List Node) (node : Node) :
    placesFrom around node = ⟨node, around⟩ :: placesAmong (node :: around) node.children := by
  obtain ⟨label, children⟩ := node
  rw [placesFrom]

mutual

/-- The nodes around a node are around every place below it. -/
theorem suffix_of_mem_placesFrom {place : Place} :
    ∀ {around : List Node} {node : Node}, place ∈ placesFrom around node →
      node :: around <:+ place.node :: place.around
  | around, ⟨label, children⟩, member => by
      rw [placesFrom, List.mem_cons] at member
      rcases member with rfl | below
      · exact List.suffix_rfl
      · exact (suffix_of_mem_placesAmong below).trans (List.suffix_cons _ _)

/-- What is around a list of nodes is around every place among them. -/
theorem suffix_of_mem_placesAmong {place : Place} :
    ∀ {around nodes : List Node}, place ∈ placesAmong around nodes → around <:+ place.around
  | around, [], member => by
      cases member
  | around, node :: rest, member => by
      rw [placesAmong, List.mem_append] at member
      rcases member with first | further
      · rcases List.suffix_cons_iff.1 (suffix_of_mem_placesFrom first) with same | above
        · rw [(List.cons.inj same).2]
        · exact (List.suffix_cons node around).trans above
      · exact suffix_of_mem_placesAmong further

end

/-- A node that is not the root stands on the way from every place at or below it up to the root. -/
theorem mem_belowRoot_of_mem_placesFrom (inner : around ≠ [])
    (member : place ∈ placesFrom around node) : node ∈ place.belowRoot := by
  obtain ⟨front, split⟩ := suffix_of_mem_placesFrom member
  rw [Place.belowRoot, ← split, List.dropLast_append_of_ne_nil (by simp),
    List.dropLast_cons_of_ne_nil inner]
  exact List.mem_append_right _ List.mem_cons_self

mutual

/-- Which nodes stand at a node and below it does not depend on what is around it. -/
theorem map_node_placesFrom (around other : List Node) :
    ∀ node : Node, (placesFrom around node).map (·.node) = (placesFrom other node).map (·.node)
  | ⟨label, children⟩ => by
      rw [placesFrom, placesFrom, List.map_cons, List.map_cons,
        map_node_placesAmong (_ :: around) (_ :: other) children]

/-- Which nodes stand at the places does not depend on what is around the list. -/
theorem map_node_placesAmong (around other : List Node) :
    ∀ nodes : List Node,
      (placesAmong around nodes).map (·.node) = (placesAmong other nodes).map (·.node)
  | [] => rfl
  | node :: rest => by
      rw [placesAmong, placesAmong, List.map_append, List.map_append,
        map_node_placesFrom around other node, map_node_placesAmong around other rest]

end

end Node

end DartBindings.Syntax
