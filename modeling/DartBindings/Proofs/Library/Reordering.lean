import DartBindings.Proofs.Heritage.Reachability

/-!
Libraries whose declarations stand in another order.

An order is given by the positions from which the declarations are taken.  Where names are distinct,
a name means the same declaration in any order, and a library is acyclic in any order.

Main exports: Library.reorder, Library.Rearranges, sameAbove_reorder, acyclic_reorder
-/

namespace DartBindings

/-- The items at the positions of an order. -/
def reorderItems {α : Type} (order : List Nat) (items : List α) : List α :=
  order.filterMap (items[·]?)

/-- Items are taken in another order through a map. -/
theorem reorderItems_map {α β : Type} (order : List Nat) (change : α → β) (items : List α) :
    reorderItems order (items.map change) = (reorderItems order items).map change := by
  simp [reorderItems, List.map_filterMap]

/-- Items in their own order stay as they are. -/
theorem reorderItems_range {α : Type} (items : List α) :
    reorderItems (List.range items.length) items = items := by
  induction items with
  | nil => rfl
  | cons item rest ih =>
      have tail : (List.range rest.length).filterMap (rest[·]?) = rest := ih
      simp [reorderItems, List.range_succ_eq_map, List.filterMap_map, tail]

/-- An order that has every position once rearranges the items. -/
theorem reorderItems_perm {α : Type} {order : List Nat} {items : List α}
    (rearranges : order.Perm (List.range items.length)) :
    (reorderItems order items).Perm items := by
  have moved := rearranges.filterMap (items[·]?)
  rwa [show (List.range items.length).filterMap (items[·]?) = items from
    reorderItems_range items] at moved

namespace Library

/-- The library with its classes and its interfaces taken in other orders. -/
def reorder (library : Library) (classOrder interfaceOrder : List Nat) : Library :=
  ⟨reorderItems classOrder library.classes, reorderItems interfaceOrder library.interfaces⟩

/-- Orders that have every class and every interface of the library once. -/
structure Rearranges (library : Library) (classOrder interfaceOrder : List Nat) : Prop where
  classes : classOrder.Perm (List.range library.classes.length)
  interfaces : interfaceOrder.Perm (List.range library.interfaces.length)

/-- No two classes and no two interfaces have the same name. -/
structure DistinctNames (library : Library) : Prop where
  classes : library.classNames.Nodup
  interfaces : library.interfaceNames.Nodup

variable {library : Library} {classOrder interfaceOrder : List Nat}

theorem classes_reorder_perm (rearranges : library.Rearranges classOrder interfaceOrder) :
    (library.reorder classOrder interfaceOrder).classes.Perm library.classes :=
  reorderItems_perm rearranges.classes

theorem interfaces_reorder_perm (rearranges : library.Rearranges classOrder interfaceOrder) :
    (library.reorder classOrder interfaceOrder).interfaces.Perm library.interfaces :=
  reorderItems_perm rearranges.interfaces

/-- Where names differ, a class is found in every order. -/
theorem class?_reorder (distinct : library.DistinctNames)
    (rearranges : library.Rearranges classOrder interfaceOrder) (name : String) :
    (library.reorder classOrder interfaceOrder).class? name = library.class? name :=
  find?_name_perm distinct.classes (classes_reorder_perm rearranges) name

theorem interface?_reorder (distinct : library.DistinctNames)
    (rearranges : library.Rearranges classOrder interfaceOrder) (name : String) :
    (library.reorder classOrder interfaceOrder).interface? name = library.interface? name :=
  find?_name_perm distinct.interfaces (interfaces_reorder_perm rearranges) name

/-- What stands above a class does not depend on the order. -/
theorem sameAbove_reorder (distinct : library.DistinctNames)
    (rearranges : library.Rearranges classOrder interfaceOrder) (cls : Class) :
    Heritage.SameAbove (library.reorder classOrder interfaceOrder) library cls :=
  .of_lookups (class?_reorder distinct rearranges) (interface?_reorder distinct rearranges)

/-- No order of declarations closes a circle of heritage. -/
theorem acyclic_reorder (distinct : library.DistinctNames)
    (rearranges : library.Rearranges classOrder interfaceOrder) (acyclic : Heritage.Acyclic library) :
    Heritage.Acyclic (library.reorder classOrder interfaceOrder) := by
  have perm := classes_reorder_perm rearranges
  have names : (library.reorder classOrder interfaceOrder).classNames.Nodup :=
    (perm.map Class.name).nodup_iff.2 distinct.classes
  have steps : Heritage.Extends (library.reorder classOrder interfaceOrder) =
      Heritage.Extends library := by
    funext cls parent
    simp only [Heritage.Extends, class?_reorder distinct rearranges]
  rw [Heritage.acyclic_iff names, steps]
  intro cls member
  exact (Heritage.acyclic_iff distinct.classes).1 acyclic cls (perm.mem_iff.1 member)

end Library

end DartBindings
