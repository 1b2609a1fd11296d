import DartBindings.Extraction.TypeReader
import DartBindings.Proofs.Replacement.Reach
import Mathlib.Logic.Function.Iterate

/-!
Arrays of arrays.

A named type is an array or it is none, and an array type gives the mark to the named type that its
element spells.  So the depth of an array is not kept: nested array types are read like a single one, and
whatever their number, the element is spelled inside one list.

Main exports: ArraysOf, ArraysOf.readType_eq, render_arraysOf
-/

namespace DartBindings

/-- Without rules, the mark of an array puts the spelling of a named type into a list. -/
theorem TypeMapper.render_identity_array (scope : Scope) {reference : NamedType}
    (plain : reference.isArray = false) :
    identity.render scope (.named { reference with isArray := true }) =
      Spelling.inList (identity.render scope (.named reference)) := by
  have spells := isSpelling_render identity
  rw [spells.free scope _ (ruleFor?_identity _), spells.free scope _ (ruleFor?_identity _), plain,
    Spelling.named_array]

namespace Extraction

open Syntax (Node)

/-- The node is the element inside so many nested array types. -/
inductive ArraysOf (element : Node) : Nat → Node → Prop
  | none : ArraysOf element 0 element
  | wrapped {depth : Nat} {inner node : Node} (deeper : ArraysOf element depth inner)
      (isArray : node.kind = "array_type") (first : node.namedChildren.head? = some inner) :
      ArraysOf element (depth + 1) node

variable {source : List Char} {element inner node : Node} {depth : Nat} {reference : NamedType}

/-- The first type is that of the first named node. -/
theorem firstType?_eq (source : List Char) (nodes : List Node) :
    firstType? source nodes = (nodes.filter Node.isNamed).head?.map (readType source) := by
  induction nodes with
  | nil => rw [firstType?, List.filter_nil, List.head?_nil, Option.map_none]
  | cons node rest ih =>
      by_cases named : node.isNamed
      · rw [firstType?, List.filter_cons_of_pos named, List.head?_cons, Option.map_some]
        exact if_pos named
      · rw [firstType?, List.filter_cons_of_neg named, ← ih]
        exact if_neg named

/-- An array type is its element with an array mark. -/
theorem readType_array (isArray : node.kind = "array_type")
    (first : node.namedChildren.head? = some inner) :
    readType source node = arrayOf (readType source inner) := by
  obtain ⟨label, children⟩ := node
  have form : TypeForm.ofKind label.kind = .array := by
    rw [show label.kind = "array_type" from isArray]
    rfl
  have found : firstType? source children = some (readType source inner) := by
    rw [firstType?_eq, show (children.filter Node.isNamed).head? = some inner from first,
      Option.map_some]
  simp only [readType, form, found]

/-- Nested array types give the named type that their element spells one mark. -/
theorem ArraysOf.readType_eq (nested : ArraysOf element (depth + 1) node)
    (read : readType source element = .named reference) :
    readType source node = .named { reference with isArray := true } := by
  generalize deep : depth + 1 = total at nested
  induction nested generalizing depth with
  | none => cases deep
  | @wrapped further inner node deeper isArray first ih =>
      rw [readType_array isArray first]
      cases further with
      | zero =>
          cases deeper
          rw [read, arrayOf]
      | succ further => rw [ih rfl, arrayOf]

/-- A named type that is no array is spelled inside one list, however many array types are nested around
its node. -/
theorem render_arraysOf (source : List Char) (scope : Scope)
    (nested : ArraysOf element depth node) (positive : 1 ≤ depth)
    (read : readType source element = .named reference) (plain : reference.isArray = false) :
    TypeMapper.identity.render scope (readType source node) =
      Spelling.inList (TypeMapper.identity.render scope (readType source element)) := by
  obtain ⟨below, rfl⟩ := Nat.exists_eq_add_of_le' positive
  rw [nested.readType_eq read, TypeMapper.render_identity_array scope plain, read]

/-- The text of an array of arrays. -/
def matrixText : List Char := "number[][]".toList

/-- The node of its element. -/
def numberNode : Node :=
  ⟨{ kind := "predefined_type", isNamed := true, stop := 6 },
    [⟨{ kind := "number", stop := 6 }, []⟩]⟩

/-- The node of a row of it. -/
def rowNode : Node :=
  ⟨{ kind := "array_type", isNamed := true, stop := 8 },
    [numberNode, ⟨{ kind := "[", start := 6, stop := 7 }, []⟩,
      ⟨{ kind := "]", start := 7, stop := 8 }, []⟩]⟩

/-- The node of the whole. -/
def matrixNode : Node :=
  ⟨{ kind := "array_type", isNamed := true, stop := 10 },
    [rowNode, ⟨{ kind := "[", start := 8, stop := 9 }, []⟩,
      ⟨{ kind := "]", start := 9, stop := 10 }, []⟩]⟩

theorem arraysOf_matrixNode : ArraysOf numberNode 2 matrixNode :=
  .wrapped (.wrapped .none rfl rfl) rfl rfl

theorem readType_numberNode : readType matrixText numberNode = .ofName "number" := by
  rfl

/-- An array of arrays of numbers is a list of numbers. -/
theorem render_arraysOf_matrix :
    ArraysOf numberNode 2 matrixNode ∧ 1 ≤ 2 ∧
      readType matrixText numberNode = .named { name := "number" } ∧
      TypeMapper.identity.render (.root ⟨.classBody, "Grid"⟩) (readType matrixText matrixNode) =
        Spelling.inList (TypeMapper.identity.render (.root ⟨.classBody, "Grid"⟩)
          (readType matrixText numberNode)) :=
  ⟨arraysOf_matrixNode, Nat.le_succ 1, readType_numberNode,
    render_arraysOf matrixText (.root ⟨.classBody, "Grid"⟩) arraysOf_matrixNode (Nat.le_succ 1)
      readType_numberNode rfl⟩

/-- The depth of an array is not kept: an array of arrays is not spelled as a list of lists. -/
theorem not_render_arraysOf_depth :
    ¬∀ (source : List Char) (scope : Scope) (element node : Node) (depth : Nat)
        (reference : NamedType), ArraysOf element depth node → 1 ≤ depth →
      readType source element = .named reference → reference.isArray = false →
      TypeMapper.identity.render scope (readType source node) =
        Spelling.inList^[depth] (TypeMapper.identity.render scope (readType source element)) := by
  intro kept
  have spelled := kept matrixText (.root ⟨.classBody, "Grid"⟩) numberNode matrixNode 2
    { name := "number" } arraysOf_matrixNode (Nat.le_succ 1) readType_numberNode rfl
  have element : TypeMapper.identity.render (.root ⟨.classBody, "Grid"⟩) (.named { name := "number" }) =
      "number" := by
    rw [(TypeMapper.isSpelling_render _).free _ _ (TypeMapper.ruleFor?_identity _)]
    rfl
  rw [arraysOf_matrixNode.readType_eq readType_numberNode,
    TypeMapper.render_identity_array _ rfl, readType_numberNode, Ty.ofName, element] at spelled
  exact absurd spelled (by decide)

end Extraction

end DartBindings
