import DartBindings.Proofs.Syntax.OutlineRow

/-!
What an outline tells about a tree.

An outline has one row for each place that can be seen, in document order: blanks for the depth, an
entry for the node, and parentheses that close this node and those around it of which it is the last.
A row can be read back, as names have none of the characters that stand around them and quotations can
be read back, so outlines that are alike show the same.

Main exports: IsNamedRowOf, outline_faithful
-/

namespace DartBindings.Syntax

variable {options : OutlineOptions} {source : List Char}

/-- A text that is made of a row for each place, each behind a feed. -/
inductive Writes (options : OutlineOptions) (source : List Char) : List Place → List Char → Prop where
  | nil : Writes options source [] []
  | cons {place : Place} {row : List Char} {places : List Place} {text : List Char} :
      IsRowOf options source place row → Writes options source places text →
        Writes options source (place :: places) ('\n' :: row ++ text)

/-! ### Rows -/

variable {places further : List Place} {place : Place} {text more : List Char}

/-- Rows of places and the rows of further places are the rows of all of them. -/
theorem Writes.append (first : Writes options source places text)
    (second : Writes options source further more) :
    Writes options source (places ++ further) (text ++ more) := by
  induction first with
  | nil => exact second
  | cons row _ ih =>
      rw [List.append_assoc]
      exact .cons row ih

/-- A parenthesis more at its end leaves a row a row of its place. -/
theorem IsRowOf.close {row : List Char} (shown : IsRowOf options source place row) :
    IsRowOf options source place (row ++ [')']) := by
  obtain ⟨closed, rfl⟩ := shown
  refine ⟨closed + 1, ?_⟩
  rw [List.append_assoc, List.append_assoc, closing, closing, ← List.replicate_succ']

/-- A parenthesis that closes a node stands behind the last row. -/
theorem Writes.close (written : Writes options source places text) (nonempty : places ≠ []) :
    Writes options source places (text ++ [')']) := by
  induction written with
  | nil => exact absurd rfl nonempty
  | cons row written ih =>
      cases written with
      | nil =>
          rw [List.append_nil, List.cons_append]
          simpa using Writes.cons row.close .nil
      | cons next further =>
          rw [List.append_assoc]
          exact .cons row (ih (List.cons_ne_nil _ _))

/-- What is written for places splits into one row for each of them, in order. -/
theorem Writes.rows (written : Writes options source places text) :
    ∃ rows, List.Forall₂ (IsRowOf options source) places rows ∧ text = rows.flatMap ('\n' :: ·) := by
  induction written with
  | nil => exact ⟨[], .nil, rfl⟩
  | cons row _ ih =>
      obtain ⟨rows, shown, rfl⟩ := ih
      exact ⟨_ :: rows, .cons row shown, rfl⟩

/-! ### The rows of a tree -/

variable {node : Node} {around nodes : List Node}

/-- Nothing is written where no node is wanted. -/
theorem nodes_of_hidden (depth : Nat) (hidden : ∀ child ∈ nodes, ¬ child.IsShown options) :
    Outline.nodes options source depth nodes = "" := by
  induction nodes with
  | nil => rw [Outline.nodes]
  | cons child rest ih =>
      obtain ⟨hiddenHere, hiddenBehind⟩ := List.forall_mem_cons.1 hidden
      rw [Outline.nodes, ih hiddenBehind, if_neg]
      · rfl
      · exact fun shown => hiddenHere (Node.isShown_iff.2 shown)

/-- The outline shows a node of a list when there is one that can be seen. -/
theorem any_shows_iff :
    nodes.any (Outline.shows options) = true ↔ ∃ child ∈ nodes, child.IsShown options := by
  simp only [List.any_eq_true, Node.isShown_iff]

/-- A node either has rows below its own or shows its text, so the order of the two does not matter. -/
theorem nodes_append_text (options : OutlineOptions) (source : List Char) (around : List Node)
    (named : node.isNamed = true) (depth : Nat) (behind : String) :
    Outline.nodes options source depth node.children ++
        ((if node.children.any (Outline.shows options) then ""
          else " " ++ Text.quoted (node.label.text source)) ++ behind) =
      shownText (Place.leafText options source ⟨node, around⟩) ++
        (Outline.nodes options source depth node.children ++ behind) := by
  by_cases inner : ∃ child ∈ node.children, child.IsShown options
  · rw [if_pos (any_shows_iff.2 inner), Place.leafText, if_neg fun leaf => leaf.2 inner]
    simp [shownText]
  · have hidden : ∀ child ∈ node.children, ¬ child.IsShown options :=
      fun child member shown => inner ⟨child, member, shown⟩
    rw [if_neg fun shows => inner (any_shows_iff.1 shows), Place.leafText, if_pos ⟨named, inner⟩,
      nodes_of_hidden depth hidden]
    simp [shownText, Node.text]

/-- A token is written as its entry alone: nothing is below it. -/
theorem node_of_token (token : node.isNamed = false) (around : List Node) :
    Outline.node options source around.length node =
      Outline.lead around.length ++ Place.entry options source ⟨node, around⟩ := by
  obtain ⟨label, children⟩ := node
  have unnamed : label.isNamed = false := token
  simp [Outline.node, Place.entry, Place.body, unnamed, Node.isNamed, Node.kind,
    String.append_assoc]

/-- A named node is written as its entry, the rows of its children and a parenthesis. -/
theorem node_of_named (named : node.isNamed = true) (around : List Node) :
    Outline.node options source around.length node =
      Outline.lead around.length ++ (Place.entry options source ⟨node, around⟩ ++
        (Outline.nodes options source (around.length + 1) node.children ++ ")")) := by
  have text := nodes_append_text options source around named (around.length + 1) ")"
  obtain ⟨label, children⟩ := node
  have isNamed : label.isNamed = true := named
  simp only [Outline.node, Place.entry, Place.body, isNamed, Node.isNamed, Node.kind, if_true,
    String.append_assoc, text]

/-- A row begins behind a feed, except that the first row of an outline has none in front of it. -/
theorem feed_append_lead (around : List Node) :
    (if around = [] then ['\n'] else []) ++ (Outline.lead around.length).toList =
      '\n' :: blanksOf around.length := by
  cases around with
  | nil => rfl
  | cons above further => simp [Outline.lead, blanksOf]

/-- An entry behind the blanks of its depth is a row that closes no node. -/
theorem isRowOf_entry (options : OutlineOptions) (source : List Char) (place : Place) :
    IsRowOf options source place
      (blanksOf place.around.length ++ (place.entry options source).toList) :=
  ⟨0, by simp [closing]⟩

-- By induction on the tree; every place below a node has this node around it, so that its depth is
-- the number of nodes around it.
mutual

/-- A node that can be seen writes a row for every place that can be seen at it and below it. -/
theorem writes_node :
    ∀ {around : List Node} {node : Node}, (around = [] ∨ node.IsShown options) →
      (∀ above ∈ around, above.isNamed = true) →
      Writes options source
        ((Node.placesFrom around node).filter fun place => place.IsVisible options)
        ((if around = [] then ['\n'] else []) ++
          (Outline.node options source around.length node).toList)
  | around, ⟨label, children⟩, shown, reached => by
      rw [filter_placesFrom_of_shown shown reached]
      have row := isRowOf_entry options source ⟨⟨label, children⟩, around⟩
      cases named : Node.isNamed ⟨label, children⟩ with
      | false =>
          rw [filter_placesAmong_of_token named, node_of_token named, String.toList_append,
            ← List.append_assoc, feed_append_lead]
          simpa using Writes.cons row .nil
      | true =>
          -- The parenthesis of the node stands behind the last row below it, or behind its own.
          have below : Writes options source _
              (Outline.nodes options source (around.length + 1) children).toList :=
            writes_nodes (List.cons_ne_nil ⟨label, children⟩ around)
              (List.forall_mem_cons.2 ⟨named, reached⟩)
          have closed := (Writes.cons row below).close (List.cons_ne_nil _ _)
          rw [node_of_named named, String.toList_append, ← List.append_assoc, feed_append_lead]
          simpa using closed

/-- The wanted ones among the children of named nodes write rows for what can be seen at them and
below them. -/
theorem writes_nodes :
    ∀ {around nodes : List Node}, around ≠ [] → (∀ above ∈ around, above.isNamed = true) →
      Writes options source
        ((Node.placesAmong around nodes).filter fun place => place.IsVisible options)
        (Outline.nodes options source around.length nodes).toList
  | around, [], _, _ => by
      rw [Node.placesAmong, Outline.nodes]
      exact .nil
  | around, node :: rest, inner, reached => by
      rw [Node.placesAmong, List.filter_append, Outline.nodes, String.toList_append]
      apply Writes.append
      · by_cases shown : node.IsShown options
        · rw [if_pos (Node.isShown_iff.1 shown)]
          simpa [inner] using writes_node (.inr shown) reached
        · rw [filter_placesFrom_of_hidden inner shown,
            if_neg fun shows => shown (Node.isShown_iff.2 shows)]
          exact .nil
      · exact writes_nodes inner reached

end

/-! ### Outlines -/

/-- A row of a place whose label has names. -/
def IsNamedRowOf (options : OutlineOptions) (source : List Char) (place : Place) (row : List Char) :
    Prop :=
  place.node.label.HasNames ∧ IsRowOf options source place row

/-- The lines of an outline are the rows of the places that can be seen. -/
theorem forall₂_lines_outline {root : Node} (names : root.HasNames) (options : OutlineOptions)
    (source : String) :
    List.Forall₂ (IsNamedRowOf options source.toList) (root.visible options)
      (Text.lines (root.outline options source).toList) := by
  have written : Writes options source.toList (root.visible options)
      ('\n' :: (Outline.node options source.toList 0 root).toList) :=
    writes_node (.inl rfl) (List.forall_mem_nil _)
  obtain ⟨rows, shown, text⟩ := written.rows
  have named : List.Forall₂ (IsNamedRowOf options source.toList) (root.visible options) rows :=
    (List.forall₂_and_left _ _).2
      ⟨fun place member => names place (List.mem_of_mem_filter member), shown⟩
  have unbroken : ∀ row ∈ rows, Text.Unbroken row := by
    intro row member
    obtain ⟨place, _, hasNames, isRow⟩ := exists_of_mem_forall₂ named.flip member
    exact isRow.unbroken hasNames
  -- Every row begins behind a feed, and the outline leaves the first feed out.
  cases rows with
  | nil => cases text
  | cons first rest =>
      have joined : (Outline.node options source.toList 0 root).toList =
          first ++ rest.flatMap ('\n' :: ·) := (List.cons.inj text).2
      have lines : Text.lines (root.outline options source).toList = first :: rest := by
        rw [Node.outline, String.toList_append, joined]
        exact Text.lines_of_unbroken unbroken
      rwa [lines]

/-- Places with the same rows show the same. -/
theorem map_sight_eq {otherSource : List Char} {places others : List Place} {rows : List (List Char)}
    (shown : List.Forall₂ (IsNamedRowOf options source) places rows)
    (otherShown : List.Forall₂ (IsNamedRowOf options otherSource) others rows) :
    places.map (fun place => place.sight options source) =
      others.map fun place => place.sight options otherSource := by
  induction shown generalizing others with
  | nil =>
      cases otherShown
      rfl
  | cons isRow _ ih =>
      cases otherShown with
      | cons otherIsRow otherShown =>
          rw [List.map_cons, List.map_cons, ih otherShown,
            isRow.2.sight_eq otherIsRow.2 isRow.1 otherIsRow.1]

/-- An outline has a row for each place that can be seen, in document order and indented by two blanks
for each node around the place, and outlines that are alike show the same of their trees. -/
theorem outline_faithful {root : Node} (names : root.HasNames) (options : OutlineOptions)
    (source : String) :
    List.Forall₂
        (fun place row => IsRowOf options source.toList place row ∧
          indentation row = 2 * place.around.length)
        (root.visible options) (Text.lines (root.outline options source).toList) ∧
      ∀ {other : Node} {otherSource : String}, other.HasNames →
        root.outline options source = other.outline options otherSource →
          root.sights options source.toList = other.sights options otherSource.toList := by
  have rows := forall₂_lines_outline names options source
  constructor
  · apply rows.imp
    rintro place row ⟨hasNames, isRow⟩
    exact ⟨isRow, isRow.indentation_eq hasNames⟩
  · intro other otherSource otherNames same
    have otherRows := forall₂_lines_outline otherNames options otherSource
    rw [← same] at otherRows
    exact map_sight_eq rows otherRows

/-- The tree of a file with a keyword of a length and the name of a class. -/
def classTree (keyword : String) (length : Nat) : Node :=
  ⟨{ kind := "program", isNamed := true, stop := length + 2 },
    [⟨{ kind := "class_declaration", isNamed := true, stop := length + 2 },
      [⟨{ kind := keyword, stop := length }, []⟩,
        ⟨{ kind := "type_identifier", isNamed := true, start := length + 1, stop := length + 2,
           field := some "name" }, []⟩]⟩]⟩

/-- Two trees with different tokens are alike where tokens are left out. -/
theorem outline_faithful_keywords :
    List.Forall₂
        (fun place row => IsRowOf {} "class A".toList place row ∧
          indentation row = 2 * place.around.length)
        ((classTree "class" 5).visible {})
        (Text.lines ((classTree "class" 5).outline {} "class A").toList) ∧
      (classTree "class" 5).sights {} "class A".toList =
        (classTree "interface" 9).sights {} "interface A".toList := by
  have names : (classTree "class" 5).HasNames := by decide
  have otherNames : (classTree "interface" 9).HasNames := by decide
  have same : (classTree "class" 5).outline {} "class A" =
      (classTree "interface" 9).outline {} "interface A" := by
    decide +kernel
  obtain ⟨rows, alike⟩ := outline_faithful names {} "class A"
  exact ⟨rows, alike otherNames same⟩

end DartBindings.Syntax
