import DartBindings.Proofs.Extraction.Accessors
import DartBindings.Proofs.Extraction.CommentBody
import DartBindings.Proofs.Extraction.Comments
import DartBindings.Proofs.Extraction.Selection

/-!
Where documentation comes from.

A comment documents what it stands directly in front of.  Where it stands is told here from the nodes
around it: a member has its siblings in front of it, and a declaration those of its outermost wrapper.
Whatever is read behind a block comment has the documentation in it.

Main exports: StandsBefore, DocumentsWith, documentsWith_docBefore, documentsWith_blockDoc
-/

namespace DartBindings.Extraction

open Syntax (Node Place)
open Syntax.Node (placesFrom placesAmong placesFrom_eq)

/-! ### Where a comment stands -/

/-- The comment stands directly in front of a named node: there are only tokens between them. -/
def StandsBefore (comment node : Node) (siblings : List Node) : Prop :=
  ∃ front tokens behind, siblings = front ++ comment :: (tokens ++ node :: behind) ∧
    node.isNamed = true ∧ ∀ token ∈ tokens, token.isNamed = false

/-- The node is the declaration, or an export or an ambient wrapper around it. -/
inductive Wraps (declaration : Node) : Node → Prop
  | itself : Wraps declaration declaration
  | wrapper {outer inner : Node} (kind : outer.kind = exportKind ∨ outer.kind = ambientKind)
      (child : inner ∈ outer.children) (named : inner.isNamed = true)
      (inside : Wraps declaration inner) : Wraps declaration outer

/-- The comment stands directly in front of the declaration and all its wrappers, in the container at
the place. -/
structure StandsBeforeDeclaration (place : Place) (comment declaration : Node) : Prop where
  named : ∀ inner ∈ place.belowRoot, inner.isNamed = true
  within : ∀ outer ∈ place.node :: place.around, outer.kind ∈ containerKinds
  noWrapper : wraps place.node.kind = false
  before : ∃ outermost, StandsBefore comment outermost place.node.children ∧
    Wraps declaration outermost
  declares : declaration.kind ∈ declarationKinds

variable {source : List Char} {comment node : Node} {siblings : List Node}

/-- A comment directly in front of a node is the nearest named node in front of it. -/
theorem StandsBefore.mem_withPrevious (stands : StandsBefore comment node siblings)
    (isNamed : comment.isNamed = true) (previous : Option Node) :
    (some comment, node) ∈ Node.withPreviousFrom previous siblings := by
  obtain ⟨front, tokens, behind, rfl, -, onlyTokens⟩ := stands
  have noneNamed : tokens.filter Node.isNamed = [] :=
    List.filter_eq_nil_iff.2 fun token member => by simp [onlyTokens token member]
  rw [withPreviousFrom_append, Node.withPreviousFrom, if_pos isNamed, withPreviousFrom_append,
    noneNamed, Node.withPreviousFrom]
  simp

theorem StandsBefore.named (stands : StandsBefore comment node siblings) : node.isNamed = true :=
  stands.choose_spec.choose_spec.choose_spec.2.1

/-- A wrapper hands on the node in front of it, any other container the one inside. -/
theorem previous_inside (setting : Setting) (kind : String) (previous : Option Node) :
    (setting.inside kind previous).previous =
      if wraps kind then setting.previous else previous :=
  rfl

/-- What is found among nodes is found at each of them, behind the nearest named node. -/
theorem candidatesAmong_eq (setting : Setting) (kind : String) (previous : Option Node)
    (nodes : List Node) :
    candidatesAmong setting kind previous nodes =
      (Node.withPreviousFrom previous nodes).flatMap fun (front, node) =>
        if node.isNamed then candidatesAt (setting.inside kind front) node else [] := by
  induction nodes generalizing previous with
  | nil => rw [candidatesAmong, Node.withPreviousFrom, List.flatMap_nil]
  | cons node rest ih =>
      rw [candidatesAmong, Node.withPreviousFrom, List.flatMap_cons, ← Node.isNamed]
      cases named : node.isNamed with
      | true => simp [ih, named]
      | false => simp [ih, named]

/-- The candidates at a node are among those of its siblings. -/
theorem candidatesAt_subset_of_mem {setting : Setting} {kind : String} {previous front : Option Node}
    {nodes : List Node} (member : (front, node) ∈ Node.withPreviousFrom previous nodes)
    (named : node.isNamed = true) :
    candidatesAt (setting.inside kind front) node ⊆ candidatesAmong setting kind previous nodes := by
  intro candidate found
  rw [candidatesAmong_eq, List.mem_flatMap]
  exact ⟨(front, node), member, by simpa [named] using found⟩

/-- The candidates at a container are those among its children. -/
theorem candidatesAt_of_container (setting : Setting) (container : node.kind ∈ containerKinds) :
    candidatesAt setting node = candidatesAmong setting node.kind none node.children := by
  rw [candidatesAt_eq]
  rcases Role.ofKind_cases node.kind with ⟨role, -⟩ | ⟨-, -, -, other⟩ | ⟨-, -, -, other⟩ |
    ⟨-, -, other⟩
  · rw [role]
  · exact absurd container other
  · exact absurd container other
  · exact absurd container other

mutual

/-- The search comes to every place in containers. -/
theorem exists_candidatesAt_subset {place : Place}
    (named : ∀ inner ∈ place.belowRoot, inner.isNamed = true)
    (within : ∀ outer ∈ place.around, outer.kind ∈ containerKinds) :
    ∀ {around : List Node} {node : Node} (setting : Setting), place ∈ placesFrom around node →
      ∃ reached, candidatesAt reached place.node ⊆ candidatesAt setting node
  | around, ⟨label, children⟩, setting, member => by
      rw [placesFrom, List.mem_cons] at member
      rcases member with rfl | below
      · exact ⟨setting, List.Subset.refl _⟩
      · have isAround := (Syntax.Node.suffix_of_mem_placesAmong below).subset List.mem_cons_self
        rw [candidatesAt_of_container setting (within _ isAround)]
        exact exists_candidatesAt_subset_among named within setting none _ (List.cons_ne_nil _ _) below

/-- Down through containers the search comes to every place below a list of nodes. -/
theorem exists_candidatesAt_subset_among {place : Place}
    (named : ∀ inner ∈ place.belowRoot, inner.isNamed = true)
    (within : ∀ outer ∈ place.around, outer.kind ∈ containerKinds) :
    ∀ {around nodes : List Node} (setting : Setting) (previous : Option Node) (kind : String),
      around ≠ [] → place ∈ placesAmong around nodes →
        ∃ reached, candidatesAt reached place.node ⊆ candidatesAmong setting kind previous nodes
  | _, [], _, _, _, _, member => by
      cases member
  | around, node :: rest, setting, previous, kind, inner, member => by
      rw [placesAmong, List.mem_append] at member
      rcases member with first | further
      · have isNamed := named node (Syntax.Node.mem_belowRoot_of_mem_placesFrom inner first)
        obtain ⟨reached, subset⟩ :=
          exists_candidatesAt_subset named within (setting.inside kind previous) first
        have here : (previous, node) ∈ Node.withPreviousFrom previous (node :: rest) :=
          List.mem_cons_self
        exact ⟨reached, List.Subset.trans subset (candidatesAt_subset_of_mem here isNamed)⟩
      · obtain ⟨reached, subset⟩ := exists_candidatesAt_subset_among named within setting
          (if node.isNamed then some node else previous) kind inner further
        refine ⟨reached, List.Subset.trans subset ?_⟩
        rw [candidatesAmong_eq, candidatesAmong_eq, Node.withPreviousFrom, List.flatMap_cons]
        exact List.subset_append_right _ _

end

/-- A declaration in wrappers is found as what stands behind the same node as the outermost wrapper. -/
theorem Wraps.exists_candidate {declaration outermost : Node} (wrapped : Wraps declaration outermost)
    (declares : declaration.kind ∈ declarationKinds) (setting : Setting) :
    ∃ candidate ∈ candidatesAt setting outermost,
      candidate.node = declaration ∧ candidate.setting.previous = setting.previous := by
  induction wrapped generalizing setting with
  | itself =>
      rw [candidatesAt_eq]
      rcases Role.ofKind_cases declaration.kind with ⟨-, -, other⟩ | ⟨role, -⟩ | ⟨role, -⟩ |
        ⟨-, other, -⟩
      · exact absurd declares other
      · rw [role]
        exact ⟨_, List.mem_singleton_self _, rfl, rfl⟩
      · rw [role]
        exact ⟨_, List.mem_singleton_self _, rfl, rfl⟩
      · exact absurd declares other
  | @wrapper outer inner kind child named inside ih =>
      have container : outer.kind ∈ containerKinds := by
        rcases kind with isExport | isAmbient
        · rw [isExport]
          decide
        · rw [isAmbient]
          decide
      have isWrapper : wraps outer.kind = true := by
        simpa [wraps] using kind
      obtain ⟨⟨front, _⟩, member, rfl⟩ : ∃ entry ∈ Node.withPreviousFrom none outer.children,
          entry.2 = inner := by
        rwa [← List.mem_map, map_snd_withPreviousFrom]
      -- A wrapper hands on what stands in front of it, so the inner search has the same comment.
      obtain ⟨candidate, found, isDeclaration, isPrevious⟩ := ih (setting.inside outer.kind front)
      refine ⟨candidate, ?_, isDeclaration, ?_⟩
      · rw [candidatesAt_of_container setting container]
        exact candidatesAt_subset_of_mem member named found
      · rw [isPrevious, previous_inside, if_pos isWrapper]

/-- A declaration behind a comment is found as one behind that comment. -/
theorem StandsBeforeDeclaration.exists_candidate {root declaration : Node} {place : Place}
    (stands : StandsBeforeDeclaration place comment declaration) (isNamed : comment.isNamed = true)
    (member : place ∈ root.places) :
    ∃ candidate ∈ candidates root,
      candidate.node = declaration ∧ candidate.setting.previous = some comment := by
  obtain ⟨container, within⟩ := List.forall_mem_cons.1 stands.within
  obtain ⟨reached, subset⟩ := exists_candidatesAt_subset stands.named within {} member
  obtain ⟨outermost, before, wrapped⟩ := stands.before
  obtain ⟨candidate, found, isDeclaration, isPrevious⟩ :=
    wrapped.exists_candidate stands.declares (reached.inside place.node.kind (some comment))
  refine ⟨candidate, subset ?_, isDeclaration, ?_⟩
  · rw [candidatesAt_of_container reached container]
    exact candidatesAt_subset_of_mem (before.mem_withPrevious isNamed none) before.named found
  · rw [isPrevious, previous_inside, stands.noWrapper, if_neg Bool.false_ne_true]

/-! ### What is read behind a comment -/

/-- The documentation of what was taken. -/
def Declared.doc : Declared → String
  | .ofClass cls => cls.doc
  | .ofInterface interface => interface.doc

/-- The documentation of a member of a class. -/
def ClassMember.doc : ClassMember → String
  | .property found => found.doc
  | .constructor found => found.doc
  | .getter found => found.doc
  | .setter found => found.doc
  | .method signature => signature.method.doc

/-- The documentation of a member of an interface. -/
def InterfaceMember.doc : InterfaceMember → String
  | .property found => found.doc
  | .accessor _ found => found.doc
  | .method signature => signature.method.doc

/-- A declaration has the documentation in front of its setting. -/
theorem doc_of_readCandidate? {config : Config} {id : SourceId} {candidate : Candidate}
    {taken : Declared × Diagnostics}
    (read : readCandidate? config id source candidate = some taken) :
    taken.1.doc = docBefore source candidate.setting.previous := by
  obtain ⟨name, -, rfl⟩ := Option.map_eq_some_iff.1 read
  split
  · rfl
  · rfl

/-- A property has the documentation of the node in front. -/
theorem doc_of_property? {previous : Option Node} {children : List Node} {type : Ty}
    {property : Property} (read : property? source previous children type = some property) :
    property.doc = docBefore source previous := by
  obtain ⟨name, -, rfl⟩ := Option.map_eq_some_iff.1 read
  rfl

theorem doc_of_classMember? {previous : Option Node} {member : ClassMember}
    (read : classMember? source previous node = some member) :
    member.doc = docBefore source previous := by
  unfold classMember? at read
  split at read
  · obtain ⟨property, found, rfl⟩ := Option.map_eq_some_iff.1 read
    exact doc_of_property? found
  · obtain ⟨name, -, rfl⟩ := Option.map_eq_some_iff.1 read
    unfold classMethod
    split
    · rfl
    · split
      · rfl
      · rfl
      · rfl
  · cases read

theorem doc_of_interfaceMember? {previous : Option Node} {member : InterfaceMember}
    (read : interfaceMember? source previous node = some member) :
    member.doc = docBefore source previous := by
  unfold interfaceMember? at read
  split at read
  · obtain ⟨property, found, rfl⟩ := Option.map_eq_some_iff.1 read
    exact doc_of_property? found
  · obtain ⟨name, -, rfl⟩ := Option.map_eq_some_iff.1 read
    unfold interfaceMethod
    split
    · rfl
    · rfl
    · rfl
  · cases read

theorem doc_of_shapeMember {previous : Option Node} {property : Property}
    (read : property ∈ propertiesAmong source previous [node]) :
    property.doc = docBefore source previous := by
  obtain ⟨label, children⟩ := node
  rw [propertiesAmong, propertiesAmong] at read
  split at read
  · rw [List.append_nil] at read
    split at read
    · exact doc_of_property? (Option.mem_toList.1 read)
    · obtain ⟨name, -, rfl⟩ := Option.map_eq_some_iff.1 (Option.mem_toList.1 read)
      rfl
    · cases read
    · cases read
  · cases read

/-- A property that one node spells is a property of the body. -/
theorem mem_propertiesAmong_of_mem {previous front : Option Node} {nodes : List Node}
    {property : Property} (member : (front, node) ∈ Node.withPreviousFrom previous nodes)
    (read : property ∈ propertiesAmong source front [node]) :
    property ∈ propertiesAmong source previous nodes := by
  induction nodes generalizing previous with
  | nil => cases member
  | cons first rest ih =>
      obtain ⟨label, children⟩ := first
      rw [Node.withPreviousFrom, List.mem_cons] at member
      by_cases named : label.isNamed = true
      · rw [propertiesAmong_named previous named]
        rcases member with same | further
        · obtain ⟨rfl, rfl⟩ := Prod.mk.inj same
          exact List.mem_append_left _ read
        · rw [if_pos (show Node.isNamed ⟨label, children⟩ = true from named)] at further
          exact List.mem_append_right _ (ih further)
      · rw [propertiesAmong_token previous named]
        rcases member with same | further
        · obtain ⟨rfl, rfl⟩ := Prod.mk.inj same
          rw [propertiesAmong_token front named] at read
          cases read
        · rw [if_neg (show ¬Node.isNamed ⟨label, children⟩ = true from named)] at further
          exact ih further

/-- What is read in a file directly behind the comment has this documentation: declarations, members of
classes and of interfaces, and members of object types. -/
structure DocumentsWith (config : Config) (id : SourceId) (document : Document) (comment : Node)
    (doc : String) : Prop where
  declaration : ∀ place ∈ document.tree.places, ∀ declaration,
    StandsBeforeDeclaration place comment declaration →
      ∃ candidate ∈ candidates document.tree, candidate.node = declaration ∧
        ∀ taken, readCandidate? config id document.source.text.toList candidate = some taken →
          taken ∈ declarationsIn config id document ∧ taken.1.doc = doc
  classMember : ∀ body node member, StandsBefore comment node body.children →
    classMember? document.source.text.toList (some comment) node = some member →
      member ∈ classMembers document.source.text.toList body ∧ member.doc = doc
  interfaceMember : ∀ body node member, StandsBefore comment node body.children →
    interfaceMember? document.source.text.toList (some comment) node = some member →
      member ∈ interfaceMembers document.source.text.toList body ∧ member.doc = doc
  shapeMember : ∀ nodes node property, StandsBefore comment node nodes →
    property ∈ propertiesAmong document.source.text.toList (some comment) [node] →
      property ∈ propertiesAmong document.source.text.toList none nodes ∧ property.doc = doc

/-- A member that is read behind a comment is a member of its body. -/
theorem StandsBefore.mem_membersOf {α : Type} {read : Option Node → Node → Option α} {body : Node}
    {member : α} (stands : StandsBefore comment node body.children) (isNamed : comment.isNamed = true)
    (found : read (some comment) node = some member) : member ∈ membersOf read body := by
  rw [membersOf, List.mem_filterMap]
  exact ⟨(some comment, node), stands.mem_withPrevious isNamed none,
    (if_pos stands.named).trans found⟩

/-- What is read behind a comment has the documentation in that comment. -/
theorem documentsWith_docBefore (config : Config) (id : SourceId) (document : Document)
    (isNamed : comment.isNamed = true) :
    DocumentsWith config id document comment
      (docBefore document.source.text.toList (some comment)) where
  declaration place member declaration stands := by
    obtain ⟨candidate, found, isDeclaration, isPrevious⟩ := stands.exists_candidate isNamed member
    refine ⟨candidate, found, isDeclaration, fun taken read => ⟨?_, ?_⟩⟩
    · exact List.mem_filterMap.2 ⟨candidate, found, read⟩
    · rw [doc_of_readCandidate? read, isPrevious]
  classMember _ _ _ stands read :=
    ⟨stands.mem_membersOf isNamed read, doc_of_classMember? read⟩
  interfaceMember _ _ _ stands read :=
    ⟨stands.mem_membersOf isNamed read, doc_of_interfaceMember? read⟩
  shapeMember _ _ _ stands read :=
    ⟨mem_propertiesAmong_of_mem (stands.mem_withPrevious isNamed none) read,
      doc_of_shapeMember read⟩

/-- What is read directly behind a block comment is documented by the rows behind the star at the
beginning of its body, and not at all without such a star.  The comment with an empty body is the only
one that leaves something else: its last slash. -/
theorem documentsWith_blockDoc (config : Config) (id : SourceId) (document : Document)
    {comment : Node} {body : String}
    (block : IsBlockComment document.source.text.toList comment body) :
    DocumentsWith config id document comment (if body = "" then "/" else blockDoc body) := by
  rw [← docBefore_of_isBlockComment block]
  exact documentsWith_docBefore config id document block.named

/-- The node of a comment of a length at the beginning of a text. -/
def leadingComment (length : Nat) : Node :=
  ⟨{ kind := "comment", isNamed := true, stop := length }, []⟩

/-- A file with a comment of ASCII characters and a class behind it. -/
def behindComment (comment : String) : Document :=
  let length := comment.length
  { source := { text := comment ++ " class A \x7b\x7d" }
    tree :=
      ⟨{ kind := "program", isNamed := true, stop := length + 11 },
        [leadingComment length,
          ⟨{ kind := "class_declaration", isNamed := true, start := length + 1, stop := length + 11 },
            [⟨{ kind := "class", start := length + 1, stop := length + 6 }, []⟩,
              ⟨{ kind := "type_identifier", isNamed := true, start := length + 7,
                  stop := length + 8, field := some "name" }, []⟩,
              ⟨{ kind := "class_body", isNamed := true, start := length + 9, stop := length + 11,
                  field := some "body" }, []⟩]⟩]⟩ }

/-- A comment with stars and carriage returns in its body in front of a class. -/
theorem documentsWith_blockDoc_stars :
    IsBlockComment (behindComment "/***\r\n\t*  * x\n**/").source.text.toList (leadingComment 17)
        "**\r\n\t*  * x\n*" ∧
      DocumentsWith { libraryName := "lib" } 0 (behindComment "/***\r\n\t*  * x\n**/")
        (leadingComment 17) " * x" := by
  have block : IsBlockComment (behindComment "/***\r\n\t*  * x\n**/").source.text.toList
      (leadingComment 17) "**\r\n\t*  * x\n*" := ⟨rfl, rfl, by decide⟩
  have rows : blockDoc "**\r\n\t*  * x\n*" = " * x" := by decide
  have documented :=
    documentsWith_blockDoc { libraryName := "lib" } 0 (behindComment "/***\r\n\t*  * x\n**/") block
  rw [if_neg (by decide), rows] at documented
  exact ⟨block, documented⟩

/-- The class in that file. -/
def classBehind (comment : String) : Node :=
  ((behindComment comment).tree.children.getLast?).getD default

/-- The comment with an empty body leaves its last slash to the class behind it. -/
theorem not_documentsWith_blockDoc_empty :
    ¬∀ (config : Config) (id : SourceId) (document : Document) (comment : Node) (body : String),
      IsBlockComment document.source.text.toList comment body → ¬"*/".toList <:+: body.toList →
        DocumentsWith config id document comment (blockDoc body) := by
  intro claimed
  let config : Config := { libraryName := "lib", declarations := Table.ofList [("A", {})] }
  have documented := claimed config 0 (behindComment "/**/") (leadingComment 4) ""
    ⟨rfl, rfl, by decide⟩ (by decide)
  have stands : StandsBeforeDeclaration ⟨(behindComment "/**/").tree, []⟩ (leadingComment 4)
      (classBehind "/**/") := by
    refine ⟨by decide, by decide, by decide, ?_, by decide⟩
    exact ⟨classBehind "/**/", ⟨[], [], [], rfl, rfl, by simp⟩, .itself⟩
  obtain ⟨candidate, found, -, docs⟩ := documented.declaration _ List.mem_cons_self _ stands
  obtain rfl : candidate = ⟨false, false, ⟨true, some (leadingComment 4)⟩, classBehind "/**/"⟩ :=
    List.mem_singleton.1 found
  exact absurd (docs _ rfl).2 (by decide)

end DartBindings.Extraction
