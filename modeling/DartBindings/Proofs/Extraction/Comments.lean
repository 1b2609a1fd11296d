import DartBindings.Extraction.TypeReader
import DartBindings.Proofs.Syntax.Comments
import DartBindings.Proofs.Types.Documentation

/-!
Types do not depend on comments.

Reading goes by fields, by kinds of nodes, or by the first named node.  A comment fills no field and has no
meaning where a type, a parameter or a member stands, so deleting comments changes nothing but the
documentation of the properties of shapes, and not even that as long as what stands directly in front of
a member stays.  Where a node is read by its first named child alone, nothing is said of a comment in that
place.

Main exports: Reading, Harmless, readAlike_of_uncommented, reading_uncommented
-/

namespace DartBindings.Extraction

open Syntax

/-- Whether a node of the kind is read by its first named child alone. -/
def takesFirst (kind : String) : Bool :=
  TypeForm.ofKind kind == .array || TypeForm.ofKind kind == .wrapped
    || AnnotationForm.ofKind kind == .typed || kind == "rest_pattern"

/-- Any comment may be deleted but one in place of a first named child that alone is read. -/
def readAround (kind : String) : Deletable :=
  if takesFirst kind then .behindFirst else .all

/-- The same, but no comment may be deleted that stands directly in front of a member of a shape. -/
def readAroundMembers (kind : String) : Deletable :=
  if TypeForm.ofKind kind = .shape then .undocumenting else readAround kind

/-- Nothing that documents is lost: no comment may be deleted that documents, or documentation does not
count. -/
def Silent (change : String → String) (here : Deletable) : Prop :=
  here = .undocumenting ∨ ∀ doc other, change doc = change other

/-- No comment may be deleted that is read: none in place of a first named child that alone is read, and
none that documents, unless documentation does not count. -/
structure Harmless (change : String → String) (deletable : String → Deletable) : Prop where
  first : ∀ {kind : String}, takesFirst kind → deletable kind = .behindFirst
  docs : ∀ {kind : String}, TypeForm.ofKind kind = .shape → Silent change (deletable kind)

variable {source : List Char} {change : String → String} {deletable : String → Deletable}
  {here : Deletable} {nodes remaining children fewer : List Node} {label : Label}

/-! ### Names and marks -/

/-- The text of a field is found with and without comments. -/
theorem fieldText?_uncommented (deleted : Uncommented deletable here nodes remaining)
    (field : String) : fieldText? source field remaining = fieldText? source field nodes := by
  rw [fieldText?, fieldText?]
  exact Node.map_congr_label (deleted.label_find?_fills field) (Label.text source)

/-- A visible name is found with and without comments. -/
theorem visibleName?_uncommented (deleted : Uncommented deletable here nodes remaining) :
    visibleName? source remaining = visibleName? source nodes := by
  rw [visibleName?, visibleName?, fieldText?_uncommented deleted]

/-- The name of a parameter is the text of its pattern, or of the first named child of a pattern that
takes the rest. -/
theorem parameterName?_uncommented (harmless : Harmless change deletable)
    (deleted : Uncommented deletable here nodes remaining) :
    parameterName? source remaining = parameterName? source nodes := by
  have found := deleted.find?_fills "pattern"
  rw [parameterName?, parameterName?]
  generalize nodes.find? (·.label.fills "pattern") = before at found
  generalize remaining.find? (·.label.fills "pattern") = after at found
  cases found with
  | none => rfl
  | @some pattern other same =>
      have sameKind : other.kind = pattern.kind := congrArg Label.kind same.label
      have sameText : other.text source = pattern.text source :=
        congrArg (Label.text source) same.label
      by_cases rest : pattern.kind = "rest_pattern"
      · have guarded : deletable pattern.kind = .behindFirst :=
          harmless.first (by simp [takesFirst, rest])
        have inner := Node.map_congr_label (same.head?_namedChildren guarded)
          fun label => (label.text source, true)
        simp only [sameKind, if_pos rest]
        exact congrArg (Option.filter fun found => found.1 != "this") inner
      · simp only [sameKind, sameText, if_neg rest]

/-- A documenting node is read by its label. -/
theorem docBefore_label {node other : Node} (same : other.label = node.label) :
    docBefore source (some other) = docBefore source (some node) := by
  obtain ⟨label, children⟩ := node
  obtain ⟨_, fewer⟩ := other
  cases same
  rfl

/-! ### Members -/

/-- A parameter is read alike when its type is. -/
theorem parameter?_uncommented (harmless : Harmless change deletable)
    (deleted : Uncommented deletable here nodes remaining) {type other : Ty}
    (same : other.withDocs change = type.withDocs change) :
    Parameter.withDocsAll change (parameter? source label remaining other).toList =
      Parameter.withDocsAll change (parameter? source label nodes type).toList := by
  have value : remaining.any (·.label.fills "value") = nodes.any (·.label.fills "value") :=
    deleted.any_label (·.fills "value") fun _ isComment =>
      Label.fills_of_isLooseComment isComment "value"
  rw [parameter?, parameter?, parameterName?_uncommented harmless deleted, value]
  cases parameterName? source nodes with
  | none => rfl
  | some found =>
      simp only [Option.map_some, Option.toList_some, Parameter.withDocsAll, same]

/-- A property is read alike when its type and its documentation are. -/
theorem property?_uncommented (deleted : Uncommented deletable here nodes remaining)
    {type other : Ty} (same : other.withDocs change = type.withDocs change)
    {before behind : Option Node}
    (docs : change (docBefore source behind) = change (docBefore source before)) :
    Property.withDocsAll change (property? source behind remaining other).toList =
      Property.withDocsAll change (property? source before nodes type).toList := by
  rw [property?, property?, visibleName?_uncommented deleted,
    deleted.contains_keywordsAmong (by decide), deleted.contains_keywordsAmong (by decide)]
  cases visibleName? source nodes with
  | none => rfl
  | some name =>
      simp only [Option.map_some, Option.toList_some, Property.withDocsAll, same, docs]

/-! ### First types -/

/-- An array mark does not touch documentation. -/
theorem withDocs_arrayOf (type : Ty) :
    (arrayOf type).withDocs change = arrayOf (type.withDocs change) := by
  cases type with
  | named reference =>
      obtain ⟨name, args, isArray⟩ := reference
      rfl
  | function signature => rfl
  | literal shape =>
      obtain ⟨properties, calls⟩ := shape
      rfl

/-- What is made of a first type that may be missing. -/
theorem withDocs_elim {first second : Option Ty}
    (same : second.map (Ty.withDocs change) = first.map (Ty.withDocs change)) (missing : Ty)
    {use : Ty → Ty} (keeps : ∀ type, (use type).withDocs change = use (type.withDocs change)) :
    (second.elim missing use).withDocs change = (first.elim missing use).withDocs change := by
  cases first with
  | none =>
      rw [Option.map_none, Option.map_eq_none_iff] at same
      rw [same]
  | some type =>
      obtain ⟨other, rfl, sameType⟩ := Option.map_eq_some_iff.1 same
      rw [Option.elim_some, Option.elim_some, keeps, keeps, sameType]

/-- An array is read by its first type. -/
theorem readType_of_array (form : TypeForm.ofKind label.kind = .array) :
    readType source ⟨label, children⟩ =
      (firstType? source children).elim (.ofName (label.text source)) arrayOf := by
  simp only [readType, form]
  cases firstType? source children with
  | none => rfl
  | some element => rfl

/-- A wrapped type is read by its first type. -/
theorem readType_of_wrapped (form : TypeForm.ofKind label.kind = .wrapped) :
    readType source ⟨label, children⟩ =
      (firstType? source children).elim (.ofName (label.text source)) id := by
  simp only [readType, form]
  cases firstType? source children with
  | none => rfl
  | some inner => rfl

/-- An annotation is read by its first type. -/
theorem annotationIn_of_typed {field : String} (fills : label.fills field)
    (form : AnnotationForm.ofKind label.kind = .typed) :
    annotationIn source field (⟨label, children⟩ :: nodes) =
      (firstType? source children).elim .dynamic id := by
  simp only [annotationIn, fills, if_true, form]
  cases firstType? source children with
  | none => rfl
  | some type => rfl

/-! ### Nodes that stay and comments that go -/

/-- Every reader makes the same of the nodes and of what remains of them, apart from documentation. -/
structure ReadAlike (source : List Char) (change : String → String) (here : Deletable)
    (nodes remaining : List Node) : Prop where
  first : here = .behindFirst →
    (firstType? source remaining).map (Ty.withDocs change) =
      (firstType? source nodes).map (Ty.withDocs change)
  types :
    Ty.withDocsAll change (typesAmong source remaining) =
      Ty.withDocsAll change (typesAmong source nodes)
  arguments :
    Ty.withDocsAll change (argumentsIn source remaining) =
      Ty.withDocsAll change (argumentsIn source nodes)
  annotation : ∀ field : String,
    (annotationIn source field remaining).withDocs change =
      (annotationIn source field nodes).withDocs change
  parametersBelow :
    Parameter.withDocsAll change (parametersIn source remaining) =
      Parameter.withDocsAll change (parametersIn source nodes)
  parameters :
    Parameter.withDocsAll change (parametersAmong source remaining) =
      Parameter.withDocsAll change (parametersAmong source nodes)
  properties : Silent change here → ∀ before behind : Option Node,
    change (docBefore source behind) = change (docBefore source before) ∨ nothingToDocument nodes →
      Property.withDocsAll change (propertiesAmong source behind remaining) =
        Property.withDocsAll change (propertiesAmong source before nodes)
  calls :
    Signature.withDocsAll change (callsAmong source remaining) =
      Signature.withDocsAll change (callsAmong source nodes)

/-- Nodes that are read alike give one signature. -/
theorem ReadAlike.signature (alike : ReadAlike source change here nodes remaining) :
    Signature.withDocs change
        ⟨annotationIn source "return_type" remaining, parametersIn source remaining⟩ =
      Signature.withDocs change
        ⟨annotationIn source "return_type" nodes, parametersIn source nodes⟩ := by
  rw [Signature.withDocs, Signature.withDocs, alike.annotation "return_type",
    alike.parametersBelow]

/-- A type is read alike from a node if its children are. -/
theorem readType_alike (harmless : Harmless change deletable)
    (deleted : Uncommented deletable (deletable label.kind) children fewer)
    (alike : ReadAlike source change (deletable label.kind) children fewer) :
    (readType source ⟨label, fewer⟩).withDocs change =
      (readType source ⟨label, children⟩).withDocs change := by
  cases form : TypeForm.ofKind label.kind with
  | array =>
      have first := alike.first (harmless.first (by simp [takesFirst, form]))
      rw [readType_of_array form, readType_of_array form]
      exact withDocs_elim first _ withDocs_arrayOf
  | wrapped =>
      have first := alike.first (harmless.first (by simp [takesFirst, form]))
      rw [readType_of_wrapped form, readType_of_wrapped form]
      exact withDocs_elim first _ fun _ => rfl
  | generic =>
      simp only [readType, form, Ty.withDocs, fieldText?_uncommented deleted, alike.arguments]
  | shape =>
      have properties := alike.properties (harmless.docs form) none none (.inl rfl)
      simp only [readType, form, Ty.withDocs, properties, alike.calls]
  | function =>
      simp only [readType, form, Ty.withDocs, alike.signature]
  | spelled | union | self | predicate => simp only [readType, form]

theorem readAlike_nil : ReadAlike source change here [] [] where
  first := fun _ => rfl
  types := rfl
  arguments := rfl
  annotation := fun _ => rfl
  parametersBelow := rfl
  parameters := rfl
  properties := fun _ _ _ _ => rfl
  calls := rfl

/-- An annotation is read alike if what stands below it is and what follows is. -/
theorem annotationIn_keep (harmless : Harmless change deletable)
    (deleted : Uncommented deletable (deletable label.kind) children fewer)
    (below : ReadAlike source change (deletable label.kind) children fewer) {field : String}
    (further : (annotationIn source field remaining).withDocs change =
      (annotationIn source field nodes).withDocs change) :
    (annotationIn source field (⟨label, fewer⟩ :: remaining)).withDocs change =
      (annotationIn source field (⟨label, children⟩ :: nodes)).withDocs change := by
  by_cases fills : label.fills field
  · cases form : AnnotationForm.ofKind label.kind with
    | typed =>
        have first := below.first (harmless.first (by simp [takesFirst, form]))
        rw [annotationIn_of_typed fills form, annotationIn_of_typed fills form]
        exact withDocs_elim first _ fun _ => rfl
    | bare =>
        simp only [annotationIn, fills, if_true, form]
        exact readType_alike harmless deleted below
    | predicate | assertion => simp only [annotationIn, fills, if_true, form]
  · rw [annotationIn, annotationIn, if_neg fills, if_neg fills]
    exact further

/-- Where documentation is left out, it is left out behind every node. -/
theorem Silent.behind (silent : Silent change here) : Silent change (here.behind label) := by
  rcases silent with rfl | constant
  · exact .inl rfl
  · exact .inr constant

/-- What stands in front counts alike, as long as a deleted comment documents nothing. -/
theorem Silent.docs (silent : Silent change here) (allowed : here.allows nodes)
    (before behind : Option Node) :
    change (docBefore source behind) = change (docBefore source before) ∨
      nothingToDocument nodes := by
  rcases silent with rfl | constant
  · exact .inr allowed
  · exact .inl (constant _ _)

/-- The properties behind a named node have this node in front of them. -/
theorem propertiesAmong_named (previous : Option Node) (named : label.isNamed) :
    propertiesAmong source previous (⟨label, children⟩ :: nodes) =
      propertiesAmong source previous [⟨label, children⟩] ++
        propertiesAmong source (some ⟨label, children⟩) nodes := by
  simp only [propertiesAmong, if_pos named, List.append_nil]

/-- A token has no properties and documents none. -/
theorem propertiesAmong_token (previous : Option Node) (token : ¬label.isNamed) :
    propertiesAmong source previous (⟨label, children⟩ :: nodes) =
      propertiesAmong source previous nodes := by
  rw [propertiesAmong, if_neg token]

/-- A comment is no property. -/
theorem propertiesAmong_comment (previous : Option Node) (kind : label.kind = "comment") :
    propertiesAmong source previous [⟨label, children⟩] = [] := by
  have noMember : ShapeMemberForm.ofKind label.kind = .other := by
    rw [kind]
    rfl
  simp only [propertiesAmong, noMember, List.append_nil, ite_self]

/-- What a member of a shape that stays gives is read alike if what stands below it is. -/
theorem members_keep (deleted : Uncommented deletable (deletable label.kind) children fewer)
    (below : ReadAlike source change (deletable label.kind) children fewer)
    {before behind : Option Node}
    (docs : change (docBefore source behind) = change (docBefore source before)) :
    Property.withDocsAll change (propertiesAmong source behind [⟨label, fewer⟩]) =
      Property.withDocsAll change (propertiesAmong source before [⟨label, children⟩]) := by
  simp only [propertiesAmong, List.append_nil]
  split
  · cases ShapeMemberForm.ofKind label.kind with
    | property => exact property?_uncommented deleted (below.annotation "type") docs
    | method =>
        simp only [visibleName?_uncommented deleted]
        cases visibleName? source children with
        | none => rfl
        | some name =>
            simp only [Option.map_some, Option.toList_some, Property.withDocsAll, Ty.withDocs,
              below.signature, docs]
    | call | other => rfl
  · rfl

/-- The properties of a shape are read alike from a node that stays and from what follows. -/
theorem propertiesAmong_keep (deleted : Uncommented deletable (deletable label.kind) children fewer)
    (below : ReadAlike source change (deletable label.kind) children fewer)
    (further : ReadAlike source change (here.behind label) nodes remaining)
    (silent : Silent change here) {before behind : Option Node}
    (docs : change (docBefore source behind) = change (docBefore source before) ∨
      nothingToDocument (⟨label, children⟩ :: nodes)) :
    Property.withDocsAll change (propertiesAmong source behind (⟨label, fewer⟩ :: remaining)) =
      Property.withDocsAll change (propertiesAmong source before (⟨label, children⟩ :: nodes)) := by
  by_cases named : label.isNamed
  · have rest := further.properties silent.behind (some ⟨label, children⟩) (some ⟨label, fewer⟩)
      (.inl (congrArg change (docBefore_label rfl)))
    have member : Property.withDocsAll change (propertiesAmong source behind [⟨label, fewer⟩]) =
        Property.withDocsAll change (propertiesAmong source before [⟨label, children⟩]) := by
      rcases docs with same | nothing
      · exact members_keep deleted below same
      · -- Nothing to document: the node is a comment that stays, and comments give no property.
        rw [nothingToDocument_named named] at nothing
        have kind : label.kind = "comment" := eq_of_beq nothing
        rw [propertiesAmong_comment behind kind, propertiesAmong_comment before kind]
    rw [propertiesAmong_named behind named, propertiesAmong_named before named,
      Property.withDocsAll_append, Property.withDocsAll_append, member, rest]
  · rw [nothingToDocument_token named] at docs
    rw [propertiesAmong_token behind named, propertiesAmong_token before named]
    exact further.properties silent.behind before behind docs

/-- A node that stays is read alike if what stands below it is. -/
theorem readAlike_keep (harmless : Harmless change deletable)
    (deleted : Uncommented deletable (deletable label.kind) children fewer)
    (below : ReadAlike source change (deletable label.kind) children fewer)
    (further : ReadAlike source change (here.behind label) nodes remaining) :
    ReadAlike source change here (⟨label, children⟩ :: nodes) (⟨label, fewer⟩ :: remaining) := by
  have node := readType_alike harmless deleted below
  constructor
  -- The node itself is the first type if it is named; a token leaves the choice to what follows.
  case first =>
    intro guarded
    rw [firstType?, firstType?]
    by_cases named : label.isNamed
    · simp only [named, if_true, Option.map_some, node]
    · subst guarded
      simp only [if_neg named]
      exact further.first (if_neg named)
  case types =>
    have same : Node.isComment ⟨label, fewer⟩ = Node.isComment ⟨label, children⟩ := rfl
    rw [typesAmong, typesAmong, same]
    split
    · rw [Ty.withDocsAll, Ty.withDocsAll, node, further.types]
    · exact further.types
  case arguments =>
    rw [argumentsIn, argumentsIn]
    split
    · exact below.types
    · exact further.arguments
  case annotation =>
    exact fun field => annotationIn_keep harmless deleted below (further.annotation field)
  case parametersBelow =>
    rw [parametersIn, parametersIn]
    split
    · exact below.parameters
    · exact further.parametersBelow
  case parameters =>
    rw [parametersAmong, parametersAmong]
    split
    · rw [Parameter.withDocsAll_append, Parameter.withDocsAll_append, further.parameters,
        parameter?_uncommented harmless deleted (below.annotation "type")]
    · exact further.parameters
  case properties =>
    exact fun silent before behind docs => propertiesAmong_keep deleted below further silent docs
  case calls =>
    rw [callsAmong, callsAmong]
    split
    · rw [Signature.withDocsAll, Signature.withDocsAll, below.signature, further.calls]
    · exact further.calls

/-- A comment that is deleted is not read. -/
theorem readAlike_delete {comment : Node} (isComment : comment.label.isLooseComment)
    (allowed : here.allows nodes) (further : ReadAlike source change here nodes remaining) :
    ReadAlike source change here (comment :: nodes) remaining := by
  obtain ⟨label, children⟩ := comment
  have kind : label.kind = "comment" := Label.kind_of_isLooseComment isComment
  have fillsNone := Label.fills_of_isLooseComment isComment
  constructor
  -- Where the first named node counts, no comment in its place may be deleted.
  case first =>
    intro guarded
    subst guarded
    cases allowed
  case types =>
    have isComment : Node.isComment ⟨label, children⟩ = true := beq_iff_eq.2 kind
    rw [typesAmong, isComment, Bool.not_true, Bool.and_false]
    exact further.types
  case arguments =>
    rw [argumentsIn, fillsNone]
    exact further.arguments
  case annotation =>
    intro field
    rw [annotationIn, fillsNone]
    exact further.annotation field
  case parametersBelow =>
    rw [parametersIn, fillsNone]
    exact further.parametersBelow
  case parameters =>
    have noParameter : isParameter label = false := by simp [isParameter, kind]
    rw [parametersAmong, noParameter]
    exact further.parameters
  case properties =>
    intro silent before behind _
    by_cases named : label.isNamed
    · rw [propertiesAmong_named before named, propertiesAmong_comment before kind, List.nil_append]
      exact further.properties silent _ behind (silent.docs allowed _ behind)
    · rw [propertiesAmong_token before named]
      exact further.properties silent before behind (silent.docs allowed before behind)
  case calls =>
    have noCall : (ShapeMemberForm.ofKind label.kind == .call) = false := by
      rw [kind]
      rfl
    rw [callsAmong, noCall, Bool.and_false]
    exact further.calls

/-- What is read from nodes does not depend on the comments that are deleted, apart from documentation
that does not count. -/
theorem readAlike_of_uncommented (source : List Char) (harmless : Harmless change deletable)
    (deleted : Uncommented deletable here nodes remaining) :
    ReadAlike source change here nodes remaining := by
  induction deleted with
  | nil => exact readAlike_nil
  | keep deleted _ below further => exact readAlike_keep harmless deleted below further
  | delete isComment allowed _ further => exact readAlike_delete isComment allowed further

/-! ### What the readers give -/

/-- What the readers make of a node and its children. -/
structure Reading where
  type : Ty
  annotation : String → Ty
  signature : Signature
  parameters : List Parameter

/-- What is read from a node: the type that it spells, the types of its annotations by their fields, its
signature, and the parameters among its children. -/
def reading (source : List Char) (node : Node) : Reading where
  type := readType source node
  annotation := fun field => annotationIn source field node.children
  signature := readSignature source node.children
  parameters := parametersAmong source node.children

/-- What is read, with the documentation of the properties in it changed. -/
def Reading.withDocs (change : String → String) (read : Reading) : Reading where
  type := read.type.withDocs change
  annotation := fun field => (read.annotation field).withDocs change
  signature := read.signature.withDocs change
  parameters := Parameter.withDocsAll change read.parameters

/-- What is read, without documentation. -/
def Reading.undocumented : Reading → Reading :=
  Reading.withDocs fun _ => ""

theorem Reading.withDocs_id (read : Reading) : read.withDocs id = read := by
  obtain ⟨type, annotation, signature, parameters⟩ := read
  simp only [Reading.withDocs, Ty.withDocs_id, Signature.withDocs_id, Parameter.withDocsAll_id]

/-- Everything that is read of a node is read alike without its comments. -/
theorem withDocs_reading (source : List Char) {node other : Node}
    (harmless : Harmless change deletable) (deleted : node.Uncommented deletable other) :
    (reading source other).withDocs change = (reading source node).withDocs change := by
  obtain ⟨label, children⟩ := node
  obtain ⟨_, fewer⟩ := other
  obtain ⟨rfl, below⟩ := deleted
  have alike := readAlike_of_uncommented source harmless below
  have type := readType_alike harmless below alike
  have annotation := funext alike.annotation
  simp only [reading, readSignature, Reading.withDocs, type, annotation, alike.signature,
    alike.parameters]

theorem harmless_readAround : Harmless (fun _ => "") readAround where
  first := fun takes => if_pos takes
  docs := fun _ => .inr fun _ _ => rfl

/-- Only object types are read as shapes. -/
theorem kind_of_shape {kind : String} (shape : TypeForm.ofKind kind = .shape) :
    kind = "object_type" := by
  grind [TypeForm.ofKind]

theorem harmless_readAroundMembers : Harmless id readAroundMembers where
  first := by
    intro kind takes
    have noShape : TypeForm.ofKind kind ≠ .shape := by
      intro shape
      rw [kind_of_shape shape] at takes
      cases takes
    rw [readAroundMembers, if_neg noShape]
    exact harmless_readAround.first takes
  docs := fun shape => .inl (if_pos shape)

/-- Comments do not influence what is read, except for the documentation of properties of shapes, which is
read from the comments directly in front of them. -/
theorem reading_uncommented (source : List Char) (node remaining : Node) :
    (node.Uncommented readAround remaining →
        (reading source remaining).undocumented = (reading source node).undocumented) ∧
      (node.Uncommented readAroundMembers remaining →
        reading source remaining = reading source node) := by
  constructor
  · intro deleted
    exact withDocs_reading source harmless_readAround deleted
  · intro deleted
    have same := withDocs_reading source harmless_readAroundMembers deleted
    rwa [Reading.withDocs_id, Reading.withDocs_id] at same

/-- The text of a shape with a documented property, with a comment among the arguments of its type and
another one behind it. -/
def documentedText : List Char := "\x7b /** d */ a: B</* c */ C> /* e */ \x7d".toList

/-- The node of a token. -/
def tokenNode (kind : String) (start stop : Nat) : Node :=
  ⟨{ kind := kind, start := start, stop := stop }, []⟩

/-- The node of a comment. -/
def commentNode (start stop : Nat) : Node :=
  ⟨{ kind := "comment", isNamed := true, start := start, stop := stop }, []⟩

/-- The node of the property, with something in front of the argument of its type. -/
def propertyNode (inFront : List Node) : Node :=
  ⟨{ kind := "property_signature", isNamed := true, start := 11, stop := 26 },
    [⟨{ kind := "property_identifier", isNamed := true, start := 11, stop := 12,
        field := some "name" }, []⟩,
      ⟨{ kind := "type_annotation", isNamed := true, start := 12, stop := 26,
          field := some "type" },
        [tokenNode ":" 12 13,
          ⟨{ kind := "generic_type", isNamed := true, start := 14, stop := 26 },
            [⟨{ kind := "type_identifier", isNamed := true, start := 14, stop := 15,
                field := some "name" }, []⟩,
              ⟨{ kind := "type_arguments", isNamed := true, start := 15, stop := 26,
                  field := some "type_arguments" },
                tokenNode "<" 15 16 ::
                  (inFront ++
                    [⟨{ kind := "type_identifier", isNamed := true, start := 24, stop := 25 }, []⟩,
                      tokenNode ">" 25 26])⟩]⟩]⟩]⟩

/-- The node of the shape, with something in front of its property and something behind it. -/
def shapeNode (inFront : List Node) (property : Node) (behind : List Node) : Node :=
  ⟨{ kind := "object_type", isNamed := true, stop := 36 },
    tokenNode "\x7b" 0 1 :: (inFront ++ property :: (behind ++ [tokenNode "\x7d" 35 36]))⟩

/-- The node of the shape as it is written. -/
def documentedNode : Node :=
  shapeNode [commentNode 2 10] (propertyNode [commentNode 16 23]) [commentNode 27 34]

/-- The node of the shape without comments. -/
def bareNode : Node :=
  shapeNode [] (propertyNode []) []

theorem uncommented_propertyNode (deletable : String → Deletable)
    (free : deletable "type_arguments" = .all) :
    (propertyNode [commentNode 16 23]).Uncommented deletable (propertyNode []) where
  label := rfl
  children := by
    refine .keep .nil (.keep (.keep .nil (.keep (.keep .nil (.keep ?_ .nil)) .nil)) .nil)
    show Uncommented deletable (deletable "type_arguments") _ _
    rw [free]
    exact .keep .nil (.delete rfl rfl (.keep .nil (.keep .nil .nil)))

/-- Every comment in the shape is deleted. -/
theorem uncommented_documentedNode (deletable : String → Deletable)
    (members : deletable "object_type" = .all) (arguments : deletable "type_arguments" = .all) :
    documentedNode.Uncommented deletable bareNode where
  label := rfl
  children := by
    have property := (uncommented_propertyNode deletable arguments).children
    show Uncommented deletable (deletable "object_type") _ _
    rw [members]
    exact .keep .nil (.delete rfl rfl (.keep property (.delete rfl rfl (.keep .nil .nil))))

/-- Every comment in the shape is deleted but the one in front of its property. -/
theorem uncommented_documentedNode_members :
    documentedNode.Uncommented readAroundMembers
      (shapeNode [commentNode 2 10] (propertyNode []) []) where
  label := rfl
  children := by
    have property := (uncommented_propertyNode readAroundMembers rfl).children
    exact .keep .nil (.keep .nil (.keep property (.delete rfl rfl (.keep .nil .nil))))

/-- The shape has the same types without its comments, and the same documentation with the comment in
front of its property. -/
theorem reading_uncommented_documentedNode :
    (documentedNode.Uncommented readAround bareNode ∧
        (reading documentedText bareNode).undocumented =
          (reading documentedText documentedNode).undocumented) ∧
      (documentedNode.Uncommented readAroundMembers
          (shapeNode [commentNode 2 10] (propertyNode []) []) ∧
        reading documentedText (shapeNode [commentNode 2 10] (propertyNode []) []) =
          reading documentedText documentedNode) := by
  have all := uncommented_documentedNode readAround rfl rfl
  have members := uncommented_documentedNode_members
  exact ⟨⟨all, (reading_uncommented documentedText _ _).1 all⟩,
    members, (reading_uncommented documentedText _ _).2 members⟩

/-- The type of the shape, with the documentation of its property. -/
def shapeType (doc : String) : Ty :=
  .literal
    { properties :=
        [{ name := "a", type := .named { name := "B", args := [.ofName "C"] }, doc := doc }] }

/-- The text of a type in parentheses, behind a comment. -/
def parenthesizedText : List Char := "(/* c */ A)".toList

/-- The node of that type, with something in front of the type inside. -/
def parenthesizedNode (inFront : List Node) : Node :=
  ⟨{ kind := "parenthesized_type", isNamed := true, stop := 11 },
    tokenNode "(" 0 1 ::
      (inFront ++
        [⟨{ kind := "type_identifier", isNamed := true, start := 9, stop := 10 }, []⟩,
          tokenNode ")" 10 11])⟩

/-- Comments do count: in front of a property of a shape, and as the first named child of what is read by
that child alone. -/
theorem not_reading_uncommented :
    (¬∀ (source : List Char) (node remaining : Node),
        node.Uncommented (fun _ => .all) remaining →
        reading source remaining = reading source node) ∧
      ¬∀ (source : List Char) (node remaining : Node),
        node.Uncommented (fun _ => .all) remaining →
        (reading source remaining).undocumented = (reading source node).undocumented := by
  constructor
  · intro same
    have read : shapeType "" = shapeType "d" := congrArg Reading.type
      (same documentedText _ _ (uncommented_documentedNode (fun _ => .all) rfl rfl))
    simp [shapeType] at read
  · intro same
    have read : Ty.ofName "A" = Ty.ofName "/* c */" := congrArg Reading.type
      (same parenthesizedText (parenthesizedNode [commentNode 1 8]) (parenthesizedNode [])
        ⟨rfl, .keep .nil (.delete rfl rfl (.keep .nil (.keep .nil .nil)))⟩)
    simp [Ty.ofName] at read

end DartBindings.Extraction
