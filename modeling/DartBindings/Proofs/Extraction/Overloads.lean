import DartBindings.Proofs.Extraction.Faults
import DartBindings.Proofs.Extraction.Selection
import DartBindings.Proofs.Naming

/-!
Overloads of methods.

A body spells methods among accessors, constructors, fields and hidden members.  What is told here from
the nodes of a body alone is the list of its method signatures.  A declaration has the methods that the
first signatures of their names spell, and a report for each of the others, both in source order.

Main exports: spelledMethods, KeepsFirst, filter_overloads_extractOne, first_signatures_kept
-/

namespace DartBindings.Extraction

open Syntax (Node)

/-! ### The signatures in a body -/

/-- The kinds of nodes that spell methods in a body, and the names that mean something else there. -/
structure MethodForms where
  kinds : List String
  reserved : List String

/-- Methods in the body of a class. -/
def classMethodForms : MethodForms where
  kinds := ["method_signature", "abstract_method_signature", "method_definition"]
  reserved := ["constructor"]

/-- Methods in the body of an interface. -/
def interfaceMethodForms : MethodForms where
  kinds := ["method_signature"]
  reserved := []

/-- The name of the method whose signature a node spells.  Accessors spell none, and neither does what
has a hidden or reserved name. -/
def spelledMethod? (forms : MethodForms) (source : List Char) (node : Node) : Option String :=
  if node.isNamed = true ∧ node.kind ∈ forms.kinds ∧ "get" ∉ node.keywords ∧ "set" ∉ node.keywords then
    (fieldText? source "name" node.children).filter fun name =>
      name.toList.head? ≠ some '_' ∧ name ∉ forms.reserved
  else none

/-- A signature of a method: its name, its node and the named node in front of it. -/
structure SpelledMethod where
  name : String
  node : Node
  previous : Option Node

/-- The method that a signature spells. -/
def SpelledMethod.method (source : List Char) (spelled : SpelledMethod) : Method :=
  (methodSignature source spelled.name spelled.previous spelled.node).method

/-- The report of a signature that is dropped from the declaration of its owner. -/
def SpelledMethod.report (id : SourceId) (owner : String) (spelled : SpelledMethod) : Diagnostic :=
  { kind := .overloadDropped
    detail := some (owner ++ "." ++ spelled.name)
    subject := some owner
    span := some ⟨id, spelled.node.label.start, spelled.node.label.stop⟩ }

/-- The signatures of methods in the body of a declaration, in source order. -/
def spelledMethods (forms : MethodForms) (source : List Char) (declaration : Node) :
    List SpelledMethod :=
  match declaration.child? "body" with
  | none => []
  | some body =>
      (Node.withPrevious body.children).filterMap fun (previous, node) =>
        (spelledMethod? forms source node).map fun name => ⟨name, node, previous⟩

/-- A declaration has one method for each name, which the first signature of that name spells, and one
report for each further signature, with its range. -/
structure KeepsFirst (forms : MethodForms) (id : SourceId) (source : List Char) (declaration : Node)
    (owner : String) (methods : List Method) (reports : Diagnostics) : Prop where
  distinct : (methods.map (·.name)).Nodup
  methods : methods =
    (ofNewName (·.name) (spelledMethods forms source declaration)).map (·.method source)
  reports : reports =
    (ofKnownName (·.name) (spelledMethods forms source declaration)).map (·.report id owner)

/-- What is taken from the node of a declaration, with its reports, keeps the first signatures. -/
def Declared.KeepsFirst (id : SourceId) (source : List Char) (declaration : Node)
    (reports : Diagnostics) : Declared → Prop
  | .ofClass cls =>
      Extraction.KeepsFirst classMethodForms id source declaration cls.name cls.methods reports
  | .ofInterface interface =>
      Extraction.KeepsFirst interfaceMethodForms id source declaration interface.name
        interface.methods reports

/-! ### The signatures among the members -/

variable {source : List Char} {id : SourceId} {owner : String} {declaration node : Node}
  {previous : Option Node}

/-- What is read from a signature. -/
def SpelledMethod.signature (source : List Char) (spelled : SpelledMethod) : MethodSignature :=
  methodSignature source spelled.name spelled.previous spelled.node

/-- A method signature is neither a getter nor a setter. -/
theorem Use.ofKeywords_eq_call_iff {keywords : List String} :
    Use.ofKeywords keywords = .call ↔ "get" ∉ keywords ∧ "set" ∉ keywords := by
  unfold ofKeywords
  split
  · next reads => simp_all
  · next noRead =>
      split
      · next writes => simp_all
      · next noWrite => simp_all

theorem ClassMemberForm.ofKind_eq_method_iff {kind : String} :
    ofKind kind = .method ↔ kind ∈ classMethodForms.kinds := by
  unfold ofKind
  split
  · next field => simp [field, classMethodForms]
  · split
    · next method => simpa [classMethodForms, or_assoc] using method
    · next other => simpa [classMethodForms, not_or, and_assoc] using other

theorem InterfaceMemberForm.ofKind_eq_method_iff {kind : String} :
    ofKind kind = .method ↔ kind ∈ interfaceMethodForms.kinds := by
  unfold ofKind
  split
  · next property => simp [property, interfaceMethodForms]
  · split
    · next method => simp [method, interfaceMethodForms]
    · next other => simpa [interfaceMethodForms] using other

/-- In a class, a method node that is no constructor and no accessor spells a method. -/
theorem method?_classMethod (name : String) :
    (classMethod source name previous node).method? =
      if name ∉ classMethodForms.reserved ∧ Use.ofKeywords node.keywords = .call then
        some (methodSignature source name previous node)
      else none := by
  unfold classMethod
  by_cases reserved : name = constructorName
  · simp [reserved, classMethodForms, constructorName, ClassMember.method?]
  · have ordinary : name ∉ classMethodForms.reserved := by
      simpa [classMethodForms, constructorName] using reserved
    rw [if_neg reserved]
    cases Use.ofKeywords node.keywords with
    | get => simp [ClassMember.method?]
    | set => simp [ClassMember.method?]
    | call => simp [ClassMember.method?, ordinary]

/-- In an interface, a method node that is no accessor spells a method. -/
theorem method?_interfaceMethod (name : String) :
    (interfaceMethod source name previous node).method? =
      if name ∉ interfaceMethodForms.reserved ∧ Use.ofKeywords node.keywords = .call then
        some (methodSignature source name previous node)
      else none := by
  unfold interfaceMethod
  cases Use.ofKeywords node.keywords with
  | get => simp [InterfaceMember.method?]
  | set => simp [InterfaceMember.method?]
  | call => simp [InterfaceMember.method?, interfaceMethodForms]

/-- A named node that is read by its visible name gives the method that it spells. -/
theorem visibleName?_bind_eq {forms : MethodForms} {read : String → Option MethodSignature}
    (named : node.isNamed = true) (isMethod : node.kind ∈ forms.kinds)
    (each : ∀ name, read name =
      if name ∉ forms.reserved ∧ Use.ofKeywords node.keywords = .call then
        some (methodSignature source name previous node)
      else none) :
    (visibleName? source node.children).bind read =
      (spelledMethod? forms source node).map fun name =>
        methodSignature source name previous node := by
  unfold spelledMethod? visibleName?
  cases fieldText? source "name" node.children with
  | none => simp
  | some name =>
      by_cases hidden : name.toList.head? = some '_'
      · simp [Option.filter_some, isHidden, hidden]
      · by_cases reserved : name ∈ forms.reserved
        · simp [Option.filter_some, isHidden, hidden, each, reserved]
        · by_cases call : Use.ofKeywords node.keywords = .call
          · have noAccessor := Use.ofKeywords_eq_call_iff.1 call
            simp [Option.filter_some, isHidden, hidden, each, reserved, call, named, isMethod,
              noAccessor]
          · have accessor := fun both => call (Use.ofKeywords_eq_call_iff.2 both)
            simp [Option.filter_some, isHidden, hidden, each, reserved, call, named, isMethod]
            simpa using accessor

/-- A node of another kind spells no method. -/
theorem spelledMethod?_of_notMem {forms : MethodForms} (other : node.kind ∉ forms.kinds) :
    spelledMethod? forms source node = none :=
  if_neg fun method => other method.2.1

/-- A member of a class is a method when its node spells one. -/
theorem classMember?_bind_method? (named : node.isNamed = true) :
    (classMember? source previous node).bind ClassMember.method? =
      (spelledMethod? classMethodForms source node).map fun name =>
        methodSignature source name previous node := by
  unfold classMember?
  cases form : ClassMemberForm.ofKind node.kind with
  | field =>
      have other : node.kind ∉ classMethodForms.kinds := fun method => by
        rw [ClassMemberForm.ofKind_eq_method_iff.2 method] at form
        cases form
      rw [spelledMethod?_of_notMem other]
      cases propertyOf? source previous node with
      | none => rfl
      | some property => rfl
  | method =>
      have isMethod := ClassMemberForm.ofKind_eq_method_iff.1 form
      rw [← visibleName?_bind_eq named isMethod method?_classMethod, Option.bind_map]
      rfl
  | other =>
      have other : node.kind ∉ classMethodForms.kinds := fun method => by
        rw [ClassMemberForm.ofKind_eq_method_iff.2 method] at form
        cases form
      rw [spelledMethod?_of_notMem other]
      rfl

/-- A member of an interface is a method when its node spells one. -/
theorem interfaceMember?_bind_method? (named : node.isNamed = true) :
    (interfaceMember? source previous node).bind InterfaceMember.method? =
      (spelledMethod? interfaceMethodForms source node).map fun name =>
        methodSignature source name previous node := by
  unfold interfaceMember?
  cases form : InterfaceMemberForm.ofKind node.kind with
  | property =>
      have other : node.kind ∉ interfaceMethodForms.kinds := fun method => by
        rw [InterfaceMemberForm.ofKind_eq_method_iff.2 method] at form
        cases form
      rw [spelledMethod?_of_notMem other]
      cases propertyOf? source previous node with
      | none => rfl
      | some property => rfl
  | method =>
      have isMethod := InterfaceMemberForm.ofKind_eq_method_iff.1 form
      rw [← visibleName?_bind_eq named isMethod method?_interfaceMethod, Option.bind_map]
      rfl
  | other =>
      have other : node.kind ∉ interfaceMethodForms.kinds := fun method => by
        rw [InterfaceMemberForm.ofKind_eq_method_iff.2 method] at form
        cases form
      rw [spelledMethod?_of_notMem other]
      rfl

/-- The methods among the members of a body are what its signatures spell, in source order. -/
theorem filterMap_bodyMembers {α : Type} {forms : MethodForms} {read : Option Node → Node → Option α}
    {method? : α → Option MethodSignature}
    (each : ∀ previous node, node.isNamed = true → (read previous node).bind method? =
      (spelledMethod? forms source node).map fun name => methodSignature source name previous node)
    (declaration : Node) :
    (bodyMembers (membersOf read) declaration).filterMap method? =
      (spelledMethods forms source declaration).map (·.signature source) := by
  unfold bodyMembers spelledMethods
  cases declaration.child? "body" with
  | none => rfl
  | some body =>
      simp only [membersOf, List.filterMap_filterMap, List.map_filterMap]
      apply List.filterMap_congr
      rintro ⟨previous, node⟩ -
      cases named : node.isNamed with
      | true =>
          rw [Option.map_map]
          exact each previous node named
      | false => simp [spelledMethod?, named]

/-! ### What is kept and what is reported -/

/-- Of signatures the first ones are kept and the others reported. -/
theorem keepsFirst_of_spelled {forms : MethodForms} {signatures : List MethodSignature}
    (spelled : signatures =
      (spelledMethods forms source declaration).map (·.signature source)) :
    KeepsFirst forms id source declaration owner (keptMethods signatures)
      (droppedOverloads id owner signatures) where
  distinct := by
    rw [keptMethods, List.map_map]
    exact nodup_firstOfName _ [] signatures
  methods := by
    rw [keptMethods, firstOfName_nil, spelled, ofNewName_map, List.map_map]
    rfl
  reports := by
    rw [droppedOverloads, laterOfName_nil, spelled, ofKnownName_map, List.map_map]
    rfl

/-- Nothing but dropped overloads is reported. -/
theorem KeepsFirst.overloads {forms : MethodForms} {methods : List Method} {reports : Diagnostics}
    (keeps : KeepsFirst forms id source declaration owner methods reports) :
    ∀ report ∈ reports, report.kind = .overloadDropped := by
  rw [keeps.reports]
  exact List.forall_mem_map.2 fun _ _ => rfl

/-- All reports of a declaration are of dropped overloads. -/
theorem Declared.KeepsFirst.overloads {declared : Declared} {reports : Diagnostics}
    (keeps : declared.KeepsFirst id source declaration reports) :
    ∀ report ∈ reports, report.kind = .overloadDropped := by
  cases declared with
  | ofClass cls => exact Extraction.KeepsFirst.overloads keeps
  | ofInterface interface => exact Extraction.KeepsFirst.overloads keeps

/-- A declaration that is taken keeps the first signatures of its node. -/
theorem keepsFirst_of_readCandidate? {config : Config} {candidate : Candidate}
    {taken : Declared × Diagnostics}
    (read : readCandidate? config id source candidate = some taken) :
    taken.1.KeepsFirst id source candidate.node taken.2 := by
  obtain ⟨name, -, rfl⟩ := Option.map_eq_some_iff.1 read
  split
  · exact keepsFirst_of_spelled
      (filterMap_bodyMembers (fun _ _ => interfaceMember?_bind_method?) candidate.node)
  · exact keepsFirst_of_spelled
      (filterMap_bodyMembers (fun _ _ => classMember?_bind_method?) candidate.node)

/-- A file has no reports of dropped overloads but those of its declarations. -/
theorem filter_overloads_extractOne (config : Config) (id : SourceId) (document : Document) :
    (extractOne config id document).2.filter (·.kind = .overloadDropped) =
      (declarationsIn config id document).flatMap Prod.snd := by
  have noFault : (faults id document.tree).filter (·.kind = .overloadDropped) = [] := by
    rw [List.filter_eq_nil_iff]
    intro report member
    obtain ⟨label, detail, rfl⟩ := exists_faultReport_of_mem_faults member
    simp [faultReport]
  have overloads : ∀ report ∈ (declarationsIn config id document).flatMap Prod.snd,
      report.kind = .overloadDropped := by
    refine List.forall_mem_flatMap.2 (List.forall_mem_filterMap.2 fun candidate _ taken read => ?_)
    exact (keepsFirst_of_readCandidate? read).overloads
  simp only [extractOne, List.filter_append, noFault, List.nil_append]
  rw [List.filter_eq_self]
  simpa using overloads

/-- Every declaration that is taken from a file has the methods that the first signatures of their names
spell, no two of one name.  All other signatures in the bodies of these declarations, and nothing else,
are reported as dropped overloads, one report for each of them, in source order and with their ranges. -/
theorem first_signatures_kept (config : Config) (id : SourceId) (document : Document) :
    (extractOne config id document).1 =
        libraryOf ((declarationsIn config id document).map Prod.fst) ∧
      (extractOne config id document).2.filter (·.kind = .overloadDropped) =
        (declarationsIn config id document).flatMap Prod.snd ∧
      List.Forall₂
        (fun taken place =>
          IsDeclaredAt document.source.text.toList taken.1 place ∧
            taken.1.KeepsFirst id document.source.text.toList place.node taken.2)
        (declarationsIn config id document)
        (document.tree.places.filter
          (IsWanted config document.source.text.toList declarationKinds ·)) := by
  refine ⟨rfl, filter_overloads_extractOne config id document, ?_⟩
  refine forall₂_declarationsIn fun candidate place taken isAt read => ?_
  refine ⟨isDeclaredAt_of_readCandidate? isAt read, ?_⟩
  rw [← isAt.node]
  exact keepsFirst_of_readCandidate? read

end DartBindings.Extraction
