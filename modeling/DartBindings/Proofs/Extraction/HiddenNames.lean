import DartBindings.Proofs.Extraction.Selection
import DartBindings.Proofs.Library.HiddenNames
import DartBindings.Proofs.Naming

/-!
Hidden names are dropped where they are read.

A type is read together with the shapes in it, and every member of a shape, a class or an interface is
read by way of its visible name.  So whatever the syntax tree is, nothing that is read from it has a
hidden name, on any level.

Main exports: Declared.IsWanted, extract_allWanted
-/

namespace DartBindings.Extraction

open Syntax (Node)

variable {source : List Char}

/-- A visible name is not hidden. -/
theorem isHidden_of_visibleName? {children : List Node} {name : String}
    (visible : visibleName? source children = some name) : isHidden name = false := by
  simpa using (Option.filter_eq_some_iff.1 visible).2

theorem nothingHidden_arrayOf {type : Ty} (nothing : type.NothingHidden) :
    (arrayOf type).NothingHidden := by
  cases type with
  | named reference =>
      rw [Ty.nothingHidden_named] at nothing
      rw [arrayOf, Ty.nothingHidden_named]
      exact nothing
  | function signature => exact nothing
  | literal shape => exact nothing

/-- A property is read by its visible name. -/
theorem nothingHidden_property? {previous : Option Node} {children : List Node} {type : Ty}
    {property : Property} (nothing : type.NothingHidden)
    (read : property? source previous children type = some property) : property.NothingHidden := by
  obtain ⟨name, visible, rfl⟩ := Option.map_eq_some_iff.1 read
  exact ⟨isHidden_of_visibleName? visible, nothing⟩

theorem nothingHidden_parameter? {label : Syntax.Label} {children : List Node} {type : Ty}
    {parameter : Parameter} (nothing : type.NothingHidden)
    (read : parameter? source label children type = some parameter) :
    parameter.type.NothingHidden := by
  obtain ⟨name, -, rfl⟩ := Option.map_eq_some_iff.1 read
  exact nothing

-- By induction on the tree: each theorem follows one reader through its cases, and no case has a
-- hypothesis, since names are looked at only where a member is read.

mutual

/-- Nothing in a type that a node spells is hidden. -/
theorem nothingHidden_readType : ∀ node : Node, (readType source node).NothingHidden
  | ⟨label, children⟩ => by
      rw [readType]
      cases TypeForm.ofKind label.kind with
      | spelled => exact Ty.nothingHidden_ofName _
      | generic => exact Ty.nothingHidden_named.2 (nothingHidden_argumentsIn children)
      | array =>
          cases found : firstType? source children with
          | none => exact Ty.nothingHidden_ofName _
          | some element => exact nothingHidden_arrayOf (nothingHidden_firstType? children found)
      | shape =>
          exact Ty.nothingHidden_literal.2
            ⟨nothingHidden_propertiesAmong none children, nothingHidden_callsAmong children⟩
      | function =>
          exact Ty.nothingHidden_function.2
            ⟨nothingHidden_annotationIn "return_type" children, nothingHidden_parametersIn children⟩
      | union => exact Ty.nothingHidden_ofName _
      | wrapped =>
          cases found : firstType? source children with
          | none => exact Ty.nothingHidden_ofName _
          | some inner => exact nothingHidden_firstType? children found
      | self => exact Ty.nothingHidden_ofName _
      | predicate => exact Ty.nothingHidden_ofName _

theorem nothingHidden_firstType? {type : Ty} :
    ∀ nodes : List Node, firstType? source nodes = some type → type.NothingHidden
  | [], found => by
      rw [firstType?] at found
      cases found
  | node :: rest, found => by
      rw [firstType?] at found
      split at found
      · cases found
        exact nothingHidden_readType node
      · exact nothingHidden_firstType? rest found

theorem nothingHidden_typesAmong :
    ∀ nodes : List Node, ∀ type ∈ typesAmong source nodes, type.NothingHidden
  | [] => by simp [typesAmong]
  | node :: rest => by
      rw [typesAmong]
      split
      · exact List.forall_mem_cons.2 ⟨nothingHidden_readType node, nothingHidden_typesAmong rest⟩
      · exact nothingHidden_typesAmong rest

theorem nothingHidden_argumentsIn :
    ∀ nodes : List Node, ∀ type ∈ argumentsIn source nodes, type.NothingHidden
  | [] => by simp [argumentsIn]
  | ⟨label, children⟩ :: rest => by
      rw [argumentsIn]
      split
      · exact nothingHidden_typesAmong children
      · exact nothingHidden_argumentsIn rest

theorem nothingHidden_annotationIn (field : String) :
    ∀ nodes : List Node, (annotationIn source field nodes).NothingHidden
  | [] => by
      rw [annotationIn]
      exact Ty.nothingHidden_ofName _
  | ⟨label, children⟩ :: rest => by
      rw [annotationIn]
      split
      · cases AnnotationForm.ofKind label.kind with
        | typed =>
            cases found : firstType? source children with
            | none => exact Ty.nothingHidden_ofName _
            | some type => exact nothingHidden_firstType? children found
        | predicate => exact Ty.nothingHidden_ofName _
        | assertion => exact Ty.nothingHidden_ofName _
        | bare => exact nothingHidden_readType ⟨label, children⟩
      · exact nothingHidden_annotationIn field rest

theorem nothingHidden_parametersIn :
    ∀ nodes : List Node, ∀ parameter ∈ parametersIn source nodes, parameter.type.NothingHidden
  | [] => by simp [parametersIn]
  | ⟨label, children⟩ :: rest => by
      rw [parametersIn]
      split
      · exact nothingHidden_parametersAmong children
      · exact nothingHidden_parametersIn rest

theorem nothingHidden_parametersAmong :
    ∀ nodes : List Node, ∀ parameter ∈ parametersAmong source nodes, parameter.type.NothingHidden
  | [] => by simp [parametersAmong]
  | ⟨label, children⟩ :: rest => by
      rw [parametersAmong]
      split
      · refine List.forall_mem_append.2 ⟨?_, nothingHidden_parametersAmong rest⟩
        intro parameter member
        exact nothingHidden_parameter? (nothingHidden_annotationIn "type" children)
          (Option.mem_toList.1 member)
      · exact nothingHidden_parametersAmong rest

/-- No property of a shape is hidden or holds a hidden name. -/
theorem nothingHidden_propertiesAmong (previous : Option Node) :
    ∀ nodes : List Node, ∀ property ∈ propertiesAmong source previous nodes, property.NothingHidden
  | [] => by simp [propertiesAmong]
  | ⟨label, children⟩ :: rest => by
      rw [propertiesAmong]
      split
      · refine List.forall_mem_append.2 ⟨?_, nothingHidden_propertiesAmong _ rest⟩
        intro property member
        cases form : ShapeMemberForm.ofKind label.kind with
        | property =>
            rw [form] at member
            exact nothingHidden_property? (nothingHidden_annotationIn "type" children)
              (Option.mem_toList.1 member)
        | method =>
            rw [form] at member
            obtain ⟨name, visible, rfl⟩ := Option.map_eq_some_iff.1 (Option.mem_toList.1 member)
            exact ⟨isHidden_of_visibleName? visible, Ty.nothingHidden_function.2
              ⟨nothingHidden_annotationIn "return_type" children,
                nothingHidden_parametersIn children⟩⟩
        | call =>
            rw [form] at member
            cases member
        | other =>
            rw [form] at member
            cases member
      · exact nothingHidden_propertiesAmong previous rest

theorem nothingHidden_callsAmong :
    ∀ nodes : List Node, ∀ signature ∈ callsAmong source nodes, signature.NothingHidden
  | [] => by simp [callsAmong]
  | ⟨label, children⟩ :: rest => by
      rw [callsAmong]
      split
      · exact List.forall_mem_cons.2
          ⟨⟨nothingHidden_annotationIn "return_type" children, nothingHidden_parametersIn children⟩,
            nothingHidden_callsAmong rest⟩
      · exact nothingHidden_callsAmong rest

end

/-- No signature that is read holds a hidden name. -/
theorem nothingHidden_readSignature (source : List Char) (children : List Node) :
    (readSignature source children).NothingHidden :=
  ⟨nothingHidden_annotationIn "return_type" children, nothingHidden_parametersIn children⟩

/-! ### Members -/

/-- What is read as a member of a class has no hidden names. -/
def ClassMember.NothingHidden : ClassMember → Prop
  | .property found => found.NothingHidden
  | .constructor found => found.NothingHidden
  | .getter found => found.NothingHidden
  | .setter found => found.NothingHidden
  | .method signature => signature.method.NothingHidden

/-- What is read as a member of an interface has no hidden names. -/
def InterfaceMember.NothingHidden : InterfaceMember → Prop
  | .property found => found.NothingHidden
  | .accessor _ found => found.NothingHidden
  | .method signature => signature.method.NothingHidden

/-- Every member of a body is read at some node of it. -/
theorem exists_read_of_mem_membersOf {α : Type} {read : Option Node → Node → Option α} {body : Node}
    {member : α} (listed : member ∈ membersOf read body) :
    ∃ previous node, read previous node = some member := by
  obtain ⟨⟨previous, node⟩, -, found⟩ := List.mem_filterMap.1 listed
  obtain ⟨-, found⟩ := Option.ite_none_right_eq_some.1 found
  exact ⟨previous, node, found⟩

/-- A method of a visible name holds no hidden name. -/
theorem nothingHidden_methodSignature {name : String} (visible : isHidden name = false)
    (previous : Option Node) (node : Node) :
    (methodSignature source name previous node).method.NothingHidden :=
  have nothing := nothingHidden_readSignature source node.children
  ⟨visible, nothing.result, nothing.parameters⟩

theorem nothingHidden_setterParameter (name : String) {parameters : List Parameter}
    (nothing : ∀ parameter ∈ parameters, parameter.type.NothingHidden) :
    (setterParameter name parameters).type.NothingHidden := by
  cases parameters with
  | nil => exact Ty.nothingHidden_ofName _
  | cons parameter rest => exact nothing parameter List.mem_cons_self

theorem nothingHidden_propertyOf? {previous : Option Node} {node : Node} {property : Property}
    (read : propertyOf? source previous node = some property) : property.NothingHidden :=
  nothingHidden_property? (nothingHidden_annotationIn "type" node.children) read

/-- What the spelling of a method gives in a class holds no hidden name. -/
theorem nothingHidden_classMethod {name : String} (visible : isHidden name = false)
    (previous : Option Node) (node : Node) :
    (classMethod source name previous node).NothingHidden := by
  have nothing := nothingHidden_readSignature source node.children
  rw [classMethod]
  split
  · exact nothing.parameters
  · cases Use.ofKeywords node.keywords with
    | get => exact ⟨visible, nothing.result⟩
    | set => exact ⟨visible, nothingHidden_setterParameter name nothing.parameters⟩
    | call => exact nothingHidden_methodSignature visible previous node

/-- A member of a class is read by way of its visible name. -/
theorem nothingHidden_classMember? {previous : Option Node} {node : Node} {member : ClassMember}
    (read : classMember? source previous node = some member) : member.NothingHidden := by
  rw [classMember?] at read
  split at read
  · obtain ⟨property, found, rfl⟩ := Option.map_eq_some_iff.1 read
    exact nothingHidden_propertyOf? found
  · obtain ⟨name, visible, rfl⟩ := Option.map_eq_some_iff.1 read
    exact nothingHidden_classMethod (isHidden_of_visibleName? visible) previous node
  · cases read

theorem nothingHidden_interfaceMethod {name : String} (visible : isHidden name = false)
    (previous : Option Node) (node : Node) :
    (interfaceMethod source name previous node).NothingHidden := by
  have nothing := nothingHidden_readSignature source node.children
  rw [interfaceMethod]
  cases Use.ofKeywords node.keywords with
  | get => exact ⟨visible, nothing.result⟩
  | set => exact ⟨visible, nothingHidden_setterParameter name nothing.parameters⟩
  | call => exact nothingHidden_methodSignature visible previous node

/-- A member of an interface is read by way of its visible name. -/
theorem nothingHidden_interfaceMember? {previous : Option Node} {node : Node}
    {member : InterfaceMember} (read : interfaceMember? source previous node = some member) :
    member.NothingHidden := by
  rw [interfaceMember?] at read
  split at read
  · obtain ⟨property, found, rfl⟩ := Option.map_eq_some_iff.1 read
    exact nothingHidden_propertyOf? found
  · obtain ⟨name, visible, rfl⟩ := Option.map_eq_some_iff.1 read
    exact nothingHidden_interfaceMethod (isHidden_of_visibleName? visible) previous node
  · cases read

theorem nothingHidden_makeWritable (name : String) {placed : List Property}
    (nothing : ∀ property ∈ placed, property.NothingHidden) :
    ∀ property ∈ makeWritable name placed, property.NothingHidden := by
  induction placed with
  | nil => exact nothing
  | cons property rest ih =>
      rw [List.forall_mem_cons] at nothing
      rw [makeWritable]
      split
      · exact List.forall_mem_cons.2 ⟨⟨nothing.1.name, nothing.1.type⟩, nothing.2⟩
      · exact List.forall_mem_cons.2 ⟨nothing.1, ih nothing.2⟩

/-- Accessors that become one property bring no hidden names together. -/
theorem nothingHidden_foldProperties {placed : List Property} {accessors : List String}
    {members : List InterfaceMember} (before : ∀ property ∈ placed, property.NothingHidden)
    (nothing : ∀ member ∈ members, member.NothingHidden) :
    ∀ property ∈ foldProperties placed accessors members, property.NothingHidden := by
  fun_induction foldProperties placed accessors members with
  | case1 placed accessors => exact before
  | case2 placed accessors property rest ih =>
      rw [List.forall_mem_cons] at nothing
      exact ih (List.forall_mem_append.2 ⟨before, List.forall_mem_singleton.2 nothing.1⟩) nothing.2
  | case3 placed accessors writes property rest known ih =>
      rw [List.forall_mem_cons] at nothing
      refine ih ?_ nothing.2
      split
      · exact nothingHidden_makeWritable property.name before
      · exact before
  | case4 placed accessors writes property rest fresh ih =>
      rw [List.forall_mem_cons] at nothing
      exact ih (List.forall_mem_append.2 ⟨before, List.forall_mem_singleton.2 nothing.1⟩) nothing.2
  | case5 placed accessors signature rest ih =>
      exact ih before (List.forall_mem_cons.1 nothing).2

theorem nothingHidden_keptMethods {signatures : List MethodSignature}
    (nothing : ∀ signature ∈ signatures, signature.method.NothingHidden) :
    ∀ method ∈ keptMethods signatures, method.NothingHidden := by
  intro method member
  obtain ⟨signature, kept, rfl⟩ := List.mem_map.1 member
  exact nothing signature (mem_of_mem_firstOfName kept)

/-! ### Declarations -/

theorem nothingHidden_namedTypesIn (clause : Node) :
    ∀ reference ∈ namedTypesIn source clause, reference.NothingHidden := by
  intro reference member
  obtain ⟨type, listed, isNamed⟩ := List.mem_filterMap.1 member
  have nothing := nothingHidden_typesAmong clause.children type listed
  cases type with
  | named found =>
      cases isNamed
      exact Ty.nothingHidden_named.1 nothing
  | function signature => cases isNamed
  | literal shape => cases isNamed

/-- The super type of a class holds no hidden name. -/
theorem nothingHidden_superTypeOf (node : Node) :
    ∀ reference ∈ superTypeOf source node, reference.NothingHidden := by
  intro reference member
  obtain ⟨clause, -, found⟩ := Option.bind_eq_some_iff.1 member
  obtain ⟨name, -, rfl⟩ := Option.map_eq_some_iff.1 found
  exact nothingHidden_argumentsIn clause.children

theorem nothingHidden_implementedBy (node : Node) :
    ∀ reference ∈ implementedBy source node, reference.NothingHidden := by
  rw [implementedBy]
  split
  · simp
  · exact nothingHidden_namedTypesIn _

theorem nothingHidden_extendedBy (node : Node) :
    ∀ reference ∈ extendedBy source node, reference.NothingHidden := by
  rw [extendedBy]
  split
  · simp
  · exact nothingHidden_namedTypesIn _

/-- What holds of the members of every body holds of those of a declaration. -/
theorem forall_mem_bodyMembers {α : Type} {holds : α → Prop} {read : Node → List α} (node : Node)
    (each : ∀ body, ∀ member ∈ read body, holds member) :
    ∀ member ∈ bodyMembers read node, holds member := by
  rw [bodyMembers]
  split
  · simp
  · exact each _

/-- What a member without hidden names is taken as has no hidden names. -/
theorem ClassMember.NothingHidden.parts {member : ClassMember} (nothing : member.NothingHidden) :
    (∀ found, member.constructor? = some found → found.NothingHidden) ∧
      (∀ found, member.property? = some found → found.NothingHidden) ∧
      (∀ found, member.getter? = some found → found.NothingHidden) ∧
      (∀ found, member.setter? = some found → found.NothingHidden) ∧
      ∀ found, member.method? = some found → found.method.NothingHidden := by
  cases member with
  | property found =>
      exact ⟨nofun, fun _ same => Option.some.inj same ▸ nothing, nofun, nofun, nofun⟩
  | constructor found =>
      exact ⟨fun _ same => Option.some.inj same ▸ nothing, nofun, nofun, nofun, nofun⟩
  | getter found =>
      exact ⟨nofun, nofun, fun _ same => Option.some.inj same ▸ nothing, nofun, nofun⟩
  | setter found =>
      exact ⟨nofun, nofun, nofun, fun _ same => Option.some.inj same ▸ nothing, nofun⟩
  | method found =>
      exact ⟨nofun, nofun, nofun, nofun, fun _ same => Option.some.inj same ▸ nothing⟩

/-- Nothing in a class that is read under a visible name is hidden. -/
theorem nothingHidden_readClass (id : SourceId) {name : String} (visible : isHidden name = false)
    (candidate : Candidate) : (readClass id source name candidate).1.NothingHidden := by
  have members : ∀ member ∈ bodyMembers (classMembers source) candidate.node,
      member.NothingHidden := by
    refine forall_mem_bodyMembers candidate.node fun body member listed => ?_
    obtain ⟨previous, node, read⟩ := exists_read_of_mem_membersOf listed
    exact nothingHidden_classMember? read
  have parts member listed := (members member listed).parts
  exact
    { name := visible
      superType := nothingHidden_superTypeOf candidate.node
      interfaces := nothingHidden_implementedBy candidate.node
      constructors := List.forall_mem_filterMap.2 fun member listed => (parts member listed).1
      properties := List.forall_mem_filterMap.2 fun member listed => (parts member listed).2.1
      getters := List.forall_mem_filterMap.2 fun member listed => (parts member listed).2.2.1
      setters := List.forall_mem_filterMap.2 fun member listed => (parts member listed).2.2.2.1
      methods := nothingHidden_keptMethods
        (List.forall_mem_filterMap.2 fun member listed => (parts member listed).2.2.2.2) }

/-- Nothing in an interface that is read under a visible name is hidden. -/
theorem nothingHidden_readInterface (id : SourceId) {name : String}
    (visible : isHidden name = false) (candidate : Candidate) :
    (readInterface id source name candidate).1.NothingHidden := by
  have members : ∀ member ∈ bodyMembers (interfaceMembers source) candidate.node,
      member.NothingHidden := by
    refine forall_mem_bodyMembers candidate.node fun body member listed => ?_
    obtain ⟨previous, node, read⟩ := exists_read_of_mem_membersOf listed
    exact nothingHidden_interfaceMember? read
  have methods : ∀ member ∈ bodyMembers (interfaceMembers source) candidate.node,
      ∀ signature, member.method? = some signature → signature.method.NothingHidden := by
    intro member listed signature isMethod
    have nothing := members member listed
    cases member with
    | property found => cases isMethod
    | accessor writes found => cases isMethod
    | method found =>
        cases isMethod
        exact nothing
  exact
    { name := visible
      superTypes := nothingHidden_extendedBy candidate.node
      constructors := fun _ none => absurd none List.not_mem_nil
      properties := nothingHidden_foldProperties (fun _ none => absurd none List.not_mem_nil) members
      methods := nothingHidden_keptMethods (List.forall_mem_filterMap.2 methods) }

/-! ### Libraries -/

/-- Nothing in a taken declaration is hidden, and the configuration declares its name. -/
def Declared.IsWanted (config : Config) : Declared → Prop
  | .ofClass cls => cls.NothingHidden ∧ cls.name ∈ config.declarations.keys
  | .ofInterface interface => interface.NothingHidden ∧ interface.name ∈ config.declarations.keys

/-- A declaration that is taken from a file is wanted. -/
theorem isWanted_of_readCandidate? {config : Config} {id : SourceId} {candidate : Candidate}
    {taken : Declared × Diagnostics}
    (read : readCandidate? config id source candidate = some taken) : taken.1.IsWanted config := by
  obtain ⟨name, accepted, rfl⟩ := Option.map_eq_some_iff.1 read
  obtain ⟨-, visible, wanted, -⟩ := acceptedName?_eq_some_iff.1 accepted
  have notHidden : isHidden name = false := beq_false_of_ne visible
  split
  · exact ⟨nothingHidden_readInterface id notHidden candidate, wanted⟩
  · exact ⟨nothingHidden_readClass id notHidden candidate, wanted⟩

/-- All declarations that are taken from a file are wanted. -/
theorem isWanted_of_mem_declarationsIn (config : Config) (id : SourceId) (document : Document) :
    ∀ declared ∈ (declarationsIn config id document).map Prod.fst, declared.IsWanted config :=
  List.forall_mem_map.2 (List.forall_mem_filterMap.2 fun _ _ _ read =>
    isWanted_of_readCandidate? read)

/-- Nothing in the library that is read from files is hidden, and the configuration declares the names of
all its declarations. -/
theorem extract_allWanted (config : Config) (documents : List Document) :
    (extract config documents).1.AllWanted config := by
  constructor
  · refine List.forall_mem_flatMap.2 (List.forall_mem_map.2 fun ⟨document, id⟩ _ => ?_)
    refine List.forall_mem_filterMap.2 fun declared member cls isClass => ?_
    have wanted := isWanted_of_mem_declarationsIn config id document declared member
    cases declared with
    | ofClass found =>
        cases isClass
        exact wanted
    | ofInterface found => cases isClass
  · refine List.forall_mem_flatMap.2 (List.forall_mem_map.2 fun ⟨document, id⟩ _ => ?_)
    refine List.forall_mem_filterMap.2 fun declared member interface isInterface => ?_
    have wanted := isWanted_of_mem_declarationsIn config id document declared member
    cases declared with
    | ofClass found => cases isInterface
    | ofInterface found =>
        cases isInterface
        exact wanted

end DartBindings.Extraction
