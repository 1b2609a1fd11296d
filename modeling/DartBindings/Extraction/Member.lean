import DartBindings.Declaration
import DartBindings.Diagnostic.Basic
import DartBindings.Extraction.TypeReader

/-!
Reading the members of classes and interfaces.

Members with hidden names are dropped.  A class keeps fields, constructors, accessors and methods
apart.  In an interface the accessors of one name become one property, which stands where the first
of them stands and can be written when one of them writes it.  Of the signatures of one method only
the first is kept, and each of the others is reported.

Main exports: ClassMember, classMembers, InterfaceMember, interfaceMembers, foldProperties, keptMethods
-/

namespace DartBindings.Extraction

open Syntax (Node)

/-- How a member that looks like a method is used. -/
inductive Use where
  | get
  | set
  | call
deriving Repr, DecidableEq

/-- The use of a member with the given keywords. -/
def Use.ofKeywords (keywords : List String) : Use :=
  if keywords.contains "get" then .get
  else if keywords.contains "set" then .set
  else .call

/-- The markers of a method: those that stand as nodes of their own, then those among keywords. -/
def modifiersOf (source : List Char) (node : Node) : List Modifier :=
  ((node.namedChildren.filter fun child => child.kind == "override_modifier").filterMap
      fun child => Modifier.ofKeyword? (child.text source))
    ++ node.keywords.filterMap Modifier.ofKeyword?

/-- A method and the range of the signature it was read from. -/
structure MethodSignature where
  start : Nat
  stop : Nat
  method : Method
deriving Inhabited

/-- The method that a node spells. -/
def methodSignature (source : List Char) (name : String) (previous : Option Node) (node : Node) :
    MethodSignature :=
  let signature := readSignature source node.children
  { start := node.label.start
    stop := node.label.stop
    method :=
      { name := name
        modifiers := modifiersOf source node
        result := signature.result
        parameters := signature.parameters
        doc := docBefore source previous } }

/-- The name of a constructor among the members of a class. -/
def constructorName : String := "constructor"

/-- A member of a class. -/
inductive ClassMember where
  | property (property : Property)
  | constructor (constructor : Constructor)
  | getter (getter : Getter)
  | setter (setter : Setter)
  | method (signature : MethodSignature)

/-- The parameter of a setter: its first one, or one without a type that is named like the setter. -/
def setterParameter (name : String) (parameters : List Parameter) : Parameter :=
  match parameters with
  | [] => { name := name, type := .dynamic }
  | parameter :: _ => parameter

/-- The member of a class that looks like a method. -/
def classMethod (source : List Char) (name : String) (previous : Option Node) (node : Node) :
    ClassMember :=
  let signature := readSignature source node.children
  let isStatic := node.keywords.contains "static"
  let doc := docBefore source previous
  if name = constructorName then .constructor ⟨signature.parameters, doc⟩
  else
    match Use.ofKeywords node.keywords with
    | .get => .getter ⟨name, signature.result, isStatic, doc⟩
    | .set => .setter ⟨name, setterParameter name signature.parameters, isStatic, doc⟩
    | .call => .method (methodSignature source name previous node)

/-- What a kind of node means in the body of a class. -/
inductive ClassMemberForm where
  | field
  | method
  | other
deriving Repr, DecidableEq

/-- The meaning of a kind of node in the body of a class. -/
def ClassMemberForm.ofKind (kind : String) : ClassMemberForm :=
  if kind = "public_field_definition" then .field
  else if kind = "method_signature" || kind = "abstract_method_signature"
    || kind = "method_definition" then .method
  else .other

/-- The property that a node spells, unless its name is hidden. -/
def propertyOf? (source : List Char) (previous : Option Node) (node : Node) : Option Property :=
  property? source previous node.children (annotationIn source "type" node.children)

/-- The member of a class that a node spells. -/
def classMember? (source : List Char) (previous : Option Node) (node : Node) :
    Option ClassMember :=
  match ClassMemberForm.ofKind node.kind with
  | .field => (propertyOf? source previous node).map .property
  | .method =>
      (visibleName? source node.children).map fun name => classMethod source name previous node
  | .other => none

/-- The named children of a body that an item can be read from, with that item. -/
def membersOf {α : Type} (read : Option Node → Node → Option α) (body : Node) : List α :=
  (Node.withPrevious body.children).filterMap fun (previous, node) =>
    if node.isNamed then read previous node else none

/-- The members in the body of a class. -/
def classMembers (source : List Char) (body : Node) : List ClassMember :=
  membersOf (classMember? source) body

namespace ClassMember

/-- The property that a member is. -/
def property? : ClassMember → Option Property
  | .property found => some found
  | _ => none

/-- The constructor that a member is. -/
def constructor? : ClassMember → Option Constructor
  | .constructor found => some found
  | _ => none

/-- The getter that a member is. -/
def getter? : ClassMember → Option Getter
  | .getter found => some found
  | _ => none

/-- The setter that a member is. -/
def setter? : ClassMember → Option Setter
  | .setter found => some found
  | _ => none

/-- The method that a member is. -/
def method? : ClassMember → Option MethodSignature
  | .method signature => some signature
  | _ => none

end ClassMember

/-- A member of an interface. -/
inductive InterfaceMember where
  | property (property : Property)
  | accessor (writes : Bool) (property : Property)
  | method (signature : MethodSignature)

/-- The property that an accessor stands for, which can be read only unless the accessor writes. -/
def accessorProperty (source : List Char) (name : String) (writes : Bool)
    (previous : Option Node) (node : Node) : Property :=
  let signature := readSignature source node.children
  { name := name
    type := if writes then (setterParameter name signature.parameters).type else signature.result
    isStatic := node.keywords.contains "static"
    isReadonly := !writes
    doc := docBefore source previous }

/-- The member of an interface that looks like a method. -/
def interfaceMethod (source : List Char) (name : String) (previous : Option Node) (node : Node) :
    InterfaceMember :=
  match Use.ofKeywords node.keywords with
  | .get => .accessor false (accessorProperty source name false previous node)
  | .set => .accessor true (accessorProperty source name true previous node)
  | .call => .method (methodSignature source name previous node)

/-- What a kind of node means in the body of an interface. -/
inductive InterfaceMemberForm where
  | property
  | method
  | other
deriving Repr, DecidableEq

/-- The meaning of a kind of node in the body of an interface. -/
def InterfaceMemberForm.ofKind (kind : String) : InterfaceMemberForm :=
  if kind = "property_signature" then .property
  else if kind = "method_signature" then .method
  else .other

/-- The member of an interface that a node spells. -/
def interfaceMember? (source : List Char) (previous : Option Node) (node : Node) :
    Option InterfaceMember :=
  match InterfaceMemberForm.ofKind node.kind with
  | .property => (propertyOf? source previous node).map .property
  | .method =>
      (visibleName? source node.children).map fun name => interfaceMethod source name previous node
  | .other => none

/-- The members in the body of an interface. -/
def interfaceMembers (source : List Char) (body : Node) : List InterfaceMember :=
  membersOf (interfaceMember? source) body

/-- The method that a member is. -/
def InterfaceMember.method? : InterfaceMember → Option MethodSignature
  | .method signature => some signature
  | _ => none

/-- The properties with the first one of a name made writable. -/
def makeWritable (name : String) : List Property → List Property
  | [] => []
  | property :: rest =>
      if property.name = name then { property with isReadonly := false } :: rest
      else property :: makeWritable name rest

/-- The properties of members, behind properties already placed, given the names of accessors
already placed. -/
def foldProperties (placed : List Property) (accessors : List String) :
    List InterfaceMember → List Property
  | [] => placed
  | .property property :: rest => foldProperties (placed ++ [property]) accessors rest
  | .accessor writes property :: rest =>
      if accessors.contains property.name then
        foldProperties (if writes then makeWritable property.name placed else placed) accessors rest
      else foldProperties (placed ++ [property]) (property.name :: accessors) rest
  | .method _ :: rest => foldProperties placed accessors rest

/-- The methods among signatures: the first of each name. -/
def keptMethods (signatures : List MethodSignature) : List Method :=
  (firstOfName (·.method.name) [] signatures).map (·.method)

/-- The reports of signatures that are not the first of their name. -/
def droppedOverloads (source : SourceId) (owner : String) (signatures : List MethodSignature) :
    Diagnostics :=
  (laterOfName (·.method.name) [] signatures).map fun signature =>
    { kind := .overloadDropped
      detail := some (owner ++ "." ++ signature.method.name)
      subject := some owner
      span := some ⟨source, signature.start, signature.stop⟩ }

end DartBindings.Extraction
