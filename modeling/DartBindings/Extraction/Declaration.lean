import DartBindings.Config.Basic
import DartBindings.Extraction.Member
import DartBindings.Library.Basic

/-!
Reading classes and interfaces from syntax trees.

Declarations are looked for below containers only.  One is taken when its name is not hidden and is
wanted by the configuration, and when it is exported: wrapped in an export or at the top of its file,
where the wrapper of an ambient declaration does not count.  Comments in front of wrappers document
what is inside.

Main exports: Candidate, candidates, Declared, readCandidate?
-/

namespace DartBindings.Extraction

open Syntax (Node)

/-- What a kind of node means where declarations stand. -/
inductive Role where
  | container
  | classDeclaration (isAbstract : Bool)
  | interfaceDeclaration
  | other
deriving Repr, DecidableEq

/-- The kind of a file's root. -/
def programKind : String := "program"

/-- The kind of an export around a declaration. -/
def exportKind : String := "export_statement"

/-- The kind of the wrapper of an ambient declaration. -/
def ambientKind : String := "ambient_declaration"

/-- The kinds of nodes below which declarations are looked for. -/
def containerKinds : List String :=
  [programKind, exportKind, ambientKind, "module", "internal_module", "statement_block",
    "expression_statement"]

/-- The meaning of a kind of node where declarations stand. -/
def Role.ofKind (kind : String) : Role :=
  if kind = "class_declaration" then .classDeclaration false
  else if kind = "abstract_class_declaration" then .classDeclaration true
  else if kind = "interface_declaration" then .interfaceDeclaration
  else if containerKinds.contains kind then .container
  else .other

/-- What surrounds a node: whether what stands there is exported, and the named node whose comment
documents it. -/
structure Setting where
  exported : Bool := false
  previous : Option Node := none

/-- Whether a kind of node is a wrapper around one declaration. -/
def wraps (kind : String) : Bool :=
  kind == exportKind || kind == ambientKind

/-- The surroundings of a child, given the named node in front of it. -/
def Setting.inside (setting : Setting) (kind : String) (previous : Option Node) : Setting :=
  { exported :=
      if kind = ambientKind then setting.exported else kind == exportKind || kind == programKind
    previous := if wraps kind then setting.previous else previous }

/-- A declaration that may be taken. -/
structure Candidate where
  isInterface : Bool
  isAbstract : Bool
  setting : Setting
  node : Node

mutual

/-- The declarations at or below a node. -/
def candidatesAt (setting : Setting) : Node → List Candidate
  | ⟨label, children⟩ =>
      match Role.ofKind label.kind with
      | .container => candidatesAmong setting label.kind none children
      | .classDeclaration isAbstract => [⟨false, isAbstract, setting, ⟨label, children⟩⟩]
      | .interfaceDeclaration => [⟨true, false, setting, ⟨label, children⟩⟩]
      | .other => []

/-- The declarations at or below the children of a container, given the named node in front of
them. -/
def candidatesAmong (setting : Setting) (kind : String) (previous : Option Node) :
    List Node → List Candidate
  | [] => []
  | child :: rest =>
      if child.label.isNamed then
        candidatesAt (setting.inside kind previous) child
          ++ candidatesAmong setting kind (some child) rest
      else candidatesAmong setting kind previous rest

end

/-- The declarations in a file. -/
def candidates (root : Node) : List Candidate :=
  candidatesAt {} root

/-- The name of a declaration that is taken. -/
def acceptedName? (config : Config) (source : List Char) (candidate : Candidate) : Option String :=
  (visibleName? source candidate.node.children).filter fun name =>
    config.includesDeclaration name && candidate.setting.exported

/-- The names of the type parameters of a declaration. -/
def typeParameters (source : List Char) (node : Node) : List String :=
  match node.child? "type_parameters" with
  | none => []
  | some list =>
      (list.namedChildren.filter fun child => child.kind == "type_parameter").filterMap
        fun child => fieldText? source "name" child.children

/-- The class that a clause extends: the text of the expression, with the type arguments behind
it. -/
def extendedClass? (source : List Char) (clause : Node) : Option NamedType :=
  (fieldText? source "value" clause.children).map fun name =>
    { name := name, args := argumentsIn source clause.children }

/-- The named types in a clause. -/
def namedTypesIn (source : List Char) (clause : Node) : List NamedType :=
  (typesAmong source clause.children).filterMap Ty.reference?

/-- The clauses in the heritage of a class. -/
def heritageClauses (node : Node) : List Node :=
  (node.namedChildren.filter fun child => child.kind == "class_heritage").flatMap
    Node.namedChildren

/-- The last of the clauses of a kind. -/
def lastClause? (kind : String) (clauses : List Node) : Option Node :=
  (clauses.filter fun clause => clause.kind == kind).getLast?

/-- The class that a class extends. -/
def superTypeOf (source : List Char) (node : Node) : Option NamedType :=
  (lastClause? "extends_clause" (heritageClauses node)).bind (extendedClass? source)

/-- The interfaces that a class implements. -/
def implementedBy (source : List Char) (node : Node) : List NamedType :=
  match lastClause? "implements_clause" (heritageClauses node) with
  | none => []
  | some clause => namedTypesIn source clause

/-- What an interface extends. -/
def extendedBy (source : List Char) (node : Node) : List NamedType :=
  match node.namedChildren.find? fun child => child.kind == "extends_type_clause" with
  | none => []
  | some clause => namedTypesIn source clause

/-- The members of a declaration that has a body. -/
def bodyMembers {α : Type} (read : Node → List α) (node : Node) : List α :=
  match node.child? "body" with
  | none => []
  | some body => read body

/-- A declaration that was taken. -/
inductive Declared where
  | ofClass (cls : Class)
  | ofInterface (interface : Interface)

/-- The class in a declaration, with the reports of its dropped overloads. -/
def readClass (id : SourceId) (source : List Char) (name : String) (candidate : Candidate) :
    Class × Diagnostics :=
  let node := candidate.node
  let members := bodyMembers (classMembers source) node
  let signatures := members.filterMap ClassMember.method?
  ({ name := name
     isAbstract := candidate.isAbstract
     typeParams := typeParameters source node
     superType := superTypeOf source node
     interfaces := implementedBy source node
     constructors := members.filterMap ClassMember.constructor?
     properties := members.filterMap ClassMember.property?
     getters := members.filterMap ClassMember.getter?
     setters := members.filterMap ClassMember.setter?
     methods := keptMethods signatures
     doc := docBefore source candidate.setting.previous },
    droppedOverloads id name signatures)

/-- The interface in a declaration, with the reports of its dropped overloads. -/
def readInterface (id : SourceId) (source : List Char) (name : String) (candidate : Candidate) :
    Interface × Diagnostics :=
  let node := candidate.node
  let members := bodyMembers (interfaceMembers source) node
  let signatures := members.filterMap InterfaceMember.method?
  ({ name := name
     typeParams := typeParameters source node
     superTypes := extendedBy source node
     properties := foldProperties [] [] members
     methods := keptMethods signatures
     doc := docBefore source candidate.setting.previous },
    droppedOverloads id name signatures)

/-- The declaration that a candidate is, if it is taken. -/
def readCandidate? (config : Config) (id : SourceId) (source : List Char)
    (candidate : Candidate) : Option (Declared × Diagnostics) :=
  (acceptedName? config source candidate).map fun name =>
    if candidate.isInterface then
      let (interface, reports) := readInterface id source name candidate
      (.ofInterface interface, reports)
    else
      let (cls, reports) := readClass id source name candidate
      (.ofClass cls, reports)

/-- The class that was taken. -/
def Declared.class? : Declared → Option Class
  | .ofClass found => some found
  | .ofInterface _ => none

/-- The interface that was taken. -/
def Declared.interface? : Declared → Option Interface
  | .ofClass _ => none
  | .ofInterface found => some found

end DartBindings.Extraction
