import DartBindings.Extraction.Doc
import DartBindings.Naming
import DartBindings.Types.Basic

/-!
Reading types from syntax trees.

Reading loses what a type cannot say: a union is `dynamic`, an array of anything but a named type is
that thing itself, and syntax without a meaning of its own is a name spelled like its text.  Every
function below reads one thing from a node or from the children of a node.

Main exports: TypeForm, readType, readSignature, visibleName?
-/

namespace DartBindings.Extraction

open Syntax (Node Label)

/-- What a kind of node means where a type stands. -/
inductive TypeForm where
  | spelled
  | generic
  | array
  | shape
  | function
  | union
  | wrapped
  | self
  | predicate
deriving Repr, DecidableEq

/-- The meaning of a kind of node where a type stands. -/
def TypeForm.ofKind (kind : String) : TypeForm :=
  if kind = "generic_type" then .generic
  else if kind = "array_type" then .array
  else if kind = "object_type" then .shape
  else if kind = "function_type" then .function
  else if kind = "union_type" then .union
  else if kind = "parenthesized_type" || kind = "readonly_type" then .wrapped
  else if kind = "this_type" then .self
  else if kind = "type_predicate" then .predicate
  else .spelled

/-- What a kind of node means where an annotation stands. -/
inductive AnnotationForm where
  | typed
  | predicate
  | assertion
  | bare
deriving Repr, DecidableEq

/-- The meaning of a kind of node where an annotation stands. -/
def AnnotationForm.ofKind (kind : String) : AnnotationForm :=
  if kind = "type_annotation" then .typed
  else if kind = "type_predicate_annotation" then .predicate
  else if kind = "asserts_annotation" then .assertion
  else .bare

/-- What a kind of node means among the members of a shape. -/
inductive ShapeMemberForm where
  | property
  | method
  | call
  | other
deriving Repr, DecidableEq

/-- The meaning of a kind of node among the members of a shape. -/
def ShapeMemberForm.ofKind (kind : String) : ShapeMemberForm :=
  if kind = "property_signature" then .property
  else if kind = "method_signature" then .method
  else if kind = "call_signature" then .call
  else .other

/-- The type of a test. -/
def predicateType : Ty := .ofName "boolean"

/-- The type of a call that only asserts. -/
def assertionType : Ty := .ofName "void"

/-- The text of the first of the nodes that fills a field. -/
def fieldText? (source : List Char) (field : String) (nodes : List Node) : Option String :=
  (nodes.find? (·.label.fills field)).map (·.text source)

/-- The name among the children of a member, unless it is hidden. -/
def visibleName? (source : List Char) (children : List Node) : Option String :=
  (fieldText? source "name" children).filter fun name => !isHidden name

/-- The property whose type and children are given, unless its name is hidden. -/
def property? (source : List Char) (previous : Option Node) (children : List Node) (type : Ty) :
    Option Property :=
  (visibleName? source children).map fun name =>
    { name := name
      type := type
      isStatic := (Node.keywordsAmong children).contains "static"
      isReadonly := (Node.keywordsAmong children).contains "readonly"
      doc := docBefore source previous }

/-- The name of a parameter and whether it takes the rest of the arguments.  What only types the
receiver of a call is no parameter. -/
def parameterName? (source : List Char) (children : List Node) : Option (String × Bool) :=
  match children.find? (·.label.fills "pattern") with
  | none => none
  | some pattern =>
      let found :=
        if pattern.kind = "rest_pattern" then
          (pattern.namedChildren.head?).map fun inner => (inner.text source, true)
        else some (pattern.text source, false)
      found.filter fun found => found.1 != "this"

/-- Whether a node is a parameter. -/
def isParameter (label : Label) : Bool :=
  label.isNamed && (label.kind == "required_parameter" || label.kind == "optional_parameter")

/-- The parameter whose type and children are given.  It is optional when it is marked so, has a
value or takes the rest of the arguments. -/
def parameter? (source : List Char) (label : Label) (children : List Node) (type : Ty) :
    Option Parameter :=
  (parameterName? source children).map fun (name, takesRest) =>
    { name := name
      type := type
      optional := label.kind == "optional_parameter"
        || children.any (·.label.fills "value") || takesRest }

/-- A type as the element type of an array.  Only a named type can be marked. -/
def arrayOf : Ty → Ty
  | .named reference => .named { reference with isArray := true }
  | .function signature => .function signature
  | .literal shape => .literal shape

mutual

/-- The type that a node spells. -/
def readType (source : List Char) : Node → Ty
  | ⟨label, children⟩ =>
      match TypeForm.ofKind label.kind with
      | .spelled => .ofName (label.text source)
      | .generic =>
          .named
            { name := (fieldText? source "name" children).getD ""
              args := argumentsIn source children }
      | .array =>
          match firstType? source children with
          | none => .ofName (label.text source)
          | some element => arrayOf element
      | .shape =>
          .literal ⟨propertiesAmong source none children, callsAmong source children⟩
      | .function =>
          .function ⟨annotationIn source "return_type" children, parametersIn source children⟩
      | .union => .dynamic
      | .wrapped =>
          match firstType? source children with
          | none => .ofName (label.text source)
          | some inner => inner
      | .self => .ofName Ty.selfName
      | .predicate => predicateType

/-- The type that the first named node spells. -/
def firstType? (source : List Char) : List Node → Option Ty
  | [] => none
  | node :: rest =>
      if node.label.isNamed then some (readType source node) else firstType? source rest

/-- The types that the named nodes other than comments spell. -/
def typesAmong (source : List Char) : List Node → List Ty
  | [] => []
  | node :: rest =>
      if node.label.isNamed && !node.isComment then
        readType source node :: typesAmong source rest
      else typesAmong source rest

/-- The type arguments below the first node that holds type arguments. -/
def argumentsIn (source : List Char) : List Node → List Ty
  | [] => []
  | ⟨label, children⟩ :: rest =>
      if label.fills "type_arguments" then typesAmong source children
      else argumentsIn source rest

/-- The type of the first node that fills a field with an annotation, `dynamic` without one. -/
def annotationIn (source : List Char) (field : String) : List Node → Ty
  | [] => .dynamic
  | ⟨label, children⟩ :: rest =>
      if label.fills field then
        match AnnotationForm.ofKind label.kind with
        | .typed =>
            match firstType? source children with
            | none => .dynamic
            | some type => type
        | .predicate => predicateType
        | .assertion => assertionType
        | .bare => readType source ⟨label, children⟩
      else annotationIn source field rest

/-- The parameters below the first node that holds parameters. -/
def parametersIn (source : List Char) : List Node → List Parameter
  | [] => []
  | ⟨label, children⟩ :: rest =>
      if label.fills "parameters" then parametersAmong source children
      else parametersIn source rest

/-- The parameters among nodes. -/
def parametersAmong (source : List Char) : List Node → List Parameter
  | [] => []
  | ⟨label, children⟩ :: rest =>
      if isParameter label then
        (parameter? source label children (annotationIn source "type" children)).toList
          ++ parametersAmong source rest
      else parametersAmong source rest

/-- The properties among the members of a shape, methods among them, given the named node in front
of the members. -/
def propertiesAmong (source : List Char) (previous : Option Node) : List Node → List Property
  | [] => []
  | ⟨label, children⟩ :: rest =>
      if label.isNamed then
        (match ShapeMemberForm.ofKind label.kind with
          | .property =>
              (property? source previous children (annotationIn source "type" children)).toList
          | .method =>
              ((visibleName? source children).map fun name =>
                { name := name
                  type :=
                    .function
                      ⟨annotationIn source "return_type" children, parametersIn source children⟩
                  doc := docBefore source previous : Property }).toList
          | .call => []
          | .other => [])
        ++ propertiesAmong source (some ⟨label, children⟩) rest
      else propertiesAmong source previous rest

/-- The call signatures among the members of a shape. -/
def callsAmong (source : List Char) : List Node → List Signature
  | [] => []
  | ⟨label, children⟩ :: rest =>
      if label.isNamed && ShapeMemberForm.ofKind label.kind == .call then
        ⟨annotationIn source "return_type" children, parametersIn source children⟩
          :: callsAmong source rest
      else callsAmong source rest

end

/-- The signature of whatever has parameters and a result among its children. -/
def readSignature (source : List Char) (children : List Node) : Signature :=
  ⟨annotationIn source "return_type" children, parametersIn source children⟩

end DartBindings.Extraction
