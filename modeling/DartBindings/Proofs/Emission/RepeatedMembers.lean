import DartBindings.Proofs.Emission.UnitText
import DartBindings.Proofs.Extraction.Accessors

/-!
Members of the classes that shapes are written as.

A shape is written as a class with a factory, getters and `call` methods.  Told from the members that a
type spells, such a class declares each member once exactly when the visible names of the properties and
methods among them differ, and at most one call is not refused: reading a shape drops no overload.

Main exports: ShapeClass, DeclaresEachOnce, lines_shapeClass, declaresEachOnce_iff
-/

namespace DartBindings.Emission

open Extraction
open Syntax (Node)

/-! ### Written classes -/

/-- A getter of a written class. -/
structure WrittenGetter where
  doc : String
  type : String
  name : String

/-- A `call` method of a written class. -/
structure WrittenCall where
  result : String
  parameters : String

/-- The class that a shape is written as.  The factory has a parameter for each field, a type with a
name. -/
structure ShapeClass where
  name : String
  fields : List (String × String)
  getters : List WrittenGetter
  calls : List WrittenCall

namespace ShapeClass

/-- The lines of a class. -/
def lines (written : ShapeClass) : List String :=
  let fields := written.fields.map fun field => Spelling.typed field.1 field.2
  [ "@JS()", "@anonymous", "class " ++ written.name ++ " \x7b",
    indented 1
      ("external factory " ++ written.name ++ "(\x7b" ++ ", ".intercalate fields ++ "\x7d);") ]
    ++ written.getters.flatMap (fun getter =>
      docLines 1 getter.doc ++
        [indented 1 ("external " ++ getter.type ++ " get " ++ getter.name ++ ";")])
    ++ written.calls.flatMap (fun call =>
      [indented 1 ("external " ++ call.result ++ " " ++ callName ++ call.parameters ++ ";")])
    ++ ["\x7d"]

/-- No two parameters of the factory, no two getters and no two `call` methods have one name. -/
structure DeclaresEachOnce (written : ShapeClass) : Prop where
  fields : (written.fields.map Prod.snd).Nodup
  getters : (written.getters.map (·.name)).Nodup
  calls : written.calls.length ≤ 1

end ShapeClass

namespace Emitter

/-- The class that a shape is written as. -/
def shapeClass (emitter : Emitter) (name : String) (shape : Shape) : ShapeClass where
  name := name
  fields := shape.properties.map fun property =>
    (emitter.shapePropertyType name property, property.name)
  getters := shape.properties.map fun property =>
    ⟨property.doc, emitter.shapePropertyType name property, property.name⟩
  calls := (shape.calls.filter fun call => ¬RequiredBehindOptional call.parameters).map fun call =>
    let scope := (shapeScope name).enter .method callName
    ⟨emitter.mapper.render scope.enterResult call.result, emitter.parameterList scope call.parameters⟩

/-- The line of a call that is not refused. -/
theorem callLines_of_accepted (emitter : Emitter) (name : String) {call : Signature}
    (accepted : ¬RequiredBehindOptional call.parameters) :
    emitter.callLines name call =
      let scope := (shapeScope name).enter .method callName
      [indented 1 ("external " ++ emitter.mapper.render scope.enterResult call.result ++ " " ++ callName
        ++ emitter.parameterList scope call.parameters ++ ";")] := by
  have shown := congrFun (emitter.shapeCall_eq name) call
  rw [refusing, if_neg accepted, shapeCall, callable, if_pos (isWellGrouped_iff.2 accepted)] at shown
  exact (Except.ok.inj shown).symm

/-- The lines that a unit has for a shape are those of its class, behind an empty line. -/
theorem lines_shapeClass (emitter : Emitter) (name : String) (shape : Shape) :
    (emitter.shapeItems name shape).flatMap Item.lines =
      "" :: (emitter.shapeClass name shape).lines := by
  have head : emitter.shapeHeadLines name shape = (emitter.shapeHead name shape).lines := by
    rw [shapeHead_eq, Item.lines_ok]
  have getters : emitter.propertyLines name = fun property =>
      (emitter.shapeGetter name property).lines := by
    simp only [shapeGetter_eq, Item.lines_ok]
  let accepted := shape.calls.filter fun call => ¬RequiredBehindOptional call.parameters
  have calls : accepted.flatMap (emitter.callLines name) = _ := List.flatMap_congr fun call member =>
    emitter.callLines_of_accepted name (of_decide_eq_true (List.mem_filter.1 member).2)
  rw [lines_shapeItems, shapeLines, head, getters, calls, ShapeClass.lines, shapeClass]
  simp only [List.map_map, List.flatMap_map]
  rfl

/-- The factory and the getters have the names of the properties. -/
theorem declaresEachOnce_shapeClass_iff (emitter : Emitter) (name : String) (shape : Shape) :
    (emitter.shapeClass name shape).DeclaresEachOnce ↔
      (shape.properties.map (·.name)).Nodup ∧ (emitter.shapeClass name shape).calls.length ≤ 1 := by
  have fields : (emitter.shapeClass name shape).fields.map Prod.snd =
      shape.properties.map (·.name) := List.map_map
  have getters : (emitter.shapeClass name shape).getters.map (·.name) =
      shape.properties.map (·.name) := List.map_map
  constructor
  · rintro ⟨-, distinct, few⟩
    exact ⟨getters ▸ distinct, few⟩
  · rintro ⟨distinct, few⟩
    exact ⟨fields ▸ distinct, getters ▸ distinct, few⟩

end Emitter

/-! ### The members of a shape -/

/-- The name of the property or method that a member of a shape spells, unless it is hidden. -/
def memberName? (source : List Char) (node : Node) : Option String :=
  if node.isNamed = true ∧ (node.kind = "property_signature" ∨ node.kind = "method_signature") then
    visibleName? source node.children
  else none

/-- Whether a member of a shape is a call signature. -/
def isCallNode (node : Node) : Bool :=
  node.isNamed && node.kind == "call_signature"

/-- The call signatures among the members of a shape whose parameters are not refused. -/
def acceptedCallNodes (source : List Char) (nodes : List Node) : List Node :=
  (nodes.filter isCallNode).filter fun node =>
    ¬RequiredBehindOptional (parametersIn source node.children)

variable {source : List Char}

/-- A shape has a property for each member with a visible name. -/
theorem map_name_propertiesAmong (previous : Option Node) (nodes : List Node) :
    (propertiesAmong source previous nodes).map (·.name) = nodes.filterMap (memberName? source) := by
  induction nodes generalizing previous with
  | nil => rw [propertiesAmong, List.map_nil, List.filterMap_nil]
  | cons node rest ih =>
      obtain ⟨label, children⟩ := node
      rw [propertiesAmong, filterMap_cons_eq_append]
      by_cases named : label.isNamed = true
      · -- Properties and methods have a name, calls and all else have none.
        rw [if_pos named, List.map_append, ih]
        congr 1
        unfold ShapeMemberForm.ofKind memberName? Node.isNamed Node.kind
        by_cases property : label.kind = "property_signature"
        · cases visible : visibleName? source children <;>
            simp [property, named, property?, visible]
        · by_cases method : label.kind = "method_signature"
          · cases visible : visibleName? source children <;> simp [method, named]
          · by_cases call : label.kind = "call_signature" <;> simp [property, method, call]
      · rw [if_neg named, ih, memberName?, if_neg (by simp [Node.isNamed, named]), Option.toList_none,
          List.nil_append]

theorem ofKind_eq_call_iff {kind : String} :
    ShapeMemberForm.ofKind kind = .call ↔ kind = "call_signature" := by
  unfold ShapeMemberForm.ofKind
  split
  · next property => simp [property]
  · split
    · next method => simp [method]
    · split
      · next call => simp [call]
      · next other => simp [other]

/-- A shape has a call for each call signature. -/
theorem callsAmong_eq (nodes : List Node) :
    callsAmong source nodes =
      (nodes.filter isCallNode).map fun node => readSignature source node.children := by
  induction nodes with
  | nil => rw [callsAmong, List.filter_nil, List.map_nil]
  | cons node rest ih =>
      obtain ⟨label, children⟩ := node
      have form : (label.isNamed && ShapeMemberForm.ofKind label.kind == .call) =
          isCallNode ⟨label, children⟩ := by
        rw [isCallNode, Bool.eq_iff_iff]
        simp [ofKind_eq_call_iff, Node.isNamed, Node.kind]
      rw [callsAmong, form, ih]
      cases call : isCallNode ⟨label, children⟩ with
      | true =>
          rw [if_pos rfl, List.filter_cons_of_pos call]
          rfl
      | false => rw [if_neg Bool.false_ne_true, List.filter_cons_of_neg (by simp [call])]

theorem length_calls_shapeClass (emitter : Emitter) (name : String) (nodes : List Node)
    (properties : List Property) :
    (emitter.shapeClass name ⟨properties, callsAmong source nodes⟩).calls.length =
      (acceptedCallNodes source nodes).length := by
  rw [Emitter.shapeClass, callsAmong_eq, List.length_map, List.filter_map, List.length_map]
  rfl

/-- The class that a shape is written as declares each member once exactly when no two properties and
methods of the shape have one visible name, and no two of its calls are accepted. -/
theorem declaresEachOnce_iff (emitter : Emitter) (name : String) (source : List Char) (node : Node)
    (object : node.kind = "object_type") :
    ∃ shape, readType source node = .literal shape ∧
      (emitter.shapeItems name shape).flatMap Item.lines =
        "" :: (emitter.shapeClass name shape).lines ∧
      ((emitter.shapeClass name shape).DeclaresEachOnce ↔
        (node.children.filterMap (memberName? source)).Nodup ∧
          (acceptedCallNodes source node.children).length ≤ 1) := by
  obtain ⟨label, children⟩ := node
  refine ⟨⟨propertiesAmong source none children, callsAmong source children⟩, ?_,
    emitter.lines_shapeClass name _, ?_⟩
  · rw [readType, show label.kind = "object_type" from object]
    rfl
  · rw [Emitter.declaresEachOnce_shapeClass_iff, map_name_propertiesAmong, length_calls_shapeClass]

/-- The text of a type with an overloaded method and an overloaded call. -/
def overloadedText : List Char :=
  "\x7b on(): A; on(): B; (): C; (): D \x7d".toList

/-- A signature of the method. -/
def overloadNode (start : Nat) : Node :=
  ⟨{ kind := "method_signature", isNamed := true, start := start, stop := start + 7 },
    [⟨{ kind := "property_identifier", isNamed := true, start := start, stop := start + 2,
        field := some "name" }, []⟩,
      noParametersNode (start + 2), colonTypeNode "return_type" (start + 4)]⟩

/-- A call signature. -/
def callNode (start : Nat) : Node :=
  ⟨{ kind := "call_signature", isNamed := true, start := start, stop := start + 5 },
    [noParametersNode start, colonTypeNode "return_type" (start + 2)]⟩

/-- The type. -/
def overloadedNode : Node :=
  ⟨{ kind := "object_type", isNamed := true, stop := 34 },
    [⟨{ kind := "\x7b", stop := 1 }, []⟩,
      overloadNode 2, ⟨{ kind := ";", start := 9, stop := 10 }, []⟩,
      overloadNode 11, ⟨{ kind := ";", start := 18, stop := 19 }, []⟩,
      callNode 20, ⟨{ kind := ";", start := 25, stop := 26 }, []⟩,
      callNode 27, ⟨{ kind := "\x7d", start := 33, stop := 34 }, []⟩]⟩

/-- What the type is written with. -/
def plainEmitter : Emitter where
  config := { libraryName := "lib" }
  mapper := TypeMapper.identity

/-- An object type that spells a method and a call twice each. -/
theorem declaresEachOnce_iff_overloaded :
    overloadedNode.kind = "object_type" ∧
      ∃ shape, readType overloadedText overloadedNode = .literal shape ∧
        (plainEmitter.shapeItems "MeshEvents" shape).flatMap Item.lines =
          "" :: (plainEmitter.shapeClass "MeshEvents" shape).lines ∧
        ((plainEmitter.shapeClass "MeshEvents" shape).DeclaresEachOnce ↔
          (overloadedNode.children.filterMap (memberName? overloadedText)).Nodup ∧
            (acceptedCallNodes overloadedText overloadedNode.children).length ≤ 1) :=
  ⟨rfl, declaresEachOnce_iff plainEmitter "MeshEvents" overloadedText overloadedNode rfl⟩

/-- Names of property signatures that differ are not enough: overloads of a method repeat a getter. -/
theorem not_declaresEachOnce_overloaded :
    ¬∀ (emitter : Emitter) (name : String) (source : List Char) (node : Node) (shape : Shape),
      node.kind = "object_type" → readType source node = .literal shape →
      (node.children.filterMap (signatureName? source)).Nodup →
      (emitter.shapeClass name shape).DeclaresEachOnce := by
  intro once
  have declared := once plainEmitter "MeshEvents" overloadedText overloadedNode _ rfl rfl (by decide)
  exact absurd declared.getters (by decide)

end DartBindings.Emission
