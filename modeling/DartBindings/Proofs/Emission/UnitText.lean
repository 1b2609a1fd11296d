import DartBindings.Proofs.Emission.ParameterList
import DartBindings.Proofs.Emission.UnwantedMembers

/-!
The text of a unit, line by line.

A unit names its library, declares the hoisted shapes in order, and declares the class with its members:
constructors, getters, setters and methods that the configuration includes, each once and in order.  What
has parameters is left out if they are refused, and nothing else is.

The lines that begin a class are those of the hoisted shapes, in order, and then that of the class.

Main exports: Emitter.shapeLines, Emitter.memberLines, Emitter.unitLines, Emitter.unit_eq,
Emitter.filter_isClassLine
-/

namespace DartBindings.Emission

/-! ### Items of one kind -/

@[simp] theorem Item.lines_ok (lines : List String) : Item.lines (.ok lines) = lines :=
  rfl

section Items

variable {α : Type} (parameters : α → List Parameter) (report : α → Diagnostic)
  (lines : α → List String) (sources : List α)

/-- The item of something with parameters: a report if its parameters are refused, else its lines. -/
def refusing (source : α) : Item :=
  if RequiredBehindOptional (parameters source) then .error (report source)
  else .ok (lines source)

/-- What is not refused is shown, each once and in order. -/
theorem flatMap_lines_refusing :
    (sources.map (refusing parameters report lines)).flatMap Item.lines =
      (sources.filter fun source => ¬RequiredBehindOptional (parameters source)).flatMap lines := by
  induction sources with
  | nil => rfl
  | cons source rest ih =>
      rw [List.map_cons, List.flatMap_cons, ih]
      by_cases refused : RequiredBehindOptional (parameters source)
      · rw [List.filter_cons_of_neg (by simpa using refused), refusing, if_pos refused]
        rfl
      · rw [List.filter_cons_of_pos (by simpa using refused), refusing, if_neg refused]
        rfl

/-- What is refused is reported, each once and in order. -/
theorem filterMap_report?_refusing :
    (sources.map (refusing parameters report lines)).filterMap Item.report? =
      (sources.filter fun source => RequiredBehindOptional (parameters source)).map report := by
  induction sources with
  | nil => rfl
  | cons source rest ih =>
      by_cases refused : RequiredBehindOptional (parameters source)
      · rw [List.filter_cons_of_pos (by simpa using refused), List.map_cons, List.map_cons, ← ih,
          refusing, if_pos refused]
        rfl
      · rw [List.filter_cons_of_neg (by simpa using refused), List.map_cons, ← ih, refusing,
          if_neg refused]
        rfl

end Items

/-- Items that are never refused show all their lines. -/
theorem flatMap_lines_ok {α : Type} (sources : List α) (lines : α → List String) :
    (sources.map fun source => (.ok (lines source) : Item)).flatMap Item.lines =
      sources.flatMap lines := by
  rw [List.flatMap_map]
  rfl

/-- A member stands at the first depth of a class. -/
theorem indented_external (text : String) :
    indented 1 ("external " ++ text) = "  external " ++ text := by
  rw [indented, ← String.append_assoc]
  rfl

namespace Emitter

variable (emitter : Emitter) (cls : Class)

/-! ### Members of a class -/

/-- The lines of a constructor. -/
def constructorLines (constructor : Constructor) : List String :=
  docLines 1 constructor.doc ++
    ["  external " ++ cls.name
      ++ emitter.groupedParameters (classScope cls) constructor.parameters ++ ";"]

/-- The lines of a getter. -/
def getterLines (getter : Getter) : List String :=
  let type := emitter.mapper.render ((classScope cls).enter .getter getter.name) getter.type
  docLines 1 getter.doc ++
    ["  external " ++ (if getter.isStatic then "static " else "") ++ type ++ " get " ++ getter.name
      ++ ";"]

/-- The lines of a setter. -/
def setterLines (setter : Setter) : List String :=
  let type :=
    emitter.mapper.render ((classScope cls).enter .setter setter.name) setter.parameter.type
  docLines 1 setter.doc ++
    ["  external " ++ (if setter.isStatic then "static " else "") ++ "set " ++ setter.name ++ "("
      ++ type ++ " " ++ setter.parameter.name ++ ");"]

/-- The lines of a method. -/
def methodLines (method : Method) : List String :=
  let scope := (classScope cls).enter .method method.name
  docLines 1 method.doc ++
    ["  external " ++ (if method.isStatic then "static " else "")
      ++ emitter.mapper.render scope.enterResult method.result ++ " " ++ method.name
      ++ emitter.groupedParameters scope method.parameters ++ ";"]

/-- A constructor is refused for its parameters, or it has its lines. -/
theorem constructorItem_eq :
    emitter.constructorItem cls =
      refusing (·.parameters) (fun _ => misgrouped cls.name constructorKey)
        (emitter.constructorLines cls) := by
  funext constructor
  simp only [constructorItem, callable_eq, refusing, constructorLines, String.append_assoc,
    indented_external]

/-- A getter is never refused. -/
theorem getterItem_eq :
    emitter.getterItem cls = fun getter => .ok (emitter.getterLines cls getter) := by
  funext getter
  simp only [getterItem, getterLines, staticMarker, String.append_assoc, indented_external]

/-- A setter is never refused. -/
theorem setterItem_eq :
    emitter.setterItem cls = fun setter => .ok (emitter.setterLines cls setter) := by
  funext setter
  simp only [setterItem, setterLines, staticMarker, Spelling.typed, String.append_assoc,
    indented_external]

/-- A method is refused for its parameters, or it has its lines. -/
theorem methodItem_eq :
    emitter.methodItem cls =
      refusing (·.parameters) (fun method => misgrouped cls.name method.name)
        (emitter.methodLines cls) := by
  funext method
  simp only [methodItem, callable_eq, refusing, methodLines, staticMarker, String.append_assoc,
    indented_external]

/-- The lines of the members of a class: of those that the configuration includes, the constructors and
methods that are not refused, and all accessors. -/
def memberLines : List String :=
  let included := emitter.config.includesMember cls.name
  (cls.constructors.filter fun constructor =>
      included constructorKey ∧ ¬RequiredBehindOptional constructor.parameters).flatMap
        (emitter.constructorLines cls)
    ++ (cls.getters.filter fun getter => included getter.name).flatMap (emitter.getterLines cls)
    ++ (cls.setters.filter fun setter => included setter.name).flatMap (emitter.setterLines cls)
    ++ (cls.methods.filter fun method =>
      included method.name ∧ ¬RequiredBehindOptional method.parameters).flatMap
        (emitter.methodLines cls)

/-- The lines of the members are those of every included member, in order. -/
theorem lines_memberItems :
    (emitter.memberItems cls).flatMap Item.lines = emitter.memberLines cls := by
  simp only [memberItems, memberLines, wantedMembers_eq, trimmed, constructorItem_eq, getterItem_eq,
    setterItem_eq, methodItem_eq, List.flatMap_append, flatMap_lines_refusing, flatMap_lines_ok,
    List.filter_filter, Bool.decide_and, Bool.decide_eq_true, Bool.and_comm]

/-! ### Hoisted shapes -/

/-- The type of a property of a hoisted shape. -/
def propertyType (name : String) (property : Property) : String :=
  emitter.mapper.render ((shapeScope name).enter .property property.name) property.type

/-- The lines that begin a hoisted shape: its name, and a factory with a named parameter for each
property. -/
def shapeHeadLines (name : String) (shape : Shape) : List String :=
  let fields := shape.properties.map fun property =>
    emitter.propertyType name property ++ " " ++ property.name
  [ "@JS()", "@anonymous", "class " ++ name ++ " \x7b",
    "  external factory " ++ name ++ "(\x7b" ++ ", ".intercalate fields ++ "\x7d);" ]

/-- The lines of a property of a hoisted shape. -/
def propertyLines (name : String) (property : Property) : List String :=
  docLines 1 property.doc ++
    ["  external " ++ emitter.propertyType name property ++ " get " ++ property.name ++ ";"]

/-- The line of a call signature of a hoisted shape. -/
def callLines (name : String) (signature : Signature) : List String :=
  let scope := (shapeScope name).enter .method callName
  ["  external " ++ emitter.mapper.render scope.enterResult signature.result ++ " call"
    ++ emitter.groupedParameters scope signature.parameters ++ ";"]

/-- The head of a shape is never refused: its factory takes named parameters. -/
theorem shapeHead_eq (name : String) (shape : Shape) :
    emitter.shapeHead name shape = .ok (emitter.shapeHeadLines name shape) := by
  have factory (text : String) :
      indented 1 ("external factory " ++ text) = "  external factory " ++ text := by
    rw [indented, ← String.append_assoc]
    rfl
  simp only [shapeHead, shapeHeadLines, Spelling.typed, shapePropertyType, propertyType,
    String.append_assoc, factory]

/-- A property of a shape is never refused. -/
theorem shapeGetter_eq (name : String) :
    emitter.shapeGetter name = fun property => .ok (emitter.propertyLines name property) := by
  funext property
  simp only [shapeGetter, propertyLines, shapePropertyType, propertyType, String.append_assoc,
    indented_external]

/-- A call is refused for its parameters, or it has its line. -/
theorem shapeCall_eq (name : String) :
    emitter.shapeCall name =
      refusing (·.parameters) (fun _ => misgrouped name callName) (emitter.callLines name) := by
  funext signature
  have called (text : String) : " call" ++ text = " " ++ (callName ++ text) := by
    rw [← String.append_assoc]
    rfl
  simp only [shapeCall, callable_eq, refusing, callLines, String.append_assoc, indented_external, called]

/-- The lines of a hoisted shape: a getter for each property, and the calls that are not refused. -/
def shapeLines (name : String) (shape : Shape) : List String :=
  [""] ++ emitter.shapeHeadLines name shape
    ++ shape.properties.flatMap (emitter.propertyLines name)
    ++ (shape.calls.filter fun call => ¬RequiredBehindOptional call.parameters).flatMap
        (emitter.callLines name)
    ++ ["\x7d"]

/-- The lines of a shape are its head, its properties and the calls that are not refused. -/
theorem lines_shapeItems (name : String) (shape : Shape) :
    (emitter.shapeItems name shape).flatMap Item.lines = emitter.shapeLines name shape := by
  simp only [shapeItems, shapeLines, shapeHead_eq, shapeGetter_eq, shapeCall_eq, List.flatMap_append,
    flatMap_lines_refusing, flatMap_lines_ok]
  simp

/-! ### Units -/

/-- What stands behind the name and the type parameters in the header of a class: the super type, if
there is one, and the brace. -/
def headerEnd : String :=
  ((cls.superType.map fun superType =>
    " extends " ++ emitter.mapper.render (classScope cls) (.named superType)).getD "") ++ " \x7b"

/-- The line that begins the declaration of a class. -/
def headerLine : String :=
  (if cls.isAbstract then "abstract class " else "class ") ++ cls.name
    ++ (if cls.typeParams = [] then "" else "<" ++ ", ".intercalate cls.typeParams ++ ">")
    ++ emitter.headerEnd cls

/-- The lines of a unit: the name of the library, the hoisted shapes in their order, and the class with
its documentation, its header and its members. -/
def unitLines : List String :=
  ["part of " ++ emitter.config.libraryName ++ ";"]
    ++ (hoistedShapes emitter.config cls).entries.flatMap
        (fun entry => emitter.shapeLines entry.1 entry.2)
    ++ ([""] ++ docLines 0 cls.doc ++ ["@JS()", emitter.headerLine cls])
    ++ emitter.memberLines cls
    ++ ["\x7d"]

/-- The head of a class is its documentation, the annotation and the header. -/
theorem classHead_eq :
    emitter.classHead cls = .ok ([""] ++ docLines 0 cls.doc ++ ["@JS()", emitter.headerLine cls]) := by
  have front : (if cls.isAbstract then "abstract " else "") ++ "class " =
      if cls.isAbstract then "abstract class " else "class " := by
    cases cls.isAbstract with
    | false => rfl
    | true => rfl
  rw [classHead, classHeader, headerLine, headerEnd, front]
  cases cls.superType with
  | none => simp only [List.isEmpty_iff, Option.map_none, Option.getD_none, String.append_assoc]
  | some superType =>
      simp only [List.isEmpty_iff, Option.map_some, Option.getD_some, String.append_assoc]

/-- The lines of a unit are those of its library, its shapes, its class and its members. -/
theorem lines_items : (emitter.items cls).flatMap Item.lines = emitter.unitLines cls := by
  simp only [items, unitLines, hoistedItems, classHead_eq, List.flatMap_append, List.flatMap_assoc,
    lines_shapeItems, lines_memberItems]
  simp

/-- The unit of a class holds its lines, each of which is ended. -/
theorem unit_eq :
    emitter.unit cls =
      { fileName := unitFileName cls.name
        content := String.join ((emitter.unitLines cls).map (· ++ "\n")) } := by
  rw [unit, lines_items]
  rfl

end Emitter

/-! ### Lines that begin a class -/

/-- Whether a line begins the declaration of a class. -/
def isClassLine (line : String) : Bool :=
  "class ".toList.isPrefixOf line.toList || "abstract class ".toList.isPrefixOf line.toList

/-- A line that begins with another character than a declaration does. -/
theorem isClassLine_append {front : String} {c : Char} {further : List Char}
    (begins : front.toList = c :: further) (other : c ≠ 'c' ∧ c ≠ 'a') (rest : String) :
    isClassLine (front ++ rest) = false := by
  rw [isClassLine, String.toList_append, begins]
  simp [List.isPrefixOf, other.1.symm, other.2.symm]

@[simp] theorem isClassLine_external (rest : String) : isClassLine ("  external " ++ rest) = false :=
  isClassLine_append rfl (by decide) rest

/-- A line begins the declaration of a class of that name, abstract or not.  Behind the name stand its
type parameters, its super type or the brace. -/
def BeginsClass (name line : String) : Prop :=
  ∃ front ∈ ["class ", "abstract class "], ∃ rest : String,
    (rest.toList.head? = some '<' ∨ rest.toList.head? = some ' ') ∧ line = front ++ name ++ rest

/-- A line that begins the class of a name is one that begins a class. -/
theorem BeginsClass.isClassLine {name line : String} (begins : BeginsClass name line) :
    isClassLine line = true := by
  obtain ⟨front, isFront, rest, -, rfl⟩ := begins
  rw [Emission.isClassLine, String.append_assoc, String.toList_append]
  simp only [List.mem_cons, List.not_mem_nil, or_false] at isFront
  rcases isFront with rfl | rfl
  · simp [List.isPrefixOf]
  · simp [List.isPrefixOf]

/-- The head of a shape begins the class of its name. -/
theorem beginsClass_shape (name : String) : BeginsClass name ("class " ++ name ++ " \x7b") :=
  ⟨"class ", List.mem_cons_self, " \x7b", .inr rfl, rfl⟩

/-- No line of documentation begins a class, at whatever depth. -/
@[simp] theorem filter_docLines (depth : Nat) (doc : String) :
    (docLines depth doc).filter isClassLine = [] := by
  rw [List.filter_eq_nil_iff]
  intro line member
  obtain ⟨text, -, rfl⟩ := List.mem_map.1 member
  rw [Bool.not_eq_true]
  cases depth with
  | zero =>
      have front : indented 0 (docLine text) = docLine text := String.empty_append
      rw [front, docLine]
      split
      · rfl
      · exact isClassLine_append rfl (by decide) text
  | succ depth =>
      have begins : (String.ofList (List.replicate (2 * (depth + 1)) ' ')).toList =
          ' ' :: List.replicate (2 * depth + 1) ' ' := by
        rw [String.toList_ofList]
        rfl
      exact isClassLine_append begins (by decide) _

namespace Emitter

variable (emitter : Emitter) (cls : Class)

/-- Behind the name of a class comes a blank. -/
theorem head?_headerEnd : (emitter.headerEnd cls).toList.head? = some ' ' := by
  rw [headerEnd]
  cases cls.superType with
  | none => simp
  | some superType => simp [String.toList_append]

/-- The header of a class begins the class of its name. -/
theorem beginsClass_headerLine : BeginsClass cls.name (emitter.headerLine cls) := by
  have isFront : (if cls.isAbstract then "abstract class " else "class ") ∈
      ["class ", "abstract class "] := by
    cases cls.isAbstract with
    | false => exact List.mem_cons_self
    | true => exact List.mem_cons_of_mem _ List.mem_cons_self
  refine ⟨_, isFront, _, ?_, String.append_assoc⟩
  by_cases noParams : cls.typeParams = []
  · rw [if_pos noParams, String.empty_append]
    exact .inr (emitter.head?_headerEnd cls)
  · rw [if_neg noParams]
    exact .inl (by simp [String.toList_append])

/-- No member begins a class. -/
theorem filter_memberLines : (emitter.memberLines cls).filter isClassLine = [] := by
  simp [memberLines, constructorLines, getterLines, setterLines, methodLines, String.append_assoc,
    List.filter_append, List.filter_flatMap]

/-- A hoisted shape begins one class. -/
theorem filter_shapeLines (name : String) (shape : Shape) :
    (emitter.shapeLines name shape).filter isClassLine = ["class " ++ name ++ " \x7b"] := by
  have head : (emitter.shapeHeadLines name shape).filter isClassLine =
      ["class " ++ name ++ " \x7b"] := by
    have factory (text : String) : isClassLine ("  external factory " ++ text) = false :=
      isClassLine_append rfl (by decide) text
    have shown := (beginsClass_shape name).isClassLine
    rw [String.append_assoc] at shown
    simp only [shapeHeadLines, String.append_assoc, List.filter_cons, shown, factory]
    rfl
  have properties : (shape.properties.flatMap (emitter.propertyLines name)).filter isClassLine = [] := by
    simp [propertyLines, String.append_assoc, List.filter_append, List.filter_flatMap]
  have calls (calls : List Signature) :
      (calls.flatMap (emitter.callLines name)).filter isClassLine = [] := by
    simp [callLines, String.append_assoc, List.filter_flatMap]
  have ends : ["\x7d"].filter isClassLine = [] := rfl
  simp only [shapeLines, List.filter_append, head, properties, calls, ends, List.append_nil]
  rfl

/-- The lines of a unit that begin a class are those of its hoisted shapes and that of its class. -/
theorem filter_isClassLine :
    ((emitter.items cls).flatMap Item.lines).filter isClassLine =
      (hoistedShapes emitter.config cls).keys.map (fun name => "class " ++ name ++ " \x7b")
        ++ [emitter.headerLine cls] := by
  have shapes : ((hoistedShapes emitter.config cls).entries.flatMap fun entry =>
      emitter.shapeLines entry.1 entry.2).filter isClassLine =
        (hoistedShapes emitter.config cls).keys.map fun name => "class " ++ name ++ " \x7b" := by
    rw [List.filter_flatMap, Table.keys, List.map_map, List.map_eq_flatMap]
    exact List.flatMap_congr fun entry _ => emitter.filter_shapeLines entry.1 entry.2
  have header := (emitter.beginsClass_headerLine cls).isClassLine
  have part : isClassLine ("part of " ++ emitter.config.libraryName ++ ";") = false := by
    rw [String.append_assoc]
    exact isClassLine_append rfl (by decide) _
  rw [lines_items, unitLines]
  simp only [List.filter_append, shapes, filter_memberLines, filter_docLines]
  simp [List.filter_cons, header, part]
  rfl

end Emitter

end DartBindings.Emission
