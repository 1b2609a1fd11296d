import DartBindings.Emission.Hoisting
import DartBindings.Library.Basic
import DartBindings.Replacement.Mapper
import DartBindings.Text.Line

/-!
Output units: one Dart file for every class of a library.

A unit names its library, declares the shapes that the class uses, and declares the class with its
wanted members.  A unit is a list of items.  An item is some lines of output, or the report of a
parameter list whose optional parameters do not form its end; then nothing of that member is written.

Main exports: Emitter, Emitter.items, Emitter.unit, Emitter.reports, unitFileName
-/

namespace DartBindings.Emission

/-- What members are written with. -/
structure Emitter where
  config : Config
  mapper : TypeMapper

/-- Some lines of a unit, or the report of why they are missing. -/
abbrev Item := Except Diagnostic (List String)

/-- A line at a depth. -/
def indented (depth : Nat) (text : String) : String :=
  String.ofList (List.replicate (2 * depth) ' ') ++ text

/-- A line of documentation. -/
def docLine (line : String) : String :=
  if line.isEmpty then "///" else "/// " ++ line

/-- Documentation at a depth, a line for each of its lines. -/
def docLines (depth : Nat) (doc : String) : List String :=
  (Text.linesOf doc).map fun line => indented depth (docLine line)

/-- The marker of what belongs to the class and not to its objects. -/
def staticMarker (isStatic : Bool) : String :=
  if isStatic then "static " else ""

/-- Parameters up to the first optional one. -/
def requiredParameters (parameters : List Parameter) : List Parameter :=
  parameters.takeWhile fun parameter => !parameter.optional

/-- Parameters from the first optional one on. -/
def parametersFromOptional (parameters : List Parameter) : List Parameter :=
  parameters.dropWhile fun parameter => !parameter.optional

/-- Whether the optional parameters form the end of a parameter list. -/
def isWellGrouped (parameters : List Parameter) : Bool :=
  (parametersFromOptional parameters).all (·.optional)

/-- The report of a parameter list whose optional parameters do not form its end. -/
def misgrouped (owner member : String) : Diagnostic :=
  { kind := .invalidOptionalParameters, detail := some (owner ++ "." ++ member),
    subject := some owner }

namespace Emitter

/-- A parameter with its type in front of it. -/
def parameterText (emitter : Emitter) (scope : Scope) (parameter : Parameter) : String :=
  Spelling.typed (emitter.mapper.render (scope.enter .parameter parameter.name) parameter.type)
    parameter.name

/-- A parameter list, with its optional parameters in brackets. -/
def parameterList (emitter : Emitter) (scope : Scope) (parameters : List Parameter) : String :=
  let required := (requiredParameters parameters).map (emitter.parameterText scope)
  let optional := (parametersFromOptional parameters).map (emitter.parameterText scope)
  let group := if optional.isEmpty then [] else ["[" ++ ", ".intercalate optional ++ "]"]
  "(" ++ ", ".intercalate (required ++ group) ++ ")"

/-- The item of a member that has parameters. -/
def callable (emitter : Emitter) (owner member : String) (scope : Scope)
    (parameters : List Parameter) (lines : String → List String) : Item :=
  if isWellGrouped parameters then .ok (lines (emitter.parameterList scope parameters))
  else .error (misgrouped owner member)

/-- The item of a constructor. -/
def constructorItem (emitter : Emitter) (cls : Class) (constructor : Constructor) : Item :=
  emitter.callable cls.name constructorKey (classScope cls) constructor.parameters
    fun parameters =>
      docLines 1 constructor.doc ++ [indented 1 ("external " ++ cls.name ++ parameters ++ ";")]

/-- The item of a getter. -/
def getterItem (emitter : Emitter) (cls : Class) (getter : Getter) : Item :=
  let type := emitter.mapper.render ((classScope cls).enter .getter getter.name) getter.type
  .ok (docLines 1 getter.doc ++
    [indented 1
      ("external " ++ staticMarker getter.isStatic ++ type ++ " get " ++ getter.name ++ ";")])

/-- The item of a setter. -/
def setterItem (emitter : Emitter) (cls : Class) (setter : Setter) : Item :=
  let type :=
    emitter.mapper.render ((classScope cls).enter .setter setter.name) setter.parameter.type
  .ok (docLines 1 setter.doc ++
    [indented 1
      ("external " ++ staticMarker setter.isStatic ++ "set " ++ setter.name ++ "("
        ++ Spelling.typed type setter.parameter.name ++ ");")])

/-- The item of a method. -/
def methodItem (emitter : Emitter) (cls : Class) (method : Method) : Item :=
  let scope := (classScope cls).enter .method method.name
  emitter.callable cls.name method.name scope method.parameters fun parameters =>
    docLines 1 method.doc ++
      [indented 1
        ("external " ++ staticMarker method.isStatic
          ++ emitter.mapper.render scope.enterResult method.result ++ " " ++ method.name
          ++ parameters ++ ";")]

/-- The type of a property of a hoisted shape. -/
def shapePropertyType (emitter : Emitter) (name : String) (property : Property) : String :=
  emitter.mapper.render ((shapeScope name).enter .property property.name) property.type

/-- The head of a hoisted shape: its name, and a factory with a named parameter for each property. -/
def shapeHead (emitter : Emitter) (name : String) (shape : Shape) : Item :=
  let fields := shape.properties.map fun property =>
    Spelling.typed (emitter.shapePropertyType name property) property.name
  .ok
    [ "@JS()", "@anonymous", "class " ++ name ++ " \x7b",
      indented 1 ("external factory " ++ name ++ "(\x7b" ++ ", ".intercalate fields ++ "\x7d);") ]

/-- The item of a property of a hoisted shape. -/
def shapeGetter (emitter : Emitter) (name : String) (property : Property) : Item :=
  .ok (docLines 1 property.doc ++
    [indented 1
      ("external " ++ emitter.shapePropertyType name property ++ " get " ++ property.name ++ ";")])

/-- The item of a call signature of a hoisted shape. -/
def shapeCall (emitter : Emitter) (name : String) (signature : Signature) : Item :=
  let scope := (shapeScope name).enter .method callName
  emitter.callable name callName scope signature.parameters fun parameters =>
    [indented 1
      ("external " ++ emitter.mapper.render scope.enterResult signature.result ++ " " ++ callName
        ++ parameters ++ ";")]

/-- The items of a hoisted shape, with an empty line in front. -/
def shapeItems (emitter : Emitter) (name : String) (shape : Shape) : List Item :=
  [.ok [""], emitter.shapeHead name shape]
    ++ shape.properties.map (emitter.shapeGetter name)
    ++ shape.calls.map (emitter.shapeCall name)
    ++ [.ok ["\x7d"]]

/-- The line that begins the declaration of a class. -/
def classHeader (emitter : Emitter) (cls : Class) : String :=
  (if cls.isAbstract then "abstract " else "") ++ "class " ++ cls.name
    ++ (if cls.typeParams.isEmpty then "" else "<" ++ ", ".intercalate cls.typeParams ++ ">")
    ++ (match cls.superType with
      | none => ""
      | some superType =>
          " extends " ++ emitter.mapper.render (classScope cls) (.named superType))
    ++ " \x7b"

/-- The head of a class, with an empty line in front. -/
def classHead (emitter : Emitter) (cls : Class) : Item :=
  .ok ([""] ++ docLines 0 cls.doc ++ ["@JS()", emitter.classHeader cls])

/-- The items of the wanted members of a class. -/
def memberItems (emitter : Emitter) (cls : Class) : List Item :=
  let members := wantedMembers emitter.config cls
  members.constructors.map (emitter.constructorItem cls)
    ++ members.getters.map (emitter.getterItem cls)
    ++ members.setters.map (emitter.setterItem cls)
    ++ members.methods.map (emitter.methodItem cls)

/-- The items of the shapes that a class uses. -/
def hoistedItems (emitter : Emitter) (cls : Class) : List Item :=
  (hoistedShapes emitter.config cls).entries.flatMap fun entry =>
    emitter.shapeItems entry.1 entry.2

/-- The items of the unit of a class. -/
def items (emitter : Emitter) (cls : Class) : List Item :=
  [.ok ["part of " ++ emitter.config.libraryName ++ ";"]]
    ++ emitter.hoistedItems cls
    ++ [emitter.classHead cls]
    ++ emitter.memberItems cls
    ++ [.ok ["\x7d"]]

end Emitter

/-- The lines that an item has. -/
def Item.lines : Item → List String
  | .ok lines => lines
  | .error _ => []

/-- The report that an item is. -/
def Item.report? : Item → Option Diagnostic
  | .ok _ => none
  | .error report => some report

/-- The text of lines, each of which is ended. -/
def textOf (lines : List String) : String :=
  String.join (lines.map (· ++ "\n"))

/-- A Dart file. -/
structure OutputUnit where
  fileName : String
  content : String
deriving Repr, DecidableEq, Inhabited

/-- The name of the file of a class. -/
def unitFileName (className : String) : String :=
  Text.lowercase className ++ ".dart"

namespace Emitter

/-- The unit of a class. -/
def unit (emitter : Emitter) (cls : Class) : OutputUnit :=
  { fileName := unitFileName cls.name
    content := textOf ((emitter.items cls).flatMap Item.lines) }

/-- The reports of members that are missing from the unit of a class. -/
def reports (emitter : Emitter) (cls : Class) : Diagnostics :=
  (emitter.items cls).filterMap Item.report?

/-- The units of a library, in the order of its classes. -/
def units (emitter : Emitter) (library : Library) : List OutputUnit :=
  library.classes.map emitter.unit

/-- The reports of all units of a library. -/
def libraryReports (emitter : Emitter) (library : Library) : Diagnostics :=
  library.classes.flatMap emitter.reports

end Emitter

end DartBindings.Emission
