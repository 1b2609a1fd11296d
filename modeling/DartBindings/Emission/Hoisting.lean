import DartBindings.Config.Basic
import DartBindings.Declaration
import DartBindings.Scope
import DartBindings.Table

/-!
Hoisting of shapes.

A shape is declared as a class of its own, named by the place where it occurs.  The walk below enters
the same frames as the spelling of types does, so that a spelled name is a declared one.  A shape
inside a shape is found under the name of the outer one, and of shapes with one name the first is
declared.

Main exports: collect, wantedMembers, hoistedShapes
-/

namespace DartBindings.Emission

/-- The name of a call of an object. -/
def callName : String := "call"

/-- The name by which a configuration means constructors. -/
def constructorKey : String := "constructor"

/-- The place of a hoisted shape. -/
def shapeScope (name : String) : Scope :=
  .root ⟨.typeLiteral, name⟩

/-- The place of a class. -/
def classScope (cls : Class) : Scope :=
  .root ⟨.classBody, cls.name⟩

mutual

/-- The shapes found so far and those in a type at a place. -/
def collect (scope : Scope) (found : Table Shape) : Ty → Table Shape
  | .named ⟨_, args, _⟩ => collectAll scope found args
  | .function ⟨result, parameters⟩ =>
      collectParameters scope (collect scope.enterResult found result) parameters
  | .literal ⟨properties, calls⟩ =>
      if found.contains scope.literalName then found
      else
        let root := shapeScope scope.literalName
        collectCalls (root.enter .method callName)
          (collectProperties root (found.set scope.literalName ⟨properties, calls⟩) properties)
          calls

/-- The shapes found so far and those in types at one place. -/
def collectAll (scope : Scope) (found : Table Shape) : List Ty → Table Shape
  | [] => found
  | type :: rest => collectAll scope (collect scope found type) rest

/-- The shapes found so far and those in the parameters of what a place leads to. -/
def collectParameters (scope : Scope) (found : Table Shape) : List Parameter → Table Shape
  | [] => found
  | ⟨name, type, _, _⟩ :: rest =>
      collectParameters scope (collect (scope.enter .parameter name) found type) rest

/-- The shapes found so far and those in the properties of what a place leads to. -/
def collectProperties (scope : Scope) (found : Table Shape) : List Property → Table Shape
  | [] => found
  | ⟨name, type, _, _, _⟩ :: rest =>
      collectProperties scope (collect (scope.enter .property name) found type) rest

/-- The shapes found so far and those in calls at a place. -/
def collectCalls (scope : Scope) (found : Table Shape) : List Signature → Table Shape
  | [] => found
  | ⟨result, parameters⟩ :: rest =>
      collectCalls scope
        (collectParameters scope (collect scope.enterResult found result) parameters) rest

end

/-- The shapes found so far and those in a constructor. -/
def collectConstructor (scope : Scope) (found : Table Shape) (constructor : Constructor) :
    Table Shape :=
  collectParameters scope found constructor.parameters

/-- The shapes found so far and those in a getter. -/
def collectGetter (scope : Scope) (found : Table Shape) (getter : Getter) : Table Shape :=
  collect (scope.enter .getter getter.name) found getter.type

/-- The shapes found so far and those in a setter. -/
def collectSetter (scope : Scope) (found : Table Shape) (setter : Setter) : Table Shape :=
  collect (scope.enter .setter setter.name) found setter.parameter.type

/-- The shapes found so far and those in a method. -/
def collectMethod (scope : Scope) (found : Table Shape) (method : Method) : Table Shape :=
  let inside := scope.enter .method method.name
  collectParameters inside (collect inside.enterResult found method.result) method.parameters

/-- The members of a class that a configuration wants. -/
structure WantedMembers where
  constructors : List Constructor
  getters : List Getter
  setters : List Setter
  methods : List Method

/-- The members of a class that a configuration wants. -/
def wantedMembers (config : Config) (cls : Class) : WantedMembers :=
  let wants := config.includesMember cls.name
  { constructors := if wants constructorKey then cls.constructors else []
    getters := cls.getters.filter fun getter => wants getter.name
    setters := cls.setters.filter fun setter => wants setter.name
    methods := cls.methods.filter fun method => wants method.name }

/-- The shapes that the wanted members of a class use, in the order in which they are met. -/
def hoistedShapes (config : Config) (cls : Class) : Table Shape :=
  let scope := classScope cls
  let members := wantedMembers config cls
  let found := members.constructors.foldl (collectConstructor scope) Table.empty
  let found := members.getters.foldl (collectGetter scope) found
  let found := members.setters.foldl (collectSetter scope) found
  members.methods.foldl (collectMethod scope) found

end DartBindings.Emission
