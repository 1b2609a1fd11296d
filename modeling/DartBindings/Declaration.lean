import DartBindings.Types.Basic

/-!
Declarations: classes, interfaces and their members.

A class has fields, accessors and methods side by side; an interface has properties and methods.
Interfaces hold constructors only because a class that extends one may need them.

Main exports: Modifier, Getter, Setter, Method, Constructor, Class, Interface
-/

namespace DartBindings

/-- The markers of a method that are kept. -/
inductive Modifier where
  | static
  | override
deriving Repr, Inhabited, DecidableEq

namespace Modifier

/-- The keyword of a marker. -/
def keyword : Modifier → String
  | .static => "static"
  | .override => "override"

/-- The marker that a keyword denotes. -/
def ofKeyword? (keyword : String) : Option Modifier :=
  if keyword = "static" then some .static
  else if keyword = "override" then some .override
  else none

/-- Every modifier is found by its own keyword. -/
theorem ofKeyword?_keyword (modifier : Modifier) :
    ofKeyword? modifier.keyword = some modifier := by
  cases modifier <;> decide

end Modifier

/-- A value that can be read from an object. -/
structure Getter where
  name : String
  type : Ty
  isStatic : Bool := false
  doc : String := ""
deriving Inhabited

/-- A value that can be written to an object. -/
structure Setter where
  name : String
  parameter : Parameter
  isStatic : Bool := false
  doc : String := ""
deriving Inhabited

/-- The accessor that reads a property. -/
def Property.getter (property : Property) : Getter :=
  { name := property.name, type := property.type, isStatic := property.isStatic,
    doc := property.doc }

/-- The accessor that writes a property, through a parameter with the property's name and type. -/
def Property.setter (property : Property) : Setter :=
  { name := property.name,
    parameter := { name := property.name, type := property.type, doc := property.doc },
    isStatic := property.isStatic, doc := property.doc }

/-- A callable member. -/
structure Method where
  name : String
  modifiers : List Modifier := []
  result : Ty
  parameters : List Parameter := []
  doc : String := ""
deriving Inhabited

/-- Whether the method belongs to the class and not to its objects. -/
def Method.isStatic (method : Method) : Bool :=
  method.modifiers.contains .static

/-- A way to make an object. -/
structure Constructor where
  parameters : List Parameter := []
  doc : String := ""
deriving Inhabited

/-- A declared class. -/
structure Class where
  name : String
  isAbstract : Bool := false
  typeParams : List String := []
  superType : Option NamedType := none
  interfaces : List NamedType := []
  constructors : List Constructor := []
  properties : List Property := []
  getters : List Getter := []
  setters : List Setter := []
  methods : List Method := []
  doc : String := ""
deriving Inhabited

namespace Class

/-- Whether the class itself has a getter of that name. -/
def hasGetter (cls : Class) (name : String) : Bool :=
  cls.getters.any (·.name == name)

/-- Whether the class itself has a setter of that name. -/
def hasSetter (cls : Class) (name : String) : Bool :=
  cls.setters.any (·.name == name)

/-- The first method of that name. -/
def method? (cls : Class) (name : String) : Option Method :=
  cls.methods.find? (·.name == name)

end Class

/-- A declared interface. -/
structure Interface where
  name : String
  typeParams : List String := []
  superTypes : List NamedType := []
  constructors : List Constructor := []
  properties : List Property := []
  methods : List Method := []
  doc : String := ""
deriving Inhabited

/-- The first method of that name. -/
def Interface.method? (interface : Interface) (name : String) : Option Method :=
  interface.methods.find? (·.name == name)

end DartBindings
