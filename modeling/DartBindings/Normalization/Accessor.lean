import DartBindings.Heritage.Ancestor
import DartBindings.Naming
import DartBindings.Normalization.Step

/-!
Accessors in place of fields, and accessors that interfaces demand.

Every field of a class becomes a getter and, unless it is read-only, a setter.  A property of an
interface demands a getter from the classes that have the interface, and a setter when every
interface property of its name can be written.  A demand is met when a class on the way up has such
an accessor or declared a field of that name; what is not met is added.

Main exports: withFieldAccessors, demandedProperties, withDemandedAccessors, addDemandedAccessors
-/

namespace DartBindings.Normalization

/-- The class with accessors in place of its fields. -/
def withFieldAccessors (cls : Class) : Class :=
  { cls with
    properties := []
    getters := cls.getters ++ cls.properties.map Property.getter
    setters := cls.setters ++
      (cls.properties.filter fun property => !property.isReadonly).map Property.setter }

/-- The library with accessors in place of the fields of all classes. -/
def desugarFields (library : Library) : Library :=
  { library with classes := library.classes.map withFieldAccessors }

/-- Whether the last class of a name declares a field. -/
def declaresField (declared : Library) (className field : String) : Bool :=
  match declared.classes.reverse.find? (·.name == className) with
  | none => false
  | some cls => cls.properties.any (·.name == field)

/-- A class and the classes above it. -/
def levels (library : Library) (cls : Class) : List Class :=
  cls :: (Heritage.ancestors library cls).map (·.cls)

/-- The properties of all interfaces that a class has, as seen from the class. -/
def demandedProperties (library : Library) (cls : Class) : List Property :=
  (Heritage.implementedInterfaces library cls).flatMap fun implemented =>
    implemented.interface.properties.map (·.substitute implemented.bindings)

/-- Whether a field of that name was declared on one of the levels. -/
def fieldOnLevels (declared : Library) (classes : List Class) (name : String) : Bool :=
  classes.any fun cls => declaresField declared cls.name name

/-- Whether a class still needs a getter of that name. -/
def needsGetter (declared library : Library) (cls : Class) (name : String) : Bool :=
  !fieldOnLevels declared (levels library cls) name
    && !(levels library cls).any (·.hasGetter name)

/-- Whether a class still needs a setter of that name. -/
def needsSetter (declared library : Library) (cls : Class) (name : String) : Bool :=
  ((demandedProperties library cls).filter (·.name == name)).all (fun property =>
      !property.isReadonly)
    && !fieldOnLevels declared (levels library cls) name
    && !(levels library cls).any (·.hasSetter name)

/-- The class with the accessors that its interfaces demand and that no level has. -/
def withDemandedAccessors (declared library : Library) (cls : Class) : Class :=
  let demanded := firstOfName (·.name) [] (demandedProperties library cls)
  { cls with
    getters := cls.getters ++
      (demanded.filter fun property => needsGetter declared library cls property.name).map
        Property.getter
    setters := cls.setters ++
      (demanded.filter fun property => needsSetter declared library cls property.name).map
        Property.setter }

/-- The library with the accessors that interfaces demand, in view of the fields declared. -/
def addDemandedAccessors (declared library : Library) : Library :=
  pass (withDemandedAccessors declared) library

end DartBindings.Normalization
