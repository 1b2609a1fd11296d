/-!
Types of declared members.

A type is a name with arguments, a function signature, or an anonymous structural shape.  Names that
the generator gives a meaning of its own are `dynamic`, for whatever it cannot describe precisely,
and `this`, for the class around the member.  A shape has no name: it is identified by the place
where it occurs.

Main exports: Ty, NamedType, Signature, Parameter, Property, Shape
-/

namespace DartBindings

mutual

/-- A type. -/
inductive Ty where
  | named (reference : NamedType)
  | function (signature : Signature)
  | literal (shape : Shape)

/-- A reference by name, possibly generic and possibly an array. -/
structure NamedType where
  name : String
  args : List Ty := []
  isArray : Bool := false

/-- What a call takes and gives back. -/
structure Signature where
  result : Ty
  parameters : List Parameter

/-- A named parameter of a call. -/
structure Parameter where
  name : String
  type : Ty
  optional : Bool := false
  doc : String := ""

/-- A named value of a class, an interface or a shape. -/
structure Property where
  name : String
  type : Ty
  isStatic : Bool := false
  isReadonly : Bool := false
  doc : String := ""

/-- An anonymous structural type: what it has, and how it can be called. -/
structure Shape where
  properties : List Property := []
  calls : List Signature := []

end

namespace Ty

/-- The name that stands for a type that cannot be described. -/
def dynamicName : String := "dynamic"

/-- The name that stands for the class around a member. -/
def selfName : String := "this"

/-- A plain type name without arguments. -/
def ofName (name : String) : Ty :=
  .named { name := name }

/-- The type that stands for whatever cannot be described. -/
def dynamic : Ty := ofName dynamicName

instance : Inhabited Ty := ⟨dynamic⟩

/-- The reference inside a named type. -/
def reference? : Ty → Option NamedType
  | .named reference => some reference
  | .function _ => none
  | .literal _ => none

/-- Whether the type is an anonymous shape. -/
def isLiteral : Ty → Bool
  | .named _ => false
  | .function _ => false
  | .literal _ => true

end Ty

deriving instance Inhabited for NamedType, Signature, Parameter, Property, Shape

end DartBindings
