import DartBindings.Json.Value
import DartBindings.Library.Basic

/-!
Libraries as JSON documents.

A type says in its first member which of the three kinds it is.  Where only one kind can stand, as in
the heritage of a class or the call signatures of a shape, that member is left out.

Main exports: Ty.document, Class.document, Interface.document, Library.document
-/

namespace DartBindings

mutual

/-- The document of a type. -/
def Ty.document : Ty → Json
  | .named reference => .object (("kind", .string "named") :: reference.members)
  | .function signature => .object (("kind", .string "function") :: signature.members)
  | .literal shape => .object (("kind", .string "literal") :: shape.members)

/-- The members of the document of a reference. -/
def NamedType.members : NamedType → List (String × Json)
  | ⟨name, args, isArray⟩ =>
      [("name", .string name), ("type_args", .array (Ty.documents args)),
        ("is_array", .bool isArray)]

/-- The members of the document of a signature. -/
def Signature.members : Signature → List (String × Json)
  | ⟨result, parameters⟩ =>
      [("return_type", result.document), ("parameters", .array (Parameter.documents parameters))]

/-- The members of the document of a shape. -/
def Shape.members : Shape → List (String × Json)
  | ⟨properties, calls⟩ =>
      [("properties", .array (Property.documents properties)),
        ("call_signatures", .array (Signature.documents calls))]

/-- The document of a parameter. -/
def Parameter.document : Parameter → Json
  | ⟨name, type, optional, doc⟩ =>
      .object [("name", .string name), ("type", type.document), ("optional", .bool optional),
        ("doc", .string doc)]

/-- The document of a property. -/
def Property.document : Property → Json
  | ⟨name, type, isStatic, isReadonly, doc⟩ =>
      .object [("name", .string name), ("type", type.document), ("is_static", .bool isStatic),
        ("is_readonly", .bool isReadonly), ("doc", .string doc)]

/-- The documents of types. -/
def Ty.documents : List Ty → List Json
  | [] => []
  | type :: rest => type.document :: Ty.documents rest

/-- The documents of parameters. -/
def Parameter.documents : List Parameter → List Json
  | [] => []
  | parameter :: rest => parameter.document :: Parameter.documents rest

/-- The documents of properties. -/
def Property.documents : List Property → List Json
  | [] => []
  | property :: rest => property.document :: Property.documents rest

/-- The documents of signatures, which have no member for their kind. -/
def Signature.documents : List Signature → List Json
  | [] => []
  | signature :: rest => .object signature.members :: Signature.documents rest

end

/-- The document of a reference by itself. -/
def NamedType.document (reference : NamedType) : Json :=
  .object reference.members

/-- The document of a getter. -/
def Getter.document (getter : Getter) : Json :=
  .object [("name", .string getter.name), ("return_type", getter.type.document),
    ("is_static", .bool getter.isStatic), ("doc", .string getter.doc)]

/-- The document of a setter. -/
def Setter.document (setter : Setter) : Json :=
  .object [("name", .string setter.name), ("parameter", setter.parameter.document),
    ("is_static", .bool setter.isStatic), ("doc", .string setter.doc)]

/-- The document of a method. -/
def Method.document (method : Method) : Json :=
  .object [("name", .string method.name),
    ("modifiers", Json.strings (method.modifiers.map Modifier.keyword)),
    ("return_type", method.result.document),
    ("parameters", .array (Parameter.documents method.parameters)), ("doc", .string method.doc)]

/-- The document of a constructor. -/
def Constructor.document (constructor : Constructor) : Json :=
  .object [("parameters", .array (Parameter.documents constructor.parameters)),
    ("doc", .string constructor.doc)]

/-- The document of a class. -/
def Class.document (cls : Class) : Json :=
  .object [("name", .string cls.name), ("is_abstract", .bool cls.isAbstract),
    ("type_params", Json.strings cls.typeParams),
    ("super_type", Json.ofOption NamedType.document cls.superType),
    ("interfaces", .array (cls.interfaces.map NamedType.document)),
    ("constructors", .array (cls.constructors.map Constructor.document)),
    ("properties", .array (Property.documents cls.properties)),
    ("getters", .array (cls.getters.map Getter.document)),
    ("setters", .array (cls.setters.map Setter.document)),
    ("methods", .array (cls.methods.map Method.document)), ("doc", .string cls.doc)]

/-- The document of an interface. -/
def Interface.document (interface : Interface) : Json :=
  .object [("name", .string interface.name), ("type_params", Json.strings interface.typeParams),
    ("super_types", .array (interface.superTypes.map NamedType.document)),
    ("constructors", .array (interface.constructors.map Constructor.document)),
    ("properties", .array (Property.documents interface.properties)),
    ("methods", .array (interface.methods.map Method.document)),
    ("doc", .string interface.doc)]

/-- The document of a library. -/
def Library.document (library : Library) : Json :=
  .object [("classes", .array (library.classes.map Class.document)),
    ("interfaces", .array (library.interfaces.map Interface.document))]

end DartBindings
