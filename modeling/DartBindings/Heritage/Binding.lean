import DartBindings.Types.Basic

/-!
Binding the type parameters of a declaration to the arguments of a use.

A name without arguments stands for what it is bound to; an array of such a name is an array of that,
if it is a named type.  Arguments are resolved in the surroundings of the use first, so that bindings
compose along chains of heritage.

Main exports: Bindings, Ty.substitute, bind
-/

namespace DartBindings

/-- What type parameters are bound to.  Of several entries for one name the first counts. -/
abbrev Bindings := List (String × Ty)

namespace Bindings

/-- The type that a name is bound to. -/
def find? (bindings : Bindings) (name : String) : Option Ty :=
  List.lookup name bindings

end Bindings

/-- A type as it stands for a name that may be marked as an array. -/
def Ty.inPlaceOf (isArray : Bool) : Ty → Ty
  | .named reference =>
      .named (if isArray then { reference with isArray := true } else reference)
  | .function signature => .function signature
  | .literal shape => .literal shape

mutual

/-- The type with bound names replaced. -/
def Ty.substitute (bindings : Bindings) : Ty → Ty
  | .named ⟨name, args, isArray⟩ =>
      match (if args.isEmpty then bindings.find? name else none) with
      | some bound => bound.inPlaceOf isArray
      | none => .named ⟨name, Ty.substituteAll bindings args, isArray⟩
  | .function signature => .function (signature.substitute bindings)
  | .literal ⟨properties, calls⟩ =>
      .literal ⟨Property.substituteAll bindings properties, Signature.substituteAll bindings calls⟩

/-- The signature with bound names replaced. -/
def Signature.substitute (bindings : Bindings) : Signature → Signature
  | ⟨result, parameters⟩ =>
      ⟨result.substitute bindings, Parameter.substituteAll bindings parameters⟩

/-- The types with bound names replaced. -/
def Ty.substituteAll (bindings : Bindings) : List Ty → List Ty
  | [] => []
  | type :: rest => type.substitute bindings :: Ty.substituteAll bindings rest

/-- The parameters with bound names replaced. -/
def Parameter.substituteAll (bindings : Bindings) : List Parameter → List Parameter
  | [] => []
  | ⟨name, type, optional, doc⟩ :: rest =>
      ⟨name, type.substitute bindings, optional, doc⟩ :: Parameter.substituteAll bindings rest

/-- The properties with bound names replaced. -/
def Property.substituteAll (bindings : Bindings) : List Property → List Property
  | [] => []
  | ⟨name, type, isStatic, isReadonly, doc⟩ :: rest =>
      ⟨name, type.substitute bindings, isStatic, isReadonly, doc⟩
        :: Property.substituteAll bindings rest

/-- The signatures with bound names replaced. -/
def Signature.substituteAll (bindings : Bindings) : List Signature → List Signature
  | [] => []
  | signature :: rest => signature.substitute bindings :: Signature.substituteAll bindings rest

end

/-- Type parameters paired with the arguments of a use, which are resolved in its surroundings.
Parameters without an argument stay unbound; of repeated parameters the last counts. -/
def bind (parameters : List String) (args : List Ty) (surroundings : Bindings) : Bindings :=
  ((parameters.zip args).map fun (parameter, arg) =>
    (parameter, arg.substitute surroundings)).reverse

/-- The property with bound names in its type replaced. -/
def Property.substitute (bindings : Bindings) (property : Property) : Property :=
  { property with type := property.type.substitute bindings }

end DartBindings
