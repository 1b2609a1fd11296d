import DartBindings.Types.Basic

/-!
Types with the documentation inside them changed.

The properties of a shape carry documentation, and a shape may stand anywhere inside a type.  Two types
that are equal without it have the same names, arguments, parameters, properties and calls, and differ at
most in the documentation of their properties.

Main exports: Ty.withDocs, Ty.withDocs_id
-/

namespace DartBindings

mutual

/-- The type with the documentation of the properties in it changed. -/
def Ty.withDocs (change : String → String) : Ty → Ty
  | .named ⟨name, args, isArray⟩ => .named ⟨name, Ty.withDocsAll change args, isArray⟩
  | .function signature => .function (signature.withDocs change)
  | .literal ⟨properties, calls⟩ =>
      .literal ⟨Property.withDocsAll change properties, Signature.withDocsAll change calls⟩

/-- The signature with the documentation of the properties in it changed. -/
def Signature.withDocs (change : String → String) : Signature → Signature
  | ⟨result, parameters⟩ => ⟨result.withDocs change, Parameter.withDocsAll change parameters⟩

/-- The types with the documentation of the properties in them changed. -/
def Ty.withDocsAll (change : String → String) : List Ty → List Ty
  | [] => []
  | type :: rest => type.withDocs change :: Ty.withDocsAll change rest

/-- The parameters with the documentation of the properties in their types changed. -/
def Parameter.withDocsAll (change : String → String) : List Parameter → List Parameter
  | [] => []
  | ⟨name, type, optional, doc⟩ :: rest =>
      ⟨name, type.withDocs change, optional, doc⟩ :: Parameter.withDocsAll change rest

/-- The properties with their documentation and that in their types changed. -/
def Property.withDocsAll (change : String → String) : List Property → List Property
  | [] => []
  | ⟨name, type, isStatic, isReadonly, doc⟩ :: rest =>
      ⟨name, type.withDocs change, isStatic, isReadonly, change doc⟩
        :: Property.withDocsAll change rest

/-- The signatures with the documentation of the properties in them changed. -/
def Signature.withDocsAll (change : String → String) : List Signature → List Signature
  | [] => []
  | signature :: rest => signature.withDocs change :: Signature.withDocsAll change rest

end

variable {change : String → String}

/-! ### Lists -/

theorem Parameter.withDocsAll_append (first second : List Parameter) :
    Parameter.withDocsAll change (first ++ second) =
      Parameter.withDocsAll change first ++ Parameter.withDocsAll change second := by
  induction first with
  | nil => rfl
  | cons parameter rest ih =>
      obtain ⟨name, type, optional, doc⟩ := parameter
      rw [List.cons_append, Parameter.withDocsAll, Parameter.withDocsAll, ih, List.cons_append]

theorem Property.withDocsAll_append (first second : List Property) :
    Property.withDocsAll change (first ++ second) =
      Property.withDocsAll change first ++ Property.withDocsAll change second := by
  induction first with
  | nil => rfl
  | cons property rest ih =>
      obtain ⟨name, type, isStatic, isReadonly, doc⟩ := property
      rw [List.cons_append, Property.withDocsAll, Property.withDocsAll, ih, List.cons_append]

/-! ### Nothing to change -/

mutual

/-- Documentation that is kept leaves the type as it is. -/
theorem Ty.withDocs_id : ∀ type : Ty, type.withDocs id = type
  | .named ⟨_, args, _⟩ => by rw [Ty.withDocs, withDocsAll_id args]
  | .function signature => by rw [Ty.withDocs, Signature.withDocs_id signature]
  | .literal ⟨properties, calls⟩ => by
      rw [Ty.withDocs, Property.withDocsAll_id properties, Signature.withDocsAll_id calls]

theorem Signature.withDocs_id : ∀ signature : Signature, signature.withDocs id = signature
  | ⟨result, parameters⟩ => by
      rw [Signature.withDocs, Ty.withDocs_id result, Parameter.withDocsAll_id parameters]

theorem withDocsAll_id : ∀ types : List Ty, Ty.withDocsAll id types = types
  | [] => by rw [Ty.withDocsAll]
  | type :: rest => by rw [Ty.withDocsAll, Ty.withDocs_id type, withDocsAll_id rest]

theorem Parameter.withDocsAll_id :
    ∀ parameters : List Parameter, Parameter.withDocsAll id parameters = parameters
  | [] => by rw [Parameter.withDocsAll]
  | ⟨_, type, _, _⟩ :: rest => by
      rw [Parameter.withDocsAll, Ty.withDocs_id type, Parameter.withDocsAll_id rest]

theorem Property.withDocsAll_id :
    ∀ properties : List Property, Property.withDocsAll id properties = properties
  | [] => by rw [Property.withDocsAll]
  | ⟨_, type, _, _, _⟩ :: rest => by
      rw [Property.withDocsAll, Ty.withDocs_id type, id, Property.withDocsAll_id rest]

theorem Signature.withDocsAll_id :
    ∀ signatures : List Signature, Signature.withDocsAll id signatures = signatures
  | [] => by rw [Signature.withDocsAll]
  | signature :: rest => by
      rw [Signature.withDocsAll, Signature.withDocs_id signature, Signature.withDocsAll_id rest]

end

end DartBindings
