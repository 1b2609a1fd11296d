import DartBindings.Config.Basic
import DartBindings.Heritage.Binding
import DartBindings.Library.Basic
import DartBindings.Naming

/-!
Libraries without hidden names.

A type has no hidden names when no shape that stands anywhere in it has a property with a hidden name.
Replacing names by types without hidden names keeps a type so.  A declaration has no hidden names when
neither its members nor any of its types have.

Main exports: Library.NothingHidden, Ty.NothingHidden.substitute, nothingHidden_bind
-/

namespace DartBindings

/-- The shape stands somewhere in the type. -/
inductive Ty.HasShape : Ty → Shape → Prop
  | here {shape : Shape} : HasShape (.literal shape) shape
  | argument {reference : NamedType} {arg : Ty} {shape : Shape} (member : arg ∈ reference.args)
      (deeper : arg.HasShape shape) : HasShape (.named reference) shape
  | result {signature : Signature} {shape : Shape} (deeper : signature.result.HasShape shape) :
      HasShape (.function signature) shape
  | parameter {signature : Signature} {parameter : Parameter} {shape : Shape}
      (member : parameter ∈ signature.parameters) (deeper : parameter.type.HasShape shape) :
      HasShape (.function signature) shape
  | property {outer : Shape} {property : Property} {shape : Shape}
      (member : property ∈ outer.properties) (deeper : property.type.HasShape shape) :
      HasShape (.literal outer) shape
  | call {outer : Shape} {signature : Signature} {shape : Shape} (member : signature ∈ outer.calls)
      (deeper : (Ty.function signature).HasShape shape) : HasShape (.literal outer) shape

/-- No shape in the type has a property with a hidden name. -/
def Ty.NothingHidden (type : Ty) : Prop :=
  ∀ shape, type.HasShape shape → ∀ property ∈ shape.properties, isHidden property.name = false

/-- The name of a property is not hidden, and nothing in its type is. -/
structure Property.NothingHidden (property : Property) : Prop where
  name : isHidden property.name = false
  type : property.type.NothingHidden

/-- Nothing in the types of a signature is hidden. -/
structure Signature.NothingHidden (signature : Signature) : Prop where
  result : signature.result.NothingHidden
  parameters : ∀ parameter ∈ signature.parameters, parameter.type.NothingHidden

/-- Nothing in the arguments of a named type is hidden. -/
def NamedType.NothingHidden (reference : NamedType) : Prop :=
  ∀ arg ∈ reference.args, arg.NothingHidden

/-! ### Types -/

variable {bindings : Bindings}

theorem Ty.nothingHidden_named {reference : NamedType} :
    (Ty.named reference).NothingHidden ↔ reference.NothingHidden := by
  constructor
  · intro nothing arg member shape deeper
    exact nothing shape (.argument member deeper)
  · rintro nothing shape (_ | ⟨member, deeper⟩)
    exact nothing _ member shape deeper

theorem Ty.nothingHidden_function {signature : Signature} :
    (Ty.function signature).NothingHidden ↔ signature.NothingHidden := by
  constructor
  · intro nothing
    exact ⟨fun shape deeper => nothing shape (.result deeper),
      fun parameter member shape deeper => nothing shape (.parameter member deeper)⟩
  · intro nothing shape has
    cases has with
    | result deeper => exact nothing.result shape deeper
    | parameter member deeper => exact nothing.parameters _ member shape deeper

/-- A shape is free of hidden names when its properties and its calls are. -/
theorem Ty.nothingHidden_literal {shape : Shape} :
    (Ty.literal shape).NothingHidden ↔
      (∀ property ∈ shape.properties, property.NothingHidden) ∧
        ∀ signature ∈ shape.calls, signature.NothingHidden := by
  constructor
  · intro nothing
    refine ⟨fun property member => ⟨nothing shape .here property member, ?_⟩, ?_⟩
    · exact fun inner deeper => nothing inner (.property member deeper)
    · intro signature member
      exact nothingHidden_function.1 fun inner deeper => nothing inner (.call member deeper)
  · rintro ⟨properties, calls⟩ inner has
    cases has with
    | here => exact fun property member => (properties property member).name
    | property member deeper => exact (properties _ member).type inner deeper
    | call member deeper => exact nothingHidden_function.2 (calls _ member) inner deeper

/-- A plain name holds no members, so nothing in it is hidden. -/
theorem Ty.nothingHidden_ofName (name : String) : (Ty.ofName name).NothingHidden :=
  nothingHidden_named.2 fun _ member => absurd member List.not_mem_nil

/-- The array mark of another place changes no names. -/
theorem Ty.nothingHidden_inPlaceOf {type : Ty} (isArray : Bool) (nothing : type.NothingHidden) :
    (type.inPlaceOf isArray).NothingHidden := by
  cases type with
  | named reference =>
      rw [Ty.nothingHidden_named] at nothing
      rw [Ty.inPlaceOf, Ty.nothingHidden_named]
      cases isArray with
      | true => exact nothing
      | false => exact nothing
  | function signature => exact nothing
  | literal shape => exact nothing

/-! ### Replacing names -/

/-- No type that a name is bound to has anything hidden. -/
def Bindings.NothingHidden (bindings : Bindings) : Prop :=
  ∀ entry ∈ bindings, entry.2.NothingHidden

/-- What a name is bound to is free of hidden names if all bound types are. -/
theorem Bindings.NothingHidden.find? (nothing : bindings.NothingHidden) {name : String} {type : Ty}
    (found : bindings.find? name = some type) : type.NothingHidden := by
  obtain ⟨front, rest, split, -⟩ := List.lookup_eq_some_iff.1 found
  exact nothing (name, type) (by simp [split])

mutual

/-- Replacing names by types without hidden names brings no hidden names into a type. -/
theorem Ty.NothingHidden.substitute (bound : bindings.NothingHidden) :
    ∀ {type : Ty}, type.NothingHidden → (type.substitute bindings).NothingHidden
  | .named ⟨name, args, isArray⟩, nothing => by
      rw [Ty.substitute]
      split
      · -- A bound name is replaced as a whole, and it had no arguments.
        next found =>
          obtain ⟨-, found⟩ := Option.ite_none_right_eq_some.1 found
          exact Ty.nothingHidden_inPlaceOf isArray (bound.find? found)
      · rw [Ty.nothingHidden_named] at nothing ⊢
        exact nothingHidden_substituteAll bound nothing
  | .function signature, nothing => by
      rw [Ty.substitute]
      rw [Ty.nothingHidden_function] at nothing ⊢
      exact Signature.NothingHidden.substitute bound nothing
  | .literal ⟨properties, calls⟩, nothing => by
      rw [Ty.substitute]
      rw [Ty.nothingHidden_literal] at nothing ⊢
      exact ⟨Property.nothingHidden_substituteAll bound nothing.1,
        Signature.nothingHidden_substituteAll bound nothing.2⟩

theorem Signature.NothingHidden.substitute (bound : bindings.NothingHidden) :
    ∀ {signature : Signature}, signature.NothingHidden →
      (signature.substitute bindings).NothingHidden
  | ⟨_, _⟩, nothing => by
      rw [Signature.substitute]
      exact ⟨Ty.NothingHidden.substitute bound nothing.result,
        Parameter.nothingHidden_substituteAll bound nothing.parameters⟩

theorem nothingHidden_substituteAll (bound : bindings.NothingHidden) :
    ∀ {types : List Ty}, (∀ type ∈ types, type.NothingHidden) →
      ∀ type ∈ Ty.substituteAll bindings types, type.NothingHidden
  | [], _ => by simp [Ty.substituteAll]
  | _ :: _, nothing => by
      rw [Ty.substituteAll]
      rw [List.forall_mem_cons] at nothing ⊢
      exact ⟨Ty.NothingHidden.substitute bound nothing.1,
        nothingHidden_substituteAll bound nothing.2⟩

theorem Parameter.nothingHidden_substituteAll (bound : bindings.NothingHidden) :
    ∀ {parameters : List Parameter}, (∀ parameter ∈ parameters, parameter.type.NothingHidden) →
      ∀ parameter ∈ Parameter.substituteAll bindings parameters, parameter.type.NothingHidden
  | [], _ => by simp [Parameter.substituteAll]
  | ⟨_, _, _, _⟩ :: _, nothing => by
      rw [Parameter.substituteAll]
      rw [List.forall_mem_cons] at nothing ⊢
      exact ⟨Ty.NothingHidden.substitute bound nothing.1,
        Parameter.nothingHidden_substituteAll bound nothing.2⟩

theorem Property.nothingHidden_substituteAll (bound : bindings.NothingHidden) :
    ∀ {properties : List Property}, (∀ property ∈ properties, property.NothingHidden) →
      ∀ property ∈ Property.substituteAll bindings properties, property.NothingHidden
  | [], _ => by simp [Property.substituteAll]
  | ⟨_, _, _, _, _⟩ :: _, nothing => by
      rw [Property.substituteAll]
      rw [List.forall_mem_cons] at nothing ⊢
      exact ⟨⟨nothing.1.name, Ty.NothingHidden.substitute bound nothing.1.type⟩,
        Property.nothingHidden_substituteAll bound nothing.2⟩

theorem Signature.nothingHidden_substituteAll (bound : bindings.NothingHidden) :
    ∀ {signatures : List Signature}, (∀ signature ∈ signatures, signature.NothingHidden) →
      ∀ signature ∈ Signature.substituteAll bindings signatures, signature.NothingHidden
  | [], _ => by simp [Signature.substituteAll]
  | _ :: _, nothing => by
      rw [Signature.substituteAll]
      rw [List.forall_mem_cons] at nothing ⊢
      exact ⟨Signature.NothingHidden.substitute bound nothing.1,
        Signature.nothingHidden_substituteAll bound nothing.2⟩

end

/-- A property keeps its visible name when names in its type are replaced. -/
theorem Property.NothingHidden.substitute (bound : bindings.NothingHidden) {property : Property}
    (nothing : property.NothingHidden) : (property.substitute bindings).NothingHidden :=
  ⟨nothing.name, nothing.type.substitute bound⟩

/-- The arguments of a use bind parameters to types without hidden names. -/
theorem nothingHidden_bind (surroundings : bindings.NothingHidden) (parameters : List String)
    {args : List Ty} (nothing : ∀ arg ∈ args, arg.NothingHidden) :
    Bindings.NothingHidden (bind parameters args bindings) := by
  intro entry member
  obtain ⟨⟨parameter, arg⟩, paired, rfl⟩ := List.mem_map.1 (List.mem_reverse.1 member)
  exact (nothing arg (List.of_mem_zip paired).2).substitute surroundings

/-! ### Declarations -/

/-- Nothing in the types of what a constructor takes is hidden. -/
def Constructor.NothingHidden (constructor : Constructor) : Prop :=
  ∀ parameter ∈ constructor.parameters, parameter.type.NothingHidden

/-- The name of a getter is not hidden, and nothing in its type is. -/
structure Getter.NothingHidden (getter : Getter) : Prop where
  name : isHidden getter.name = false
  type : getter.type.NothingHidden

/-- The name of a setter is not hidden, and nothing in its type is. -/
structure Setter.NothingHidden (setter : Setter) : Prop where
  name : isHidden setter.name = false
  type : setter.parameter.type.NothingHidden

/-- The name of a method is not hidden, and nothing in its types is. -/
structure Method.NothingHidden (method : Method) : Prop where
  name : isHidden method.name = false
  result : method.result.NothingHidden
  parameters : ∀ parameter ∈ method.parameters, parameter.type.NothingHidden

/-- Nothing in a class is hidden: not its name, no name of a member, nothing in its heritage and in the
types of its members. -/
structure Class.NothingHidden (cls : Class) : Prop where
  name : isHidden cls.name = false
  superType : ∀ reference ∈ cls.superType, reference.NothingHidden
  interfaces : ∀ reference ∈ cls.interfaces, reference.NothingHidden
  constructors : ∀ constructor ∈ cls.constructors, constructor.NothingHidden
  properties : ∀ property ∈ cls.properties, property.NothingHidden
  getters : ∀ getter ∈ cls.getters, getter.NothingHidden
  setters : ∀ setter ∈ cls.setters, setter.NothingHidden
  methods : ∀ method ∈ cls.methods, method.NothingHidden

/-- Nothing in an interface is hidden. -/
structure Interface.NothingHidden (interface : Interface) : Prop where
  name : isHidden interface.name = false
  superTypes : ∀ reference ∈ interface.superTypes, reference.NothingHidden
  constructors : ∀ constructor ∈ interface.constructors, constructor.NothingHidden
  properties : ∀ property ∈ interface.properties, property.NothingHidden
  methods : ∀ method ∈ interface.methods, method.NothingHidden

/-- Nothing in a library is hidden. -/
structure Library.NothingHidden (library : Library) : Prop where
  classes : ∀ cls ∈ library.classes, cls.NothingHidden
  interfaces : ∀ interface ∈ library.interfaces, interface.NothingHidden

/-- Nothing in a library is hidden, and the configuration declares the names of all classes and
interfaces in it. -/
structure Library.AllWanted (config : Config) (library : Library) : Prop where
  classes : ∀ cls ∈ library.classes, cls.NothingHidden ∧ cls.name ∈ config.declarations.keys
  interfaces : ∀ interface ∈ library.interfaces,
    interface.NothingHidden ∧ interface.name ∈ config.declarations.keys

theorem Property.NothingHidden.getter {property : Property} (nothing : property.NothingHidden) :
    property.getter.NothingHidden :=
  ⟨nothing.name, nothing.type⟩

theorem Property.NothingHidden.setter {property : Property} (nothing : property.NothingHidden) :
    property.setter.NothingHidden :=
  ⟨nothing.name, nothing.type⟩

end DartBindings
