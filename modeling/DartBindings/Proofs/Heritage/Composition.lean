import DartBindings.Heritage.Binding

/-!
Replacing names twice.

Replacing names first by what one declaration binds them to and then by what the surroundings bind is the
same as replacing them once by what is resolved already, provided that the surroundings bind no name that
the first replacement leaves alone.  Arrays of names, names with arguments, functions and shapes make no
difference, and neither do missing, surplus and repeated parameters.  So bindings compose along heritage.

Main exports: Bindings.Shield, Ty.substitute_resolvedIn, substitute_bind
-/

namespace DartBindings

mutual

/-- The names without arguments in a type, which are all that can be bound. -/
def Ty.plainNames : Ty → List String
  | .named ⟨name, args, _⟩ => if args.isEmpty then [name] else Ty.plainNamesAmong args
  | .function signature => signature.plainNames
  | .literal ⟨properties, calls⟩ =>
      Property.plainNamesAmong properties ++ Signature.plainNamesAmong calls

/-- The names without arguments in a signature. -/
def Signature.plainNames : Signature → List String
  | ⟨result, parameters⟩ => result.plainNames ++ Parameter.plainNamesAmong parameters

/-- The names without arguments in types. -/
def Ty.plainNamesAmong : List Ty → List String
  | [] => []
  | type :: rest => type.plainNames ++ Ty.plainNamesAmong rest

/-- The names without arguments in the types of parameters. -/
def Parameter.plainNamesAmong : List Parameter → List String
  | [] => []
  | ⟨_, type, _, _⟩ :: rest => type.plainNames ++ Parameter.plainNamesAmong rest

/-- The names without arguments in the types of properties. -/
def Property.plainNamesAmong : List Property → List String
  | [] => []
  | ⟨_, type, _, _, _⟩ :: rest => type.plainNames ++ Property.plainNamesAmong rest

/-- The names without arguments in signatures. -/
def Signature.plainNamesAmong : List Signature → List String
  | [] => []
  | signature :: rest => signature.plainNames ++ Signature.plainNamesAmong rest

end

/-- The bindings with what they bind resolved in the surroundings. -/
def Bindings.resolvedIn (bindings surroundings : Bindings) : Bindings :=
  bindings.map fun (name, bound) => (name, bound.substitute surroundings)

/-- The surroundings bind none of the names that the bindings leave alone. -/
def Bindings.Shield (bindings surroundings : Bindings) (names : List String) : Prop :=
  ∀ name ∈ names, bindings.find? name = none → surroundings.find? name = none

/-- The parameters that receive an argument. -/
def boundParameters (parameters : List String) (args : List Ty) : List String :=
  parameters.take args.length

variable {bindings surroundings : Bindings}

/-! ### Bindings -/

/-- Resolved bindings bind the same names, to what the surroundings make of the types. -/
theorem Bindings.find?_resolvedIn (bindings surroundings : Bindings) (name : String) :
    (bindings.resolvedIn surroundings).find? name =
      (bindings.find? name).map (·.substitute surroundings) := by
  induction bindings with
  | nil => rfl
  | cons entry rest ih =>
      obtain ⟨key, bound⟩ := entry
      simp only [Bindings.find?, Bindings.resolvedIn, List.map_cons, List.lookup_cons] at ih ⊢
      cases name == key with
      | true => rfl
      | false => exact ih

theorem Bindings.Shield.left {first second : List String}
    (shield : bindings.Shield surroundings (first ++ second)) :
    bindings.Shield surroundings first :=
  fun name member => shield name (List.mem_append_left _ member)

theorem Bindings.Shield.right {first second : List String}
    (shield : bindings.Shield surroundings (first ++ second)) :
    bindings.Shield surroundings second :=
  fun name member => shield name (List.mem_append_right _ member)

/-! ### Nothing to replace -/

/-- A place without an array mark leaves a type as it is. -/
theorem Ty.inPlaceOf_false (type : Ty) : type.inPlaceOf false = type := by
  cases type with
  | named reference => rfl
  | function signature => rfl
  | literal shape => rfl

mutual

/-- Without bindings a type stays as it is. -/
theorem Ty.substitute_nil : ∀ type : Ty, type.substitute [] = type
  | .named ⟨name, args, isArray⟩ => by
      have unbound : Bindings.find? [] name = none := rfl
      rw [Ty.substitute, unbound, ite_self, substituteAll_nil args]
  | .function signature => by
      rw [Ty.substitute, Signature.substitute_nil signature]
  | .literal ⟨properties, calls⟩ => by
      rw [Ty.substitute, Property.substituteAll_nil properties, Signature.substituteAll_nil calls]

theorem Signature.substitute_nil : ∀ signature : Signature, signature.substitute [] = signature
  | ⟨result, parameters⟩ => by
      rw [Signature.substitute, Ty.substitute_nil result, Parameter.substituteAll_nil parameters]

theorem substituteAll_nil : ∀ types : List Ty, Ty.substituteAll [] types = types
  | [] => by rw [Ty.substituteAll]
  | type :: rest => by rw [Ty.substituteAll, Ty.substitute_nil type, substituteAll_nil rest]

theorem Parameter.substituteAll_nil :
    ∀ parameters : List Parameter, Parameter.substituteAll [] parameters = parameters
  | [] => by rw [Parameter.substituteAll]
  | ⟨_, type, _, _⟩ :: rest => by
      rw [Parameter.substituteAll, Ty.substitute_nil type, Parameter.substituteAll_nil rest]

theorem Property.substituteAll_nil :
    ∀ properties : List Property, Property.substituteAll [] properties = properties
  | [] => by rw [Property.substituteAll]
  | ⟨_, type, _, _, _⟩ :: rest => by
      rw [Property.substituteAll, Ty.substitute_nil type, Property.substituteAll_nil rest]

theorem Signature.substituteAll_nil :
    ∀ signatures : List Signature, Signature.substituteAll [] signatures = signatures
  | [] => by rw [Signature.substituteAll]
  | signature :: rest => by
      rw [Signature.substituteAll, Signature.substitute_nil signature,
        Signature.substituteAll_nil rest]

end

/-! ### Replacing twice -/

/-- The mark of an array is put on before or after names are replaced. -/
theorem Ty.substitute_inPlaceOf (surroundings : Bindings) (isArray : Bool) (type : Ty) :
    (type.inPlaceOf isArray).substitute surroundings =
      (type.substitute surroundings).inPlaceOf isArray := by
  cases isArray with
  | false => rw [Ty.inPlaceOf_false, Ty.inPlaceOf_false]
  | true =>
      cases type with
      | named reference =>
          obtain ⟨name, args, marked⟩ := reference
          simp only [Ty.inPlaceOf, if_true, Ty.substitute]
          split
          · -- A bound name: of two marks that are put on, the first makes no difference.
            next bound found =>
              cases bound with
              | named inner => cases marked <;> rfl
              | function signature => rfl
              | literal shape => rfl
          · rfl
      | function signature => rfl
      | literal shape =>
          obtain ⟨properties, calls⟩ := shape
          rfl

mutual

/-- Replacing names by what is resolved in the surroundings is replacing them first and then the names
that the surroundings bind. -/
theorem Ty.substitute_resolvedIn :
    ∀ {type : Ty}, bindings.Shield surroundings type.plainNames →
      type.substitute (bindings.resolvedIn surroundings) =
        (type.substitute bindings).substitute surroundings
  | .named ⟨name, [], isArray⟩, shield => by
      rw [Ty.substitute, Ty.substitute, List.isEmpty_nil, if_pos rfl, Bindings.find?_resolvedIn]
      cases found : bindings.find? name with
      | some bound => exact (Ty.substitute_inPlaceOf surroundings isArray bound).symm
      | none =>
          have unbound := shield name (by simp [Ty.plainNames]) found
          simp only [Option.map_none, Ty.substituteAll, Ty.substitute, List.isEmpty_nil, if_true,
            unbound]
  | .named ⟨name, arg :: args, isArray⟩, shield => by
      -- A name with arguments is never replaced, only its arguments are.
      have inner : bindings.Shield surroundings (Ty.plainNamesAmong (arg :: args)) := by
        simpa only [Ty.plainNames, List.isEmpty_cons, Bool.false_eq_true, if_false] using shield
      simp only [Ty.substitute, Ty.substituteAll, List.isEmpty_cons, Bool.false_eq_true, if_false]
      rw [← Ty.substituteAll, substituteAll_resolvedIn inner]
      rfl
  | .function signature, shield => by
      rw [Ty.plainNames] at shield
      rw [Ty.substitute, Ty.substitute, Ty.substitute, Signature.substitute_resolvedIn shield]
  | .literal ⟨properties, calls⟩, shield => by
      rw [Ty.plainNames] at shield
      rw [Ty.substitute, Ty.substitute, Ty.substitute,
        Property.substituteAll_resolvedIn shield.left,
        Signature.substituteAll_resolvedIn shield.right]

theorem Signature.substitute_resolvedIn :
    ∀ {signature : Signature}, bindings.Shield surroundings signature.plainNames →
      signature.substitute (bindings.resolvedIn surroundings) =
        (signature.substitute bindings).substitute surroundings
  | ⟨_, _⟩, shield => by
      rw [Signature.plainNames] at shield
      rw [Signature.substitute, Signature.substitute, Signature.substitute,
        Ty.substitute_resolvedIn shield.left, Parameter.substituteAll_resolvedIn shield.right]

theorem substituteAll_resolvedIn :
    ∀ {types : List Ty}, bindings.Shield surroundings (Ty.plainNamesAmong types) →
      Ty.substituteAll (bindings.resolvedIn surroundings) types =
        Ty.substituteAll surroundings (Ty.substituteAll bindings types)
  | [], _ => by rw [Ty.substituteAll, Ty.substituteAll, Ty.substituteAll]
  | _ :: _, shield => by
      rw [Ty.plainNamesAmong] at shield
      rw [Ty.substituteAll, Ty.substituteAll, Ty.substituteAll,
        Ty.substitute_resolvedIn shield.left, substituteAll_resolvedIn shield.right]

theorem Parameter.substituteAll_resolvedIn :
    ∀ {parameters : List Parameter},
      bindings.Shield surroundings (Parameter.plainNamesAmong parameters) →
      Parameter.substituteAll (bindings.resolvedIn surroundings) parameters =
        Parameter.substituteAll surroundings (Parameter.substituteAll bindings parameters)
  | [], _ => by rw [Parameter.substituteAll, Parameter.substituteAll, Parameter.substituteAll]
  | ⟨_, _, _, _⟩ :: _, shield => by
      rw [Parameter.plainNamesAmong] at shield
      rw [Parameter.substituteAll, Parameter.substituteAll, Parameter.substituteAll,
        Ty.substitute_resolvedIn shield.left, Parameter.substituteAll_resolvedIn shield.right]

theorem Property.substituteAll_resolvedIn :
    ∀ {properties : List Property},
      bindings.Shield surroundings (Property.plainNamesAmong properties) →
      Property.substituteAll (bindings.resolvedIn surroundings) properties =
        Property.substituteAll surroundings (Property.substituteAll bindings properties)
  | [], _ => by rw [Property.substituteAll, Property.substituteAll, Property.substituteAll]
  | ⟨_, _, _, _, _⟩ :: _, shield => by
      rw [Property.plainNamesAmong] at shield
      rw [Property.substituteAll, Property.substituteAll, Property.substituteAll,
        Ty.substitute_resolvedIn shield.left, Property.substituteAll_resolvedIn shield.right]

theorem Signature.substituteAll_resolvedIn :
    ∀ {signatures : List Signature},
      bindings.Shield surroundings (Signature.plainNamesAmong signatures) →
      Signature.substituteAll (bindings.resolvedIn surroundings) signatures =
        Signature.substituteAll surroundings (Signature.substituteAll bindings signatures)
  | [], _ => by rw [Signature.substituteAll, Signature.substituteAll, Signature.substituteAll]
  | _ :: _, shield => by
      rw [Signature.plainNamesAmong] at shield
      rw [Signature.substituteAll, Signature.substituteAll, Signature.substituteAll,
        Signature.substitute_resolvedIn shield.left, Signature.substituteAll_resolvedIn shield.right]

end

/-! ### Uses of declarations -/

/-- Binding in surroundings is binding alone and resolving what is bound. -/
theorem bind_eq_resolvedIn (parameters : List String) (args : List Ty) (surroundings : Bindings) :
    bind parameters args surroundings = Bindings.resolvedIn (bind parameters args []) surroundings := by
  simp only [bind, Bindings.resolvedIn, Ty.substitute_nil, List.map_reverse, List.map_map]
  rfl

/-- A parameter that receives an argument is bound. -/
theorem find?_bind_ne_none {parameters : List String} {args : List Ty} {name : String}
    (surroundings : Bindings) (receives : name ∈ boundParameters parameters args) :
    (bind parameters args surroundings).find? name ≠ none := by
  intro unbound
  obtain ⟨index, inside, rfl⟩ := List.mem_take_iff_getElem.1 receives
  obtain ⟨inArgs, inParameters⟩ := Nat.lt_min.1 inside
  have paired : (parameters[index], args[index]) ∈ parameters.zip args := by
    apply List.mem_iff_getElem.2
    exact ⟨index, by rw [List.length_zip]; omega, List.getElem_zip⟩
  have entry : (parameters[index], args[index].substitute surroundings) ∈
      bind parameters args surroundings :=
    List.mem_reverse.2 (List.mem_map.2 ⟨_, paired, rfl⟩)
  simpa using List.lookup_eq_none_iff.1 unbound _ entry

/-- Bindings compose: what a use binds in its surroundings is put in place by putting in place what the
use binds alone and then what the surroundings bind, where these bind no other name of the type. -/
theorem substitute_bind (type : Ty) (parameters : List String) (args : List Ty)
    (surroundings : Bindings)
    (apart : ∀ name ∈ type.plainNames, name ∉ boundParameters parameters args →
      surroundings.find? name = none) :
    type.substitute (bind parameters args surroundings) =
      (type.substitute (bind parameters args [])).substitute surroundings := by
  rw [bind_eq_resolvedIn]
  apply Ty.substitute_resolvedIn
  intro name member unbound
  apply apart name member
  intro bound
  exact find?_bind_ne_none [] bound unbound

/-- A function that takes an array of one parameter of its declaration and gives a map to the other. -/
def lookupType : Ty :=
  .function
    { parameters := [{ name := "keys", type := .named { name := "K", isArray := true } }]
      result := .named { name := "Map", args := [.ofName "K", .literal { properties :=
        [{ name := "found", type := .ofName "V" }, { name := "missing", type := .ofName "W" }] }] } }

/-- A repeated parameter, of which the last use counts, and a parameter without an argument; the name of
the map is bound, and a parameter is bound to a function. -/
theorem substitute_bind_lookupType :
    let parameters := ["K", "V", "K", "W"]
    let args := [.ofName "boolean", .ofName "E", .named { name := "T", isArray := true }]
    let surroundings : Bindings :=
      [("T", .ofName "string"), ("E", .function ⟨.ofName "T", []⟩), ("Map", .ofName "Table")]
    (∀ name ∈ lookupType.plainNames, name ∉ boundParameters parameters args →
        surroundings.find? name = none) ∧
      lookupType.substitute (bind parameters args surroundings) =
        (lookupType.substitute (bind parameters args [])).substitute surroundings := by
  intro parameters args surroundings
  have apart : ∀ name ∈ lookupType.plainNames, name ∉ boundParameters parameters args →
      surroundings.find? name = none := by
    decide
  exact ⟨apart, substitute_bind lookupType parameters args surroundings apart⟩

end DartBindings
