import DartBindings.Replacement.Rule
import DartBindings.Scope

/-!
Type mappers: ordered rules of replacement, and the spelling of types in the output.

The first rule that matches a named type replaces it, and what replaces it is final: it is spelled
without looking at the rules again.  A function type is spelled with its result in front, a shape by
the name of its place, and the type `this` by the class around it.

Main exports: TypeMapper, TypeMapper.ofTable, TypeMapper.ruleFor?, TypeMapper.render,
TypeMapper.replacement?
-/

namespace DartBindings

open Replacement

/-- Rules in the order in which they are tried. -/
structure TypeMapper where
  rules : List Rule

namespace Spelling

/-- The name of a type where it is spelled. -/
def typeName (scope : Scope) (name : String) : String :=
  match scope.enclosingClass? with
  | some cls => if name = Ty.selfName then cls else name
  | none => name

/-- A named type with its arguments spelled already. -/
def named (scope : Scope) (name : String) (args : List String) (isArray : Bool) : String :=
  let element :=
    typeName scope name ++ (if args.isEmpty then "" else "<" ++ ", ".intercalate args ++ ">")
  if isArray then "List<" ++ element ++ ">" else element

/-- A value with its type in front of it. -/
def typed (type name : String) : String :=
  type ++ " " ++ name

/-- A function type with its parts spelled already. -/
def function (result : String) (parameters : List String) : String :=
  result ++ " Function(" ++ ", ".intercalate parameters ++ ")"

end Spelling

mutual

/-- The spelling of a type expression, to which no rule is applied. -/
def TypeExpr.spell (scope : Scope) : TypeExpr → String
  | ⟨name, args, isArray⟩ => Spelling.named scope name (TypeExpr.spellAll scope args) isArray

/-- The spellings of type expressions. -/
def TypeExpr.spellAll (scope : Scope) : List TypeExpr → List String
  | [] => []
  | expression :: rest => expression.spell scope :: TypeExpr.spellAll scope rest

end

namespace TypeMapper

/-- The mapper without rules: every type is spelled as it stands. -/
def identity : TypeMapper := ⟨[]⟩

/-- The mapper of a table of replacements. -/
def ofTable (replacements : Table String) : TypeMapper :=
  ⟨replacements.entries.filterMap Rule.ofEntry?⟩

/-- The reports of the tokens that a mapper cannot fill. -/
def unboundTokens (mapper : TypeMapper) : Diagnostics :=
  mapper.rules.flatMap Rule.unboundTokens

/-- The number of rules. -/
def size (mapper : TypeMapper) : Nat :=
  mapper.rules.length

/-- Whether there is no rule. -/
def isEmpty (mapper : TypeMapper) : Bool :=
  mapper.rules.isEmpty

/-- The first rule that matches a named type. -/
def ruleFor? (mapper : TypeMapper) (candidate : NamedType) : Option Rule :=
  mapper.rules.find? fun rule => isMatching candidate rule.pattern

/-- The spelling of a type at a place. -/
def render (mapper : TypeMapper) (scope : Scope) (type : Ty) : String :=
  match type with
  | .named ⟨name, args, isArray⟩ =>
      match mapper.ruleFor? ⟨name, args, isArray⟩ with
      | some rule =>
          (rule.replacement ⟨name, args, isArray⟩ fun bound _ => render mapper scope bound).spell scope
      | none =>
          Spelling.named scope name (args.attach.map fun arg => render mapper scope arg.1) isArray
  | .function ⟨result, parameters⟩ =>
      Spelling.function (render mapper scope.enterResult result)
        (parameters.attach.map fun parameter =>
          Spelling.typed
            (render mapper (scope.enter .parameter parameter.1.name) parameter.1.type)
            parameter.1.name)
  | .literal _ => scope.literalName
termination_by sizeOf type
decreasing_by
  · rename_i smaller
    simp only [Ty.named.sizeOf_spec]
    omega
  · have smaller := List.sizeOf_lt_of_mem arg.2
    simp only [Ty.named.sizeOf_spec, NamedType.mk.sizeOf_spec]
    omega
  · simp only [Ty.function.sizeOf_spec, Signature.mk.sizeOf_spec]
    omega
  · have smaller := List.sizeOf_lt_of_mem parameter.2
    obtain ⟨⟨name, type, optional, doc⟩, member⟩ := parameter
    simp only [Ty.function.sizeOf_spec, Signature.mk.sizeOf_spec, Parameter.mk.sizeOf_spec]
      at smaller ⊢
    omega

/-- What replaces a named type at a place, if a rule matches it. -/
def replacement? (mapper : TypeMapper) (scope : Scope) (candidate : NamedType) : Option TypeExpr :=
  (mapper.ruleFor? candidate).map fun rule =>
    rule.replacement candidate fun bound _ => mapper.render scope bound

/-- The type that stands for a type at a place.  What no rule matches stands for itself. -/
def replace (mapper : TypeMapper) (scope : Scope) (type : Ty) : Ty :=
  match type.reference?.bind (mapper.replacement? scope) with
  | some expression => .named expression.toNamed
  | none => type

end TypeMapper

end DartBindings
