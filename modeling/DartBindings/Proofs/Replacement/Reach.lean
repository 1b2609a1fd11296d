import DartBindings.Replacement.Mapper
import Mathlib.Data.List.Basic

/-!
What a mapper comes to while it spells a type.

A mapper spells the arguments of a named type that no rule matches, or else what a token of the
template is bound to, always at the place of the named type.  The parts of a function type are
spelled in places of their own.  Arguments that a rule drops are never spelled.

A spelling that treats names and functions as the mapper does is fixed by what it writes for the
shapes that the mapper comes to, so these are all the shapes that a spelled type depends on.

Main exports: ComesTo, IsSpelling, isSpelling_render, IsSpelling.eq_render
-/

namespace DartBindings

open Replacement

theorem Ty.sizeOf_arg_lt {candidate : NamedType} {arg : Ty} (member : arg ∈ candidate.args) :
    sizeOf arg < sizeOf (Ty.named candidate) := by
  obtain ⟨name, args, isArray⟩ := candidate
  have smaller : sizeOf arg < sizeOf args := List.sizeOf_lt_of_mem member
  simp only [Ty.named.sizeOf_spec, NamedType.mk.sizeOf_spec]
  omega

theorem Ty.sizeOf_result_lt (signature : Signature) :
    sizeOf signature.result < sizeOf (Ty.function signature) := by
  obtain ⟨result, parameters⟩ := signature
  simp only [Ty.function.sizeOf_spec, Signature.mk.sizeOf_spec]
  omega

theorem Ty.sizeOf_parameter_lt {signature : Signature} {parameter : Parameter}
    (member : parameter ∈ signature.parameters) :
    sizeOf parameter.type < sizeOf (Ty.function signature) := by
  obtain ⟨result, parameters⟩ := signature
  have smaller : sizeOf parameter < sizeOf parameters := List.sizeOf_lt_of_mem member
  obtain ⟨name, type, optional, doc⟩ := parameter
  simp only [Ty.function.sizeOf_spec, Signature.mk.sizeOf_spec, Parameter.mk.sizeOf_spec]
    at smaller ⊢
  omega

namespace Spelling

/-- A list of what is spelled already. -/
def inList (text : String) : String :=
  "List<" ++ text ++ ">"

/-- The mark of an array puts the spelling of a named type into a list. -/
theorem named_array (scope : Scope) (name : String) (args : List String) :
    named scope name args true = inList (named scope name args false) := by
  simp only [named, inList, if_true, Bool.false_eq_true, if_false]

end Spelling

namespace TypeMapper

/-- To spell `type` at `scope`, the mapper spells `inner` at `place`. -/
inductive ComesTo (mapper : TypeMapper) : Scope → Ty → Scope → Ty → Prop
  | here {scope : Scope} {type : Ty} : ComesTo mapper scope type scope type
  | argument {scope place : Scope} {candidate : NamedType} {arg inner : Ty}
      (free : mapper.ruleFor? candidate = none) (member : arg ∈ candidate.args)
      (further : ComesTo mapper scope arg place inner) :
      ComesTo mapper scope (.named candidate) place inner
  | bound {scope place : Scope} {candidate : NamedType} {rule : Rule} {digits : List Char}
      {part inner : Ty} (matched : mapper.ruleFor? candidate = some rule)
      (token : Piece.token digits ∈ pieces rule.template.toList)
      (found : boundTo (tokenText digits) (.named candidate) rule.pattern = some part)
      (further : ComesTo mapper scope part place inner) :
      ComesTo mapper scope (.named candidate) place inner
  | result {scope place : Scope} {signature : Signature} {inner : Ty}
      (further : ComesTo mapper scope.enterResult signature.result place inner) :
      ComesTo mapper scope (.function signature) place inner
  | parameter {scope place : Scope} {signature : Signature} {parameter : Parameter} {inner : Ty}
      (member : parameter ∈ signature.parameters)
      (further : ComesTo mapper (scope.enter .parameter parameter.name) parameter.type place inner) :
      ComesTo mapper scope (.function signature) place inner

/-- A spelling that treats names and functions as the mapper does, and shapes in any way. -/
structure IsSpelling (mapper : TypeMapper) (spell : Scope → Ty → String) : Prop where
  free : ∀ scope candidate, mapper.ruleFor? candidate = none →
    spell scope (.named candidate)
      = Spelling.named scope candidate.name (candidate.args.map (spell scope)) candidate.isArray
  replaced : ∀ scope candidate rule, mapper.ruleFor? candidate = some rule →
    spell scope (.named candidate)
      = (rule.replacement candidate fun part _ => spell scope part).spell scope
  function : ∀ scope signature,
    spell scope (.function signature)
      = Spelling.function (spell scope.enterResult signature.result)
          (signature.parameters.map fun parameter =>
            Spelling.typed (spell (scope.enter .parameter parameter.name) parameter.type)
              parameter.name)

/-- A shape is spelled by the name of its place. -/
theorem render_literal (mapper : TypeMapper) (scope : Scope) (shape : Shape) :
    mapper.render scope (.literal shape) = scope.literalName := by
  rw [render]

/-- Rendering is the spelling that writes the name of its place for a shape. -/
theorem isSpelling_render (mapper : TypeMapper) : mapper.IsSpelling (mapper.render) where
  free := by
    rintro scope ⟨name, args, isArray⟩ free
    rw [render]
    simp only [free, List.map_attach_eq_pmap, List.pmap_eq_map]
  replaced := by
    rintro scope ⟨name, args, isArray⟩ rule matched
    rw [render]
    simp only [matched]
  function := by
    rintro scope ⟨result, parameters⟩
    rw [render]
    simp only [List.map_attach_eq_pmap, List.pmap_eq_map]

end TypeMapper

namespace Replacement

/-- A filled template depends only on what its bound tokens are filled with. -/
theorem Rule.replacement_congr (rule : Rule) (candidate : NamedType)
    {first second : (part : Ty) → sizeOf part < sizeOf candidate → String}
    (same : ∀ digits part smaller, Piece.token digits ∈ pieces rule.template.toList →
      boundTo (tokenText digits) (.named candidate) rule.pattern = some part →
      first part smaller = second part smaller) :
    rule.replacement candidate first = rule.replacement candidate second := by
  have filled : rule.filled candidate first = rule.filled candidate second := by
    unfold Rule.filled
    apply List.flatMap_congr
    intro piece member
    cases piece with
    | char c =>
        rfl
    | token digits =>
        simp only [Rule.fillPiece]
        split
        · next part found =>
            rw [same digits part _ member found]
        · rfl
  unfold Rule.replacement
  rw [filled]

end Replacement

namespace TypeMapper

variable {mapper : TypeMapper} {first second : Scope → Ty → String}

/-- Spellings that agree on the shapes that the mapper comes to agree on the type. -/
theorem IsSpelling.eq_of_shapes (isFirst : mapper.IsSpelling first)
    (isSecond : mapper.IsSpelling second) :
    ∀ {scope : Scope} {type : Ty},
      (∀ place shape, mapper.ComesTo scope type place (.literal shape) →
        first place (.literal shape) = second place (.literal shape)) →
      first scope type = second scope type
  | scope, .literal shape, same => same scope shape .here
  | scope, .function signature, same => by
      have results :
          first scope.enterResult signature.result
            = second scope.enterResult signature.result := by
        apply isFirst.eq_of_shapes isSecond
        intro place shape further
        exact same place shape (.result further)
      have parameters : ∀ parameter ∈ signature.parameters,
          first (scope.enter .parameter parameter.name) parameter.type
            = second (scope.enter .parameter parameter.name) parameter.type := by
        intro parameter member
        apply isFirst.eq_of_shapes isSecond
        intro place shape further
        exact same place shape (.parameter member further)
      rw [isFirst.function, isSecond.function, results,
        List.map_congr_left fun parameter member => by rw [parameters parameter member]]
  | scope, .named candidate, same => by
      cases matched : mapper.ruleFor? candidate with
      | none =>
          have args : ∀ arg ∈ candidate.args, first scope arg = second scope arg := by
            intro arg member
            apply isFirst.eq_of_shapes isSecond
            intro place shape further
            exact same place shape (.argument matched member further)
          rw [isFirst.free scope candidate matched, isSecond.free scope candidate matched,
            List.map_congr_left args]
      | some rule =>
          rw [isFirst.replaced scope candidate rule matched,
            isSecond.replaced scope candidate rule matched]
          apply congrArg (TypeExpr.spell scope)
          -- Only what the tokens of the template are bound to is spelled, and these parts are smaller.
          apply rule.replacement_congr candidate
          intro digits part smaller token found
          apply isFirst.eq_of_shapes isSecond
          intro place shape further
          exact same place shape (.bound matched token found further)
termination_by _ type => sizeOf type
decreasing_by
  · exact Ty.sizeOf_result_lt signature
  · exact Ty.sizeOf_parameter_lt member
  · exact Ty.sizeOf_arg_lt member
  · simp only [Ty.named.sizeOf_spec]
    omega

/-- A spelling that writes the name of its place for every shape that the mapper comes to is what the
mapper renders. -/
theorem IsSpelling.eq_render {spell : Scope → Ty → String} (isSpelling : mapper.IsSpelling spell)
    {scope : Scope} {type : Ty}
    (named : ∀ place shape, mapper.ComesTo scope type place (.literal shape) →
      spell place (.literal shape) = place.literalName) :
    spell scope type = mapper.render scope type := by
  apply isSpelling.eq_of_shapes mapper.isSpelling_render
  intro place shape further
  rw [named place shape further, render_literal]

@[simp] theorem ruleFor?_identity (candidate : NamedType) : identity.ruleFor? candidate = none :=
  rfl

/-- What a mapper comes to from what it comes to, it comes to. -/
theorem ComesTo.trans {scope between place : Scope} {type middle inner : Ty}
    (further : mapper.ComesTo scope type between middle)
    (last : mapper.ComesTo between middle place inner) : mapper.ComesTo scope type place inner := by
  induction further with
  | here =>
      exact last
  | argument free member _ ih =>
      exact .argument free member (ih last)
  | bound matched token found _ ih =>
      exact .bound matched token found (ih last)
  | result _ ih =>
      exact .result (ih last)
  | parameter member _ ih =>
      exact .parameter member (ih last)

/-- What the mapper comes to is no larger than the type. -/
theorem ComesTo.sizeOf_le {scope place : Scope} {type inner : Ty}
    (further : mapper.ComesTo scope type place inner) : sizeOf inner ≤ sizeOf type := by
  induction further with
  | here =>
      exact Nat.le_refl _
  | argument _ member _ ih =>
      exact Nat.le_trans ih (Nat.le_of_lt (Ty.sizeOf_arg_lt member))
  | bound _ _ found _ ih =>
      exact Nat.le_trans ih (sizeOf_boundTo_le found)
  | result _ ih =>
      exact Nat.le_trans ih (Nat.le_of_lt (Ty.sizeOf_result_lt _))
  | parameter member _ ih =>
      exact Nat.le_trans ih (Nat.le_of_lt (Ty.sizeOf_parameter_lt member))

mutual

/-- What is bound to a placeholder is a part of the type, at the same place. -/
theorem comesTo_boundTo {scope : Scope} {placeholder : String} {type part : Ty} :
    ∀ {pattern : TypeExpr}, boundTo placeholder type pattern = some part →
      identity.ComesTo scope type scope part
  | ⟨name, args, isArray⟩, found => by
      unfold boundTo at found
      split at found
      · cases found
        exact .here
      · cases type with
        | named reference =>
            obtain ⟨arg, member, further⟩ := comesTo_boundAmong found
            exact .argument (ruleFor?_identity reference) member further
        | function signature =>
            cases found
        | literal shape =>
            cases found

/-- What is bound among arguments is a part of one of them, at the same place. -/
theorem comesTo_boundAmong {scope : Scope} {placeholder : String} {part : Ty} :
    ∀ {types : List Ty} {patterns : List TypeExpr},
      boundAmong placeholder types patterns = some part →
      ∃ type ∈ types, identity.ComesTo scope type scope part
  | [], [], found => by
      cases found
  | [], _ :: _, found => by
      cases found
  | _ :: _, [], found => by
      cases found
  | type :: types, pattern :: patterns, found => by
      unfold boundAmong at found
      split at found
      · next bound =>
          cases found
          exact ⟨type, List.mem_cons_self, comesTo_boundTo bound⟩
      · obtain ⟨other, member, further⟩ := comesTo_boundAmong found
        exact ⟨other, List.mem_cons_of_mem type member, further⟩

end

/-- Without rules the mapper comes to everything that it comes to with rules. -/
theorem ComesTo.without_rules {scope place : Scope} {type inner : Ty}
    (further : mapper.ComesTo scope type place inner) :
    identity.ComesTo scope type place inner := by
  induction further with
  | here =>
      exact .here
  | argument _ member _ ih =>
      exact .argument (ruleFor?_identity _) member ih
  | bound _ _ found _ ih =>
      exact (comesTo_boundTo found).trans ih
  | result _ ih =>
      exact .result ih
  | parameter member _ ih =>
      exact .parameter member ih

end TypeMapper

end DartBindings
