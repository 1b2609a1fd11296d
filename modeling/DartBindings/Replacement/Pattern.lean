import DartBindings.Types.Basic
import DartBindings.Types.Expression

/-!
Patterns of type replacements.

A pattern is a type expression in which placeholders stand for any type.  A placeholder matches on
either side, and array marks are not compared.  The type bound to a placeholder is the part of the
matched type that stands where the placeholder stands in the pattern.

Main exports: isMatching, boundTo, occursIn
-/

namespace DartBindings

mutual

/-- The type that an expression denotes. -/
def TypeExpr.toNamed : TypeExpr → NamedType
  | ⟨name, args, isArray⟩ => ⟨name, TypeExpr.toTypes args, isArray⟩

/-- The types that expressions denote. -/
def TypeExpr.toTypes : List TypeExpr → List Ty
  | [] => []
  | expression :: rest => .named expression.toNamed :: TypeExpr.toTypes rest

end

namespace Replacement

mutual

/-- Whether a candidate has the form of a pattern. -/
def isMatching (candidate : NamedType) : TypeExpr → Bool
  | ⟨name, args, _⟩ =>
      isPlaceholder candidate.name || isPlaceholder name
        || (candidate.name == name && argsMatching candidate.args args)

/-- Whether arguments have the forms of as many patterns. -/
def argsMatching : List Ty → List TypeExpr → Bool
  | [], [] => true
  | .named candidate :: types, pattern :: patterns =>
      isMatching candidate pattern && argsMatching types patterns
  | _ :: types, pattern :: patterns =>
      isPlaceholder pattern.name && argsMatching types patterns
  | _, _ => false

end

mutual

/-- The part of a type that stands where a placeholder stands in a pattern. -/
def boundTo (placeholder : String) (type : Ty) : TypeExpr → Option Ty
  | ⟨name, args, _⟩ =>
      if name = placeholder then some type
      else
        match type with
        | .named reference => boundAmong placeholder reference.args args
        | .function _ => none
        | .literal _ => none

/-- The part of arguments that stands where a placeholder first stands in patterns. -/
def boundAmong (placeholder : String) : List Ty → List TypeExpr → Option Ty
  | type :: types, pattern :: patterns =>
      match boundTo placeholder type pattern with
      | some bound => some bound
      | none => boundAmong placeholder types patterns
  | _, _ => none

end

mutual

/-- Whether a name occurs in a pattern. -/
def occursIn (name : String) : TypeExpr → Bool
  | ⟨patternName, args, _⟩ => patternName == name || occursAmong name args

/-- Whether a name occurs in patterns. -/
def occursAmong (name : String) : List TypeExpr → Bool
  | [] => false
  | pattern :: rest => occursIn name pattern || occursAmong name rest

end

mutual

theorem sizeOf_boundTo_le {placeholder : String} {type bound : Ty} :
    ∀ {pattern : TypeExpr}, boundTo placeholder type pattern = some bound →
      sizeOf bound ≤ sizeOf type
  | ⟨name, args, isArray⟩, h => by
      unfold boundTo at h
      split at h
      · cases h
        exact Nat.le_refl _
      · split at h
        · next reference =>
            have inner := sizeOf_boundAmong_lt h
            obtain ⟨referenceName, referenceArgs, referenceArray⟩ := reference
            simp only [Ty.named.sizeOf_spec, NamedType.mk.sizeOf_spec] at inner ⊢
            omega
        · cases h
        · cases h

theorem sizeOf_boundAmong_lt {placeholder : String} {bound : Ty} :
    ∀ {types : List Ty} {patterns : List TypeExpr},
      boundAmong placeholder types patterns = some bound → sizeOf bound < sizeOf types
  | [], [], h => by cases h
  | [], _ :: _, h => by cases h
  | _ :: _, [], h => by cases h
  | type :: types, pattern :: patterns, h => by
      unfold boundAmong at h
      split at h
      · next found =>
          cases h
          have head := sizeOf_boundTo_le found
          simp only [List.cons.sizeOf_spec]
          omega
      · have tail := sizeOf_boundAmong_lt h
        simp only [List.cons.sizeOf_spec]
        omega

end

/-- What is bound to a placeholder other than the whole pattern is smaller than the candidate. -/
theorem sizeOf_boundTo_lt {placeholder : String} {candidate : NamedType} {bound : Ty}
    {pattern : TypeExpr} (inside : pattern.name ≠ placeholder)
    (h : boundTo placeholder (.named candidate) pattern = some bound) :
    sizeOf bound < sizeOf candidate := by
  obtain ⟨name, args, isArray⟩ := pattern
  unfold boundTo at h
  rw [if_neg inside] at h
  have inner := sizeOf_boundAmong_lt h
  obtain ⟨candidateName, candidateArgs, candidateArray⟩ := candidate
  simp only [NamedType.mk.sizeOf_spec] at inner ⊢
  omega

end Replacement

end DartBindings
