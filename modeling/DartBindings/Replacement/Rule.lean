import DartBindings.Diagnostic.Basic
import DartBindings.Replacement.Pattern
import DartBindings.Replacement.Template
import DartBindings.Table

/-!
Rules of type replacement.

A rule has a pattern, which is not a placeholder itself since it would match every type, and a
template.  Its tokens are filled with what is bound to them; a token without counterpart in the
pattern is reported when the rule is made and stays as it is.

Main exports: Rule, Rule.ofEntry?, Rule.filled, Rule.replacement
-/

namespace DartBindings.Replacement

/-- A pattern and the template that replaces what it matches. -/
structure Rule where
  pattern : TypeExpr
  template : String
  named : isPlaceholder pattern.name = false

/-- A token of a template is a placeholder name. -/
theorem isPlaceholder_tokenText (digits : List Char) : isPlaceholder (tokenText digits) = true := by
  simp [isPlaceholder, tokenText]

/-- No rule has a token as its pattern, since such a pattern would match every type. -/
theorem Rule.name_ne_tokenText (rule : Rule) (digits : List Char) :
    rule.pattern.name ≠ tokenText digits := by
  intro same
  have h := rule.named
  rw [same, isPlaceholder_tokenText] at h
  cases h

/-- The rule of a pattern and a template, unless the pattern would match every type. -/
def Rule.ofEntry? (entry : String × String) : Option Rule :=
  if h : isPlaceholder (TypeExpr.ofString entry.1).name = false then
    some ⟨TypeExpr.ofString entry.1, entry.2, h⟩
  else none

/-- The reports of tokens that are bound by no part of the rule's pattern. -/
def Rule.unboundTokens (rule : Rule) : Diagnostics :=
  ((tokensOf rule.template).filter fun token => !occursIn token rule.pattern).map fun token =>
    { kind := .unresolvedPlaceholder, detail := some token, subject := some rule.template }

/-- A part of the template with its token filled, given a way to render what is smaller than the
candidate. -/
def Rule.fillPiece (rule : Rule) (candidate : NamedType)
    (render : (bound : Ty) → sizeOf bound < sizeOf candidate → String) : Piece → List Char
  | .char c => [c]
  | .token digits =>
      match found : boundTo (tokenText digits) (.named candidate) rule.pattern with
      | some bound =>
          (render bound (sizeOf_boundTo_lt (rule.name_ne_tokenText digits) found)).toList
      | none => (tokenText digits).toList

/-- The template with its tokens filled. -/
def Rule.filled (rule : Rule) (candidate : NamedType)
    (render : (bound : Ty) → sizeOf bound < sizeOf candidate → String) : List Char :=
  (pieces rule.template.toList).flatMap (rule.fillPiece candidate render)

/-- What replaces a candidate: the filled template read as a type expression, an array exactly when
the candidate is one. -/
def Rule.replacement (rule : Rule) (candidate : NamedType)
    (render : (bound : Ty) → sizeOf bound < sizeOf candidate → String) : TypeExpr :=
  { TypeExpr.read (rule.filled candidate render) with isArray := candidate.isArray }

end DartBindings.Replacement
