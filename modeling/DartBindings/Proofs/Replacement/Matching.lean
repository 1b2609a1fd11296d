import Mathlib.Data.List.Forall2
import Mathlib.Data.List.Nodup
import DartBindings.Replacement.Pattern

/-!
Matching finds the types that a pattern stands for.

A pattern stands for the types that come out of it when its placeholders are replaced.  If a placeholder
name stands at one place of the pattern only, and without arguments, then a candidate matches exactly
when some assignment of types to the placeholders gives it; the assignment is what the placeholders are
bound to.  Matching and binding are two walks over the same pattern: each is compared with the instances
of the pattern, and so with the other.

Main exports: IsInstance, placeholders, isMatching_iff_isInstance
-/

namespace DartBindings.Replacement

/-! ### Instances of a pattern -/

/-- The type comes out of the pattern when every placeholder is replaced by the type that is assigned to
its name.  A placeholder's own array mark means nothing, and those of other names may differ. -/
inductive IsInstance (assigned : String → Ty) : TypeExpr → Ty → Prop
  | placeholder {pattern : TypeExpr} (isOpen : isPlaceholder pattern.name = true) :
      IsInstance assigned pattern (assigned pattern.name)
  | named {name : String} {patterns : List TypeExpr} {types : List Ty} {patternArray isArray : Bool}
      (closed : isPlaceholder name = false)
      (args : List.Forall₂ (IsInstance assigned) patterns types) :
      IsInstance assigned ⟨name, patterns, patternArray⟩ (.named ⟨name, types, isArray⟩)

mutual

/-- The placeholders of a pattern, from left to right. -/
def placeholders : TypeExpr → List String
  | ⟨name, args, _⟩ => (if isPlaceholder name then [name] else []) ++ placeholdersAmong args

/-- The placeholders of patterns, from left to right. -/
def placeholdersAmong : List TypeExpr → List String
  | [] => []
  | pattern :: rest => placeholders pattern ++ placeholdersAmong rest

end

/-- No placeholder of the pattern has arguments. -/
inductive BarePlaceholders : TypeExpr → Prop
  | intro {name : String} {args : List TypeExpr} {isArray : Bool}
      (bare : isPlaceholder name = true → args = [])
      (inside : ∀ arg ∈ args, BarePlaceholders arg) : BarePlaceholders ⟨name, args, isArray⟩

/-- No name that matching may come to is a placeholder.  Matching does not look into functions and
shapes, so the names in them may be any. -/
inductive WithoutPlaceholders : Ty → Prop
  | named {name : String} {args : List Ty} {isArray : Bool} (closed : isPlaceholder name = false)
      (inside : ∀ arg ∈ args, WithoutPlaceholders arg) :
      WithoutPlaceholders (.named ⟨name, args, isArray⟩)
  | function {signature : Signature} : WithoutPlaceholders (.function signature)
  | literal {shape : Shape} : WithoutPlaceholders (.literal shape)

variable {assigned other : String → Ty} {name placeholder : String} {type : Ty} {types : List Ty}
  {pattern : TypeExpr} {args patterns : List TypeExpr} {isArray : Bool}

theorem placeholders_of_isPlaceholder (isOpen : isPlaceholder name = true) :
    placeholders ⟨name, [], isArray⟩ = [name] := by
  rw [placeholders, if_pos isOpen, placeholdersAmong, List.append_nil]

theorem placeholders_of_closed (closed : isPlaceholder name = false) :
    placeholders ⟨name, args, isArray⟩ = placeholdersAmong args := by
  rw [placeholders, closed, if_neg Bool.false_ne_true, List.nil_append]

mutual

theorem isPlaceholder_of_mem :
    ∀ {pattern : TypeExpr}, placeholder ∈ placeholders pattern → isPlaceholder placeholder = true
  | ⟨name, args, isArray⟩, member => by
      rw [placeholders, List.mem_append] at member
      rcases member with here | further
      · split at here
        · next isOpen => rwa [List.mem_singleton.1 here]
        · cases here
      · exact isPlaceholder_of_mem_among further

theorem isPlaceholder_of_mem_among :
    ∀ {patterns : List TypeExpr}, placeholder ∈ placeholdersAmong patterns →
      isPlaceholder placeholder = true
  | [], member => by
      cases member
  | pattern :: rest, member => by
      rw [placeholdersAmong, List.mem_append] at member
      rcases member with first | further
      · exact isPlaceholder_of_mem first
      · exact isPlaceholder_of_mem_among further

end

/-- A placeholder name at the top of a pattern is one of its placeholders. -/
theorem name_mem_placeholders (isOpen : isPlaceholder pattern.name = true) :
    pattern.name ∈ placeholders pattern := by
  obtain ⟨name, args, isArray⟩ := pattern
  rw [placeholders, if_pos isOpen]
  exact List.mem_append_left _ (List.mem_singleton_self name)

mutual

/-- Only what is assigned to the placeholders of the pattern matters. -/
theorem IsInstance.congr :
    ∀ {pattern : TypeExpr} {type : Ty}, IsInstance assigned pattern type →
      (∀ name ∈ placeholders pattern, assigned name = other name) → IsInstance other pattern type
  | ⟨name, args, isArray⟩, _, isInstance, same => by
      cases isInstance with
      | placeholder isOpen =>
          rw [same name (name_mem_placeholders isOpen)]
          exact .placeholder isOpen
      | named closed related =>
          rw [placeholders_of_closed closed] at same
          exact .named closed (forall₂_isInstance_congr related same)

theorem forall₂_isInstance_congr :
    ∀ {patterns : List TypeExpr} {types : List Ty},
      List.Forall₂ (IsInstance assigned) patterns types →
      (∀ name ∈ placeholdersAmong patterns, assigned name = other name) →
      List.Forall₂ (IsInstance other) patterns types
  | [], _, related, _ => by
      cases related
      exact .nil
  | pattern :: rest, _, related, same => by
      rw [placeholdersAmong] at same
      cases related with
      | cons first further =>
          apply List.Forall₂.cons
          · exact first.congr fun name member => same name (List.mem_append_left _ member)
          · exact forall₂_isInstance_congr further fun name member =>
              same name (List.mem_append_right _ member)

end

/-! ### What placeholders are bound to -/

mutual

/-- A placeholder that does not stand in a pattern is bound to nothing. -/
theorem boundTo_of_notMem (isOpen : isPlaceholder placeholder = true) :
    ∀ {pattern : TypeExpr} {type : Ty}, placeholder ∉ placeholders pattern →
      boundTo placeholder type pattern = none
  | ⟨name, args, isArray⟩, type, absent => by
      rw [placeholders, List.mem_append, not_or] at absent
      have other : name ≠ placeholder := by
        intro same
        apply absent.1
        rw [same, if_pos isOpen]
        exact List.mem_singleton_self placeholder
      unfold boundTo
      rw [if_neg other]
      cases type with
      | named reference => exact boundAmong_of_notMem isOpen absent.2
      | function signature => rfl
      | literal shape => rfl

theorem boundAmong_of_notMem (isOpen : isPlaceholder placeholder = true) :
    ∀ {patterns : List TypeExpr} {types : List Ty}, placeholder ∉ placeholdersAmong patterns →
      boundAmong placeholder types patterns = none
  | _, [], _ => by
      simp [boundAmong]
  | [], _ :: _, _ => by
      simp [boundAmong]
  | pattern :: rest, type :: types, absent => by
      rw [placeholdersAmong, List.mem_append, not_or] at absent
      rw [boundAmong, boundTo_of_notMem isOpen absent.1]
      exact boundAmong_of_notMem isOpen absent.2

end

mutual

/-- In an instance a placeholder is bound to what is assigned to it. -/
theorem IsInstance.boundTo_eq (isOpen : isPlaceholder placeholder = true) :
    ∀ {pattern : TypeExpr} {type : Ty}, IsInstance assigned pattern type →
      BarePlaceholders pattern → placeholder ∈ placeholders pattern →
      boundTo placeholder type pattern = some (assigned placeholder)
  | ⟨name, args, isArray⟩, type, isInstance, .intro bare inside, member => by
      cases isInstance with
      | placeholder nameOpen =>
          cases bare nameOpen
          rw [placeholders_of_isPlaceholder nameOpen, List.mem_singleton] at member
          unfold boundTo
          rw [if_pos member.symm, member]
      | named closed related =>
          rw [placeholders_of_closed closed] at member
          have other : name ≠ placeholder := by
            intro same
            rw [same, isOpen] at closed
            cases closed
          unfold boundTo
          rw [if_neg other]
          exact boundAmong_of_forall₂ isOpen related inside member

/-- Among instances a placeholder is bound to what is assigned to it. -/
theorem boundAmong_of_forall₂ (isOpen : isPlaceholder placeholder = true) :
    ∀ {patterns : List TypeExpr} {types : List Ty},
      List.Forall₂ (IsInstance assigned) patterns types →
      (∀ pattern ∈ patterns, BarePlaceholders pattern) →
      placeholder ∈ placeholdersAmong patterns →
      boundAmong placeholder types patterns = some (assigned placeholder)
  | [], _, _, _, member => by
      cases member
  | pattern :: rest, _, related, bare, member => by
      cases related with
      | cons first further =>
          rw [boundAmong]
          by_cases here : placeholder ∈ placeholders pattern
          · rw [first.boundTo_eq isOpen (bare pattern List.mem_cons_self) here]
          · rw [boundTo_of_notMem isOpen here]
            rw [placeholdersAmong, List.mem_append] at member
            apply boundAmong_of_forall₂ isOpen further
            · exact fun pattern member => bare pattern (List.mem_cons_of_mem _ member)
            · exact member.resolve_left here

end

/-! ### Matching -/

/-- Whether a type has the form of a pattern.  What is no reference has the form of placeholders only. -/
def hasForm (pattern : TypeExpr) : Ty → Bool
  | .named candidate => isMatching candidate pattern
  | .function _ => isPlaceholder pattern.name
  | .literal _ => isPlaceholder pattern.name

/-- Arguments match one by one. -/
theorem argsMatching_cons (type : Ty) (types : List Ty) (pattern : TypeExpr)
    (patterns : List TypeExpr) :
    argsMatching (type :: types) (pattern :: patterns) =
      (hasForm pattern type && argsMatching types patterns) := by
  cases type with
  | named candidate => rw [argsMatching, hasForm]
  | function signature => rw [argsMatching, hasForm]; simp
  | literal shape => rw [argsMatching, hasForm]; simp

/-- Every type has the form of a placeholder. -/
theorem hasForm_of_isPlaceholder (isOpen : isPlaceholder pattern.name = true) (type : Ty) :
    hasForm pattern type = true := by
  cases type with
  | named candidate =>
      obtain ⟨name, args, isArray⟩ := pattern
      rw [hasForm, isMatching, isOpen]
      simp
  | function signature => exact isOpen
  | literal shape => exact isOpen

mutual

/-- Every instance of a pattern has its form. -/
theorem IsInstance.hasForm_eq :
    ∀ {pattern : TypeExpr} {type : Ty}, IsInstance assigned pattern type →
      hasForm pattern type = true
  | ⟨name, args, isArray⟩, _, isInstance => by
      cases isInstance with
      | placeholder isOpen => exact hasForm_of_isPlaceholder isOpen _
      | named closed related =>
          rw [hasForm, isMatching, argsMatching_of_forall₂ related]
          simp

/-- Instances of the patterns match them. -/
theorem argsMatching_of_forall₂ :
    ∀ {patterns : List TypeExpr} {types : List Ty},
      List.Forall₂ (IsInstance assigned) patterns types → argsMatching types patterns = true
  | [], _, related => by
      cases related
      rw [argsMatching]
  | pattern :: rest, _, related => by
      cases related with
      | cons first further =>
          rw [argsMatching_cons, first.hasForm_eq, argsMatching_of_forall₂ further]
          rfl

end

/-- Assignments to the placeholders of a pattern and of further patterns, put together. -/
theorem exists_common_assignment {rest : List TypeExpr}
    (once : (placeholdersAmong (pattern :: rest)).Nodup)
    (first : ∃ assigned, IsInstance assigned pattern type)
    (further : ∃ assigned, List.Forall₂ (IsInstance assigned) rest types) :
    ∃ assigned, List.Forall₂ (IsInstance assigned) (pattern :: rest) (type :: types) := by
  obtain ⟨forFirst, isFirst⟩ := first
  obtain ⟨forRest, areFurther⟩ := further
  rw [placeholdersAmong] at once
  have apart := List.disjoint_of_nodup_append once
  let assigned (name : String) : Ty :=
    if name ∈ placeholders pattern then forFirst name else forRest name
  refine ⟨assigned, .cons (isFirst.congr ?_) (forall₂_isInstance_congr areFurther ?_)⟩
  · intro name member
    exact (if_pos member).symm
  · intro name member
    exact (if_neg fun inFirst => apart inFirst member).symm

mutual

/-- What has the form of a pattern is an instance of it, where each placeholder stands once. -/
theorem exists_isInstance :
    ∀ {pattern : TypeExpr} {type : Ty}, (placeholders pattern).Nodup → WithoutPlaceholders type →
      hasForm pattern type = true → ∃ assigned, IsInstance assigned pattern type
  | ⟨name, args, isArray⟩, type, once, plain, matching => by
      by_cases isOpen : isPlaceholder name = true
      · exact ⟨fun _ => type, .placeholder isOpen⟩
      · have closed : isPlaceholder name = false := Bool.eq_false_iff.2 isOpen
        cases plain with
        | @named _ types _ candidateClosed inside =>
            rw [hasForm, isMatching, candidateClosed, closed] at matching
            simp only [Bool.false_or, Bool.and_eq_true, beq_iff_eq] at matching
            obtain ⟨rfl, argsMatch⟩ := matching
            rw [placeholders_of_closed closed] at once
            obtain ⟨assigned, related⟩ := exists_forall₂_isInstance once inside argsMatch
            exact ⟨assigned, .named closed related⟩
        | function => exact absurd matching isOpen
        | literal => exact absurd matching isOpen

/-- Types that match patterns are instances of them under one assignment. -/
theorem exists_forall₂_isInstance :
    ∀ {patterns : List TypeExpr} {types : List Ty}, (placeholdersAmong patterns).Nodup →
      (∀ type ∈ types, WithoutPlaceholders type) → argsMatching types patterns = true →
      ∃ assigned, List.Forall₂ (IsInstance assigned) patterns types
  | [], [], _, _, _ => ⟨fun _ => .dynamic, .nil⟩
  | [], _ :: _, _, _, matching => by
      simp [argsMatching] at matching
  | _ :: _, [], _, _, matching => by
      simp [argsMatching] at matching
  | pattern :: rest, type :: types, once, plain, matching => by
      rw [argsMatching_cons, Bool.and_eq_true] at matching
      have parts := once
      rw [placeholdersAmong] at parts
      apply exists_common_assignment once
      · exact exists_isInstance (List.Nodup.of_append_left parts) (plain type List.mem_cons_self)
          matching.1
      · exact exists_forall₂_isInstance (List.Nodup.of_append_right parts)
          (fun type member => plain type (List.mem_cons_of_mem _ member)) matching.2

end

/-- A candidate matches a pattern exactly when some assignment to the placeholders gives it, where each
placeholder stands once and without arguments and the candidate has none.  Then the placeholders of the
pattern are bound to what is assigned to them, and other placeholders to nothing. -/
theorem isMatching_iff_isInstance {candidate : NamedType} {pattern : TypeExpr}
    (bare : BarePlaceholders pattern) (once : (placeholders pattern).Nodup)
    (plain : WithoutPlaceholders (.named candidate)) :
    (isMatching candidate pattern = true ↔
        ∃ assigned, IsInstance assigned pattern (.named candidate)) ∧
      ∀ assigned, IsInstance assigned pattern (.named candidate) →
        (∀ name ∈ placeholders pattern,
          boundTo name (.named candidate) pattern = some (assigned name)) ∧
        ∀ name, isPlaceholder name = true → name ∉ placeholders pattern →
          boundTo name (.named candidate) pattern = none := by
  constructor
  · constructor
    · intro matching
      exact exists_isInstance once plain matching
    · intro ⟨assigned, isInstance⟩
      exact isInstance.hasForm_eq
  · intro assigned isInstance
    constructor
    · intro name member
      exact isInstance.boundTo_eq (isPlaceholder_of_mem member) bare member
    · intro name isOpen absent
      exact boundTo_of_notMem isOpen absent

/-- A pattern with a placeholder in an argument of an argument and one with an array mark. -/
def mapPattern : TypeExpr :=
  { name := "Map"
    args := [{ name := "Pair", args := [{ name := "string" }, { name := "#2" }] },
      { name := "#1", isArray := true }] }

/-- A map to functions, whose keys have a shape in them. -/
def mapToFunctions : NamedType :=
  { name := "Map"
    args := [.named { name := "Pair", args := [.ofName "string", .literal {}], isArray := true },
      .function { result := .ofName "#2", parameters := [] }]
    isArray := true }

theorem bare_mapPattern : BarePlaceholders mapPattern := by
  have bareName (name : String) (isArray : Bool) : BarePlaceholders ⟨name, [], isArray⟩ :=
    .intro (fun _ => rfl) (by simp)
  apply BarePlaceholders.intro (by decide)
  simp only [List.forall_mem_cons]
  refine ⟨.intro (by decide) ?_, bareName _ _, by simp⟩
  simp only [List.forall_mem_cons]
  exact ⟨bareName _ _, bareName _ _, by simp⟩

theorem withoutPlaceholders_mapToFunctions : WithoutPlaceholders (.named mapToFunctions) := by
  apply WithoutPlaceholders.named (by decide)
  simp only [List.forall_mem_cons]
  refine ⟨.named (by decide) ?_, .function, by simp⟩
  simp only [List.forall_mem_cons]
  exact ⟨.named (by decide) (by simp), .literal, by simp⟩

/-- A map from strings to functions as an instance of a pattern with two placeholders. -/
theorem isMatching_iff_isInstance_map :
    BarePlaceholders mapPattern ∧ (placeholders mapPattern).Nodup ∧
      WithoutPlaceholders (.named mapToFunctions) ∧
      ∃ assigned, IsInstance assigned mapPattern (.named mapToFunctions) ∧
        boundTo "#1" (.named mapToFunctions) mapPattern = some (assigned "#1") ∧
        boundTo "#3" (.named mapToFunctions) mapPattern = none := by
  have once : (placeholders mapPattern).Nodup := by decide
  have found :=
    isMatching_iff_isInstance bare_mapPattern once withoutPlaceholders_mapToFunctions
  obtain ⟨assigned, isInstance⟩ := found.1.1 (by decide)
  obtain ⟨bound, unbound⟩ := found.2 assigned isInstance
  exact ⟨bare_mapPattern, once, withoutPlaceholders_mapToFunctions, assigned, isInstance,
    bound "#1" (by decide), unbound "#3" (by decide) (by decide)⟩

end DartBindings.Replacement
