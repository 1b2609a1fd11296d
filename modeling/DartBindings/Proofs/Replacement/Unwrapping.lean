import DartBindings.Proofs.Replacement.FilledTemplate
import DartBindings.Proofs.Types.LostMarks

/-!
Rules that take a type out of a wrapper.

Such a rule writes for a wrapped type what is read from the rendering of the type, as no array.  Nothing
is lost exactly if the rendering comes back when it is read and spelled.  A function type always comes
back, for its rendering ends in a parenthesis, behind which there is nothing to take apart.

Main exports: Rule.Unwraps, LosesNothing, losesNothing_of_unwraps
-/

namespace DartBindings

open Replacement TypeExpr Text

/-- The pattern is a wrapper around a placeholder, the template the placeholder alone. -/
structure Replacement.Rule.Unwraps (rule : Rule) (wrapper : String) : Prop where
  pattern : rule.pattern = { name := wrapper, args := [{ name := "#1" }] }
  template : rule.template = "#1"

namespace TypeMapper

/-- The type with a wrapper around it. -/
def wrapped (wrapper : String) (type : Ty) : NamedType :=
  { name := wrapper, args := [type] }

/-- Up to blanks, a type is rendered in the wrapper as it is rendered alone. -/
def LosesNothing (mapper : TypeMapper) (scope : Scope) (wrapper : String) (type : Ty) : Prop :=
  unspaced (mapper.render scope (.named (wrapped wrapper type))).toList =
    unspaced (mapper.render scope type).toList

variable {mapper : TypeMapper} {scope : Scope} {rule : Rule} {wrapper : String} {type : Ty}

/-- A rule that unwraps matches every wrapped type. -/
theorem isMatching_wrapped (unwraps : rule.Unwraps wrapper) :
    isMatching (wrapped wrapper type) rule.pattern = true := by
  have placeholder : isPlaceholder "#1" = true := by decide
  rw [unwraps.pattern, wrapped]
  cases type <;> simp [isMatching, argsMatching, placeholder]

/-- A rule that unwraps binds its placeholder to the wrapped type. -/
theorem boundTo_wrapped (unwraps : rule.Unwraps wrapper) :
    boundTo "#1" (.named (wrapped wrapper type)) rule.pattern = some type := by
  have outside : wrapper ≠ "#1" := by
    have named := rule.name_ne_tokenText ['1']
    rwa [unwraps.pattern] at named
  rw [unwraps.pattern, wrapped, boundTo, if_neg outside]
  simp [boundAmong, boundTo]

/-- The filled template is the rendering of the type. -/
theorem filled_wrapped (unwraps : rule.Unwraps wrapper) :
    rule.filled (wrapped wrapper type) (fun bound _ => mapper.render scope bound) =
      (mapper.render scope type).toList := by
  have parts : pieces "#1".toList = [.token ['1']] := by decide +kernel
  rw [filled_eq, unwraps.template, parts, List.flatMap_singleton, Piece.filled, filling,
    show tokenText ['1'] = "#1" from rfl, boundTo_wrapped unwraps]

/-- A wrapped type is spelled as the rendering of the type, read again as no array. -/
theorem render_wrapped (first : mapper.ruleFor? (wrapped wrapper type) = some rule)
    (unwraps : rule.Unwraps wrapper) :
    mapper.render scope (.named (wrapped wrapper type)) =
      (read (mapper.render scope type).toList).asElement.spell scope := by
  rw [mapper.isSpelling_render.replaced scope _ rule first, Rule.replacement, filled_wrapped unwraps]
  rfl

/-- A text that ends in a parenthesis comes back. -/
theorem readsBack_of_parenthesis {text : List Char} (last : text.getLast? = some ')') :
    ReadsBack scope text := by
  have trimmed := getLast?_trim last (by decide)
  have noArray : endsAsArray (trim text) = false := by
    rw [endsAsArray, Bool.eq_false_iff, ne_eq, List.isSuffixOf_iff_suffix]
    rintro ⟨front, same⟩
    rw [← same, List.getLast?_append_of_ne_nil _ (by decide)] at trimmed
    exact absurd trimmed (by decide)
  have noBrackets : splitGeneric (trim text) = none := by
    rw [splitGeneric, trimmed, if_neg (by decide)]
  have notSelf : String.ofList (trim text) ≠ Ty.selfName := by
    intro same
    have letters := congrArg String.toList same
    rw [String.toList_ofList] at letters
    rw [letters] at trimmed
    exact absurd trimmed (by decide)
  apply ReadsBack.bare noArray noBrackets
  rw [Spelling.typeName]
  split
  · exact if_neg notSelf
  · rfl

/-- A function type is rendered with a parenthesis at the end. -/
theorem readsBack_render_function (signature : Signature) :
    ReadsBack scope (mapper.render scope (.function signature)).toList := by
  apply readsBack_of_parenthesis
  rw [mapper.isSpelling_render.function, Spelling.function, String.toList_append,
    List.getLast?_append_of_ne_nil _ (by decide)]
  rfl

/-- A rule that takes a type out of a wrapper loses nothing if the rendering of the type comes back, and
only then where the class around the place has a name without blanks and marks.  Of a function type it
never loses anything. -/
theorem losesNothing_of_unwraps {earlier later : List Rule}
    (rules : mapper.rules = earlier ++ rule :: later)
    (passed : ∀ other ∈ earlier, isMatching (wrapped wrapper type) other.pattern = false)
    (unwraps : rule.Unwraps wrapper) :
    (ReadsBack scope (mapper.render scope type).toList →
        mapper.LosesNothing scope wrapper type) ∧
      (UnmarkedClass scope → mapper.LosesNothing scope wrapper type →
        ReadsBack scope (mapper.render scope type).toList) ∧
      ∀ signature, type = .function signature → mapper.LosesNothing scope wrapper type := by
  have first : mapper.ruleFor? (wrapped wrapper type) = some rule :=
    ruleFor?_eq_some_iff.2 ⟨isMatching_wrapped unwraps, earlier, later, rules, passed⟩
  have kept : ReadsBack scope (mapper.render scope type).toList →
      mapper.LosesNothing scope wrapper type := by
    intro readsBack
    rw [LosesNothing, render_wrapped first unwraps, asElement_eq_self readsBack.isArray_read]
    exact readsBack.unspaced_respelled
  refine ⟨kept, ?_, ?_⟩
  · intro unmarked same
    rw [LosesNothing, render_wrapped first unwraps] at same
    exact (unspaced_asElement_eq_iff unmarked).1 same
  · rintro signature rfl
    exact kept (readsBack_render_function signature)

/-- A rule that forgets that a value may be missing. -/
def nullableRule : Rule where
  pattern := { name := "Nullable", args := [{ name := "#1" }] }
  template := "#1"
  named := rfl

theorem unwraps_nullableRule : nullableRule.Unwraps "Nullable" :=
  ⟨rfl, rfl⟩

/-- The rule comes behind one for promises. -/
def nullableMapper : TypeMapper :=
  ⟨[promiseRule, nullableRule]⟩

/-- An array of maps to functions with two parameters. -/
def handlers : Ty :=
  .named {
    name := "Map"
    args := [.ofName "string", .function
      { result := .ofName "void"
        parameters := [{ name := "url", type := .ofName "string" },
          { name := "size", type := .ofName "num" }] }]
    isArray := true }

/-- An array of maps to functions is rendered as a list with all its marks. -/
theorem render_handlers :
    nullableMapper.render loaderScope handlers =
      "List<Map<string, void Function(string url, num size)>>" := by
  decide +kernel

/-- A nullable array of maps to functions. -/
theorem losesNothing_of_unwraps_handlers :
    nullableMapper.rules = [promiseRule] ++ nullableRule :: [] ∧
      (∀ other ∈ [promiseRule],
        isMatching (wrapped "Nullable" handlers) other.pattern = false) ∧
      nullableRule.Unwraps "Nullable" ∧
      ReadsBack loaderScope (nullableMapper.render loaderScope handlers).toList ∧
      nullableMapper.LosesNothing loaderScope "Nullable" handlers := by
  have rules : nullableMapper.rules = [promiseRule] ++ nullableRule :: [] := rfl
  have passed : ∀ other ∈ [promiseRule],
      isMatching (wrapped "Nullable" handlers) other.pattern = false := by
    intro other member
    cases List.mem_singleton.1 member
    decide
  have readsBack : ReadsBack loaderScope (nullableMapper.render loaderScope handlers).toList := by
    have respellable :
        Respellable "List<Map<string, void Function(string url, num size)>>".toList := by decide
    rw [render_handlers]
    apply respellable.readsBack
    left
    cbv
  have kept := (losesNothing_of_unwraps rules passed unwraps_nullableRule).1 readsBack
  exact ⟨rules, passed, unwraps_nullableRule, readsBack, kept⟩

/-- An intersection, which is kept as the text it has in the source. -/
def disposables : Ty :=
  .ofName "Texture & Disposable[]"

/-- The array mark belongs to one part of the intersection, but it is taken for a mark of the whole, and
then the array is dropped because the wrapped type is none. -/
theorem not_losesNothing_disposables :
    nullableMapper.ruleFor? (wrapped "Nullable" disposables) = some nullableRule ∧
      nullableRule.Unwraps "Nullable" ∧
      ¬nullableMapper.LosesNothing loaderScope "Nullable" disposables := by
  have first : nullableMapper.ruleFor? (wrapped "Nullable" disposables) = some nullableRule := by
    apply ruleFor?_eq_some_iff.2
    refine ⟨isMatching_wrapped unwraps_nullableRule, [promiseRule], [], rfl, ?_⟩
    intro other member
    cases List.mem_singleton.1 member
    decide
  have alone : nullableMapper.render loaderScope disposables = "Texture & Disposable[]" := by
    decide +kernel
  have inWrapper : nullableMapper.render loaderScope (.named (wrapped "Nullable" disposables)) =
      "Texture & Disposable" := by
    decide +kernel
  refine ⟨first, unwraps_nullableRule, ?_⟩
  rw [LosesNothing, alone, inWrapper]
  decide

end TypeMapper

end DartBindings
