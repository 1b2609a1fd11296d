import DartBindings.Proofs.Replacement.Reach
import DartBindings.Proofs.Types.Respelling

/-!
What is written for a type that a rule replaces.

The first rule that matches decides.  Its template is filled, read as a type expression and spelled; up
to blanks the filled template is what comes out, in a list when the type is an array.  Whatever text the
bound types were rendered as, reading it again takes nothing from it and adds nothing, and no further
rule is applied.

Main exports: IsFilled, ruleFor?_eq_some_iff, unspaced_render_of_first_match
-/

namespace DartBindings

open Replacement TypeExpr Text

namespace Replacement

/-! ### Filled templates -/

/-- The text is the template with a filling in place of each token.  A token is a number sign with all
the digits behind it, of which there is at least one. -/
inductive IsFilled (fill : List Char → List Char) : List Char → List Char → Prop
  | nil : IsFilled fill [] []
  | char {c : Char} {template text : List Char}
      (noToken : ¬(c = '#' ∧ template.head?.any Char.isDigit = true))
      (further : IsFilled fill template text) : IsFilled fill (c :: template) (c :: text)
  | token {digits template text : List Char} (nonempty : digits ≠ [])
      (areDigits : ∀ c ∈ digits, c.isDigit = true)
      (longest : ¬template.head?.any Char.isDigit = true) (further : IsFilled fill template text) :
      IsFilled fill ('#' :: (digits ++ template)) (fill digits ++ text)

/-- The text of a part of a template whose tokens are filled. -/
def Piece.filled (fill : List Char → List Char) : Piece → List Char
  | .char c => [c]
  | .token digits => fill digits

variable {fill : List Char → List Char} {digits template text : List Char}

theorem head?_any_digits_append (nonempty : digits ≠ [])
    (areDigits : ∀ c ∈ digits, c.isDigit = true) (template : List Char) :
    (digits ++ template).head?.any Char.isDigit = true := by
  cases digits with
  | nil => exact absurd rfl nonempty
  | cons c rest => exact areDigits c List.mem_cons_self

theorem dropWhile_isDigit_of_head? (longest : ¬template.head?.any Char.isDigit = true) :
    template.takeWhile Char.isDigit = [] ∧ template.dropWhile Char.isDigit = template := by
  cases template with
  | nil => exact ⟨rfl, rfl⟩
  | cons c rest => exact ⟨List.takeWhile_cons_of_neg longest, List.dropWhile_cons_of_neg longest⟩

/-- A hash sign and the digits behind it, as many as there are, are a token. -/
theorem pieces_token (nonempty : digits ≠ []) (areDigits : ∀ c ∈ digits, c.isDigit = true)
    (longest : ¬template.head?.any Char.isDigit = true) :
    pieces ('#' :: (digits ++ template)) = .token digits :: pieces template := by
  obtain ⟨noFurther, rest⟩ := dropWhile_isDigit_of_head? longest
  rw [pieces, if_pos ⟨rfl, head?_any_digits_append nonempty areDigits template⟩,
    List.takeWhile_append_of_pos areDigits, List.dropWhile_append_of_pos areDigits, noFurther, rest,
    List.append_nil]

/-- Any other character stands for itself. -/
theorem pieces_char {c : Char} (noToken : ¬(c = '#' ∧ template.head?.any Char.isDigit = true)) :
    pieces (c :: template) = .char c :: pieces template := by
  rw [pieces, if_neg noToken]

/-- The parts of a template, filled, are the filled template. -/
theorem isFilled_pieces (fill : List Char → List Char) (template : List Char) :
    IsFilled fill template ((pieces template).flatMap (Piece.filled fill)) := by
  fun_induction pieces template with
  | case1 => exact .nil
  | case2 c rest isToken ih =>
      obtain ⟨rfl, first⟩ := isToken
      have split := List.takeWhile_append_dropWhile (p := Char.isDigit) (l := rest)
      have nonempty : rest.takeWhile Char.isDigit ≠ [] := by
        cases rest with
        | nil => cases first
        | cons c others => rw [List.takeWhile_cons_of_pos (by exact first)]; simp
      have longest : ¬(rest.dropWhile Char.isDigit).head?.any Char.isDigit = true := by
        have stops := List.head?_dropWhile_not Char.isDigit rest
        cases head : (rest.dropWhile Char.isDigit).head? with
        | none => simp
        | some c => rw [head] at stops; simpa using stops
      have filled := IsFilled.token nonempty (List.all_eq_true.1 List.all_takeWhile) longest ih
      rw [split] at filled
      exact filled
  | case3 c rest noToken ih => exact .char noToken ih

/-- A template is filled in one way only. -/
theorem IsFilled.eq_pieces (filled : IsFilled fill template text) :
    text = (pieces template).flatMap (Piece.filled fill) := by
  induction filled with
  | nil => rw [pieces, List.flatMap_nil]
  | char noToken _ ih =>
      rw [pieces_char noToken, List.flatMap_cons, ← ih]
      rfl
  | token nonempty areDigits longest _ ih =>
      rw [pieces_token nonempty areDigits longest, List.flatMap_cons, ← ih]
      rfl

/-- A template is filled piece by piece when its tokens are filled as a candidate binds them. -/
theorem Rule.filled_eq_flatMap (rule : Rule) (candidate : NamedType) (render : Ty → String)
    (bound : ∀ digits part,
      boundTo (tokenText digits) (.named candidate) rule.pattern = some part →
        fill digits = (render part).toList)
    (unbound : ∀ digits, boundTo (tokenText digits) (.named candidate) rule.pattern = none →
      fill digits = (tokenText digits).toList) :
    rule.filled candidate (fun part _ => render part) =
      (pieces rule.template.toList).flatMap (Piece.filled fill) := by
  apply List.flatMap_congr
  intro piece _
  cases piece with
  | char c => rfl
  | token digits =>
      rw [Rule.fillPiece, Piece.filled]
      split
      · next part found => exact (bound digits part found).symm
      · next nothing => exact (unbound digits nothing).symm

end Replacement

/-! ### Array marks -/

/-- A text that comes back is read as no array. -/
theorem TypeExpr.Respellable.isArray_read {text : List Char} (respellable : Respellable text) :
    (read text).isArray = false := by
  rw [TypeExpr.isArray_read]
  exact (respellable.of_infix (trim_isInfix text)).endsAsArray

/-- An array is spelled as a list of its element. -/
theorem TypeExpr.spell_array (scope : Scope) (name : String) (args : List TypeExpr) :
    spell scope ⟨name, args, true⟩ = "List<" ++ spell scope ⟨name, args, false⟩ ++ ">" := by
  rw [spell, spell]
  rfl

namespace TypeMapper

variable {mapper : TypeMapper} {scope : Scope} {rule : Rule} {candidate : NamedType}

/-- What a token of a rule's template is filled with: the rendering of what is bound to it, or the
token itself. -/
def filling (mapper : TypeMapper) (scope : Scope) (rule : Rule) (candidate : NamedType)
    (digits : List Char) : List Char :=
  match boundTo (tokenText digits) (.named candidate) rule.pattern with
  | some bound => (mapper.render scope bound).toList
  | none => (tokenText digits).toList

/-- Filling a template replaces its pieces one by one. -/
theorem filled_eq (mapper : TypeMapper) (scope : Scope) (rule : Rule) (candidate : NamedType) :
    rule.filled candidate (fun bound _ => mapper.render scope bound) =
      (pieces rule.template.toList).flatMap (Piece.filled (mapper.filling scope rule candidate)) := by
  refine rule.filled_eq_flatMap candidate (mapper.render scope) (fun digits part found => ?_)
    fun digits nothing => ?_
  · rw [filling, found]
  · rw [filling, nothing]

/-- The rule for a type is the first one that matches. -/
theorem ruleFor?_eq_some_iff :
    mapper.ruleFor? candidate = some rule ↔
      isMatching candidate rule.pattern = true ∧ ∃ earlier later,
        mapper.rules = earlier ++ rule :: later ∧
          ∀ other ∈ earlier, isMatching candidate other.pattern = false := by
  rw [ruleFor?, List.find?_eq_some_iff_append]
  simp only [Bool.not_eq_true']

/-- The filled template is read and spelled, in a list if the candidate is an array. -/
theorem unspaced_spell_replacement {text : List Char}
    (filled : IsFilled (mapper.filling scope rule candidate) rule.template.toList text)
    (respellable : Respellable text) (keeps : KeepsNames scope (read text)) :
    unspaced ((rule.replacement candidate fun bound _ => mapper.render scope bound).spell
        scope).toList =
      unspaced (if candidate.isArray then "List<".toList ++ text ++ ">".toList else text) := by
  have back := (respellable.readsBack keeps).unspaced_respelled
  have plain := respellable.isArray_read
  rw [Rule.replacement, filled_eq, ← filled.eq_pieces]
  rw [respelled] at back
  rcases expression : read text with ⟨name, args, isArray⟩
  rw [expression] at back plain
  cases plain
  cases candidate.isArray with
  | false => exact back
  | true =>
      rw [spell_array, String.toList_append, String.toList_append, unspaced_append, unspaced_append,
        back, if_pos rfl, unspaced_append, unspaced_append]

/-- What is rendered for a type is, up to blanks, the template of the first rule that matches it, filled
with the renderings of what its tokens are bound to, and in a list if the type is an array.  The filled
template may hold any text without array marks, empty argument places, or a name for the class around
it. -/
theorem unspaced_render_of_first_match {earlier later : List Rule}
    (rules : mapper.rules = earlier ++ rule :: later)
    (passed : ∀ other ∈ earlier, isMatching candidate other.pattern = false)
    (matched : isMatching candidate rule.pattern = true) :
    (∃ text, IsFilled (mapper.filling scope rule candidate) rule.template.toList text) ∧
      ∀ text, IsFilled (mapper.filling scope rule candidate) rule.template.toList text →
        Respellable text → KeepsNames scope (read text) →
        unspaced (mapper.render scope (.named candidate)).toList =
          unspaced (if candidate.isArray then "List<".toList ++ text ++ ">".toList else text) := by
  have first : mapper.ruleFor? candidate = some rule :=
    ruleFor?_eq_some_iff.2 ⟨matched, earlier, later, rules, passed⟩
  constructor
  · exact ⟨_, isFilled_pieces _ _⟩
  · intro text filled respellable keeps
    rw [mapper.isSpelling_render.replaced scope candidate rule first]
    exact unspaced_spell_replacement filled respellable keeps

/-- A rule for what the next rule writes. -/
def futureRule : Rule where
  pattern := { name := "Future", args := [{ name := "#1" }] }
  template := "Later<#1>"
  named := rfl

/-- A rule that keeps its argument. -/
def promiseRule : Rule where
  pattern := { name := "Promise", args := [{ name := "#1" }] }
  template := "Future<#1>"
  named := rfl

/-- An array whose argument is rendered with a comma that stands in no angle brackets. -/
def promises : NamedType :=
  { name := "Promise"
    args := [.function
      { result := .ofName "void"
        parameters := [{ name := "url", type := .ofName "string" },
          { name := "size", type := .ofName "num" }] }]
    isArray := true }

/-- The rule for futures comes first. -/
def futureMapper : TypeMapper :=
  ⟨[futureRule, promiseRule]⟩

/-- The place of a class. -/
def loaderScope : Scope :=
  .root ⟨.classBody, "Loader"⟩

/-- The template of the rule for promises, filled. -/
def futureText : List Char :=
  "Future<void Function(string url, num size)>".toList

/-- The template of promises, filled with what the function is rendered as. -/
theorem isFilled_futureText :
    IsFilled (futureMapper.filling loaderScope promiseRule promises) promiseRule.template.toList
      futureText := by
  have filled := isFilled_pieces (futureMapper.filling loaderScope promiseRule promises)
    promiseRule.template.toList
  have text : (pieces promiseRule.template.toList).flatMap
      (Piece.filled (futureMapper.filling loaderScope promiseRule promises)) = futureText := by
    decide +kernel
  rwa [text] at filled

/-- An array of promises under two rules, of which the second one matches. -/
theorem unspaced_render_of_first_match_promises :
    futureMapper.rules = [futureRule] ++ promiseRule :: [] ∧
      (∀ other ∈ [futureRule], isMatching promises other.pattern = false) ∧
      isMatching promises promiseRule.pattern = true ∧
      IsFilled (futureMapper.filling loaderScope promiseRule promises) promiseRule.template.toList
        futureText ∧
      Respellable futureText ∧ KeepsNames loaderScope (read futureText) ∧
      unspaced (futureMapper.render loaderScope (.named promises)).toList =
        unspaced ("List<".toList ++ futureText ++ ">".toList) := by
  have rules : futureMapper.rules = [futureRule] ++ promiseRule :: [] := rfl
  have passed : ∀ other ∈ [futureRule], isMatching promises other.pattern = false := by
    intro other member
    cases List.mem_singleton.1 member
    decide
  have matched : isMatching promises promiseRule.pattern = true := by decide
  have respellable : Respellable futureText := by decide
  have keeps : KeepsNames loaderScope (read futureText) := by
    left
    cbv
  have rendered := (unspaced_render_of_first_match rules passed matched).2 futureText
    isFilled_futureText respellable keeps
  exact ⟨rules, passed, matched, isFilled_futureText, respellable, keeps, rendered⟩

end TypeMapper

end DartBindings
