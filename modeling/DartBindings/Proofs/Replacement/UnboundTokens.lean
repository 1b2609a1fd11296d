import Mathlib.Data.List.Basic
import DartBindings.Proofs.Replacement.FilledTemplate
import DartBindings.Proofs.Replacement.Matching

/-!
Tokens that nothing is bound to.

Whether a token is reported is decided when its rule is made, from the pattern alone.  Whether it is
filled is decided whenever the rule is used, by a walk down the pattern and the candidate.  For a
candidate that the pattern matches both come to the same: the walk finds a part of the candidate for
every placeholder of the pattern, so what is left in the output as it stands is what was reported.

Main exports: StandsFor, boundTo_eq_none_iff, copied_iff_reported
-/

namespace DartBindings

open Replacement

namespace Replacement

/-! ### The tokens of a text -/

/-- The digits of the token that a text begins with. -/
def leadingToken? : List Char → Option (List Char)
  | [] => none
  | c :: rest =>
      if c = '#' ∧ rest.head?.any Char.isDigit then some (rest.takeWhile Char.isDigit) else none

/-- The digits of the tokens of a text.  A token begins wherever a number sign stands in front of a
digit, and has all the digits there are. -/
def tokensIn (text : List Char) : List (List Char) :=
  text.tails.filterMap leadingToken?

/-- No token begins with a digit. -/
theorem tokensIn_dropWhile_isDigit (text : List Char) :
    tokensIn (text.dropWhile Char.isDigit) = tokensIn text := by
  induction text with
  | nil => rfl
  | cons c rest ih =>
      by_cases digit : c.isDigit = true
      · have noToken : leadingToken? (c :: rest) = none := by
          rw [leadingToken?, if_neg]
          rintro ⟨rfl, -⟩
          exact absurd digit (by decide)
        rw [List.dropWhile_cons_of_pos digit, ih, tokensIn, tokensIn, List.tails_cons,
          List.filterMap_cons_none noToken]
      · rw [List.dropWhile_cons_of_neg digit]

/-- The tokens that a template is taken apart into are those of its text. -/
theorem filterMap_token?_pieces (text : List Char) :
    (pieces text).filterMap Piece.token? = (tokensIn text).map tokenText := by
  fun_induction pieces text with
  | case1 => rfl
  | case2 c rest isToken ih =>
      have token : leadingToken? (c :: rest) = some (rest.takeWhile Char.isDigit) := if_pos isToken
      rw [tokensIn, List.tails_cons, List.filterMap_cons_some token, List.map_cons, ← tokensIn,
        ← tokensIn_dropWhile_isDigit rest, ← ih]
      rfl
  | case3 c rest noToken ih =>
      have nothing : leadingToken? (c :: rest) = none := if_neg noToken
      rw [tokensIn, List.tails_cons, List.filterMap_cons_none nothing, ← tokensIn, ← ih]
      rfl

/-! ### What stands in the place of a placeholder -/

/-- The part stands in the type where the placeholder stands in the pattern. -/
inductive StandsFor (placeholder : String) : TypeExpr → Ty → Ty → Prop
  | whole {pattern : TypeExpr} {type : Ty} (here : pattern.name = placeholder) :
      StandsFor placeholder pattern type type
  | argument {pattern inner : TypeExpr} {candidate : NamedType} {type part : Ty} {index : Nat}
      (below : pattern.args[index]? = some inner) (beside : candidate.args[index]? = some type)
      (further : StandsFor placeholder inner type part) :
      StandsFor placeholder pattern (.named candidate) part

variable {placeholder : String} {part : Ty}

mutual

/-- What a placeholder is bound to stands where the placeholder does. -/
theorem standsFor_of_boundTo :
    ∀ {pattern : TypeExpr} {type : Ty}, boundTo placeholder type pattern = some part →
      StandsFor placeholder pattern type part
  | ⟨name, args, isArray⟩, type, found => by
      unfold boundTo at found
      split at found
      · next here =>
          cases found
          exact .whole here
      · split at found
        · next candidate =>
            obtain ⟨index, inner, type, below, beside, further⟩ :=
              exists_standsFor_of_boundAmong found
            exact .argument below beside further
        · cases found
        · cases found

/-- What a placeholder is bound to among arguments stands in one of them. -/
theorem exists_standsFor_of_boundAmong :
    ∀ {patterns : List TypeExpr} {types : List Ty},
      boundAmong placeholder types patterns = some part →
        ∃ (index : Nat) (inner : TypeExpr) (type : Ty), patterns[index]? = some inner ∧
          types[index]? = some type ∧ StandsFor placeholder inner type part
  | [], types, found => by
      simp [boundAmong] at found
  | pattern :: rest, [], found => by
      simp [boundAmong] at found
  | pattern :: rest, type :: types, found => by
      unfold boundAmong at found
      split at found
      · next first =>
          cases found
          exact ⟨0, pattern, type, rfl, rfl, standsFor_of_boundTo first⟩
      · obtain ⟨index, inner, type, below, beside, further⟩ := exists_standsFor_of_boundAmong found
        exact ⟨index + 1, inner, type, below, beside, further⟩

end

mutual

/-- In a candidate that a pattern matches, something stands for every placeholder of the pattern. -/
theorem exists_boundTo (isOpen : isPlaceholder placeholder = true) :
    ∀ {pattern : TypeExpr} {type : Ty}, BarePlaceholders pattern → WithoutPlaceholders type →
      hasForm pattern type = true → placeholder ∈ placeholders pattern →
      ∃ part, boundTo placeholder type pattern = some part
  | ⟨name, args, isArray⟩, type, .intro bare inside, plain, matching, member => by
      by_cases nameOpen : isPlaceholder name = true
      · cases bare nameOpen
        rw [placeholders_of_isPlaceholder nameOpen, List.mem_singleton] at member
        unfold boundTo
        exact ⟨type, if_pos member.symm⟩
      · have closed : isPlaceholder name = false := Bool.eq_false_iff.2 nameOpen
        cases plain with
        | @named _ types _ candidateClosed within =>
            rw [hasForm, isMatching, candidateClosed, closed] at matching
            simp only [Bool.false_or, Bool.and_eq_true, beq_iff_eq] at matching
            rw [placeholders_of_closed closed] at member
            have other : name ≠ placeholder := fun same => nameOpen (same ▸ isOpen)
            unfold boundTo
            rw [if_neg other]
            exact exists_boundAmong isOpen inside within matching.2 member
        | function => exact absurd matching nameOpen
        | literal => exact absurd matching nameOpen

/-- Where arguments match, every placeholder in the patterns is bound. -/
theorem exists_boundAmong (isOpen : isPlaceholder placeholder = true) :
    ∀ {patterns : List TypeExpr} {types : List Ty},
      (∀ pattern ∈ patterns, BarePlaceholders pattern) →
      (∀ type ∈ types, WithoutPlaceholders type) → argsMatching types patterns = true →
      placeholder ∈ placeholdersAmong patterns →
      ∃ part, boundAmong placeholder types patterns = some part
  | [], _, _, _, _, member => by
      cases member
  | _ :: _, [], _, _, matching, _ => by
      simp [argsMatching] at matching
  | pattern :: rest, type :: types, bare, plain, matching, member => by
      rw [argsMatching_cons, Bool.and_eq_true] at matching
      rw [List.forall_mem_cons] at bare plain
      unfold boundAmong
      cases first : boundTo placeholder type pattern with
      | some part => exact ⟨part, rfl⟩
      | none =>
          rw [placeholdersAmong, List.mem_append] at member
          refine exists_boundAmong isOpen bare.2 plain.2 matching.2 (member.resolve_left ?_)
          intro inFirst
          obtain ⟨part, found⟩ := exists_boundTo isOpen bare.1 plain.1 matching.1 inFirst
          rw [first] at found
          cases found

end

/-- For a candidate that a pattern matches, nothing is bound exactly to what is no placeholder of the
pattern. -/
theorem boundTo_eq_none_iff {pattern : TypeExpr} {candidate : NamedType}
    (isOpen : isPlaceholder placeholder = true) (bare : BarePlaceholders pattern)
    (plain : WithoutPlaceholders (.named candidate))
    (matching : isMatching candidate pattern = true) :
    boundTo placeholder (.named candidate) pattern = none ↔ placeholder ∉ placeholders pattern := by
  constructor
  · intro nothing member
    obtain ⟨part, found⟩ := exists_boundTo isOpen bare plain matching member
    rw [nothing] at found
    cases found
  · exact boundTo_of_notMem isOpen

/-! ### Reports -/

mutual

/-- A placeholder name occurs in a pattern exactly when it is one of its placeholders. -/
theorem occursIn_iff_mem_placeholders (isOpen : isPlaceholder placeholder = true) :
    ∀ pattern : TypeExpr, occursIn placeholder pattern = true ↔ placeholder ∈ placeholders pattern
  | ⟨name, args, isArray⟩ => by
      rw [occursIn, placeholders, Bool.or_eq_true, beq_iff_eq, List.mem_append,
        occursAmong_iff_mem_placeholdersAmong isOpen args]
      by_cases same : name = placeholder
      · simp [same, isOpen]
      · have notHere : placeholder ∉ if isPlaceholder name then [name] else [] := by
          split
          · exact fun member => same (List.mem_singleton.1 member).symm
          · exact List.not_mem_nil
        simp [same, notHere]

theorem occursAmong_iff_mem_placeholdersAmong (isOpen : isPlaceholder placeholder = true) :
    ∀ patterns : List TypeExpr,
      occursAmong placeholder patterns = true ↔ placeholder ∈ placeholdersAmong patterns
  | [] => by
      simp [occursAmong, placeholdersAmong]
  | pattern :: rest => by
      rw [occursAmong, placeholdersAmong, Bool.or_eq_true, List.mem_append,
        occursIn_iff_mem_placeholders isOpen pattern,
        occursAmong_iff_mem_placeholdersAmong isOpen rest]

end

/-- The report of a token of a template. -/
def unboundToken (template token : String) : Diagnostic :=
  { kind := .unresolvedPlaceholder, detail := some token, subject := some template }

/-- The reports for an entry of a table, one for each token of the template that is no placeholder of the
pattern.  There is none for a pattern that would match every type, which makes no rule. -/
def entryReports (entry : String × String) : Diagnostics :=
  let pattern := TypeExpr.ofString entry.1
  if isPlaceholder pattern.name then []
  else
    ((tokensIn entry.2.toList).filter fun digits => tokenText digits ∉ placeholders pattern).map
      fun digits => unboundToken entry.2 (tokenText digits)

/-- A token of an entry is reported exactly when it is no placeholder of the pattern. -/
theorem unboundToken_mem_entryReports {entry : String × String} {digits : List Char}
    (closed : isPlaceholder (TypeExpr.ofString entry.1).name = false)
    (token : digits ∈ tokensIn entry.2.toList) :
    unboundToken entry.2 (tokenText digits) ∈ entryReports entry ↔
      tokenText digits ∉ placeholders (TypeExpr.ofString entry.1) := by
  rw [entryReports, if_neg (by simp [closed]), List.mem_map]
  constructor
  · rintro ⟨other, member, same⟩
    have texts : tokenText other = tokenText digits :=
      Option.some.inj (congrArg Diagnostic.detail same)
    rw [← texts]
    exact of_decide_eq_true (List.mem_filter.1 member).2
  · intro absent
    exact ⟨digits, List.mem_filter.2 ⟨token, decide_eq_true absent⟩, rfl⟩

/-- The rule of an entry has the pattern and the template of the entry. -/
theorem Rule.ofEntry?_eq_some_iff {entry : String × String} {rule : Rule} :
    Rule.ofEntry? entry = some rule ↔
      rule.pattern = TypeExpr.ofString entry.1 ∧ rule.template = entry.2 := by
  constructor
  · intro made
    unfold ofEntry? at made
    split at made
    · cases made
      exact ⟨rfl, rfl⟩
    · cases made
  · obtain ⟨pattern, template, named⟩ := rule
    rintro ⟨rfl, rfl⟩
    exact dif_pos named

/-- What a rule reports can be told from its entry. -/
theorem Rule.unboundTokens_eq_entryReports {entry : String × String} {rule : Rule}
    (made : Rule.ofEntry? entry = some rule) : rule.unboundTokens = entryReports entry := by
  obtain ⟨pattern, template⟩ := Rule.ofEntry?_eq_some_iff.1 made
  have closed : ¬isPlaceholder (TypeExpr.ofString entry.1).name = true := by
    rw [← pattern, rule.named]
    exact Bool.false_ne_true
  have agree : ∀ digits : List Char, (!occursIn (tokenText digits) rule.pattern) =
      decide (tokenText digits ∉ placeholders rule.pattern) := by
    intro digits
    have occurs := occursIn_iff_mem_placeholders (isPlaceholder_tokenText digits) rule.pattern
    simp [← occurs]
  rw [entryReports, if_neg closed, unboundTokens, tokensOf, filterMap_token?_pieces, ← template,
    ← pattern, List.filter_map, List.map_map]
  simp only [Function.comp_def, agree]
  rfl

/-- What a table is reported for is told from its entries, in their order and in the order of the tokens
of a template. -/
theorem unboundTokens_ofTable (replacements : Table String) :
    (TypeMapper.ofTable replacements).unboundTokens = replacements.entries.flatMap entryReports := by
  rw [TypeMapper.unboundTokens, TypeMapper.ofTable]
  induction replacements.entries with
  | nil => rfl
  | cons entry rest ih =>
      rw [List.flatMap_cons]
      cases made : Rule.ofEntry? entry with
      | some rule =>
          rw [List.filterMap_cons_some made, List.flatMap_cons, ih,
            Rule.unboundTokens_eq_entryReports made]
      | none =>
          have nothing : entryReports entry = [] := by
            unfold Rule.ofEntry? at made
            split at made
            · cases made
            · next open_ => exact if_pos (by simpa using open_)
          rw [List.filterMap_cons_none made, ih, nothing, List.nil_append]

/-! ### Fillings -/

/-- What a rule does about a token of its template: it leaves the token as it is, or it writes the
rendering of a part of the candidate instead. -/
inductive Filling where
  | copied
  | rendered (part : Ty)

/-- The text that a token is filled with. -/
def Filling.text (render : Ty → String) (digits : List Char) : Filling → List Char
  | .copied => '#' :: digits
  | .rendered part => (render part).toList

/-- What a rule does about a token, told from what is bound to it. -/
def Rule.filling (rule : Rule) (candidate : NamedType) (digits : List Char) : Filling :=
  match boundTo (tokenText digits) (.named candidate) rule.pattern with
  | some part => .rendered part
  | none => .copied

/-- Whatever types are rendered as, a template is filled in one way. -/
theorem Rule.isFilled_filled (rule : Rule) (candidate : NamedType) (render : Ty → String) :
    IsFilled (fun digits => (rule.filling candidate digits).text render digits)
      rule.template.toList (rule.filled candidate fun part _ => render part) := by
  have filled : rule.filled candidate (fun part _ => render part) =
      (pieces rule.template.toList).flatMap
        (Piece.filled fun digits => (rule.filling candidate digits).text render digits) := by
    refine rule.filled_eq_flatMap candidate render (fun digits part found => ?_)
      fun digits nothing => ?_
    · rw [filling, found]
      rfl
    · rw [filling, nothing, Filling.text, tokenText, String.toList_ofList]
  rw [filled]
  exact isFilled_pieces _ _

end Replacement

namespace TypeMapper

/-- A token is left in the output exactly when it was reported.  The reports of a table are those of the
tokens that are no placeholder of their pattern, in the order of the entries and of their tokens.  When a
rule is the first to match a candidate, what replaces the candidate is its filled template, read as a type
expression, an array exactly when the candidate is one.  In the filled template each token is either
reported and copied, or it is replaced by the rendering of the part of the candidate that stands where the
pattern has it, whatever types are rendered as. -/
theorem copied_iff_reported {replacements : Table String}
    (bare : ∀ entry ∈ replacements.entries, BarePlaceholders (TypeExpr.ofString entry.1)) :
    (ofTable replacements).unboundTokens = replacements.entries.flatMap entryReports ∧
      ∀ (candidate : NamedType) (rule : Rule), WithoutPlaceholders (.named candidate) →
        (ofTable replacements).ruleFor? candidate = some rule →
          ∃ entry ∈ replacements.entries, Rule.ofEntry? entry = some rule ∧
            (∀ scope, (ofTable replacements).replacement? scope candidate =
              some { TypeExpr.read (rule.filled candidate fun part _ =>
                (ofTable replacements).render scope part) with isArray := candidate.isArray }) ∧
            ∃ filling : List Char → Filling,
              (∀ render, IsFilled (fun digits => (filling digits).text render digits) entry.2.toList
                (rule.filled candidate fun part _ => render part)) ∧
              ∀ digits ∈ tokensIn entry.2.toList,
                (filling digits = .copied ↔
                  unboundToken entry.2 (tokenText digits) ∈ entryReports entry) ∧
                ∀ part, filling digits = .rendered part →
                  StandsFor (tokenText digits) rule.pattern (.named candidate) part := by
  refine ⟨unboundTokens_ofTable replacements, fun candidate rule plain first => ?_⟩
  have matching : isMatching candidate rule.pattern = true := (ruleFor?_eq_some_iff.1 first).1
  obtain ⟨entry, listed, made⟩ := List.mem_filterMap.1 (List.mem_of_find?_eq_some first)
  obtain ⟨pattern, template⟩ := Rule.ofEntry?_eq_some_iff.1 made
  refine ⟨entry, listed, made, fun scope => by rw [replacement?, first]; rfl,
    rule.filling candidate, template ▸ rule.isFilled_filled candidate, fun digits token => ?_⟩
  have unbound := boundTo_eq_none_iff (isPlaceholder_tokenText digits)
    (pattern ▸ bare entry listed) plain matching
  have reported := unboundToken_mem_entryReports (pattern ▸ rule.named) token
  rw [reported, ← pattern, ← unbound, Rule.filling]
  cases found : boundTo (tokenText digits) (.named candidate) rule.pattern with
  | some part =>
      simp only [reduceCtorEq, Filling.rendered.injEq, forall_eq', true_and]
      exact standsFor_of_boundTo found
  | none => simp

/-- A pattern for every type, and maps whose values are lists. -/
def mapTable : Table String :=
  Table.ofList [("#1", "dynamic #4"), ("Map<#1, List<#2>>", "JsMap<#12, List<#2>>")]

/-- A map to lists of callbacks. -/
def mapToCallbacks : NamedType :=
  { name := "Map"
    args := [.ofName "Key",
      .named { name := "List", args := [.function ⟨.ofName "void", []⟩] }] }

/-- The rule of that table. -/
def mapRule : Rule where
  pattern :=
    { name := "Map", args := [{ name := "#1" }, { name := "List", args := [{ name := "#2" }] }] }
  template := "JsMap<#12, List<#2>>"
  named := rfl

/-- The entries of the table. -/
theorem entries_mapTable : mapTable.entries =
    [("#1", "dynamic #4"), ("Map<#1, List<#2>>", "JsMap<#12, List<#2>>")] := by
  decide

/-- The first pattern is a placeholder. -/
theorem ofString_placeholder : TypeExpr.ofString "#1" = { name := "#1" } := by
  cbv

/-- The second pattern is that of the rule. -/
theorem ofString_mapRule : TypeExpr.ofString "Map<#1, List<#2>>" = mapRule.pattern := by
  cbv

/-- No rule is made of the first pattern, since it matches every type. -/
theorem rules_mapTable : (ofTable mapTable).rules = [mapRule] := by
  have everything : Rule.ofEntry? ("#1", "dynamic #4") = none :=
    dif_neg (by rw [ofString_placeholder]; decide)
  have maps : Rule.ofEntry? ("Map<#1, List<#2>>", "JsMap<#12, List<#2>>") = some mapRule :=
    Rule.ofEntry?_eq_some_iff.2 ⟨ofString_mapRule.symm, rfl⟩
  rw [ofTable, entries_mapTable, List.filterMap_cons_none everything,
    List.filterMap_cons_some maps, List.filterMap_nil]

/-- No placeholder of the table has arguments. -/
theorem bare_mapTable :
    ∀ entry ∈ mapTable.entries, BarePlaceholders (TypeExpr.ofString entry.1) := by
  have bareName (name : String) : BarePlaceholders ⟨name, [], false⟩ :=
    .intro (fun _ => rfl) (by simp)
  have bareList : BarePlaceholders { name := "List", args := [{ name := "#2" }] } :=
    .intro (by decide) (List.forall_mem_singleton.2 (bareName "#2"))
  rw [entries_mapTable, List.forall_mem_cons, List.forall_mem_singleton, ofString_placeholder,
    ofString_mapRule]
  refine ⟨bareName "#1", .intro (by decide) ?_⟩
  exact List.forall_mem_cons.2 ⟨bareName "#1", List.forall_mem_singleton.2 bareList⟩

theorem withoutPlaceholders_mapToCallbacks : WithoutPlaceholders (.named mapToCallbacks) := by
  apply WithoutPlaceholders.named (by decide)
  rw [List.forall_mem_cons, List.forall_mem_singleton]
  exact ⟨.named (by decide) (by simp),
    .named (by decide) (List.forall_mem_singleton.2 .function)⟩

/-- A map to callbacks under a rule whose template has a token that the pattern lacks. -/
theorem copied_iff_reported_map :
    (∀ entry ∈ mapTable.entries, BarePlaceholders (TypeExpr.ofString entry.1)) ∧
      WithoutPlaceholders (.named mapToCallbacks) ∧
      (ofTable mapTable).ruleFor? mapToCallbacks = some mapRule ∧
      (ofTable mapTable).unboundTokens = [unboundToken mapRule.template "#12"] ∧
      (∀ scope, (ofTable mapTable).replacement? scope mapToCallbacks =
        some { TypeExpr.read (mapRule.filled mapToCallbacks fun part _ =>
          (ofTable mapTable).render scope part) with isArray := false }) ∧
      ∃ filling : List Char → Filling,
        (∀ render, IsFilled (fun digits => (filling digits).text render digits)
          mapRule.template.toList (mapRule.filled mapToCallbacks fun part _ => render part)) ∧
        filling ['1', '2'] = .copied ∧
        ∃ part, filling ['2'] = .rendered part ∧
          StandsFor "#2" mapRule.pattern (.named mapToCallbacks) part := by
  have first : (ofTable mapTable).ruleFor? mapToCallbacks = some mapRule := by
    rw [ruleFor?, rules_mapTable]
    exact List.find?_cons_of_pos (by decide)
  obtain ⟨-, uses⟩ := copied_iff_reported bare_mapTable
  obtain ⟨entry, listed, made, replaced, filling, filled, tokens⟩ :=
    uses mapToCallbacks mapRule withoutPlaceholders_mapToCallbacks first
  obtain ⟨-, template⟩ := Rule.ofEntry?_eq_some_iff.1 made
  have reported : mapRule.unboundTokens = [unboundToken mapRule.template "#12"] := by
    decide +kernel
  rw [← template, ← Rule.unboundTokens_eq_entryReports made, reported] at tokens
  rw [← template] at filled
  have long := (tokens ['1', '2'] (by decide)).1.2 (by decide)
  refine ⟨bare_mapTable, withoutPlaceholders_mapToCallbacks, first, ?_, replaced, filling, filled,
    long, ?_⟩
  · rw [unboundTokens, rules_mapTable, List.flatMap_singleton, reported]
  · obtain ⟨copied, rendered⟩ := tokens ['2'] (by decide)
    cases short : filling ['2'] with
    | copied => exact absurd (copied.1 short) (by decide)
    | rendered part => exact ⟨part, rfl, rendered part short⟩

end TypeMapper

end DartBindings
