import Mathlib.Data.List.Basic
import DartBindings.Emission.Unit

/-!
Parameter lists.

A parameter list is refused exactly when a required parameter stands behind an optional one.  A list
that is not refused is written with the required parameters in front and the optional ones in brackets
behind them, each once and in order.

Main exports: RequiredBehindOptional, isWellGrouped_eq_false_iff, Emitter.groupedParameters,
Emitter.callable_eq
-/

namespace DartBindings.Emission

/-! ### Refused lists -/

/-- A required parameter stands behind an optional one. -/
def RequiredBehindOptional (parameters : List Parameter) : Prop :=
  ∃ earlier later, [earlier, later].Sublist parameters ∧ earlier.optional = true ∧
    later.optional = false

/-- The first parameter is in the way if it is optional and a later one is required. -/
theorem requiredBehindOptional_cons_iff {parameter : Parameter} {rest : List Parameter} :
    RequiredBehindOptional (parameter :: rest) ↔
      (parameter.optional = true ∧ ∃ later ∈ rest, later.optional = false) ∨
        RequiredBehindOptional rest := by
  constructor
  · rintro ⟨earlier, later, inOrder, optional, required⟩
    rcases List.sublist_cons_iff.1 inOrder with inRest | ⟨behind, same, inRest⟩
    · exact .inr ⟨earlier, later, inRest, optional, required⟩
    · cases same
      exact .inl ⟨optional, later, List.singleton_sublist.1 inRest, required⟩
  · rintro (⟨optional, later, known, required⟩ | ⟨earlier, later, inRest, optional, required⟩)
    · exact ⟨parameter, later, (List.singleton_sublist.2 known).cons_cons parameter, optional, required⟩
    · exact ⟨earlier, later, inRest.cons parameter, optional, required⟩

/-- The parameter lists that are refused. -/
theorem isWellGrouped_eq_false_iff {parameters : List Parameter} :
    isWellGrouped parameters = false ↔ RequiredBehindOptional parameters := by
  induction parameters with
  | nil =>
      constructor
      · intro refused
        cases refused
      · rintro ⟨earlier, later, inOrder, -, -⟩
        cases inOrder
  | cons parameter rest ih =>
      rw [requiredBehindOptional_cons_iff, ← ih]
      cases optional : parameter.optional with
      | false => simp [isWellGrouped, parametersFromOptional, optional]
      | true =>
          -- Behind an optional parameter, a list is refused for any required one.
          have inner : RequiredBehindOptional rest → ∃ later ∈ rest, later.optional = false := by
            rintro ⟨_, later, inOrder, -, required⟩
            exact ⟨later, inOrder.subset (by simp), required⟩
          have simpler : isWellGrouped (parameter :: rest) = rest.all (·.optional) := by
            simp [isWellGrouped, parametersFromOptional, optional]
          rw [simpler, List.all_eq_false, ih]
          simpa using inner

instance (parameters : List Parameter) : Decidable (RequiredBehindOptional parameters) :=
  decidable_of_iff _ isWellGrouped_eq_false_iff

/-- The parameter lists that are accepted. -/
theorem isWellGrouped_iff {parameters : List Parameter} :
    isWellGrouped parameters = true ↔ ¬RequiredBehindOptional parameters := by
  rw [← isWellGrouped_eq_false_iff, Bool.not_eq_false]

example : RequiredBehindOptional
    [ { name := "offset", type := .ofName "num", optional := true },
      { name := "target", type := .ofName "Node" } ] := by
  decide

/-! ### Accepted lists -/

/-- In a list that is accepted, the parameters up to the first optional one are all that are required,
and those from there on are all that are optional. -/
theorem filter_optional_of_accepted {parameters : List Parameter}
    (accepted : ¬RequiredBehindOptional parameters) :
    (parameters.filter fun parameter => !parameter.optional) = requiredParameters parameters ∧
      (parameters.filter fun parameter => parameter.optional) = parametersFromOptional parameters := by
  have split : requiredParameters parameters ++ parametersFromOptional parameters = parameters :=
    List.takeWhile_append_dropWhile
  have required : ∀ parameter ∈ requiredParameters parameters, (!parameter.optional) = true :=
    List.all_eq_true.1 List.all_takeWhile
  have optional : ∀ parameter ∈ parametersFromOptional parameters, parameter.optional = true :=
    List.all_eq_true.1 (isWellGrouped_iff.2 accepted)
  -- Both filters see the two parts, of which each keeps one part as it is and drops the other.
  constructor
  · calc parameters.filter (fun parameter => !parameter.optional)
        = (requiredParameters parameters).filter (fun parameter => !parameter.optional) ++
            (parametersFromOptional parameters).filter fun parameter => !parameter.optional := by
          rw [← List.filter_append, split]
      _ = requiredParameters parameters := by
          have none : (parametersFromOptional parameters).filter (!·.optional) = [] :=
            List.filter_eq_nil_iff.2 fun parameter member => by simp [optional parameter member]
          rw [List.filter_eq_self.2 required, none, List.append_nil]
  · calc parameters.filter (fun parameter => parameter.optional)
        = (requiredParameters parameters).filter (fun parameter => parameter.optional) ++
            (parametersFromOptional parameters).filter fun parameter => parameter.optional := by
          rw [← List.filter_append, split]
      _ = parametersFromOptional parameters := by
          have none : (requiredParameters parameters).filter (·.optional) = [] :=
            List.filter_eq_nil_iff.2 fun parameter member => by simpa using required parameter member
          rw [List.filter_eq_self.2 optional, none, List.nil_append]

namespace Emitter

variable (emitter : Emitter)

/-- Parameters as they are written, each with its type in front of its name. -/
def typedParameters (scope : Scope) (parameters : List Parameter) : List String :=
  parameters.map fun parameter =>
    emitter.mapper.render (scope.enter .parameter parameter.name) parameter.type ++ " "
      ++ parameter.name

/-- A parameter list as it is written: the required parameters, and the optional ones in brackets. -/
def groupedParameters (scope : Scope) (parameters : List Parameter) : String :=
  let required := emitter.typedParameters scope (parameters.filter fun parameter =>
    !parameter.optional)
  let optional := emitter.typedParameters scope (parameters.filter fun parameter =>
    parameter.optional)
  let group := if optional = [] then [] else ["[" ++ ", ".intercalate optional ++ "]"]
  "(" ++ ", ".intercalate (required ++ group) ++ ")"

/-- Up to the first optional parameter and from there on is the same as required and optional. -/
theorem parameterList_eq (scope : Scope) {parameters : List Parameter}
    (accepted : ¬RequiredBehindOptional parameters) :
    emitter.parameterList scope parameters = emitter.groupedParameters scope parameters := by
  obtain ⟨required, optional⟩ := filter_optional_of_accepted accepted
  rw [parameterList, groupedParameters, required, optional]
  simp only [List.isEmpty_iff]
  rfl

/-- What has parameters is reported if they are refused, and written with its parameter list if they
are not. -/
theorem callable_eq (owner member : String) (scope : Scope) (parameters : List Parameter)
    (lines : String → List String) :
    emitter.callable owner member scope parameters lines =
      if RequiredBehindOptional parameters then .error (misgrouped owner member)
      else .ok (lines (emitter.groupedParameters scope parameters)) := by
  by_cases refused : RequiredBehindOptional parameters
  · rw [callable, isWellGrouped_eq_false_iff.2 refused, if_pos refused]
    rfl
  · rw [callable, isWellGrouped_iff.2 refused, if_neg refused, parameterList_eq emitter scope refused]
    rfl

end Emitter

end DartBindings.Emission
