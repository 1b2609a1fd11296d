import DartBindings.Text.Casing
import Mathlib.Logic.Basic

/-!
Capitalized texts.

A text that is capitalized stays as it is when it is capitalized once more: the first character of the
uppercase of a character is its own uppercase.  That is read off the case data, where no run and no
listed character leads to a character that changes again.  What begins with a capitalized text is
capitalized, so names that are joined from capitalized ones are.

Main exports: capitalize_capitalize, capitalize_append
-/

namespace DartBindings.Text

/-- The code points of a run. -/
def CaseRun.codes (run : CaseRun) : List Nat :=
  (List.range ((run.last - run.first) / run.step + 1)).map fun place =>
    run.first + place * run.step

/-- Where a run leads to from a code point. -/
def CaseRun.lead (run : CaseRun) (code : Nat) : Nat :=
  Int.toNat (code + run.shift)

/-- The codes of a run are listed. -/
theorem CaseRun.mem_codes {run : CaseRun} {code : Nat} (held : run.holds code = true) :
    code ∈ run.codes := by
  simp only [CaseRun.holds, Bool.and_eq_true, decide_eq_true_eq, beq_iff_eq] at held
  obtain ⟨⟨first, last⟩, step⟩ := held
  have place : (code - run.first) / run.step ≤ (run.last - run.first) / run.step :=
    Nat.div_le_div_right (Nat.sub_le_sub_right last _)
  have whole : (code - run.first) / run.step * run.step = code - run.first :=
    Nat.div_mul_cancel (Nat.dvd_of_mod_eq_zero step)
  refine List.mem_map.2 ⟨(code - run.first) / run.step, List.mem_range.2 (by omega), ?_⟩
  rw [whole]
  omega

/-- The runs from characters to the first characters of their uppercase. -/
def firstUpperRuns : List CaseRun :=
  upperRuns ++ upperExpansions.map fun entry =>
    ⟨entry.1, entry.1, 1, (entry.2.headD entry.1 : Int) - entry.1⟩

/-- The code points that change case. -/
def changingCodes : List Nat :=
  firstUpperRuns.flatMap CaseRun.codes

/-- The code points that they change to. -/
def changedCodes : List Nat :=
  firstUpperRuns.flatMap fun run => run.codes.map run.lead

/-- A set of code points as the bits of a number.  Two such sets are compared in one step, where a
comparison code point by code point would take millions of them. -/
def bitsOf (codes : List Nat) : Nat :=
  codes.foldr (fun code bits => 1 <<< code ||| bits) 0

/-- A listed code has its bit in the number that stands for the list. -/
theorem testBit_bitsOf {codes : List Nat} {code : Nat} (member : code ∈ codes) :
    (bitsOf codes).testBit code = true := by
  induction codes with
  | nil => cases member
  | cons first rest ih =>
      rw [bitsOf, List.foldr_cons, Nat.testBit_or, Bool.or_eq_true]
      rcases List.mem_cons.1 member with rfl | further
      · exact .inl (by simp)
      · exact .inr (ih further)

/-- No code that changes in uppercase is the result of such a change. -/
theorem bitsOf_changing_and_changed : bitsOf changingCodes &&& bitsOf changedCodes = 0 := by
  decide +kernel

theorem first_pos_of_mem_firstUpperRuns : ∀ run ∈ firstUpperRuns, 0 < run.first := by
  decide +kernel

/-- No character vanishes in uppercase. -/
theorem ne_nil_of_mem_upperExpansions : ∀ entry ∈ upperExpansions, entry.2 ≠ [] := by
  decide +kernel

/-- No code point that a run leads to changes case again. -/
theorem holds_lead {run other : CaseRun} (isRun : run ∈ firstUpperRuns)
    (isOther : other ∈ firstUpperRuns) {code : Nat} (held : run.holds code = true) :
    other.holds (run.lead code) = false := by
  rw [Bool.eq_false_iff]
  intro heldAgain
  have changing : run.lead code ∈ changingCodes :=
    List.mem_flatMap.2 ⟨other, isOther, CaseRun.mem_codes heldAgain⟩
  have changed : run.lead code ∈ changedCodes :=
    List.mem_flatMap.2 ⟨run, isRun, List.mem_map_of_mem (CaseRun.mem_codes held)⟩
  have both : (bitsOf changingCodes &&& bitsOf changedCodes).testBit (run.lead code) = true := by
    rw [Nat.testBit_and, testBit_bitsOf changing, testBit_bitsOf changed, Bool.and_true]
  rw [bitsOf_changing_and_changed, Nat.zero_testBit] at both
  cases both

/-- A character whose code point no run holds is its own uppercase. -/
theorem upper_of_not_held {c : Char}
    (free : ∀ run ∈ firstUpperRuns, run.holds c.toNat = false) : upper c = [c] := by
  have unlisted : upperExpansions.lookup c.toNat = none := by
    rw [List.lookup_eq_none_iff]
    intro entry listed
    have single := free _ (List.mem_append_right _ (List.mem_map_of_mem listed))
    rw [bne_iff_ne]
    intro same
    simp [CaseRun.holds, same] at single
  have outside : upperRuns.find? (·.holds c.toNat) = none := by
    rw [List.find?_eq_none]
    intro run member
    simp [free run (List.mem_append_left _ member)]
  rw [upper, changeCase, unlisted]
  simp only [shiftCase, outside]

/-- The uppercase of a character begins with what a run that holds it leads to, if there is one. -/
theorem upper_eq_self_or_exists_lead (c : Char) :
    upper c = [c] ∨ ∃ run ∈ firstUpperRuns, run.holds c.toNat = true ∧
      ∃ more, upper c = Char.ofNat (run.lead c.toNat) :: more := by
  rw [upper, changeCase]
  split
  -- A listed character is taken for a run of its own.
  · next codes found =>
      obtain ⟨front, rest, entries, -⟩ := List.lookup_eq_some_iff.1 found
      have listed : (c.toNat, codes) ∈ upperExpansions := by
        rw [entries]
        exact List.mem_append_right _ List.mem_cons_self
      obtain ⟨code, more, rfl⟩ := List.exists_cons_of_ne_nil (ne_nil_of_mem_upperExpansions _ listed)
      refine .inr ⟨_, List.mem_append_right _ (List.mem_map_of_mem listed), ?_, more.map Char.ofNat, ?_⟩
      · simp [CaseRun.holds]
      · have lead : CaseRun.lead ⟨c.toNat, c.toNat, 1, (code : Int) - c.toNat⟩ c.toNat = code := by
          simp only [CaseRun.lead]
          omega
        simp only [List.headD_cons, List.map_cons, lead]
  · rw [shiftCase]
    split
    · next run found =>
        have held : run.holds c.toNat = true :=
          List.find?_some (p := fun run : CaseRun => run.holds c.toNat) found
        have member : run ∈ firstUpperRuns :=
          List.mem_append_left _ (List.mem_of_find?_eq_some found)
        exact .inr ⟨run, member, held, [], rfl⟩
    · exact .inl rfl

/-- What a run leads to is its own uppercase. -/
theorem upper_lead {run : CaseRun} (member : run ∈ firstUpperRuns) {code : Nat}
    (held : run.holds code = true) :
    upper (Char.ofNat (run.lead code)) = [Char.ofNat (run.lead code)] := by
  apply upper_of_not_held
  intro other isOther
  by_cases valid : (run.lead code).isValidChar
  · have code : (Char.ofNat (run.lead code)).toNat = run.lead code := by
      rw [Char.ofNat, dif_pos valid]
      rfl
    rw [code]
    exact holds_lead member isOther held
  · have code : (Char.ofNat (run.lead code)).toNat = 0 := by
      rw [Char.ofNat, dif_neg valid]
      rfl
    rw [code]
    have pos := first_pos_of_mem_firstUpperRuns other isOther
    simp [CaseRun.holds, Nat.not_le_of_lt pos]

/-- The first character of the uppercase of a character is its own uppercase. -/
theorem exists_upper_eq (c : Char) : ∃ first more, upper c = first :: more ∧ upper first = [first] := by
  rcases upper_eq_self_or_exists_lead c with same | ⟨run, member, held, more, found⟩
  · exact ⟨c, [], same, same⟩
  · exact ⟨_, more, found, upper_lead member held⟩

/-! ### Capitalized texts -/

/-- A capitalized text is capitalized already. -/
theorem capitalizeChars_capitalizeChars (text : List Char) :
    capitalizeChars (capitalizeChars text) = capitalizeChars text := by
  cases text with
  | nil => rfl
  | cons c rest =>
      obtain ⟨first, more, found, unchanged⟩ := exists_upper_eq c
      rw [capitalizeChars, found, List.cons_append, capitalizeChars, unchanged, List.singleton_append]

/-- A text behind a capitalized one does not matter, unless that one is empty. -/
theorem capitalizeChars_append {front rest : List Char} (frontCapital : capitalizeChars front = front)
    (restCapital : capitalizeChars rest = rest) :
    capitalizeChars (front ++ rest) = front ++ rest := by
  cases front with
  | nil => exact restCapital
  | cons c front =>
      rw [capitalizeChars] at frontCapital
      rw [List.cons_append, capitalizeChars, ← List.append_assoc, frontCapital, List.cons_append]

theorem capitalize_eq_self_iff {name : String} :
    capitalize name = name ↔ capitalizeChars name.toList = name.toList := by
  rw [← String.toList_inj, capitalize, String.toList_ofList]

/-- Capitalizing once more changes nothing. -/
theorem capitalize_capitalize (name : String) : capitalize (capitalize name) = capitalize name := by
  rw [capitalize, capitalize, String.toList_ofList, capitalizeChars_capitalizeChars]

/-- Names that are capitalized are a capitalized name when they are joined, also if the first of them
is empty. -/
theorem capitalize_append {front rest : String} (frontCapital : capitalize front = front)
    (restCapital : capitalize rest = rest) : capitalize (front ++ rest) = front ++ rest := by
  rw [capitalize_eq_self_iff, String.toList_append]
  exact capitalizeChars_append (capitalize_eq_self_iff.1 frontCapital)
    (capitalize_eq_self_iff.1 restCapital)

end DartBindings.Text
