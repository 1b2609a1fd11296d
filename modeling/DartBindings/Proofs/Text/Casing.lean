import DartBindings.Text.Casing
import Mathlib.Logic.Basic

/-!
Lowercase and separators.

What changes in lowercase are the capital letters and other characters behind them, and they change to
characters that stand behind the separator of paths.  So a text without a separator has none in
lowercase.

Main exports: separator_notMem_lowerFrom
-/

namespace DartBindings.Text

/-- Lowercase leads to no character in front of the capital letters. -/
theorem shift_of_mem_lowerRuns :
    ∀ run ∈ lowerRuns, 47 < (run.first : Int) + run.shift := by
  decide +kernel

/-- The separator of paths is not the lowercase of another character that a run moves. -/
theorem shiftCase_ne_separator {c : Char} (different : c ≠ '/') : shiftCase lowerRuns c ≠ '/' := by
  rw [shiftCase]
  split
  · next run found =>
      intro same
      have above := shift_of_mem_lowerRuns run (List.mem_of_find?_eq_some found)
      have holds : run.holds c.toNat = true :=
        List.find?_some (p := fun run : CaseRun => run.holds c.toNat) found
      have first : run.first ≤ c.toNat := by
        simp only [CaseRun.holds, Bool.and_eq_true, decide_eq_true_eq] at holds
        exact holds.1.1
      by_cases valid : (Int.toNat (c.toNat + run.shift)).isValidChar
      · rw [Char.ofNat, dif_pos valid] at same
        have code : Int.toNat (c.toNat + run.shift) = 47 := congrArg Char.toNat same
        omega
      · rw [Char.ofNat, dif_neg valid] at same
        cases same
  · exact different

/-- The separator of paths is in the lowercase of no other character. -/
theorem separator_notMem_lower {c : Char} (different : c ≠ '/') : '/' ∉ lower c := by
  rw [lower, changeCase]
  split
  · next codes listed =>
      obtain ⟨front, rest, entries, -⟩ := List.lookup_eq_some_iff.1 listed
      have member : (c.toNat, codes) ∈ lowerExpansions := by
        rw [entries]
        exact List.mem_append_right _ List.mem_cons_self
      obtain rfl : codes = [0x69, 0x307] := congrArg Prod.snd (List.mem_singleton.1 member)
      decide
  · intro member
    exact shiftCase_ne_separator different (List.mem_singleton.1 member).symm

/-- A text without a separator has none in lowercase. -/
theorem separator_notMem_lowerFrom {before text : List Char} (plain : '/' ∉ text) :
    '/' ∉ lowerFrom before text := by
  induction text generalizing before with
  | nil => exact plain
  | cons c rest ih =>
      rw [lowerFrom, List.mem_append]
      rintro (first | later)
      · split at first
        · split at first
          · exact absurd first (by decide)
          · exact absurd first (by decide)
        · exact separator_notMem_lower (fun same => plain (same ▸ List.mem_cons_self)) first
      · exact ih (fun member => plain (List.mem_cons_of_mem _ member)) later

end DartBindings.Text
