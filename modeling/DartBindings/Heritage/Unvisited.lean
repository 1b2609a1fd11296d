/-!
How much of a walk is left.

A walk that never visits a place twice ends, because every step leaves fewer places unvisited.

Main exports: unvisited, unvisited_cons_le, unvisited_cons_lt
-/

namespace DartBindings

universe u

variable {α : Type u} [DecidableEq α]

/-- How many of the places are not among the visited ones. -/
def unvisited (visited : List α) : List α → Nat
  | [] => 0
  | place :: rest => (if place ∈ visited then 0 else 1) + unvisited visited rest

/-- A further visit leaves no more places. -/
theorem unvisited_cons_le (visited places : List α) (place : α) :
    unvisited (place :: visited) places ≤ unvisited visited places := by
  induction places with
  | nil => exact Nat.le_refl _
  | cons head tail ih =>
      simp only [unvisited, List.mem_cons]
      by_cases seen : head ∈ visited
      · simpa [seen] using ih
      · by_cases same : head = place
        · subst same
          simp only [seen, true_or, if_true, if_false]
          omega
        · simp only [seen, same, or_false, if_false]
          omega

/-- A visit to a new place leaves fewer places, so that walks come to an end. -/
theorem unvisited_cons_lt {visited places : List α} {place : α} (known : place ∈ places)
    (fresh : place ∉ visited) : unvisited (place :: visited) places < unvisited visited places := by
  induction places with
  | nil => cases known
  | cons head tail ih =>
      have shorter := unvisited_cons_le visited tail place
      simp only [unvisited, List.mem_cons]
      rcases List.mem_cons.1 known with same | inTail
      · subst same
        simp only [fresh, true_or, if_true, if_false]
        omega
      · have strictly := ih inTail
        by_cases seen : head ∈ visited
        · simpa [seen] using strictly
        · by_cases same : head = place
          · subst same
            simp only [seen, true_or, if_true, if_false]
            omega
          · simp only [seen, same, or_false, if_false]
            omega

end DartBindings
