import Mathlib.Data.List.Forall2
import Mathlib.Data.List.Infix

/-!
Lists whose items are related one by one, lists put together from parts, and items with what stands in
front of them.

Main exports: withEarlier, forall₂_trans, append_inj_of_stop
-/

namespace DartBindings

section Related

variable {α β : Type} {related : α → β → Prop} {items : List α} {twins : List β}

/-- An item of one list has a related item in the other one. -/
theorem exists_of_mem_forall₂ (pairs : List.Forall₂ related items twins) {item : α}
    (member : item ∈ items) : ∃ twin ∈ twins, related item twin := by
  induction pairs with
  | nil => cases member
  | cons head _ ih =>
      rcases List.mem_cons.1 member with rfl | further
      · exact ⟨_, List.mem_cons_self, head⟩
      · obtain ⟨twin, known, pair⟩ := ih further
        exact ⟨twin, List.mem_cons_of_mem _ known, pair⟩

/-- What a search finds in a list, the same search finds related in a related list. -/
theorem find?_of_related {p : α → Bool} {q : β → Bool}
    (agree : ∀ item twin, related item twin → p item = q twin)
    (pairs : List.Forall₂ related items twins) {item : α} (found : items.find? p = some item) :
    ∃ twin, twins.find? q = some twin ∧ related item twin := by
  induction pairs with
  | nil => cases found
  | @cons first twin _ _ head _ ih =>
      rw [List.find?_cons] at found ⊢
      rw [← agree first twin head]
      cases chosen : p first with
      | true =>
          rw [chosen] at found
          cases found
          exact ⟨twin, rfl, head⟩
      | false =>
          rw [chosen] at found
          exact ih found

/-- What is chosen from related items stays related to the twins that are kept, if an item yields
something exactly when its twin is kept. -/
theorem forall₂_filterMap_filter {γ : Type} {choose : α → Option γ} {keeps : β → Bool}
    {result : γ → β → Prop} (pairs : List.Forall₂ related items twins)
    (agree : ∀ item twin, related item twin →
      (choose item = none ∧ keeps twin = false) ∨
        ∃ chosen, choose item = some chosen ∧ keeps twin = true ∧ result chosen twin) :
    List.Forall₂ result (items.filterMap choose) (twins.filter keeps) := by
  induction pairs with
  | nil => exact .nil
  | cons head _ ih =>
      rcases agree _ _ head with ⟨nothing, dropped⟩ | ⟨chosen, found, kept, holds⟩
      · rw [List.filterMap_cons_none nothing, List.filter_cons_of_neg (by simp [dropped])]
        exact ih
      · rw [List.filterMap_cons_some found, List.filter_cons_of_pos kept]
        exact .cons holds ih

end Related

/-- With a separator of one item, each further part stands behind the separator. -/
theorem intercalate_singleton_cons {α : Type} (separator : α) (part : List α)
    (parts : List (List α)) :
    [separator].intercalate (part :: parts) = part ++ parts.flatMap (separator :: ·) := by
  induction parts generalizing part with
  | nil => simp
  | cons next parts ih =>
      rw [List.intercalate_cons_cons, ih, List.flatMap_cons, List.append_assoc]
      rfl

/-- Items that satisfy a predicate are told apart from what is behind them by the first item that does
not satisfy it. -/
theorem takeWhile_append_of_stop {α : Type} {p : α → Bool} {front behind : List α}
    (satisfied : ∀ item ∈ front, p item = true) (stop : ∀ item ∈ behind.head?, p item = false) :
    (front ++ behind).takeWhile p = front := by
  have nothing : behind.takeWhile p = [] := by
    cases behind with
    | nil => rfl
    | cons item rest => exact List.takeWhile_cons_of_neg (by simp [stop item rfl])
  rw [List.takeWhile_append_of_pos satisfied, nothing, List.append_nil]

/-- Parts that go on up to the first item that fails a test are found again in the whole. -/
theorem append_inj_of_stop {α : Type} {p : α → Bool} {first second behind rest : List α}
    (satisfiedFirst : ∀ item ∈ first, p item = true)
    (satisfiedSecond : ∀ item ∈ second, p item = true)
    (stopBehind : ∀ item ∈ behind.head?, p item = false)
    (stopRest : ∀ item ∈ rest.head?, p item = false) (same : first ++ behind = second ++ rest) :
    first = second ∧ behind = rest := by
  have sameFront : first = second := by
    have taken := congrArg (List.takeWhile p) same
    rwa [takeWhile_append_of_stop satisfiedFirst stopBehind,
      takeWhile_append_of_stop satisfiedSecond stopRest] at taken
  refine ⟨sameFront, ?_⟩
  rw [sameFront] at same
  exact List.append_cancel_left same

theorem dropWhile_congr {α : Type} {p q : α → Bool} {items : List α}
    (agree : ∀ item ∈ items, p item = q item) : items.dropWhile p = items.dropWhile q := by
  induction items with
  | nil => rfl
  | cons item rest ih =>
      obtain ⟨here, behind⟩ := List.forall_mem_cons.1 agree
      rw [List.dropWhile_cons, List.dropWhile_cons, here, ih behind]

theorem filterMap_cons_eq_append {α β : Type} (choose : α → Option β) (item : α) (rest : List α) :
    (item :: rest).filterMap choose = (choose item).toList ++ rest.filterMap choose := by
  cases found : choose item with
  | none => rw [List.filterMap_cons_none found, Option.toList_none, List.nil_append]
  | some chosen => rw [List.filterMap_cons_some found, Option.toList_some, List.singleton_append]

/-- What is chosen comes from the items in front or from the last one. -/
theorem mem_filterMap_concat {α β : Type} {choose : α → Option β} {items : List α} {item : α}
    {chosen : β} :
    chosen ∈ (items ++ [item]).filterMap choose ↔
      chosen ∈ items.filterMap choose ∨ choose item = some chosen := by
  rw [List.filterMap_append, List.mem_append]
  simp [List.mem_filterMap]

/-- What is chosen from items is chosen from a first one of them. -/
theorem exists_first_of_mem_filterMap {α β : Type} {choose : α → Option β} {items : List α}
    {chosen : β} (member : chosen ∈ items.filterMap choose) :
    ∃ front first behind, items = front ++ first :: behind ∧ choose first = some chosen ∧
      chosen ∉ front.filterMap choose := by
  induction items with
  | nil => cases member
  | cons item rest ih =>
      by_cases found : choose item = some chosen
      · exact ⟨[], item, rest, rfl, found, List.not_mem_nil⟩
      · obtain ⟨source, further, choice⟩ := List.mem_filterMap.1 member
        have further : source ∈ rest := (List.mem_cons.1 further).resolve_left
          fun same => found (same ▸ choice)
        obtain ⟨front, first, behind, split, first_found, fresh⟩ :=
          ih (List.mem_filterMap.2 ⟨source, further, choice⟩)
        refine ⟨item :: front, first, behind, by rw [split, List.cons_append], first_found, ?_⟩
        rintro again
        obtain ⟨earlier, place, choice⟩ := List.mem_filterMap.1 again
        rcases List.mem_cons.1 place with rfl | inFront
        · exact found choice
        · exact fresh (List.mem_filterMap.2 ⟨earlier, inFront, choice⟩)

/-- Related lists are related item by item across a third. -/
theorem forall₂_trans {α : Type} {related : α → α → Prop}
    (trans : ∀ first second third, related first second → related second third →
      related first third) {firsts seconds thirds : List α}
    (lower : List.Forall₂ related firsts seconds) (upper : List.Forall₂ related seconds thirds) :
    List.Forall₂ related firsts thirds := by
  induction lower generalizing thirds with
  | nil => exact upper
  | cons head _ ih =>
      cases upper with
      | cons head' tail' => exact .cons (trans _ _ _ head head') (ih tail')

/-! ### Items and what stands in front of them -/

section Earlier

universe u v

variable {α : Type u} {β : Type v}

/-- Every item with the items in front of it. -/
def withEarlier (items : List α) : List (List α × α) :=
  items.inits.zip items

theorem withEarlier_cons (item : α) (rest : List α) :
    withEarlier (item :: rest) =
      ([], item) :: (withEarlier rest).map fun entry => (item :: entry.1, entry.2) := by
  rw [withEarlier, List.inits_cons, List.zip_cons_cons, List.zip_map_left, withEarlier]
  rfl

theorem withEarlier_concat (items : List α) (item : α) :
    withEarlier (items ++ [item]) = withEarlier items ++ [(items, item)] := by
  induction items with
  | nil => rfl
  | cons first rest ih =>
      rw [List.cons_append, withEarlier_cons, ih, withEarlier_cons, List.map_append]
      rfl

theorem withEarlier_map (f : α → β) (items : List α) :
    withEarlier (items.map f) =
      (withEarlier items).map fun entry => (entry.1.map f, f entry.2) := by
  induction items with
  | nil => rfl
  | cons item rest ih =>
      rw [List.map_cons, withEarlier_cons, withEarlier_cons, ih, List.map_cons, List.map_map,
        List.map_map]
      rfl

end Earlier

end DartBindings
