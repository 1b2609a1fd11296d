import DartBindings.Naming
import DartBindings.Proofs.Lists
import Mathlib.Data.List.Nodup

/-!
Of several items of one name the first one is taken.

What is taken are items in their order, no two of one name, and for every name that was not seen before
there is an item among them.  The names seen stand for the items in front: what is taken, and what is
left, can be told from every item and those before it.

Main exports: ofNewName, ofKnownName, nodup_firstOfName, exists_mem_firstOfName
-/

namespace DartBindings

universe u

variable {α : Type u} {name : α → String} {seen : List String} {items : List α} {item : α}

/-- The first items of their names keep their order. -/
theorem firstOfName_sublist (name : α → String) (seen : List String) (items : List α) :
    (firstOfName name seen items).Sublist items := by
  induction items generalizing seen with
  | nil => exact List.Sublist.slnil
  | cons head tail ih =>
      rw [firstOfName]
      split
      · exact (ih seen).cons head
      · exact (ih (name head :: seen)).cons_cons head

theorem mem_of_mem_firstOfName (member : item ∈ firstOfName name seen items) : item ∈ items :=
  (firstOfName_sublist name seen items).subset member

/-- No name that was seen is kept. -/
theorem fresh_of_mem_firstOfName (member : item ∈ firstOfName name seen items) :
    name item ∉ seen := by
  induction items generalizing seen with
  | nil => cases member
  | cons head tail ih =>
      rw [firstOfName] at member
      split at member
      · exact ih member
      · next unseen =>
          rcases List.mem_cons.1 member with rfl | further
          · simpa using unseen
          · exact fun known => ih further (List.mem_cons_of_mem _ known)

/-- No two of the items have one name. -/
theorem nodup_firstOfName (name : α → String) (seen : List String) (items : List α) :
    ((firstOfName name seen items).map name).Nodup := by
  induction items generalizing seen with
  | nil => exact List.nodup_nil
  | cons head tail ih =>
      rw [firstOfName]
      split
      · exact ih seen
      · rw [List.map_cons, List.nodup_cons]
        refine ⟨fun again => ?_, ih (name head :: seen)⟩
        obtain ⟨item, member, same⟩ := List.mem_map.1 again
        exact fresh_of_mem_firstOfName member (same ▸ List.mem_cons_self)

/-- Of the items, one of each name that is not seen comes first. -/
theorem exists_mem_firstOfName (name : α → String) {items : List α} {item : α}
    (member : item ∈ items) (seen : List String) (fresh : name item ∉ seen) :
    ∃ first ∈ firstOfName name seen items, name first = name item := by
  induction items generalizing seen with
  | nil => cases member
  | cons head tail ih =>
      rw [firstOfName]
      split
      · next known =>
          rcases List.mem_cons.1 member with rfl | inTail
          · exact absurd (by simpa using known) fresh
          · exact ih inTail seen fresh
      · by_cases same : name item = name head
        · exact ⟨head, List.mem_cons_self, same.symm⟩
        · rcases List.mem_cons.1 member with rfl | inTail
          · exact absurd rfl same
          · obtain ⟨first, found, named⟩ := ih inTail (name head :: seen) (by simp [same, fresh])
            exact ⟨first, List.mem_cons_of_mem _ found, named⟩

/-! ### Items and the names in front of them -/

/-- The items with a name that no earlier item has. -/
def ofNewName (name : α → String) (items : List α) : List α :=
  ((withEarlier items).filter fun entry => name entry.2 ∉ entry.1.map name).map Prod.snd

/-- The items with a name that an earlier item has. -/
def ofKnownName (name : α → String) (items : List α) : List α :=
  ((withEarlier items).filter fun entry => name entry.2 ∈ entry.1.map name).map Prod.snd

/-- The items chosen by whether their name is seen or is the name of an earlier item. -/
def chosenByName (chosen : Bool → Bool) (name : α → String) (seen : List String) (items : List α) :
    List α :=
  ((withEarlier items).filter fun entry =>
    chosen (decide (name entry.2 ∈ seen ++ entry.1.map name))).map Prod.snd

/-- Behind an item its name is a seen one. -/
theorem chosenByName_cons (chosen : Bool → Bool) (name : α → String) (seen : List String) (item : α)
    (rest : List α) :
    chosenByName chosen name seen (item :: rest) =
      (if chosen (decide (name item ∈ seen)) then [item] else [])
        ++ chosenByName chosen name (name item :: seen) rest := by
  have behind (entry : List α × α) :
      chosen (decide (name entry.2 ∈ seen ++ (item :: entry.1).map name)) =
        chosen (decide (name entry.2 ∈ name item :: seen ++ entry.1.map name)) := by
    congr 2
    simp [or_left_comm]
  rw [chosenByName, withEarlier_cons, List.filter_cons, List.filter_map]
  simp only [Function.comp_def, behind, List.map_nil, List.append_nil]
  split
  · simp [chosenByName]
  · simp [chosenByName]

/-- To see a name again changes nothing. -/
theorem chosenByName_of_mem (chosen : Bool → Bool) (known : name item ∈ seen) (items : List α) :
    chosenByName chosen name (name item :: seen) items = chosenByName chosen name seen items := by
  have same (entry : List α × α) :
      name entry.2 ∈ name item :: seen ++ entry.1.map name ↔
        name entry.2 ∈ seen ++ entry.1.map name := by
    rw [List.cons_append, List.mem_cons]
    exact or_iff_right_of_imp fun same => List.mem_append_left _ (same ▸ known)
  simp only [chosenByName, same]

/-- The first items of their names are chosen by a new name. -/
theorem firstOfName_eq (name : α → String) (seen : List String) (items : List α) :
    firstOfName name seen items = chosenByName (!·) name seen items := by
  induction items generalizing seen with
  | nil => rfl
  | cons item rest ih =>
      rw [firstOfName, chosenByName_cons]
      by_cases known : name item ∈ seen
      · rw [if_pos (by simpa using known), ih, chosenByName_of_mem _ known]
        simp [known]
      · rw [if_neg (by simpa using known), ih]
        simp [known]

/-- The later items of their names are chosen by a known name. -/
theorem laterOfName_eq (name : α → String) (seen : List String) (items : List α) :
    laterOfName name seen items = chosenByName id name seen items := by
  induction items generalizing seen with
  | nil => rfl
  | cons item rest ih =>
      rw [laterOfName, chosenByName_cons]
      by_cases known : name item ∈ seen
      · rw [if_pos (by simpa using known), ih, chosenByName_of_mem _ known]
        simp [known]
      · rw [if_neg (by simpa using known), ih]
        simp [known]

/-- What is taken are the items whose name no earlier one has. -/
theorem firstOfName_nil (name : α → String) (items : List α) :
    firstOfName name [] items = ofNewName name items := by
  simp only [firstOfName_eq, chosenByName, ofNewName, List.nil_append, decide_not]

/-- What is left are the items whose name an earlier one has. -/
theorem laterOfName_nil (name : α → String) (items : List α) :
    laterOfName name [] items = ofKnownName name items := by
  simp only [laterOfName_eq, chosenByName, ofKnownName, List.nil_append, id_eq]

/-- Choosing by a new name goes through a map of the items. -/
theorem ofNewName_map {β : Type u} (f : β → α) (items : List β) :
    ofNewName name (items.map f) = (ofNewName (name ∘ f) items).map f := by
  simp only [ofNewName, withEarlier_map, List.filter_map, List.map_map, Function.comp_def]

/-- Choosing by a known name goes through a map of the items. -/
theorem ofKnownName_map {β : Type u} (f : β → α) (items : List β) :
    ofKnownName name (items.map f) = (ofKnownName (name ∘ f) items).map f := by
  simp only [ofKnownName, withEarlier_map, List.filter_map, List.map_map, Function.comp_def]

end DartBindings
