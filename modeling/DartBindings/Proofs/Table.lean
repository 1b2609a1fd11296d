import DartBindings.Table

/-!
Entries of tables: a look-up finds the one entry of its key, and a new key is an entry at the end, so
that a table is made again from its own entries.

Main exports: find?_eq_some_iff, entries_set_of_absent, ofList_entries
-/

namespace DartBindings

universe u

namespace Table

variable {α : Type u} {table : Table α} {key : String} {value : α}

theorem mem_keys_of_mem_entries (member : (key, value) ∈ table.entries) : key ∈ table.keys :=
  List.mem_map_of_mem (f := Prod.fst) member

/-- The keys of a table are those of its entries. -/
theorem mem_keys_iff : key ∈ table.keys ↔ ∃ value, (key, value) ∈ table.entries := by
  simp [keys]

/-- A look-up finds a value exactly when the key has it. -/
theorem find?_eq_some_iff : table.find? key = some value ↔ (key, value) ∈ table.entries := by
  unfold find?
  rw [List.lookup_eq_some_iff]
  constructor
  · rintro ⟨front, rest, split, _⟩
    simp [split]
  · intro member
    obtain ⟨front, rest, split⟩ := List.append_of_mem member
    refine ⟨front, rest, split, ?_⟩
    have distinct := table.distinct
    rw [split, List.map_append, List.map_cons, List.nodup_append] at distinct
    intro entry inFront
    rw [bne_iff_ne]
    exact (distinct.2.2 entry.1 (List.mem_map_of_mem inFront) key List.mem_cons_self).symm

/-- An entry of a new key is put at the end. -/
theorem setEntry_of_absent {entries : List (String × α)} (absent : key ∉ entries.map Prod.fst) :
    setEntry key value entries = entries ++ [(key, value)] := by
  induction entries with
  | nil =>
      rfl
  | cons entry rest ih =>
      obtain ⟨other, old⟩ := entry
      rw [List.map_cons, List.mem_cons, not_or] at absent
      rw [setEntry, if_neg fun same => absent.1 same.symm, ih absent.2, List.cons_append]

/-- Setting a new key appends its entry. -/
theorem entries_set_of_absent (absent : key ∉ table.keys) :
    (table.set key value).entries = table.entries ++ [(key, value)] :=
  setEntry_of_absent absent

/-- Entries of new keys that are set one after the other come behind the others, in order. -/
theorem entries_foldl_set (table : Table α) {pairs : List (String × α)}
    (fresh : ((table.entries ++ pairs).map Prod.fst).Nodup) :
    (pairs.foldl (fun table pair => table.set pair.1 pair.2) table).entries
      = table.entries ++ pairs := by
  induction pairs generalizing table with
  | nil => rw [List.foldl_nil, List.append_nil]
  | cons pair pairs ih =>
      have absent : pair.1 ∉ table.keys := by
        intro present
        rw [List.map_append, List.nodup_append] at fresh
        exact fresh.2.2 pair.1 present pair.1 List.mem_cons_self rfl
      have grown : (table.set pair.1 pair.2).entries ++ pairs = table.entries ++ pair :: pairs := by
        rw [entries_set_of_absent absent, List.append_assoc, List.singleton_append]
      rw [List.foldl_cons, ih _ (grown ▸ fresh), grown]

/-- Setting the entries of a table one after the other gives the table. -/
theorem ofList_entries (table : Table α) : ofList table.entries = table :=
  ext (entries_foldl_set empty table.distinct)

/-- A table that only gains entries keeps its keys. -/
theorem keys_subset_of_prefix {first second : Table α} (kept : first.entries <+: second.entries) :
    first.keys ⊆ second.keys :=
  List.map_subset Prod.fst kept.subset

end Table

end DartBindings
