/-!
Tables with text keys that remember the order in which keys first came.

A table is a list of entries with distinct keys.  Setting a key that is present replaces its value
where it stands; setting a new key appends an entry.  `find?` therefore sees the last value set, and
`keys` the order of first settings.

Main exports: Table, Table.set, Table.find?, Table.keys, Table.keys_set
-/

namespace DartBindings

universe u

/-- The entries with a key set: its value replaced in place, or a new entry at the end. -/
def setEntry {α : Type u} (key : String) (value : α) : List (String × α) → List (String × α)
  | [] => [(key, value)]
  | (k, old) :: rest =>
      if k = key then (k, value) :: rest else (k, old) :: setEntry key value rest

/-- Setting an entry adds its key at the end, unless it is there. -/
theorem keys_setEntry {α : Type u} (key : String) (value : α) (entries : List (String × α)) :
    (setEntry key value entries).map Prod.fst =
      if key ∈ entries.map Prod.fst then entries.map Prod.fst
      else entries.map Prod.fst ++ [key] := by
  induction entries with
  | nil => simp [setEntry]
  | cons entry rest ih =>
      obtain ⟨k, old⟩ := entry
      by_cases hk : k = key
      · simp [setEntry, hk]
      · have hk' : ¬key = k := fun h => hk h.symm
        by_cases hr : key ∈ rest.map Prod.fst
        · simp [setEntry, hk, ih, hr]
        · simp only [setEntry, hk, if_false, List.map_cons, ih, hr, List.mem_cons, hk', or_false]
          rfl

/-- Setting an entry keeps the keys different. -/
theorem nodup_keys_setEntry {α : Type u} (key : String) (value : α)
    {entries : List (String × α)} (distinct : (entries.map Prod.fst).Nodup) :
    ((setEntry key value entries).map Prod.fst).Nodup := by
  rw [keys_setEntry]
  split
  · exact distinct
  · next absent =>
      refine List.nodup_append.2 ⟨distinct, by simp, ?_⟩
      intro a ha b hb hab
      rw [List.mem_singleton.1 hb] at hab
      exact absent (hab ▸ ha)

/-- Entries with distinct text keys, in the order in which the keys first came. -/
structure Table (α : Type u) where
  entries : List (String × α)
  distinct : (entries.map Prod.fst).Nodup

namespace Table

variable {α : Type u}

/-- The table without entries. -/
def empty : Table α :=
  ⟨[], List.nodup_nil⟩

instance : Inhabited (Table α) := ⟨empty⟩

/-- The table with a key set to a value. -/
def set (table : Table α) (key : String) (value : α) : Table α :=
  ⟨setEntry key value table.entries, nodup_keys_setEntry key value table.distinct⟩

/-- The value of a key. -/
def find? (table : Table α) (key : String) : Option α :=
  table.entries.lookup key

/-- Whether the table has the key. -/
def contains (table : Table α) (key : String) : Bool :=
  table.entries.any fun entry => entry.1 == key

/-- The keys in the order in which they first came. -/
def keys (table : Table α) : List String :=
  table.entries.map Prod.fst

/-- The table that results from setting the pairs one after the other. -/
def ofList (pairs : List (String × α)) : Table α :=
  pairs.foldl (fun table pair => table.set pair.1 pair.2) empty

/-- Tables with the same entries are equal. -/
@[ext] theorem ext {first second : Table α} (h : first.entries = second.entries) :
    first = second := by
  cases first
  cases second
  cases h
  rfl

/-- Setting a key adds it at the end, unless it is there. -/
theorem keys_set (table : Table α) (key : String) (value : α) :
    (table.set key value).keys =
      if key ∈ table.keys then table.keys else table.keys ++ [key] :=
  keys_setEntry key value table.entries

/-- A table contains exactly its keys. -/
theorem contains_iff_mem_keys {table : Table α} {key : String} :
    table.contains key = true ↔ key ∈ table.keys := by
  simp [contains, keys]

end Table

end DartBindings
