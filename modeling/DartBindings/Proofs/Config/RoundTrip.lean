import DartBindings.Config.Document
import DartBindings.Proofs.Config.Decoding

/-!
A configuration is read back from its own document.

Nothing of a configuration is lost on the way: texts come back through their escapes, a filter's list
of included members is absent, empty or filled as before, and both tables keep the order of their
entries.

Main exports: ofJson_compact_document
-/

namespace DartBindings.Config

open Json (Numberless)

/-! ## The documents have no numbers -/

theorem numberless_strings (texts : List String) : Numberless (Json.strings texts) := by
  apply Numberless.array
  intro element member
  obtain ⟨text, _, rfl⟩ := List.mem_map.1 member
  exact .string text

theorem numberless_table {α : Type} {encode : α → Json} (encoded : ∀ value, Numberless (encode value))
    (entries : List (String × α)) :
    Numberless (.object (entries.map fun entry => (entry.1, encode entry.2))) := by
  apply Numberless.object
  intro member known
  obtain ⟨entry, _, rfl⟩ := List.mem_map.1 known
  exact encoded entry.2

theorem numberless_filter (filter : MemberFilter) : Numberless filter.document := by
  obtain ⟨included, excluded⟩ := filter
  apply Numberless.object
  cases included <;> cases excluded <;> simp [numberless_strings]

/-- The document of a configuration has no numbers. -/
theorem numberless_document (config : Config) : Numberless config.document := by
  apply Numberless.object
  simp only [List.forall_mem_cons]
  exact ⟨.string _, .string _, numberless_strings _, numberless_table .string _,
    numberless_table numberless_filter _, fun _ none => absurd none List.not_mem_nil⟩

/-! ## Filters -/

theorem strings_takes (wanted : Wanted) (texts : List String) :
    (Reader.list (Reader.text wanted)).Takes (Json.strings texts).spelling texts :=
  Reader.list_takes fun text _ => Reader.text_takes wanted text

/-- A list that is present is taken as present, also when it is empty. -/
theorem optional_strings_takes (wanted : Wanted) (texts : List String) :
    (Reader.list (Reader.text wanted)).optional.Takes (Json.strings texts).spelling (some texts) := by
  have takes := strings_takes wanted texts
  rw [Json.strings, Json.spelling] at takes ⊢
  exact Reader.optional_takes (by simp) takes

/-- The draft that a filter's own document fills. -/
def filterDraft (filter : MemberFilter) : FilterDraft where
  included := filter.included.map some
  excluded := if filter.excluded.isEmpty then none else some filter.excluded

/-- A filter is what its draft is read as. -/
theorem filter_filterDraft (filter : MemberFilter) : (filterDraft filter).filter = filter := by
  obtain ⟨included, excluded⟩ := filter
  cases included <;> cases excluded <;> rfl

/-- The list of excluded members is taken into a draft that has none. -/
theorem excluded_takeEach {draft : FilterDraft} (unset : draft.excluded.isSome = false)
    (excluded : List String) :
    Reader.TakesEach (Reader.member filterRecord.fields) draft
      (Json.memberSpellings
        (if excluded.isEmpty then [] else [("exclude", Json.strings excluded)]))
      { draft with excluded := if excluded.isEmpty then draft.excluded else some excluded } := by
  cases excluded with
  | nil => exact .nil draft
  | cons name names =>
      exact .cons (Reader.member_takes rfl unset (strings_takes .text _)) (.nil _)

/-- A filter is taken from its own document, which leaves out what has its default. -/
theorem filter_takes (filter : MemberFilter) :
    filterRecord.reader.Takes filter.document.spelling filter := by
  have finished : filterRecord.ofObject (filterDraft filter) = .ok filter :=
    congrArg Except.ok (filter_filterDraft filter)
  apply Record.reader_takes finished
  obtain ⟨included, excluded⟩ := filter
  cases included with
  | none => exact excluded_takeEach rfl excluded
  | some members =>
      exact .cons (Reader.member_takes rfl rfl (optional_strings_takes .text members))
        (excluded_takeEach rfl excluded)

/-! ## Configurations -/

/-- The draft that a configuration's own document fills. -/
def fullDraft (config : Config) : Draft where
  libraryName := some config.libraryName
  outDir := some config.outDir
  inputs := some config.inputs
  replacements := some config.replacements
  declarations := some config.declarations

/-- The table of replacements is taken from its tokens. -/
theorem replacements_takes (replacements : Table String) :
    (Reader.table (Reader.text .text)).Takes
      (Json.object (replacements.entries.map fun entry => (entry.1, .string entry.2))).spelling
      replacements :=
  Reader.table_takes fun entry _ => Reader.text_takes .text entry.2

/-- The table of declarations is taken from its tokens. -/
theorem declarations_takes (declarations : Table MemberFilter) :
    (Reader.table filterRecord.reader).Takes
      (Json.object (declarations.entries.map fun entry => (entry.1, entry.2.document))).spelling
      declarations :=
  Reader.table_takes fun entry _ => filter_takes entry.2

/-- A configuration is taken from its own document, which has every member. -/
theorem document_takes (config : Config) :
    record.reader.Takes config.document.spelling config := by
  have finished : record.ofObject (fullDraft config) = .ok config := rfl
  apply Record.reader_takes finished
  -- one step for each member: its name is known, no member of that name came before, and what
  -- stands behind the name is taken
  exact .cons (Reader.member_takes rfl rfl (Reader.text_takes .text config.libraryName)) <|
    .cons (Reader.member_takes rfl rfl (Reader.text_takes .path config.outDir)) <|
    .cons (Reader.member_takes rfl rfl (strings_takes .path config.inputs)) <|
    .cons (Reader.member_takes rfl rfl (replacements_takes config.replacements)) <|
    .cons (Reader.member_takes rfl rfl (declarations_takes config.declarations)) <|
    .nil _

/-- A configuration is read back from its own compact document, with the same texts and filters and
with the entries of both tables in the same order. -/
theorem ofJson_compact_document (config : Config) :
    ofJson config.document.compact = .ok config := by
  have run := document_takes config []
  rw [List.append_nil, ← Json.tokens_compact (numberless_document config)] at run
  have read : record.run (Json.Token.tokens config.document.compact.toList) = .ok (config, []) := run
  simp only [ofJson, read]

end DartBindings.Config
