import DartBindings.Config.Reader
import DartBindings.Proofs.Json.Tokens
import DartBindings.Proofs.Table

/-!
What readers take from the tokens of a document.

A reader takes a value from a piece of the tokens when it does so whatever follows the piece.  Each
kind of reader is followed once: strings, arrays and tables of what another reader takes, and the
members of a structure.  Arrays, tables and structures are all read part after part, so the walk over
parts and commas is followed in one place.

Main exports: Reader.Takes, list_takes, table_takes, Record.reader_takes
-/

namespace DartBindings.Config

open Json (Token)

namespace Reader

variable {α σ : Type}

/-- The reader takes the value from the tokens and leaves whatever follows them. -/
def Takes (reader : Reader α) (found : List Token) (value : α) : Prop :=
  ∀ rest, reader.run (found ++ rest) = .ok (value, rest)

/-! ## Parts with commas between them -/

/-- Parts that are taken one after the other, from a first state to a last one. -/
inductive TakesEach (step : σ → Reader σ) : σ → List (List Token) → σ → Prop
  | nil (state : σ) : TakesEach step state [] state
  | cons {state next last : σ} {part : List Token} {parts : List (List Token)}
      (head : (step state).Takes part next) (further : TakesEach step next parts last) :
      TakesEach step state (part :: parts) last

variable {close : Token → Bool} {step : σ → Reader σ} {state last : σ} {closing : Token}
  {parts : List (List Token)}

/-- At the closing token there are no more parts. -/
theorem moreRun_closing (closes : close closing = true) (rest : List Token) :
    moreRun close step state (closing :: rest) = .ok (state, rest) := by
  rw [moreRun.eq_def]
  exact if_pos closes

/-- Behind a comma a part is taken, and the parts go on behind it. -/
theorem moreRun_comma (notComma : close .comma = false) {next : σ} {tokens left : List Token}
    (taken : (step state).run tokens = .ok (next, left)) :
    moreRun close step state (.comma :: tokens) = moreRun close step next left := by
  rw [moreRun, if_neg (by simp [notComma])]
  split
  · next problem failed =>
      rw [taken] at failed
      cases failed
  · next next' left' some =>
      rw [taken] at some
      cases some
      rfl

/-- Parts that each stand behind a comma are taken up to the closing token. -/
theorem moreRun_of_takesEach (notComma : close .comma = false) (closes : close closing = true)
    (each : TakesEach step state parts last) (rest : List Token) :
    moreRun close step state (parts.flatMap (.comma :: ·) ++ closing :: rest) = .ok (last, rest) := by
  induction each with
  | nil state => exact moreRun_closing closes rest
  | @cons state next last part parts head _ ih =>
      have taken := head (parts.flatMap (.comma :: ·) ++ closing :: rest)
      rw [List.flatMap_cons, List.cons_append, List.cons_append, List.append_assoc,
        moreRun_comma notComma taken]
      exact ih

/-- Parts with commas between them are taken up to the closing token, if the first part does not
begin like the end. -/
theorem partsRun_of_takesEach (notComma : close .comma = false) (closes : close closing = true)
    (opens : ∀ part ∈ parts, ∃ token found, part = token :: found ∧ close token = false)
    (each : TakesEach step state parts last) (rest : List Token) :
    partsRun close step state ([Token.comma].intercalate parts ++ closing :: rest)
      = .ok (last, rest) := by
  cases each with
  | nil => rw [List.intercalate_nil, List.nil_append, partsRun, if_pos closes]
  | @cons _ next _ part parts head further =>
      obtain ⟨token, found, rfl, stays⟩ := opens part List.mem_cons_self
      have taken := head (parts.flatMap (.comma :: ·) ++ closing :: rest)
      rw [List.cons_append] at taken
      rw [intercalate_singleton_cons, List.append_assoc, List.cons_append, partsRun,
        if_neg (by simp [stays]), taken]
      exact moreRun_of_takesEach notComma closes further rest

/-! ## Values -/

/-- A string is taken from its token. -/
theorem text_takes (wanted : Wanted) (value : String) :
    (text wanted).Takes (Json.string value).spelling value := by
  intro rest
  rw [Json.spelling]
  rfl

/-- No value begins with a closing bracket. -/
theorem spelling_opens (document : Json) :
    ∃ token found, document.spelling = token :: found ∧ closesArray token = false := by
  cases document <;> exact ⟨_, _, by rw [Json.spelling], rfl⟩

/-- An element is put at the end of the list. -/
theorem appended_takes {item : Reader α} {found : List Token} {value : α}
    (takes : item.Takes found value) (list : List α) :
    (appended item list).Takes found (list ++ [value]) := by
  intro rest
  simp only [appended, takes rest, Except.map]

/-- Elements are taken one by one into the list. -/
theorem appended_takesEach {item : Reader α} {encode : α → Json} {values : List α}
    (takes : ∀ value ∈ values, item.Takes (encode value).spelling value) (front : List α) :
    TakesEach (appended item) front (values.map fun value => (encode value).spelling)
      (front ++ values) := by
  induction values generalizing front with
  | nil =>
      rw [List.append_nil]
      exact .nil front
  | cons value values ih =>
      rw [List.forall_mem_cons] at takes
      have further := ih takes.2 (front ++ [value])
      rw [List.append_assoc, List.singleton_append] at further
      exact .cons (appended_takes takes.1 front) further

/-- A list of values is taken from the array of their documents. -/
theorem list_takes {item : Reader α} {encode : α → Json} {values : List α}
    (takes : ∀ value ∈ values, item.Takes (encode value).spelling value) :
    (list item).Takes (Json.array (values.map encode)).spelling values := by
  intro rest
  have opens : ∀ part ∈ values.map fun value => (encode value).spelling,
      ∃ token found, part = token :: found ∧ closesArray token = false := by
    intro part member
    obtain ⟨value, _, rfl⟩ := List.mem_map.1 member
    exact spelling_opens (encode value)
  have closes : closesArray .closeBracket = true := rfl
  have run := partsRun_of_takesEach rfl closes opens (appended_takesEach takes []) rest
  rw [Json.spelling, Json.elementSpellings_eq_map, List.map_map, List.cons_append,
    List.append_assoc]
  exact run

/-- A value that does not begin with null is taken as one that is present. -/
theorem optional_takes {item : Reader α} {token : Token} {found : List Token} {value : α}
    (present : token ≠ .null) (takes : item.Takes (token :: found) value) :
    item.optional.Takes (token :: found) (some value) := by
  intro rest
  have taken := takes rest
  rw [List.cons_append] at taken ⊢
  simp only [optional, optionalRun]
  split
  · next isNull => exact absurd (List.cons.inj isNull).1 present
  · rw [taken]
    rfl

/-! ## Objects -/

/-- The members of an object are taken up to its closing brace. -/
theorem members_take {step : σ → Reader σ} {state last : σ} {members : List (String × Json)}
    (each : TakesEach step state (Json.memberSpellings members) last) (rest : List Token) :
    partsRun closesObject step state
        ([Token.comma].intercalate (Json.memberSpellings members) ++ [.closeBrace] ++ rest)
      = .ok (last, rest) := by
  have opens : ∀ part ∈ Json.memberSpellings members,
      ∃ token found, part = token :: found ∧ closesObject token = false := by
    intro part member
    rw [Json.memberSpellings_eq_map] at member
    obtain ⟨_, _, rfl⟩ := List.mem_map.1 member
    exact ⟨_, _, rfl, rfl⟩
  rw [List.append_assoc]
  exact partsRun_of_takesEach rfl rfl opens each rest

/-- A member is put into the table under its key. -/
theorem entry_takes {item : Reader α} {found : List Token} {value : α}
    (takes : item.Takes found value) (key : String) (table : Table α) :
    (entry item table).Takes (.string key :: .colon :: found) (table.set key value) := by
  intro rest
  simp only [entry, entryRun, List.cons_append, takes rest, Except.map]

/-- Members are taken one by one into the table. -/
theorem entries_takeEach {item : Reader α} {encode : α → Json} {entries : List (String × α)}
    (takes : ∀ entry ∈ entries, item.Takes (encode entry.2).spelling entry.2) (table : Table α) :
    TakesEach (entry item) table
      (Json.memberSpellings (entries.map fun entry => (entry.1, encode entry.2)))
      (entries.foldl (fun table pair => table.set pair.1 pair.2) table) := by
  induction entries generalizing table with
  | nil => exact .nil table
  | cons pair entries ih =>
      rw [List.forall_mem_cons] at takes
      exact .cons (entry_takes takes.1 pair.1 table) (ih takes.2 _)

/-- A table is taken from the object of its entries. -/
theorem table_takes {item : Reader α} {encode : α → Json} {values : Table α}
    (takes : ∀ entry ∈ values.entries, item.Takes (encode entry.2).spelling entry.2) :
    (table item).Takes
      (Json.object (values.entries.map fun entry => (entry.1, encode entry.2))).spelling values := by
  intro rest
  have run := members_take (entries_takeEach takes Table.empty) rest
  rw [← Table.ofList, Table.ofList_entries] at run
  rw [Json.spelling]
  exact run

/-! ## Structures -/

/-- A field that is not set yet is taken behind its name and put into the draft. -/
theorem member_takes {fields : List (Field σ)} {draft : σ} {key : String} {isSet : σ → Bool}
    {item : Reader α} {put : α → σ → σ} {found : List Token} {value : α}
    (known : fields.find? (·.name == key) = some ⟨key, isSet, item.into put⟩)
    (unset : isSet draft = false) (takes : item.Takes found value) :
    (member fields draft).Takes (.string key :: .colon :: found) (put value draft) := by
  intro rest
  simp only [member, memberRun, List.cons_append, known, unset, into, takes rest, Except.map]
  rfl

end Reader

/-- A structure is taken from the object of its members. -/
theorem Record.reader_takes {σ α : Type} {record : Record σ α} {last : σ} {value : α}
    {members : List (String × Json)} (finished : record.ofObject last = .ok value)
    (each : Reader.TakesEach (Reader.member record.fields) record.draft
      (Json.memberSpellings members) last) :
    record.reader.Takes (Json.object members).spelling value := by
  intro rest
  have run := Reader.members_take each rest
  rw [Json.spelling, Record.reader]
  simp only [List.cons_append, Record.run, run, Record.finish, finished]

end DartBindings.Config
