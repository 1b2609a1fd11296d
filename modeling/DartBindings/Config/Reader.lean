import DartBindings.Config.Problem
import DartBindings.Config.Basic

/-!
Reading a configuration from the tokens of a JSON document.

A reader takes a value from the front of the tokens and always takes at least one token, so that
reading member after member ends.  The document is read from left to right and the first problem
wins.  The two structures, configuration and filter, are written as objects or as arrays of their
fields in order, whose missing elements at the end have their defaults.  Repeated keys are a problem
in a structure; in a table the last value counts, in the place of the first.

Main exports: Reader, Reader.list, Reader.table, Record.reader, Config.ofJson
-/

namespace DartBindings.Config

open Json (Token)

/-- A way to take a value from the front of a list of tokens. -/
structure Reader (α : Type) where
  run : List Token → Except Problem (α × List Token)
  consumes : ∀ {tokens value rest}, run tokens = .ok (value, rest) → rest.length < tokens.length

namespace Reader

variable {α σ : Type}

/-- The problem of tokens that do not begin with what is wanted there. -/
def mismatch (wanted : Wanted) : List Token → Problem
  | [] => .malformed
  | token :: _ =>
      match Found.ofToken? token with
      | some found => .wrongKind found wanted
      | none => .malformed

/-- Take a string. -/
def textRun (wanted : Wanted) : List Token → Except Problem (String × List Token)
  | .string text :: rest => .ok (text, rest)
  | tokens => .error (mismatch wanted tokens)

/-- The reader of a string. -/
def text (wanted : Wanted) : Reader String where
  run := textRun wanted
  consumes := by
    intro tokens value rest h
    unfold textRun at h
    split at h
    · cases h
      exact Nat.lt_succ_self _
    · cases h

/-- Take further parts, each behind a comma, up to the closing token. -/
def moreRun (close : Token → Bool) (step : σ → Reader σ) (state : σ) (tokens : List Token) :
    Except Problem (σ × List Token) :=
  match tokens with
  | [] => .error .malformed
  | token :: rest =>
      if close token then .ok (state, rest)
      else
        match token with
        | .comma =>
            match taken : (step state).run rest with
            | .error problem => .error problem
            | .ok (next, left) =>
                have : left.length < rest.length := (step state).consumes taken
                moreRun close step next left
        | _ => .error .malformed
termination_by tokens.length

/-- Take parts separated by commas, up to the closing token. -/
def partsRun (close : Token → Bool) (step : σ → Reader σ) (start : σ) :
    List Token → Except Problem (σ × List Token)
  | [] => .error .malformed
  | token :: rest =>
      if close token then .ok (start, rest)
      else
        match (step start).run (token :: rest) with
        | .error problem => .error problem
        | .ok (next, left) => moreRun close step next left

/-- Reading further parts takes tokens away. -/
theorem moreRun_consumes {close : Token → Bool} {step : σ → Reader σ} {state value : σ}
    {tokens rest : List Token} (h : moreRun close step state tokens = .ok (value, rest)) :
    rest.length < tokens.length := by
  fun_induction moreRun close step state tokens with
  | case1 => cases h
  | case2 =>
      cases h
      exact Nat.lt_succ_self _
  | case3 => cases h
  | case4 state tail _ next left taken shorter ih =>
      have := ih h
      simp only [List.length_cons]
      omega
  | case5 => cases h

theorem partsRun_consumes {close : Token → Bool} {step : σ → Reader σ} {start value : σ}
    {tokens rest : List Token} (h : partsRun close step start tokens = .ok (value, rest)) :
    rest.length < tokens.length := by
  unfold partsRun at h
  split at h
  · cases h
  · split at h
    · cases h
      exact Nat.lt_succ_self _
    · split at h
      · cases h
      · next taken =>
          exact Nat.lt_trans (moreRun_consumes h) ((step start).consumes taken)

/-- Whether a token closes an array. -/
def closesArray : Token → Bool
  | .closeBracket => true
  | _ => false

/-- Whether a token closes an object. -/
def closesObject : Token → Bool
  | .closeBrace => true
  | _ => false

/-- The reader that puts what is taken behind a list. -/
def appended (item : Reader α) (list : List α) : Reader (List α) where
  run tokens := (item.run tokens).map fun (value, rest) => (list ++ [value], rest)
  consumes := by
    intro tokens value rest h
    cases taken : item.run tokens with
    | error problem => simp [taken, Except.map] at h
    | ok result =>
        simp only [taken, Except.map, Except.ok.injEq, Prod.mk.injEq] at h
        exact h.2 ▸ item.consumes taken

/-- Take an array whose elements are all alike. -/
def listRun (item : Reader α) : List Token → Except Problem (List α × List Token)
  | .openBracket :: rest => partsRun closesArray (appended item) [] rest
  | tokens => .error (mismatch .sequence tokens)

/-- The reader of an array whose elements are all alike. -/
def list (item : Reader α) : Reader (List α) where
  run := listRun item
  consumes := by
    intro tokens value rest h
    unfold listRun at h
    split at h
    · exact Nat.lt_succ_of_lt (partsRun_consumes h)
    · cases h

/-- Take null, or else a value. -/
def optionalRun (item : Reader α) : List Token → Except Problem (Option α × List Token)
  | .null :: rest => .ok (none, rest)
  | tokens => (item.run tokens).map fun (value, rest) => (some value, rest)

/-- The reader of null or a value. -/
def optional (item : Reader α) : Reader (Option α) where
  run := optionalRun item
  consumes := by
    intro tokens value rest h
    unfold optionalRun at h
    split at h
    · cases h
      exact Nat.lt_succ_self _
    · cases taken : item.run tokens with
      | error problem => simp [taken, Except.map] at h
      | ok result =>
          simp only [taken, Except.map, Except.ok.injEq, Prod.mk.injEq] at h
          exact h.2 ▸ item.consumes taken

/-- Take a key and its value into a table. -/
def entryRun (item : Reader α) (table : Table α) :
    List Token → Except Problem (Table α × List Token)
  | .string key :: .colon :: rest =>
      (item.run rest).map fun (value, left) => (table.set key value, left)
  | _ => .error .malformed

/-- The reader of a key and its value into a table. -/
def entry (item : Reader α) (table : Table α) : Reader (Table α) where
  run := entryRun item table
  consumes := by
    intro tokens value rest h
    unfold entryRun at h
    split at h
    · next key tail =>
        cases taken : item.run tail with
        | error problem => simp [taken, Except.map] at h
        | ok result =>
            simp only [taken, Except.map, Except.ok.injEq, Prod.mk.injEq] at h
            have shorter := item.consumes taken
            rw [h.2] at shorter
            simp only [List.length_cons]
            omega
    · cases h

/-- Take an object whose keys are free and whose values are all alike. -/
def tableRun (item : Reader α) : List Token → Except Problem (Table α × List Token)
  | .openBrace :: rest => partsRun closesObject (entry item) Table.empty rest
  | tokens => .error (mismatch .map tokens)

/-- The reader of an object whose keys are free and whose values are all alike. -/
def table (item : Reader α) : Reader (Table α) where
  run := tableRun item
  consumes := by
    intro tokens value rest h
    unfold tableRun at h
    split at h
    · exact Nat.lt_succ_of_lt (partsRun_consumes h)
    · cases h

end Reader

/-- A field of a structure that is read into a draft. -/
structure Field (σ : Type) where
  name : String
  isSet : σ → Bool
  reader : σ → Reader σ

/-- The reader that sets a part of a draft. -/
def Reader.into {α σ : Type} (item : Reader α) (put : α → σ → σ) (draft : σ) : Reader σ where
  run tokens := (item.run tokens).map fun (value, rest) => (put value draft, rest)
  consumes := by
    intro tokens value rest h
    cases taken : item.run tokens with
    | error problem => simp [taken, Except.map] at h
    | ok result =>
        simp only [taken, Except.map, Except.ok.injEq, Prod.mk.injEq] at h
        exact h.2 ▸ item.consumes taken

namespace Reader

variable {α σ : Type}

/-- Take a field's name and its value.  A name that is unknown or was there before is a problem in
front of whatever follows it. -/
def memberRun (fields : List (Field σ)) (draft : σ) :
    List Token → Except Problem (σ × List Token)
  | .string key :: rest =>
      match fields.find? (·.name == key) with
      | none => .error (.unknownField key (fields.map Field.name))
      | some field =>
          if field.isSet draft then .error (.duplicateField key)
          else
            match rest with
            | .colon :: left => (field.reader draft).run left
            | _ => .error .malformed
  | _ => .error .malformed

/-- The reader of a field's name and its value. -/
def member (fields : List (Field σ)) (draft : σ) : Reader σ where
  run := memberRun fields draft
  consumes := by
    intro tokens value rest h
    unfold memberRun at h
    split at h
    · split at h
      · cases h
      · next field _ =>
          split at h
          · cases h
          · split at h
            · have shorter := (field.reader draft).consumes h
              simp only [List.length_cons]
              omega
            · cases h
    · cases h

/-- Take further elements, each behind a comma, into the fields in order. -/
def moreElementsRun : List (Field σ) → σ → List Token → Except Problem (σ × List Token)
  | _, draft, .closeBracket :: rest => .ok (draft, rest)
  | field :: fields, draft, .comma :: rest =>
      match (field.reader draft).run rest with
      | .error problem => .error problem
      | .ok (next, left) => moreElementsRun fields next left
  | _, _, _ => .error .malformed

/-- Take elements into the fields in order. -/
def elementsRun (fields : List (Field σ)) (draft : σ) :
    List Token → Except Problem (σ × List Token)
  | .closeBracket :: rest => .ok (draft, rest)
  | tokens =>
      match fields with
      | [] => .error .malformed
      | field :: fields =>
          match (field.reader draft).run tokens with
          | .error problem => .error problem
          | .ok (next, left) => moreElementsRun fields next left

theorem moreElementsRun_consumes {fields : List (Field σ)} {draft value : σ}
    {tokens rest : List Token} (h : moreElementsRun fields draft tokens = .ok (value, rest)) :
    rest.length < tokens.length := by
  fun_induction moreElementsRun fields draft tokens with
  | case1 =>
      cases h
      exact Nat.lt_succ_self _
  | case2 => cases h
  | case3 field fields draft tail next left taken ih =>
      have first := (field.reader draft).consumes taken
      have second := ih h
      simp only [List.length_cons]
      omega
  | case4 => cases h

theorem elementsRun_consumes {fields : List (Field σ)} {draft value : σ}
    {tokens rest : List Token} (h : elementsRun fields draft tokens = .ok (value, rest)) :
    rest.length < tokens.length := by
  unfold elementsRun at h
  split at h
  · cases h
    exact Nat.lt_succ_self _
  · split at h
    · cases h
    · next field fields =>
        split at h
        · cases h
        · next taken =>
            exact Nat.lt_trans (moreElementsRun_consumes h) ((field.reader draft).consumes taken)

end Reader

/-- A structure: its fields, the draft that has none of them, and the value of a finished draft when
it was read from an object or from an array. -/
structure Record (σ α : Type) where
  wanted : Wanted
  fields : List (Field σ)
  draft : σ
  ofObject : σ → Except Problem α
  ofArray : σ → Except Problem α

namespace Record

variable {α σ : Type}

/-- Finish a draft and keep what follows. -/
def finish (value : σ → Except Problem α) :
    Except Problem (σ × List Token) → Except Problem (α × List Token)
  | .error problem => .error problem
  | .ok (draft, rest) =>
      match value draft with
      | .error problem => .error problem
      | .ok done => .ok (done, rest)

/-- Take a structure written as an object or as an array. -/
def run (record : Record σ α) : List Token → Except Problem (α × List Token)
  | .openBrace :: rest =>
      finish record.ofObject
        (Reader.partsRun Reader.closesObject (Reader.member record.fields) record.draft rest)
  | .openBracket :: rest =>
      finish record.ofArray (Reader.elementsRun record.fields record.draft rest)
  | tokens => .error (Reader.mismatch record.wanted tokens)

/-- What is finished came from a draft that was read. -/
theorem of_finish {value : σ → Except Problem α} {result : Except Problem (σ × List Token)}
    {done : α} {rest : List Token} (h : finish value result = .ok (done, rest)) :
    ∃ draft, result = .ok (draft, rest) := by
  unfold finish at h
  split at h
  · cases h
  · next draft left =>
      split at h
      · cases h
      · cases h
        exact ⟨draft, rfl⟩

/-- The reader of a structure. -/
def reader (record : Record σ α) : Reader α where
  run := record.run
  consumes := by
    intro tokens value rest h
    unfold run at h
    split at h
    · obtain ⟨_, taken⟩ := of_finish h
      exact Nat.lt_succ_of_lt (Reader.partsRun_consumes taken)
    · obtain ⟨_, taken⟩ := of_finish h
      exact Nat.lt_succ_of_lt (Reader.elementsRun_consumes taken)
    · cases h

end Record

/-- A filter that is being read. -/
structure FilterDraft where
  included : Option (Option (List String)) := none
  excluded : Option (List String) := none

/-- The filter of a finished draft. -/
def FilterDraft.filter (draft : FilterDraft) : MemberFilter :=
  { included := draft.included.getD none, excluded := draft.excluded.getD [] }

/-- The structure of a filter. -/
def filterRecord : Record FilterDraft MemberFilter where
  wanted := .filter
  fields := [
    ⟨"include", fun draft => draft.included.isSome,
      (Reader.list (Reader.text .text)).optional.into
        fun value draft => { draft with included := some value }⟩,
    ⟨"exclude", fun draft => draft.excluded.isSome,
      (Reader.list (Reader.text .text)).into
        fun value draft => { draft with excluded := some value }⟩]
  draft := {}
  ofObject draft := .ok draft.filter
  ofArray draft := .ok draft.filter

/-- A configuration that is being read. -/
structure Draft where
  libraryName : Option String := none
  outDir : Option String := none
  inputs : Option (List String) := none
  replacements : Option (Table String) := none
  declarations : Option (Table MemberFilter) := none

/-- The configuration of a finished draft, or the problem of a draft without the library's name. -/
def Draft.config (draft : Draft) (unnamed : Problem) : Except Problem Config :=
  match draft.libraryName with
  | none => .error unnamed
  | some libraryName =>
      .ok
        { libraryName := libraryName
          outDir := draft.outDir.getD "."
          inputs := draft.inputs.getD []
          replacements := draft.replacements.getD Table.empty
          declarations := draft.declarations.getD Table.empty }

/-- The structure of a configuration. -/
def record : Record Draft Config where
  wanted := .config
  fields := [
    ⟨"libraryName", fun draft => draft.libraryName.isSome,
      (Reader.text .text).into fun value draft => { draft with libraryName := some value }⟩,
    ⟨"outDir", fun draft => draft.outDir.isSome,
      (Reader.text .path).into fun value draft => { draft with outDir := some value }⟩,
    ⟨"inputs", fun draft => draft.inputs.isSome,
      (Reader.list (Reader.text .path)).into fun value draft => { draft with inputs := some value }⟩,
    ⟨"typeReplacements", fun draft => draft.replacements.isSome,
      (Reader.table (Reader.text .text)).into
        fun value draft => { draft with replacements := some value }⟩,
    ⟨"declarations", fun draft => draft.declarations.isSome,
      (Reader.table filterRecord.reader).into
        fun value draft => { draft with declarations := some value }⟩]
  draft := {}
  ofObject draft := draft.config (.missingField "libraryName")
  ofArray draft := draft.config (.tooShort 0 5 .config)

/-- The configuration that a JSON document describes.  Nothing may follow the document. -/
def ofJson (document : String) : Except Problem Config :=
  match record.run (Token.tokens document.toList) with
  | .error problem => .error problem
  | .ok (config, []) => .ok config
  | .ok (_, _ :: _) => .error .malformed

end DartBindings.Config
