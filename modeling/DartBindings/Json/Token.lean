import DartBindings.Json.Number

/-!
Tokens of JSON documents.

A text is cut into tokens from left to right.  What is no token ends the list with `invalid`, so that
a reader sees every token in front of the first fault and meets the fault only when it gets there.

Main exports: Token, next?, tokens, length_next?
-/

namespace DartBindings.Json

/-- A token of a JSON document. -/
inductive Token where
  | openBrace
  | closeBrace
  | openBracket
  | closeBracket
  | comma
  | colon
  | null
  | bool (value : Bool)
  | number (value : Number)
  | string (text : String)
  | invalid
deriving Repr, Inhabited

namespace Token

/-- Blank characters between tokens. -/
def isSpace (c : Char) : Bool :=
  c == ' ' || c == '\n' || c == '\t' || c == '\r'

/-- The value of a hexadecimal digit. -/
def hexValue? (c : Char) : Option Nat :=
  if '0' ≤ c && c ≤ '9' then some (c.toNat - '0'.toNat)
  else if 'a' ≤ c && c ≤ 'f' then some (c.toNat - 'a'.toNat + 10)
  else if 'A' ≤ c && c ≤ 'F' then some (c.toNat - 'A'.toNat + 10)
  else none

/-- A number of four hexadecimal digits. -/
def hexQuad? : List Char → Option (Nat × List Char)
  | a :: b :: c :: d :: rest => do
      let a ← hexValue? a
      let b ← hexValue? b
      let c ← hexValue? c
      let d ← hexValue? d
      some (((a * 16 + b) * 16 + c) * 16 + d, rest)
  | _ => none

/-- Whether a 16-bit unit is the first of a surrogate pair. -/
def isHighSurrogate (unit : Nat) : Bool :=
  0xD800 ≤ unit && unit ≤ 0xDBFF

/-- Whether a 16-bit unit is the second of a surrogate pair. -/
def isLowSurrogate (unit : Nat) : Bool :=
  0xDC00 ≤ unit && unit ≤ 0xDFFF

/-- The second half of a surrogate pair, escaped like the first. -/
def lowHalf? : List Char → Option (Nat × List Char)
  | '\\' :: 'u' :: text => (hexQuad? text).filter fun found => isLowSurrogate found.1
  | _ => none

/-- The character of a surrogate pair. -/
def pairChar (high low : Nat) : Char :=
  Char.ofNat ((high - 0xD800) * 0x400 + (low - 0xDC00) + 0x10000)

/-- A character given by number: one unit, or a surrogate pair. -/
def numbered? (text : List Char) : Option (Char × List Char) := do
  let (unit, rest) ← hexQuad? text
  if isLowSurrogate unit then none
  else if isHighSurrogate unit then
    let (low, after) ← lowHalf? rest
    some (pairChar unit low, after)
  else some (Char.ofNat unit, rest)

/-- The character that an escape denotes, read after its backslash. -/
def escaped? : List Char → Option (Char × List Char)
  | [] => none
  | c :: rest =>
      if c = 'u' then numbered? rest
      else if c = '"' || c = '\\' || c = '/' then some (c, rest)
      else if c = 'b' then some ('\x08', rest)
      else if c = 'f' then some ('\x0c', rest)
      else if c = 'n' then some ('\n', rest)
      else if c = 'r' then some ('\r', rest)
      else if c = 't' then some ('\t', rest)
      else none

theorem length_hexQuad? {text rest : List Char} {value : Nat}
    (h : hexQuad? text = some (value, rest)) : rest.length < text.length := by
  match text, h with
  | a :: b :: c :: d :: tail, h =>
      simp only [hexQuad?, Option.bind_eq_bind, Option.bind_eq_some_iff, Option.some.injEq,
        Prod.mk.injEq] at h
      obtain ⟨_, _, _, _, _, _, _, _, _, rfl⟩ := h
      simp only [List.length_cons]
      omega

theorem length_lowHalf? {text rest : List Char} {low : Nat}
    (h : lowHalf? text = some (low, rest)) : rest.length < text.length := by
  unfold lowHalf? at h
  split at h
  · next tail =>
      have := length_hexQuad? (Option.filter_eq_some_iff.1 h).1
      simp only [List.length_cons]
      omega
  · cases h

theorem length_numbered? {text rest : List Char} {c : Char}
    (h : numbered? text = some (c, rest)) : rest.length < text.length := by
  simp only [numbered?, Option.bind_eq_bind, Option.bind_eq_some_iff] at h
  obtain ⟨⟨unit, tail⟩, hq, h⟩ := h
  have first := length_hexQuad? hq
  by_cases low : isLowSurrogate unit
  · simp [low] at h
  · by_cases high : isHighSurrogate unit
    · rw [if_neg low, if_pos high] at h
      obtain ⟨⟨half, after⟩, hl, h⟩ := Option.bind_eq_some_iff.1 h
      have second : after.length < tail.length := length_lowHalf? hl
      have same : after = rest := (Prod.mk.inj (Option.some.inj h)).2
      subst same
      exact Nat.lt_trans second first
    · rw [if_neg low, if_neg high] at h
      have same : tail = rest := (Prod.mk.inj (Option.some.inj h)).2
      subst same
      exact first

theorem length_escaped? {text rest : List Char} {c : Char}
    (h : escaped? text = some (c, rest)) : rest.length < text.length := by
  cases text with
  | nil => cases h
  | cons a tail =>
      simp only [escaped?] at h
      by_cases numbered : a = 'u'
      · rw [if_pos numbered] at h
        exact Nat.lt_succ_of_lt (length_numbered? h)
      · rw [if_neg numbered] at h
        repeat' split at h
        all_goals first
          | exact (Prod.mk.inj (Option.some.inj h)).2 ▸ Nat.lt_succ_self _
          | cases h

/-- The text of a string and what follows its closing quotation mark, read after the opening one. -/
def stringBody? (text : List Char) : Option (List Char × List Char) :=
  match text with
  | [] => none
  | c :: rest =>
      if c = '"' then some ([], rest)
      else if c = '\\' then
        match found : escaped? rest with
        | none => none
        | some (escapedChar, after) =>
            have : after.length < rest.length := length_escaped? found
            (stringBody? after).map fun (body, left) => (escapedChar :: body, left)
      else if c.toNat < 0x20 then none
      else (stringBody? rest).map fun (body, left) => (c :: body, left)
termination_by text.length
decreasing_by
  · simp only [List.length_cons]
    omega
  · simp

/-- The digits at the start of a text and what follows them. -/
def digits (text : List Char) : List Char × List Char :=
  (text.takeWhile Char.isDigit, text.dropWhile Char.isDigit)

/-- The digits in front of a decimal point: one digit, or several of which the first is not zero. -/
def wholeDigits? (text : List Char) : Option (List Char × List Char) :=
  match digits text with
  | ([], _) => none
  | ('0' :: _ :: _, _) => none
  | result => some result

/-- The digits behind a decimal point, at least one, if there is a point. -/
def fraction? : List Char → Option (Option (List Char) × List Char)
  | '.' :: rest =>
      match digits rest with
      | ([], _) => none
      | (found, after) => some (some found, after)
  | text => some (none, text)

/-- The sign of an exponent. -/
def exponentSign : List Char → Bool × List Char
  | '+' :: rest => (false, rest)
  | '-' :: rest => (true, rest)
  | text => (false, text)

/-- The exponent, with at least one digit, if there is one. -/
def exponent? : List Char → Option (Option (Bool × List Char) × List Char)
  | c :: rest =>
      if c = 'e' || c = 'E' then
        let (negative, after) := exponentSign rest
        match digits after with
        | ([], _) => none
        | (found, left) => some (some (negative, found), left)
      else some (none, c :: rest)
  | [] => some (none, [])

/-- The numeral at the start of a text, read after its sign. -/
def numeral? (negative : Bool) (text : List Char) : Option (Numeral × List Char) := do
  let (wholeDigits, text) ← wholeDigits? text
  let (fractionDigits, text) ← fraction? text
  let (exponent, text) ← exponent? text
  some (⟨negative, wholeDigits, fractionDigits, exponent⟩, text)

/-- The number token at the start of a text, read after its sign. -/
def number? (negative : Bool) (text : List Char) : Option (Token × List Char) := do
  let (numeral, rest) ← numeral? negative text
  let value ← numeral.value?
  some (.number value, rest)

/-- A token spelled by fixed letters. -/
def word? (letters : String) (token : Token) (text : List Char) : Option (Token × List Char) :=
  if letters.toList.isPrefixOf text then some (token, text.drop letters.length) else none

/-- The token that begins with the first of the characters. -/
def next? (text : List Char) : Option (Token × List Char) :=
  match text with
  | [] => none
  | '\x7b' :: rest => some (.openBrace, rest)
  | '\x7d' :: rest => some (.closeBrace, rest)
  | '[' :: rest => some (.openBracket, rest)
  | ']' :: rest => some (.closeBracket, rest)
  | ',' :: rest => some (.comma, rest)
  | ':' :: rest => some (.colon, rest)
  | '"' :: rest => (stringBody? rest).map fun (body, after) => (.string (String.ofList body), after)
  | '-' :: rest => number? true rest
  | 'n' :: _ => word? "null" .null text
  | 't' :: _ => word? "true" (.bool true) text
  | 'f' :: _ => word? "false" (.bool false) text
  | _ => number? false text

theorem length_digits_le (text : List Char) : (digits text).2.length ≤ text.length :=
  (List.dropWhile_sublist _).length_le

theorem length_wholeDigits? {text found rest : List Char}
    (h : wholeDigits? text = some (found, rest)) : rest.length < text.length := by
  cases text with
  | nil => simp [wholeDigits?, digits] at h
  | cons c tail =>
      have shorter := (List.dropWhile_sublist (l := tail) Char.isDigit).length_le
      by_cases digit : c.isDigit
      · have rest_eq : rest = tail.dropWhile Char.isDigit := by
          unfold wholeDigits? at h
          split at h
          · cases h
          · cases h
          · have same := congrArg Prod.snd (Option.some.inj h)
            simpa [digits, digit] using same.symm
        subst rest_eq
        simp only [List.length_cons]
        omega
      · simp [wholeDigits?, digits, digit] at h

theorem length_fraction? {text rest : List Char} {found : Option (List Char)}
    (h : fraction? text = some (found, rest)) : rest.length ≤ text.length := by
  unfold fraction? at h
  split at h
  · next tail =>
      have shorter := length_digits_le tail
      split at h
      · cases h
      · next digits_found after _ hd =>
          have same : after = rest := (Prod.mk.inj (Option.some.inj h)).2
          subst same
          rw [hd] at shorter
          simp only [List.length_cons] at shorter ⊢
          omega
  · have same := (Prod.mk.inj (Option.some.inj h)).2
    subst same
    exact Nat.le_refl _

theorem length_exponentSign_le (text : List Char) :
    (exponentSign text).2.length ≤ text.length := by
  unfold exponentSign
  split <;> simp

theorem length_exponent? {text rest : List Char} {found : Option (Bool × List Char)}
    (h : exponent? text = some (found, rest)) : rest.length ≤ text.length := by
  unfold exponent? at h
  split at h
  · next c tail =>
      split at h
      · have signed := length_exponentSign_le tail
        have shorter := length_digits_le (exponentSign tail).2
        simp only at h
        split at h
        · cases h
        · next digits_found after _ hd =>
            have same : after = rest := (Prod.mk.inj (Option.some.inj h)).2
            subst same
            rw [hd] at shorter
            simp only [List.length_cons] at shorter ⊢
            omega
      · have same := (Prod.mk.inj (Option.some.inj h)).2
        subst same
        exact Nat.le_refl _
  · have same := (Prod.mk.inj (Option.some.inj h)).2
    subst same
    exact Nat.le_refl _

theorem length_number? {negative : Bool} {text rest : List Char} {token : Token}
    (h : number? negative text = some (token, rest)) : rest.length < text.length := by
  simp only [number?, numeral?, Option.bind_eq_bind, Option.bind_eq_some_iff] at h
  obtain ⟨⟨numeral, after⟩, ⟨⟨_, afterWhole⟩, hw, ⟨_, afterFraction⟩, hf, ⟨_, afterExponent⟩,
    he, hn⟩, _, _, h⟩ := h
  have first := length_wholeDigits? hw
  have second := length_fraction? hf
  have third := length_exponent? he
  have same : afterExponent = after := (Prod.mk.inj (Option.some.inj hn)).2
  have last : after = rest := (Prod.mk.inj (Option.some.inj h)).2
  subst same
  subst last
  exact Nat.lt_of_le_of_lt (Nat.le_trans third second) first

theorem length_stringBody? {text body rest : List Char}
    (h : stringBody? text = some (body, rest)) : rest.length < text.length := by
  fun_induction stringBody? text generalizing body rest with
  | case1 => cases h
  | case2 tail =>
      have same := (Prod.mk.inj (Option.some.inj h)).2
      subst same
      simp
  | case3 => cases h
  | case4 tail d after he _ _ ih =>
      obtain ⟨⟨inner, left⟩, hi, h⟩ := Option.map_eq_some_iff.1 h
      have shorter := length_escaped? he
      have inside := ih hi
      have same : left = rest := (Prod.mk.inj h).2
      subst same
      simp only [List.length_cons]
      omega
  | case5 => cases h
  | case6 c tail _ _ _ ih =>
      obtain ⟨⟨inner, left⟩, hi, h⟩ := Option.map_eq_some_iff.1 h
      have := ih hi
      have same := (Prod.mk.inj h).2
      subst same
      simp only [List.length_cons]
      omega

theorem length_word? {letters : String} {token found : Token} {text rest : List Char}
    (some_letter : 0 < letters.length) (h : word? letters token text = some (found, rest)) :
    rest.length < text.length := by
  unfold word? at h
  split at h
  · next starts =>
      have fits := (List.isPrefixOf_iff_prefix.1 starts).length_le
      have same := (Prod.mk.inj (Option.some.inj h)).2
      subst same
      simp only [List.length_drop, String.length_toList] at fits ⊢
      omega
  · cases h

/-- Every token is taken off the text, so that there are finitely many. -/
theorem length_next? {text rest : List Char} {token : Token}
    (h : next? text = some (token, rest)) : rest.length < text.length := by
  unfold next? at h
  split at h
  · cases h
  all_goals first
    | exact (Prod.mk.inj (Option.some.inj h)).2 ▸ Nat.lt_succ_self _
    | exact Nat.lt_succ_of_lt (length_number? h)
    | exact length_number? h
    | exact length_word? (by decide) h
    | skip
  obtain ⟨⟨body, after⟩, hb, h⟩ := Option.map_eq_some_iff.1 h
  exact (Prod.mk.inj h).2 ▸ Nat.lt_succ_of_lt (length_stringBody? hb)

/-- The text without blank characters in front of the next token. -/
def skipSpace (text : List Char) : List Char :=
  text.dropWhile isSpace

/-- The tokens of a text. -/
def tokens (text : List Char) : List Token :=
  if (skipSpace text).isEmpty then []
  else
    match found : next? (skipSpace text) with
    | none => [.invalid]
    | some (token, rest) =>
        have : rest.length < text.length :=
          Nat.lt_of_lt_of_le (length_next? found) (List.dropWhile_sublist _).length_le
        token :: tokens rest
termination_by text.length

end Token

end DartBindings.Json
