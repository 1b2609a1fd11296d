import DartBindings.Json.Token
import DartBindings.Json.Value
import DartBindings.Proofs.Lists

/-!
Compact documents and their tokens.

Every character of a string is read back from its escape, so a quoted string is one token again.
Texts whose tokens do not depend on what follows them can be put one behind the other, and that is
how the tokens of an array and of an object come from the tokens of their parts.

Main exports: Tokenizes, Json.spelling, Json.tokens_compact
-/

namespace DartBindings.Json

namespace Token

/-! ## Strings -/

/-- A written hexadecimal digit is read as its value. -/
theorem hexValue?_hexDigit : ∀ n < 16, hexValue? (hexDigit n) = some n := by
  decide

/-- Four digits are read back from their number. -/
theorem hexQuad?_hexQuad {n : Nat} (small : n < 0x10000) (rest : List Char) :
    hexQuad? (hexQuad n ++ rest) = some (n, rest) := by
  have digit (m : Nat) : hexValue? (hexDigit (m % 16)) = some (m % 16) :=
    hexValue?_hexDigit _ (Nat.mod_lt m (by decide))
  have whole : ((n / 4096 % 16 * 16 + n / 256 % 16) * 16 + n / 16 % 16) * 16 + n % 16 = n := by
    omega
  simp only [hexQuad, List.cons_append, List.nil_append, hexQuad?, digit, Option.bind_eq_bind,
    Option.bind_some, whole]

/-- A character below the surrogates is read back from its number. -/
theorem numbered?_hexQuad {c : Char} (low : c.toNat < 0xD800) (rest : List Char) :
    numbered? (hexQuad c.toNat ++ rest) = some (c, rest) := by
  have quad := hexQuad?_hexQuad (n := c.toNat) (by omega) rest
  have notLow : isLowSurrogate c.toNat = false := by
    simp only [isLowSurrogate, Bool.and_eq_false_iff, decide_eq_false_iff_not]
    omega
  have notHigh : isHighSurrogate c.toNat = false := by
    simp only [isHighSurrogate, Bool.and_eq_false_iff, decide_eq_false_iff_not]
    omega
  simp [numbered?, quad, notLow, notHigh, Char.ofNat_toNat]

/-- A backslash and what stands behind it are one character of the string. -/
theorem stringBody?_escaped {text rest : List Char} {c : Char}
    (found : escaped? text = some (c, rest)) :
    stringBody? ('\\' :: text) =
      (stringBody? rest).map fun (body, left) => (c :: body, left) := by
  rw [stringBody?, if_neg (by decide), if_pos rfl]
  split
  · next none => simp [found] at none
  · next c' rest' some =>
      rw [found] at some
      cases some
      rfl

/-- Every character is read back from its escape. -/
theorem stringBody?_escapeChar (c : Char) (rest : List Char) :
    stringBody? (escapeChar c ++ rest) =
      (stringBody? rest).map fun (body, left) => (c :: body, left) := by
  unfold escapeChar
  split
  · next quotation =>
      subst quotation
      exact stringBody?_escaped rfl
  split
  · next backslash =>
      subst backslash
      exact stringBody?_escaped rfl
  iterate 5
    split
    · next letter =>
        subst letter
        exact stringBody?_escaped rfl
  split
  · next control =>
      apply stringBody?_escaped
      simp only [escaped?]
      exact numbered?_hexQuad (by omega) rest
  · next notQuote notBackslash _ _ _ _ _ plain =>
      rw [List.cons_append, List.nil_append, stringBody?, if_neg notQuote, if_neg notBackslash,
        if_neg plain]

/-- The body of a quoted string ends at the closing quotation mark. -/
theorem stringBody?_escapes (text rest : List Char) :
    stringBody? (text.flatMap escapeChar ++ '"' :: rest) = some (text, rest) := by
  induction text with
  | nil => simp [stringBody?]
  | cons c text ih =>
      rw [List.flatMap_cons, List.append_assoc, stringBody?_escapeChar, ih, Option.map_some]

/-! ## Texts whose tokens do not depend on what follows -/

/-- A token that a visible character begins is the first one, and the others follow. -/
theorem tokens_cons {c : Char} {text rest : List Char} {token : Token} (visible : isSpace c = false)
    (found : next? (c :: text) = some (token, rest)) :
    tokens (c :: text) = token :: tokens rest := by
  have noBlank : skipSpace (c :: text) = c :: text := by
    rw [skipSpace, List.dropWhile_cons_of_neg (by simp [visible])]
  rw [tokens, if_neg (by simp [noBlank])]
  split
  · next none => simp [noBlank, found] at none
  · next token' rest' some =>
      rw [noBlank, found] at some
      cases some
      rfl

theorem tokens_nil : tokens [] = [] := by
  simp [tokens, skipSpace]

/-- The text is cut into these tokens, whatever follows it. -/
def Tokenizes (text : List Char) (found : List Token) : Prop :=
  ∀ rest, tokens (text ++ rest) = found ++ tokens rest

namespace Tokenizes

variable {first second text : List Char} {left right found : List Token}

theorem nil : Tokenizes [] [] :=
  fun _ => rfl

theorem append (one : Tokenizes first left) (other : Tokenizes second right) :
    Tokenizes (first ++ second) (left ++ right) := by
  intro rest
  rw [List.append_assoc, one, other, List.append_assoc]

/-- A text that is one token by itself. -/
theorem single {c : Char} {token : Token} (visible : isSpace c = false)
    (next : ∀ rest, next? (c :: text ++ rest) = some (token, rest)) :
    Tokenizes (c :: text) [token] :=
  fun rest => tokens_cons visible (next rest)

theorem openBrace : Tokenizes ['\x7b'] [.openBrace] :=
  single rfl fun _ => rfl

theorem closeBrace : Tokenizes ['\x7d'] [.closeBrace] :=
  single rfl fun _ => rfl

theorem openBracket : Tokenizes ['['] [.openBracket] :=
  single rfl fun _ => rfl

theorem closeBracket : Tokenizes [']'] [.closeBracket] :=
  single rfl fun _ => rfl

theorem comma : Tokenizes [','] [.comma] :=
  single rfl fun _ => rfl

theorem colon : Tokenizes [':'] [.colon] :=
  single rfl fun _ => rfl

/-- A quoted string is one token. -/
theorem quote (text : String) : Tokenizes (Json.quote text).toList [.string text] := by
  rw [Json.quote, quoteChars, String.toList_ofList, List.cons_append]
  apply single rfl
  intro rest
  rw [List.cons_append, List.append_assoc, List.singleton_append, next?, stringBody?_escapes]
  simp only [Option.map_some, String.ofList_toList]

/-- Parts behind commas give the tokens of the parts, each behind a comma. -/
theorem behindCommas {texts : List (List Char)} {founds : List (List Token)}
    (parts : List.Forall₂ Tokenizes texts founds) :
    Tokenizes (texts.flatMap (',' :: ·)) (founds.flatMap (Token.comma :: ·)) := by
  induction parts with
  | nil => exact nil
  | cons head _ ih => exact (comma.append head).append ih

/-- Texts with commas between them have tokens with commas between them. -/
theorem separated {texts : List (List Char)} {founds : List (List Token)}
    (parts : List.Forall₂ Tokenizes texts founds) :
    Tokenizes ([','].intercalate texts) ([Token.comma].intercalate founds) := by
  cases parts with
  | nil => exact nil
  | cons head further =>
      rw [intercalate_singleton_cons, intercalate_singleton_cons]
      exact head.append (behindCommas further)

end Tokenizes

end Token

/-! ## Documents -/

open Token

mutual

/-- The tokens of a document. -/
def spelling : Json → List Token
  | .null => [.null]
  | .bool value => [.bool value]
  | .number value => [.number (.whole value)]
  | .string text => [.string text]
  | .array elements =>
      .openBracket :: ([Token.comma].intercalate (elementSpellings elements) ++ [.closeBracket])
  | .object members =>
      .openBrace :: ([Token.comma].intercalate (memberSpellings members) ++ [.closeBrace])

/-- The tokens of each element. -/
def elementSpellings : List Json → List (List Token)
  | [] => []
  | element :: rest => element.spelling :: elementSpellings rest

/-- The tokens of each member. -/
def memberSpellings : List (String × Json) → List (List Token)
  | [] => []
  | (key, value) :: rest => (.string key :: .colon :: value.spelling) :: memberSpellings rest

end

/-- The elements of an array are spelled one by one. -/
theorem elementSpellings_eq_map (elements : List Json) :
    elementSpellings elements = elements.map spelling := by
  induction elements with
  | nil => rfl
  | cons element rest ih => rw [elementSpellings, ih, List.map_cons]

/-- The members of an object are spelled as name, colon and value, one by one. -/
theorem memberSpellings_eq_map (members : List (String × Json)) :
    memberSpellings members =
      members.map fun member => .string member.1 :: .colon :: member.2.spelling := by
  induction members with
  | nil => rfl
  | cons member rest ih => rw [memberSpellings, ih, List.map_cons]

/-- No number stands in the document. -/
inductive Numberless : Json → Prop
  | null : Numberless .null
  | bool (value : Bool) : Numberless (.bool value)
  | string (text : String) : Numberless (.string text)
  | array {elements : List Json} (parts : ∀ element ∈ elements, Numberless element) :
      Numberless (.array elements)
  | object {members : List (String × Json)} (parts : ∀ member ∈ members, Numberless member.2) :
      Numberless (.object members)

/-- The written elements of an array give their tokens if each of them does. -/
theorem elements_tokenize {elements : List Json}
    (parts : ∀ element ∈ elements, Tokenizes element.compact.toList element.spelling) :
    List.Forall₂ Tokenizes ((compactElements elements).map String.toList)
      (elementSpellings elements) := by
  induction elements with
  | nil => exact .nil
  | cons element rest ih =>
      rw [List.forall_mem_cons] at parts
      exact .cons parts.1 (ih parts.2)

/-- The written members of an object give their tokens if each value does. -/
theorem members_tokenize {members : List (String × Json)}
    (parts : ∀ member ∈ members, Tokenizes member.2.compact.toList member.2.spelling) :
    List.Forall₂ Tokenizes ((compactMembers members).map String.toList)
      (memberSpellings members) := by
  induction members with
  | nil => exact .nil
  | cons member rest ih =>
      rw [List.forall_mem_cons] at parts
      have head : Tokenizes (quote member.1 ++ ":" ++ member.2.compact).toList
          (.string member.1 :: .colon :: member.2.spelling) := by
        rw [String.toList_append, String.toList_append]
        exact ((Tokenizes.quote member.1).append .colon).append parts.1
      exact .cons head (ih parts.2)

/-- A document without numbers is cut into its own tokens. -/
theorem tokenizes_compact {document : Json} (numberless : document.Numberless) :
    Tokenizes document.compact.toList document.spelling := by
  induction numberless with
  | null => exact .single rfl fun _ => rfl
  | bool value => cases value <;> exact .single rfl fun _ => rfl
  | string text => exact .quote text
  | array _ parts =>
      rw [compact, spelling, String.toList_append, String.toList_append,
        String.toList_intercalate]
      exact (Tokenizes.openBracket.append (.separated (elements_tokenize parts))).append
        .closeBracket
  | object _ parts =>
      rw [compact, spelling, String.toList_append, String.toList_append,
        String.toList_intercalate]
      exact (Tokenizes.openBrace.append (.separated (members_tokenize parts))).append .closeBrace

/-- A document without numbers has its own tokens and no others. -/
theorem tokens_compact {document : Json} (numberless : document.Numberless) :
    tokens document.compact.toList = document.spelling := by
  have alone := tokenizes_compact numberless []
  rwa [List.append_nil, tokens_nil, List.append_nil] at alone

end DartBindings.Json
