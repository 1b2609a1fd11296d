import Mathlib.Data.Nat.Digits.Defs
import DartBindings.Proofs.Text.Line
import DartBindings.Text.Quoted

/-!
Quotations can be read back.

What a quotation shows of a character tells where it ends and which character it is, so two texts
whose quotations begin one text are the same text, and the quotations end at the same place.

Main exports: quotedChars_append_inj, unbroken_quotedChars
-/

namespace DartBindings.Text

/-! ### Numbers -/

/-- Hexadecimal digits differ. -/
theorem digitChar_injective :
    ∀ m < 16, ∀ n < 16, Nat.digitChar m = Nat.digitChar n → m = n := by
  decide

theorem isAlphanum_digitChar : ∀ n < 16, (Nat.digitChar n).isAlphanum = true := by
  decide

/-- A number in hexadecimal is made of letters and digits. -/
theorem isAlphanum_of_mem_toDigits {c : Char} (n : Nat) (member : c ∈ Nat.toDigits 16 n) :
    c.isAlphanum = true := by
  induction n using Nat.strongRecOn with
  | ind n ih =>
      rw [Nat.toDigits_eq_if (by decide)] at member
      split at member
      · next small =>
          rw [List.mem_singleton.1 member]
          exact isAlphanum_digitChar n small
      · next large =>
          rcases List.mem_append.1 member with front | last
          · exact ih (n / 16) (by omega) front
          · rw [List.mem_singleton.1 last]
            exact isAlphanum_digitChar (n % 16) (Nat.mod_lt n (by decide))

/-- The digits of a number in front of its last one. -/
def frontDigits (n : Nat) : List Char :=
  if n < 16 then [] else Nat.toDigits 16 (n / 16)

/-- A number is written as the digits in front and its last digit. -/
theorem toDigits_eq_frontDigits (n : Nat) :
    Nat.toDigits 16 n = frontDigits n ++ [Nat.digitChar (n % 16)] := by
  rw [Nat.toDigits_eq_if (by decide), frontDigits]
  split
  · next small => rw [Nat.mod_eq_of_lt small, List.nil_append]
  · rfl

/-- Different numbers differ in hexadecimal. -/
theorem toDigits_injective : Function.Injective (Nat.toDigits 16) := by
  intro m
  induction m using Nat.strongRecOn with
  | ind m ih =>
      intro n same
      rw [toDigits_eq_frontDigits, toDigits_eq_frontDigits, List.append_singleton_inj] at same
      obtain ⟨sameFront, sameLast⟩ := same
      have sameRest : m % 16 = n % 16 :=
        digitChar_injective _ (Nat.mod_lt m (by decide)) _ (Nat.mod_lt n (by decide)) sameLast
      have sameQuotient : m / 16 = n / 16 := by
        unfold frontDigits at sameFront
        split at sameFront <;> split at sameFront
        · omega
        · exact absurd sameFront.symm Nat.toDigits_ne_nil
        · exact absurd sameFront Nat.toDigits_ne_nil
        · exact ih (m / 16) (by omega) sameFront
      omega

/-! ### Characters -/

/-- The characters with a short escape, each with what stands behind the backslash. -/
def shortEscapes : List (Char × Char) :=
  [('"', '"'), ('\\', '\\'), ('\n', 'n'), ('\r', 'r'), ('\t', 't'), ('\x00', '0')]

/-- No two characters share a short escape. -/
theorem shortEscapes_injective :
    ∀ first ∈ shortEscapes, ∀ second ∈ shortEscapes, first.2 = second.2 → first.1 = second.1 := by
  decide

theorem unbroken_shortEscapes : Unbroken (shortEscapes.map Prod.snd) := by
  decide

/-- No short escape looks like a numbered one. -/
theorem shortEscapes_ne_number : ∀ escape ∈ shortEscapes, escape.2 ≠ 'u' := by
  decide

/-- How a quotation shows a character: as itself, by a short escape, or by its number. -/
inductive ShownAs (c : Char) : List Char → Prop where
  | itself : c ≠ '"' → c ≠ '\\' → Unbroken [c] → ShownAs c [c]
  | escape {letter : Char} : (c, letter) ∈ shortEscapes → ShownAs c ['\\', letter]
  | number : ShownAs c (numberedChar c)

/-- What a quotation shows of a character is one of the three forms. -/
theorem shownAs_quotedChar (c : Char) : ShownAs c (quotedChar c) := by
  unfold quotedChar
  split_ifs with quote backslash feed carriage tab null concealed
  · exact .escape (by rw [quote]; decide)
  · exact .escape (by rw [backslash]; decide)
  · exact .escape (by rw [feed]; decide)
  · exact .escape (by rw [carriage]; decide)
  · exact .escape (by rw [tab]; decide)
  · exact .escape (by rw [null]; decide)
  · exact .number
  · exact .itself quote backslash (List.forall_mem_singleton.2 ⟨feed, carriage⟩)

variable {c d : Char} {behind rest : List Char}

theorem numberedChar_append (c : Char) (behind : List Char) :
    numberedChar c ++ behind =
      '\\' :: 'u' :: '\x7b' :: (Nat.toDigits 16 c.toNat ++ '\x7d' :: behind) := by
  simp [numberedChar]

/-- A numbered character can be read back: the closing brace ends its digits. -/
theorem numberedChar_append_inj (same : numberedChar c ++ behind = numberedChar d ++ rest) :
    c = d ∧ behind = rest := by
  rw [numberedChar_append, numberedChar_append] at same
  simp only [List.cons.injEq, true_and] at same
  have stop : ∀ text : List Char, ∀ item ∈ ('\x7d' :: text).head?, item.isAlphanum = false := by
    rintro text item ⟨⟩
    rfl
  obtain ⟨digits, further⟩ := append_inj_of_stop (fun _ => isAlphanum_of_mem_toDigits _)
    (fun _ => isAlphanum_of_mem_toDigits _) (stop behind) (stop rest) same
  exact ⟨Char.toNat_inj.1 (toDigits_injective digits), (List.cons.inj further).2⟩

/-- A short escape is not the beginning of a numbered character. -/
theorem escape_append_ne_number {letter : Char} (escape : (c, letter) ∈ shortEscapes) :
    ['\\', letter] ++ behind ≠ numberedChar d ++ rest := by
  intro same
  rw [numberedChar_append] at same
  exact shortEscapes_ne_number _ escape (List.cons.inj (List.cons.inj same).2).1

/-- What a quotation shows of a character tells the character and where it ends. -/
theorem ShownAs.append_inj {code other : List Char} (one : ShownAs c code) (two : ShownAs d other)
    (same : code ++ behind = other ++ rest) : c = d ∧ behind = rest := by
  cases one with
  | itself _ noBackslash _ =>
      cases two with
      | itself _ _ _ => exact List.cons.inj same
      | escape _ => exact absurd (List.cons.inj same).1 noBackslash
      | number =>
          rw [numberedChar_append] at same
          exact absurd (List.cons.inj same).1 noBackslash
  | escape listed =>
      cases two with
      | itself _ noBackslash _ => exact absurd (List.cons.inj same).1.symm noBackslash
      | escape otherListed =>
          obtain ⟨sameLetter, further⟩ := List.cons.inj (List.cons.inj same).2
          exact ⟨shortEscapes_injective _ listed _ otherListed sameLetter, further⟩
      | number => exact absurd same (escape_append_ne_number listed)
  | number =>
      cases two with
      | itself _ noBackslash _ =>
          rw [numberedChar_append] at same
          exact absurd (List.cons.inj same).1.symm noBackslash
      | escape otherListed => exact absurd same.symm (escape_append_ne_number otherListed)
      | number => exact numberedChar_append_inj same

/-- A shown character does not look like the end of the quotation. -/
theorem ShownAs.ne_quote {code : List Char} (shown : ShownAs c code) :
    code ++ behind ≠ '"' :: rest := by
  intro same
  cases shown with
  | itself noQuote _ _ => exact noQuote (List.cons.inj same).1
  | escape _ => exact absurd (List.cons.inj same).1 (by decide)
  | number =>
      rw [numberedChar_append] at same
      exact absurd (List.cons.inj same).1 (by decide)

/-- A shown character does not break the line. -/
theorem ShownAs.unbroken {code : List Char} (shown : ShownAs c code) : Unbroken code := by
  cases shown with
  | itself _ _ unbroken => exact unbroken
  | escape listed =>
      have backslash : Unbroken ['\\'] := by decide
      have letter := unbroken_shortEscapes _ (List.mem_map_of_mem listed)
      exact backslash.append (List.forall_mem_singleton.2 letter)
  | number =>
      have braces : Unbroken ['\\', 'u', '\x7b'] ∧ Unbroken ['\x7d'] := by decide
      have digits : Unbroken (Nat.toDigits 16 c.toNat) :=
        unbroken_of_all rfl rfl fun _ => isAlphanum_of_mem_toDigits c.toNat
      exact (braces.1.append digits).append braces.2

/-! ### Texts -/

/-- The inside of a quotation can be read back up to the closing mark. -/
theorem flatMap_quotedChar_append_inj {text other : List Char}
    (same : text.flatMap quotedChar ++ '"' :: behind = other.flatMap quotedChar ++ '"' :: rest) :
    text = other ∧ behind = rest := by
  induction text generalizing other with
  | nil =>
      cases other with
      | nil => exact ⟨rfl, (List.cons.inj same).2⟩
      | cons d other =>
          rw [List.flatMap_cons, List.append_assoc] at same
          exact absurd same.symm (shownAs_quotedChar d).ne_quote
  | cons c text ih =>
      rw [List.flatMap_cons, List.append_assoc] at same
      cases other with
      | nil => exact absurd same (shownAs_quotedChar c).ne_quote
      | cons d other =>
          rw [List.flatMap_cons, List.append_assoc] at same
          obtain ⟨rfl, further⟩ := (shownAs_quotedChar c).append_inj (shownAs_quotedChar d) same
          obtain ⟨rfl, last⟩ := ih further
          exact ⟨rfl, last⟩

theorem quotedChars_append (text behind : List Char) :
    quotedChars text ++ behind = '"' :: (text.flatMap quotedChar ++ '"' :: behind) := by
  simp [quotedChars]

/-- Quotations that begin one text are of the same text and end at the same place. -/
theorem quotedChars_append_inj {text other : List Char}
    (same : quotedChars text ++ behind = quotedChars other ++ rest) :
    text = other ∧ behind = rest := by
  rw [quotedChars_append, quotedChars_append] at same
  exact flatMap_quotedChar_append_inj (List.cons.inj same).2

/-- A quotation stands on one line. -/
theorem unbroken_quotedChars (text : List Char) : Unbroken (quotedChars text) := by
  have quote : Unbroken ['"'] := by decide
  have inside : Unbroken (text.flatMap quotedChar) := by
    intro x member
    obtain ⟨c, _, shown⟩ := List.mem_flatMap.1 member
    exact (shownAs_quotedChar c).unbroken x shown
  exact (quote.append inside).append quote

end DartBindings.Text
