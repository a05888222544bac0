import ScriptGate.Text.Characters

/-! A quoted text stands for one text only.

A character is written by a letter behind a backslash, by its number, or as it is. What
is written for it says where it ends (`quotedChar_append_inj`), so characters can be taken
off a quoted text one by one, and texts that are quoted alike are the same
(`quoted_injective`). -/
namespace ScriptGate.Text

/-! ### Numbers -/

theorem digitsValue_concat (digits : List Char) {d : Nat} (h : d < 16) :
    digitsValue 16 (digits ++ [hexDigit d]) = 16 * digitsValue 16 digits + d := by
  simp only [digitsValue, List.foldl_append, List.foldl_cons, List.foldl_nil,
    hexValue_hexDigit d h, Option.getD_some]

theorem hexDigits_of_lt {n : Nat} (h : n < 16) : hexDigits n = [hexDigit n] :=
  Nat.toDigits_of_lt_base h

theorem hexDigits_of_le {n : Nat} (h : 16 ≤ n) :
    hexDigits n = hexDigits (n / 16) ++ [hexDigit (n % 16)] :=
  Nat.toDigits_of_base_le (by decide) h

/-- The digits of a number have its value. -/
theorem digitsValue_hexDigits (n : Nat) : digitsValue 16 (hexDigits n) = n := by
  induction n using Nat.strongRecOn with
  | ind n ih =>
    by_cases hn : n < 16
    · rw [hexDigits_of_lt hn]
      exact (digitsValue_concat [] hn).trans (Nat.zero_add n)
    · rw [hexDigits_of_le (by omega), digitsValue_concat _ (Nat.mod_lt n (by decide)),
        ih (n / 16) (by omega)]
      omega

/-- No digit of a number is the bracket that ends it. -/
theorem ne_bracket_of_mem_hexDigits {n : Nat} {c : Char} (h : c ∈ hexDigits n) : c ≠ '}' := by
  have hdigit : ∀ d < 16, hexDigit d ≠ '}' := by decide
  induction n using Nat.strongRecOn with
  | ind n ih =>
    by_cases hn : n < 16
    · rw [hexDigits_of_lt hn, List.mem_singleton] at h
      exact h ▸ hdigit n hn
    · rw [hexDigits_of_le (by omega), List.mem_append, List.mem_singleton] at h
      rcases h with h | rfl
      · exact ih (n / 16) (by omega) h
      · exact hdigit _ (Nat.mod_lt n (by decide))

/-! ### Characters -/

/-- The character that a letter stands for behind a backslash. -/
def shorthand : Char → Option Char
  | '0' => some '\x00'
  | 't' => some '\t'
  | 'n' => some '\n'
  | 'r' => some '\r'
  | '"' => some '"'
  | '\\' => some '\\'
  | _ => none

/-- A character is written by a letter, by its number, or as it is. -/
theorem quotedChar_cases (c : Char) :
    (∃ letter, quotedChar c = ['\\', letter] ∧ shorthand letter = some c) ∨
    quotedChar c = '\\' :: 'u' :: '{' :: (hexDigits c.toNat ++ ['}']) ∨
    (c ≠ '"' ∧ c ≠ '\\' ∧ quotedChar c = [c]) := by
  unfold quotedChar
  split
  · exact .inl ⟨'0', rfl, rfl⟩
  · exact .inl ⟨'t', rfl, rfl⟩
  · exact .inl ⟨'n', rfl, rfl⟩
  · exact .inl ⟨'r', rfl, rfl⟩
  · exact .inl ⟨'"', rfl, rfl⟩
  · exact .inl ⟨'\\', rfl, rfl⟩
  · next hquote hslash =>
    split
    · exact .inr (.inr ⟨hquote, hslash, rfl⟩)
    · exact .inr (.inl rfl)

/-- The character at the head of a quoted text, and what follows it. -/
def readChar : List Char → Option (Char × List Char)
  | '\\' :: 'u' :: text =>
    let digits := (text.drop 1).takeWhile (· != '}')
    some (Char.ofNat (digitsValue 16 digits), text.drop (digits.length + 2))
  | '\\' :: letter :: text => (shorthand letter).map (·, text)
  | text => text.head?.map (·, text.tail)

theorem readChar_shorthand {letter c : Char} (h : shorthand letter = some c) (text : List Char) :
    readChar ('\\' :: letter :: text) = some (c, text) := by
  have hu : letter ≠ 'u' := fun he => by
    subst he
    cases h
  simp [readChar, h]

theorem readChar_number (c : Char) (text : List Char) :
    readChar ('\\' :: 'u' :: '{' :: (hexDigits c.toNat ++ '}' :: text)) = some (c, text) := by
  have hdigits : (hexDigits c.toNat ++ '}' :: text).takeWhile (· != '}') = hexDigits c.toNat := by
    rw [List.takeWhile_append_of_pos fun d hd => by
      simpa using ne_bracket_of_mem_hexDigits hd]
    simp
  simp [readChar, hdigits, digitsValue_hexDigits]

/-- What is written for a character is read as the character, whatever follows it. -/
theorem readChar_quotedChar (c : Char) (text : List Char) :
    readChar (quotedChar c ++ text) = some (c, text) := by
  rcases quotedChar_cases c with ⟨letter, hc, hletter⟩ | hc | ⟨-, hslash, hc⟩
  · rw [hc]
    exact readChar_shorthand hletter text
  · rw [hc]
    simpa using readChar_number c text
  · rw [hc]
    simp [readChar, hslash]

theorem quotedChar_append_inj {c d : Char} {x y : List Char}
    (h : quotedChar c ++ x = quotedChar d ++ y) : c = d ∧ x = y := by
  have hread := congrArg readChar h
  rwa [readChar_quotedChar, readChar_quotedChar, Option.some.injEq, Prod.mk.injEq] at hread

/-! ### Texts -/

/-- No character is written with a bare quote in front. -/
theorem quotedChar_append_ne (c : Char) (x y : List Char) : quotedChar c ++ x ≠ '"' :: y := by
  rcases quotedChar_cases c with ⟨letter, hc, -⟩ | hc | ⟨hquote, -, hc⟩ <;> simp [*]

theorem flatMap_quotedChar_inj {cs ds : List Char}
    (h : cs.flatMap quotedChar ++ ['"'] = ds.flatMap quotedChar ++ ['"']) : cs = ds := by
  induction cs generalizing ds with
  | nil =>
    cases ds with
    | nil => rfl
    | cons d ds =>
      rw [List.flatMap_cons, List.append_assoc] at h
      exact absurd h.symm (quotedChar_append_ne d _ _)
  | cons c cs ih =>
    rw [List.flatMap_cons, List.append_assoc] at h
    cases ds with
    | nil => exact absurd h (quotedChar_append_ne c _ _)
    | cons d ds =>
      rw [List.flatMap_cons, List.append_assoc] at h
      obtain ⟨rfl, htail⟩ := quotedChar_append_inj h
      rw [ih htail]

theorem quoted_injective : Function.Injective quoted := by
  intro s t h
  have hchars := congrArg String.toList h
  simp only [quoted, String.toList_ofList, List.cons.injEq, true_and] at hchars
  exact String.toList_inj.mp (flatMap_quotedChar_inj hchars)

end ScriptGate.Text
