import Mathlib.Data.List.Basic
import ScriptGate.Json.Printer
import ScriptGate.Json.Reader

/-! Counts: natural numbers as they are printed and read.

The digits of a count are read as its numeral, up to the first character that belongs to no
number (`Numeral.scan_ofNat`), and the numeral has the value of the count
(`Numeral.toNat?_ofNat`). A count that fits a machine word is in range
(`Numeral.tooLarge_ofNat`), as rounding no more than doubles it. -/
namespace ScriptGate

theorem Json.numeral_ofNat (n : Nat) : numeral (.ofNat n) = Nat.toDigits 10 n := by
  simp [numeral, Numeral.ofNat]

namespace Numeral

/-! ### Digits -/

theorem toNat?_ofNat (n : Nat) : (ofNat n).toNat? = some n := by
  have hvalue : digitsValue (Nat.toDigits 10 n) = n := Nat.ofDigitChars_ten_toDigits
  simp [toNat?, ofNat, hvalue]

theorem exists_cons_toDigits (n : Nat) :
    ∃ c cs, Nat.toDigits 10 n = c :: cs ∧ c.isDigit = true := by
  obtain ⟨c, cs, hcs⟩ := List.exists_cons_of_ne_nil (Nat.toDigits_ne_nil (n := n) (b := 10))
  have hc : c ∈ Nat.toDigits 10 n := hcs ▸ List.mem_cons_self
  exact ⟨c, cs, hcs, Nat.isDigit_of_mem_toDigits (by decide) (by decide) hc⟩

/-- The digits of a number that is not zero do not begin with one. -/
theorem head?_toDigits_ne_zero {n : Nat} (h : 0 < n) : (Nat.toDigits 10 n).head? ≠ some '0' := by
  induction n using Nat.strongRecOn with
  | ind n ih =>
    by_cases hn : n < 10
    · have hdigit : ∀ d < 10, 0 < d → [Nat.digitChar d].head? ≠ some '0' := by decide
      rw [Nat.toDigits_of_lt_base hn]
      exact hdigit n hn h
    · rw [Nat.toDigits_of_base_le (by decide) (by omega),
        List.head?_append_of_ne_nil _ Nat.toDigits_ne_nil]
      exact ih (n / 10) (by omega) (by omega)

/-! ### Reading -/

/-- A number ends here: what follows is no digit, point or exponent. -/
def EndsAt (rest : List Char) : Prop :=
  ∀ c ∈ rest.head?, c.isDigit = false ∧ c ≠ '.' ∧ c ≠ 'e' ∧ c ≠ 'E'

variable {rest : List Char}

/-- The digits of a count are taken to the last, and nothing more. -/
theorem span_toDigits (n : Nat) (h : EndsAt rest) :
    (Nat.toDigits 10 n ++ rest).takeWhile Char.isDigit = Nat.toDigits 10 n ∧
      (Nat.toDigits 10 n ++ rest).dropWhile Char.isDigit = rest := by
  have hdigits : ∀ c ∈ Nat.toDigits 10 n, c.isDigit = true := fun c hc =>
    Nat.isDigit_of_mem_toDigits (by decide) (by decide) hc
  rw [List.takeWhile_append_of_pos hdigits, List.dropWhile_append_of_pos hdigits]
  cases rest with
  | nil => simp
  | cons c rest => simp [(h c rfl).1]

theorem scanWhole_toDigits (n : Nat) (h : EndsAt rest) :
    scanWhole (Nat.toDigits 10 n ++ rest) = some (Nat.toDigits 10 n, rest) := by
  obtain ⟨htaken, hleft⟩ := span_toDigits n h
  rw [scanWhole, htaken, hleft]
  rcases Nat.eq_zero_or_pos n with rfl | hn
  · rfl
  · have hhead := head?_toDigits_ne_zero hn
    split
    · next hnil => exact absurd hnil Nat.toDigits_ne_nil
    · next hzero =>
      rw [hzero] at hhead
      exact absurd rfl hhead
    · rfl

theorem scanFraction_of_endsAt (h : EndsAt rest) : scanFraction rest = some (none, rest) := by
  cases rest with
  | nil => rfl
  | cons c rest => simp [scanFraction, (h c rfl).2.1]

theorem scanExponent_of_endsAt (h : EndsAt rest) : scanExponent rest = some (none, rest) := by
  cases rest with
  | nil => rfl
  | cons c rest => simp [scanExponent, (h c rfl).2.2]

theorem scan_ofNat (n : Nat) (h : EndsAt rest) :
    scan (Json.numeral (ofNat n) ++ rest) = some (ofNat n, rest) := by
  have hsign : ∀ cs, Nat.toDigits 10 n ++ rest ≠ '-' :: cs := by
    intro cs heq
    obtain ⟨c, digits, hdigits, hc⟩ := exists_cons_toDigits n
    rw [hdigits, List.cons_append] at heq
    obtain ⟨rfl, -⟩ := List.cons.inj heq
    cases hc
  rw [Json.numeral_ofNat, scan]
  · simp [scanWhole_toDigits n h, scanFraction_of_endsAt h, scanExponent_of_endsAt h, ofNat]
  · exact hsign

/-! ### The range -/

theorem le_ofDigitChars (significand : Nat) (digits : List Char) :
    significand ≤ Nat.ofDigitChars 10 digits significand := by
  induction digits generalizing significand with
  | nil => exact Nat.le_refl _
  | cons d ds ih =>
    have := ih (10 * significand + digitValue d)
    rw [Nat.ofDigitChars_cons, ← digitValue]
    omega

/-- Digits whose value fits a word are all taken. -/
theorem takeWhole_of_le (significand : Nat) (digits : List Char)
    (h : Nat.ofDigitChars 10 digits significand ≤ wordMax) :
    takeWhole significand digits = (Nat.ofDigitChars 10 digits significand, 0) := by
  induction digits generalizing significand with
  | nil => rfl
  | cons d ds ih =>
    rw [Nat.ofDigitChars_cons, ← digitValue] at h ⊢
    have hnext := le_ofDigitChars (10 * significand + digitValue d) ds
    rw [takeWhole, if_pos (Nat.le_trans hnext h), ih _ h]

theorem scientific_ofNat {n : Nat} (h : n ≤ wordMax) : (ofNat n).scientific = (n, 0) := by
  have htake : takeWhole 0 (Nat.toDigits 10 n) = (n, 0) := by
    rw [takeWhole_of_le, Nat.ofDigitChars_ten_toDigits]
    rwa [Nat.ofDigitChars_ten_toDigits]
  simp [scientific, ofNat, htake, takeFraction]

/-- Rounding adds no more than the last place that is kept. -/
theorem nearest_le (n : Nat) : nearest n ≤ 2 * n := by
  rcases Nat.eq_zero_or_pos n with rfl | hn
  · decide
  have hunit : Nat.pow 2 (n.log2 + 1 - 53) ≤ n :=
    Nat.le_trans (Nat.pow_le_pow_right (by decide) (by omega)) (Nat.log2_self_le (by omega))
  have hquotient := Nat.div_mul_le_self n (Nat.pow 2 (n.log2 + 1 - 53))
  simp only [nearest]
  split
  · rw [Nat.succ_mul]
    omega
  · omega

theorem tooLarge_ofNat {n : Nat} (h : n ≤ wordMax) : (ofNat n).tooLarge = false := by
  have hone : nearest (Nat.pow 10 0) ≤ 2 := nearest_le 1
  have hproduct : nearest n * nearest (Nat.pow 10 0) ≤ 2 * n * 2 :=
    Nat.mul_le_mul (nearest_le n) hone
  have hround := nearest_le (nearest n * nearest (Nat.pow 10 0))
  have hlimit : 8 * wordMax < Nat.pow 2 1024 := by decide +kernel
  rw [tooLarge, scientific_ofNat h]
  split
  · rfl
  · next significand power _ heq =>
    obtain ⟨rfl, hpower⟩ := Prod.mk.inj heq
    obtain rfl : 0 = power := Int.ofNat.inj hpower
    rw [Bool.or_eq_false_iff, decide_eq_false_iff_not, decide_eq_false_iff_not]
    exact ⟨by decide, by omega⟩
  · rfl

end Numeral

end ScriptGate
