import EventRelay.Text.Digits
import Mathlib.Data.List.Induction

/-!
# Digits are read back

The decimal digits of a number spell it (`digitsValue_decimal`), with zeros in front of them too
(`digitsValue_padded`), and only zero begins with the digit zero (`eq_zero_of_head_decimal`). A
hexadecimal digit has the value it was written for (`hexValue?_hexDigit`).
-/

namespace EventRelay.Text

theorem isDigit_of_isDigit {c : Char} (h : c.isDigit = true) : isDigit c = true := by
  simpa [isDigit, Char.isDigit, Char.le_def] using h

theorem isDigit_of_mem_decimal {n : Nat} {c : Char} (h : c ∈ decimal n) : isDigit c = true :=
  isDigit_of_isDigit (Nat.isDigit_of_mem_toDigits (by decide) (by decide) h)

theorem decimal_ne_nil (n : Nat) : decimal n ≠ [] := Nat.toDigits_ne_nil

/-- A number is read back from its digits. -/
theorem digitsValue_decimal (n : Nat) : digitsValue (decimal n) = n := by
  have := Nat.ofDigitChars_ten_toDigits (n := n)
  rw [Nat.ofDigitChars_eq_foldl] at this
  simpa only [digitsValue, digitValue, decimal, Nat.mul_comm] using this

/-- The first digit of a number is zero only if the number is. -/
theorem eq_zero_of_head_decimal {n : Nat} (h : (decimal n).head? = some '0') : n = 0 := by
  induction n using Nat.strongRecOn with
  | ind n ih =>
    by_cases small : n < 10
    · have digit : decimal n = [n.digitChar] := Nat.toDigits_of_lt_base small
      have only : ∀ m < 10, m.digitChar = '0' → m = 0 := by decide
      rw [digit] at h
      exact only n small (Option.some.inj h)
    · have split : decimal n = decimal (n / 10) ++ [(n % 10).digitChar] :=
        Nat.toDigits_of_base_le (by decide) (by omega)
      have first : (decimal (n / 10)).head? = some '0' := by
        cases hd : decimal (n / 10) with
        | nil => exact absurd hd (decimal_ne_nil _)
        | cons d ds =>
          rw [split, hd] at h
          exact h
      have := ih (n / 10) (by omega) first
      omega

/-- Digits in front of a text that does not begin with one are the digits in front of it. -/
theorem span_digits (ds rest : List Char) (digits : ∀ c ∈ ds, isDigit c = true)
    (ends : ∀ c, rest.head? = some c → isDigit c = false) :
    (ds ++ rest).takeWhile isDigit = ds ∧ (ds ++ rest).dropWhile isDigit = rest := by
  rw [List.takeWhile_append_of_pos digits, List.dropWhile_append_of_pos digits]
  cases rest with
  | nil => simp
  | cons c rest => simp [ends c rfl]

/-! ## Columns -/

theorem isDigit_of_mem_padded {width n : Nat} {c : Char} (h : c ∈ padded width n) :
    isDigit c = true := by
  rcases List.mem_append.1 h with h | h
  · rw [List.eq_of_mem_replicate h]
    rfl
  · exact isDigit_of_mem_decimal h

theorem digitsValue_padded (width n : Nat) : digitsValue (padded width n) = n := by
  have zeros : ∀ k cs, digitsValue (List.replicate k '0' ++ cs) = digitsValue cs := by
    intro k cs
    induction k with
    | zero => rfl
    | succ k ih => exact ih
  rw [padded, zeros, digitsValue_decimal]

/-- Padded digits have the width that was asked for, if the number fits in it. -/
theorem length_padded {width n : Nat} (positive : 0 < width) (h : n < 10 ^ width) :
    (padded width n).length = width := by
  have : (decimal n).length ≤ width := (Nat.length_toDigits_le_iff (by decide) positive).2 h
  rw [padded, List.length_append, List.length_replicate]
  omega

theorem padded_ne_nil (width n : Nat) : padded width n ≠ [] :=
  List.append_ne_nil_of_right_ne_nil _ (decimal_ne_nil n)

/-- So many digits spell a number of so many digits. -/
theorem digitsValue_lt {cs : List Char} (h : ∀ c ∈ cs, isDigit c = true) :
    digitsValue cs < 10 ^ cs.length := by
  have below : ∀ c, isDigit c = true → digitValue c < 10 := by
    intro c hc
    simp only [isDigit, Bool.and_eq_true, decide_eq_true_eq, Char.le_def, UInt32.le_iff_toNat_le]
      at hc
    have : ('9' : Char).val.toNat = 57 := rfl
    have zero : '0'.toNat = 48 := rfl
    unfold digitValue Char.toNat at *
    omega
  induction cs using List.reverseRecOn with
  | nil => decide
  | append_singleton cs c ih =>
    have last := below c (h c (by simp))
    have front := ih fun x hx => h x (List.mem_append_left _ hx)
    have step : digitsValue (cs ++ [c]) = digitsValue cs * 10 + digitValue c := by
      simp [digitsValue, List.foldl_append]
    rw [step, List.length_append, List.length_singleton, Nat.pow_succ]
    omega

/-! ## Hexadecimal digits -/

theorem hexValue?_hexDigit : ∀ n < 16, hexValue? (hexDigit n) = some n := by decide

end EventRelay.Text
