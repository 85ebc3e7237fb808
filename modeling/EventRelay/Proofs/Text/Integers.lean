import EventRelay.Proofs.Text.Digits
import EventRelay.Text.Integer

/-!
# Integers that are read and printed

An integer that is read from a text need not be printed as the same text. It is so exactly if the
text is plain (`signed_eq_iff_plain`): it has no plus sign, no zeros in front of other digits, and
is not the negative zero.
-/

namespace EventRelay.Text

variable {cs : List Char}

/-! ## Magnitudes -/

theorem hexValue?_of_isDigit {c : Char} (h : isDigit c = true) :
    hexValue? c = some (digitValue c) := by
  rw [hexValue?, if_pos h]

/-- The digits to base ten are those of ASCII. -/
theorem isDigit_of_hexValue? {c : Char} {d : Nat} (h : hexValue? c = some d) (small : d < 10) :
    isDigit c = true := by
  unfold hexValue? at h
  split at h
  · assumption
  · split at h
    · cases h
      omega
    · split at h
      · cases h
        omega
      · cases h

theorem digitsToBase?_ten {n m : Nat} (h : digitsToBase? 10 n cs = some m) :
    (∀ c ∈ cs, isDigit c = true) ∧ m = cs.foldl (fun n c => n * 10 + digitValue c) n := by
  induction cs generalizing n with
  | nil =>
    cases h
    exact ⟨nofun, rfl⟩
  | cons c cs ih =>
    rw [digitsToBase?] at h
    cases value : hexValue? c with
    | none => simp [value] at h
    | some d =>
      simp only [value] at h
      split at h
      · rename_i small
        have digit := isDigit_of_hexValue? value small
        obtain ⟨digits, rfl⟩ := ih h
        rw [hexValue?_of_isDigit digit] at value
        cases value
        exact ⟨List.forall_mem_cons.2 ⟨digit, digits⟩, rfl⟩
      · cases h

/-- A magnitude to the base ten has digits only and is their value. -/
theorem magnitude?_ten {m : Nat} (h : magnitude? 10 cs = some m) :
    cs ≠ [] ∧ (∀ c ∈ cs, isDigit c = true) ∧ m = digitsValue cs := by
  rw [magnitude?] at h
  split at h
  · cases h
  · rename_i some_there
    exact ⟨by simpa using some_there, digitsToBase?_ten h⟩

/-! ## Plain digits -/

/-- Digits that no zero leads, except the digit zero alone. -/
def PlainDigits (cs : List Char) : Prop := cs.head? = some '0' → cs = ['0']

theorem plainDigits_decimal (n : Nat) : PlainDigits (decimal n) := by
  intro zero
  rw [eq_zero_of_head_decimal zero]
  rfl

theorem digitChar_digitValue {c : Char} (h : isDigit c = true) :
    (digitValue c).digitChar = c ∧ digitValue c < 10 := by
  simp only [isDigit, Bool.and_eq_true, decide_eq_true_eq, Char.le_def, UInt32.le_iff_toNat_le] at h
  have low : 48 ≤ c.toNat := h.1
  have high : c.toNat ≤ 57 := h.2
  have value : digitValue c = c.toNat - 48 := rfl
  have small : digitValue c < 10 := by omega
  refine ⟨Char.toNat_inj.1 ?_, small⟩
  rw [Nat.toNat_digitChar_of_lt_ten small]
  omega

theorem digitsValue_concat (c : Char) :
    digitsValue (cs ++ [c]) = digitsValue cs * 10 + digitValue c := by
  simp [digitsValue, List.foldl_append]

/-- A number has no other plain digits than its own. -/
theorem decimal_digitsValue (digits : ∀ c ∈ cs, isDigit c = true) (some_there : cs ≠ [])
    (plain : PlainDigits cs) : decimal (digitsValue cs) = cs := by
  induction cs using List.reverseRecOn with
  | nil => exact absurd rfl some_there
  | append_singleton front c ih =>
    obtain ⟨char, small⟩ := digitChar_digitValue (digits c (by simp))
    rw [digitsValue_concat]
    by_cases first : front = []
    · subst first
      have : digitsValue [] * 10 + digitValue c = digitValue c := by simp [digitsValue]
      rw [this, decimal, Nat.toDigits_of_lt_base small, char]
      rfl
    · -- What stands in front of the last digit is positive, for else it would be a leading zero. So
      -- the last digit is the one that is split off the number.
      have no_zero : front.head? ≠ some '0' := by
        intro zero
        have alone := plain (by rw [List.head?_append, zero]; rfl)
        exact first (by simpa using congrArg List.length alone)
      have front_eq := ih (fun c hc => digits c (List.mem_append_left _ hc)) first
        fun zero => absurd zero no_zero
      have positive : 0 < digitsValue front := by
        by_contra none
        rw [Nat.eq_zero_of_not_pos none] at front_eq
        exact no_zero (front_eq ▸ rfl)
      have split := @Nat.toDigits_of_base_le 10 (digitsValue front * 10 + digitValue c) (by decide)
        (by omega)
      have ahead : (digitsValue front * 10 + digitValue c) / 10 = digitsValue front := by omega
      have last : (digitsValue front * 10 + digitValue c) % 10 = digitValue c := by omega
      rw [ahead, last, char] at split
      rw [decimal, split]
      exact congrArg (· ++ [c]) front_eq

/-! ## Integers -/

/-- A text has no plus sign, and no zero in front of other digits or behind a minus sign. -/
structure PlainInteger (cs : List Char) : Prop where
  no_plus : cs.head? ≠ some '+'
  digits : PlainDigits cs
  negative : ∀ digits, cs = '-' :: digits → digits.head? ≠ some '0'

/-- **Digits are the text of their value** exactly if there is no leading zero. -/
theorem decimal_eq_iff (digits : ∀ c ∈ cs, isDigit c = true) (some_there : cs ≠ []) :
    decimal (digitsValue cs) = cs ↔ PlainDigits cs :=
  ⟨fun same => same ▸ plainDigits_decimal _, decimal_digitsValue digits some_there⟩

theorem not_mem_decimal {c : Char} (h : isDigit c = false) (n : Nat) : c ∉ decimal n := by
  intro mem
  rw [isDigit_of_mem_decimal mem] at h
  cases h

theorem signed_natCast (n : Nat) : signed (n : Int) = decimal n := by
  rw [signed, if_neg (by omega), Int.natAbs_natCast]

/-- A negative integer is printed as it was written if no zero is in front; zero loses the minus
sign. -/
theorem signed_neg_eq_iff_plain {digits : List Char} (each : ∀ c ∈ digits, isDigit c = true)
    (some_there : digits ≠ []) :
    signed (-(digitsValue digits : Int)) = '-' :: digits ↔ PlainInteger ('-' :: digits) := by
  by_cases zero : digitsValue digits = 0
  · have unlike : ¬ PlainInteger ('-' :: digits) := by
      intro plain
      have ahead := plain.negative digits rfl
      have same := decimal_digitsValue each some_there fun h => absurd h ahead
      rw [zero] at same
      exact ahead (same ▸ rfl)
    have printed : signed (-(digitsValue digits : Int)) = ['0'] := by
      rw [zero]
      rfl
    simp [printed, unlike]
  · have negative : signed (-(digitsValue digits : Int)) =
        '-' :: decimal (digitsValue digits) := by
      rw [signed, if_pos (by omega), Int.natAbs_neg, Int.natAbs_natCast]
    rw [negative, List.cons_inj_right, decimal_eq_iff each some_there]
    constructor
    · intro plain
      refine ⟨by simp, by simp [PlainDigits], ?_⟩
      rintro _ ⟨⟩ ahead
      rw [plain ahead] at zero
      exact zero rfl
    · exact fun plain ahead => absurd ahead (plain.negative digits rfl)

/-- A number with a plus sign loses it. -/
theorem signed_natCast_ne_plus (n : Nat) (digits : List Char) :
    signed (n : Int) ≠ '+' :: digits := by
  intro same
  have plus : '+' ∈ signed (n : Int) := same ▸ List.mem_cons_self
  rw [signed_natCast] at plus
  exact not_mem_decimal (by decide) n plus

/-- A number without a sign is printed as it was written if no zero is in front. -/
theorem signed_natCast_eq_iff_plain (each : ∀ c ∈ cs, isDigit c = true) (some_there : cs ≠ [])
    (no_minus : ∀ digits, cs ≠ '-' :: digits) (no_plus : ∀ digits, cs ≠ '+' :: digits) :
    signed (digitsValue cs : Int) = cs ↔ PlainInteger cs := by
  rw [signed_natCast, decimal_eq_iff each some_there]
  constructor
  · intro plain
    refine ⟨?_, plain, fun digits same => absurd same (no_minus digits)⟩
    intro plus
    cases cs with
    | nil => cases plus
    | cons c cs => exact no_plus cs (by rw [Option.some.inj plus])
  · exact PlainInteger.digits

/-- **An integer is printed as it was written** exactly if it was written plainly. -/
theorem signed_eq_iff_plain {n : Int} (h : int64? 10 cs = some n) :
    signed n = cs ↔ PlainInteger cs := by
  unfold int64? at h
  split at h
  · rename_i digits
    obtain ⟨m, read, h⟩ := Option.bind_eq_some_iff.1 h
    obtain ⟨some_there, each, rfl⟩ := magnitude?_ten read
    split at h
    · cases h
      exact signed_neg_eq_iff_plain each some_there
    · cases h
  · rename_i digits
    obtain ⟨m, read, h⟩ := Option.bind_eq_some_iff.1 h
    split at h
    · cases h
      exact iff_of_false (signed_natCast_ne_plus m digits) fun plain => plain.no_plus rfl
    · cases h
  · rename_i no_minus no_plus
    obtain ⟨m, read, h⟩ := Option.bind_eq_some_iff.1 h
    obtain ⟨some_there, each, rfl⟩ := magnitude?_ten read
    split at h
    · cases h
      exact signed_natCast_eq_iff_plain each some_there no_minus no_plus
    · cases h

end EventRelay.Text
