import EventRelay.Json.Basic
import EventRelay.Json.Document
import EventRelay.Proofs.Text.Digits

/-!
# Strings are read back

A character is written as itself, as an escape of two characters or by its code; in each form one
step of the scanner takes exactly its text and yields the character (`scanString_escapeChar`). So
any text between its quotes is read back whole, and what stands behind it is left
(`readString_escape`).
-/

namespace EventRelay.Json

open Text

/-- The code of a control character is read back. -/
theorem scanHex_code {c : Char} (control : c.toNat < 0x20) (rest : List Char) :
    scanHex ('0' :: '0' :: hexDigit (c.toNat / 16) :: hexDigit (c.toNat % 16) :: rest) =
      .ok (c.toNat, rest) := by
  have codes : ∀ n < 0x20,
      ¬ (['0', '0', hexDigit (n / 16), hexDigit (n % 16)].foldl
        (fun n c => n + c.utf8Size) 0 < 4) ∧
      hexadecimal? ['0', '0', hexDigit (n / 16), hexDigit (n % 16)] = some n := by
    decide
  obtain ⟨enough, value⟩ := codes c.toNat control
  unfold scanHex
  simp only [List.take_succ_cons, List.take_zero, List.drop_succ_cons, List.drop_zero]
  rw [if_neg enough, value]

/-- **One step for one character**, in whichever form it is written. -/
theorem scanString_escapeChar (c : Char) (rest : List Char) (fuel : Nat) :
    scanString (fuel + 1) (escapeChar c ++ rest) = (scanString fuel rest).cons c := by
  unfold escapeChar
  iterate 7
    split
    · subst c
      rfl
  split
  · rename_i control
    have low : isHighSurrogate c.toNat = false ∧ isLowSurrogate c.toNat = false := by
      simp only [isHighSurrogate, isLowSurrogate, Bool.and_eq_false_iff, decide_eq_false_iff_not]
      omega
    simp only [escapeCode, List.cons_append, List.nil_append, scanString, scanHex_code control, low,
      Char.ofNat_toNat]
    rfl
  · rename_i shown
    rw [List.singleton_append, scanString]
    · rw [if_neg shown]
    all_goals simp_all

/-- Every character is written as at least one, so that reading a string gets on. -/
theorem escapeChar_ne_nil (c : Char) : escapeChar c ≠ [] := by
  unfold escapeChar escapeCode
  repeat' split
  all_goals exact List.cons_ne_nil _ _

/-- An escaped text is at least as long as the text. -/
theorem length_le_length_escape (cs : List Char) : cs.length ≤ (escape cs).length := by
  induction cs with
  | nil => exact Nat.le_refl 0
  | cons c cs ih =>
    have := List.length_pos_iff.2 (escapeChar_ne_nil c)
    rw [escape, List.flatMap_cons, List.length_append, List.length_cons]
    unfold escape at ih
    omega

/-- **Strings are read back**: what was escaped is read up to the closing quote. -/
theorem scanString_escape (cs rest : List Char) (fuel : Nat) (enough : cs.length < fuel) :
    scanString fuel (escape cs ++ '"' :: rest) = .complete cs rest := by
  induction cs generalizing fuel with
  | nil =>
    obtain ⟨fuel, rfl⟩ : ∃ n, fuel = n + 1 := ⟨fuel - 1, by omega⟩
    rfl
  | cons c cs ih =>
    rw [List.length_cons] at enough
    obtain ⟨fuel, rfl⟩ : ∃ n, fuel = n + 1 := ⟨fuel - 1, by omega⟩
    rw [escape, List.flatMap_cons, List.append_assoc, scanString_escapeChar]
    have := ih fuel (by omega)
    unfold escape at this
    rw [this]
    rfl

/-- **A string is read back** from behind its opening quote. -/
theorem readString_escape (s : String) (rest : List Char) :
    readString (escape s.toList ++ '"' :: rest) = (.text s, some rest) := by
  have enough : s.toList.length < (escape s.toList ++ '"' :: rest).length + 1 := by
    have := length_le_length_escape s.toList
    rw [List.length_append]
    omega
  simp only [readString, scanString_escape _ _ _ enough, String.ofList_toList]

end EventRelay.Json
