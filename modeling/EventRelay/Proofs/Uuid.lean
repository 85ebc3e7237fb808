import EventRelay.Message
import EventRelay.Proofs.Text.Digits
import Mathlib.Data.List.Basic

/-!
# Ids tell apart

The hyphenated text of a UUID determines it (`text_injective`), so that a message id tells the
message of one record from that of every other (`messageId_message_eq_iff`). It is read back as the
UUID (`read_text`).
-/

namespace EventRelay

namespace Uuid

/-- The low digits of a number in base sixteen determine it up to a power of sixteen. -/
theorem mod_eq_of_digits {a b : Nat} (n : Nat)
    (h : ∀ i < n, a / 16 ^ i % 16 = b / 16 ^ i % 16) : a % 16 ^ n = b % 16 ^ n := by
  induction n with
  | zero => simp [Nat.mod_one]
  | succ n ih =>
    rw [Nat.mod_pow_succ, Nat.mod_pow_succ, h n (Nat.lt_succ_self n),
      ih fun i hi => h i (Nat.lt_succ_of_lt hi)]

theorem hexDigit_injOn : ∀ a < 16, ∀ b < 16, Text.hexDigit a = Text.hexDigit b → a = b := by
  decide

theorem hexDigit_ne_hyphen : ∀ a < 16, Text.hexDigit a ≠ '-' := by
  decide

theorem digits_injective {u v : Uuid} (h : u.digits = v.digits) : u = v := by
  have same : ∀ i < 32, u.value / 16 ^ i % 16 = v.value / 16 ^ i % 16 := by
    intro i hi
    have := (List.map_inj_left.1 h) (31 - i) (List.mem_range.2 (by omega))
    rw [show 31 - (31 - i) = i by omega] at this
    exact hexDigit_injOn _ (Nat.mod_lt _ (by decide)) _ (Nat.mod_lt _ (by decide)) this
  have := mod_eq_of_digits 32 same
  rw [show 16 ^ 32 = 2 ^ 128 by decide, Nat.mod_eq_of_lt u.value_lt,
    Nat.mod_eq_of_lt v.value_lt] at this
  exact Uuid.ext this

/-- Without its hyphens a hyphenated text is the digits again. -/
theorem filter_text (u : Uuid) : u.text.filter (· ≠ '-') = u.digits := by
  have plain : ∀ c ∈ u.digits, c ≠ '-' := by
    intro c hc
    obtain ⟨i, -, rfl⟩ := List.mem_map.1 hc
    exact hexDigit_ne_hyphen _ (Nat.mod_lt _ (by decide))
  have groups : u.digits = u.digits.take 8 ++ ((u.digits.drop 8).take 4 ++
      ((u.digits.drop 12).take 4 ++ ((u.digits.drop 16).take 4 ++ u.digits.drop 20))) := by
    have next : ∀ i, (u.digits.drop i).take 4 ++ u.digits.drop (i + 4) = u.digits.drop i := by
      intro i
      rw [← List.drop_drop, List.take_append_drop]
    rw [next 16, next 12, next 8, List.take_append_drop]
  calc u.text.filter (· ≠ '-')
      = (u.digits.take 8 ++ ((u.digits.drop 8).take 4 ++ ((u.digits.drop 12).take 4 ++
          ((u.digits.drop 16).take 4 ++ u.digits.drop 20)))).filter (· ≠ '-') := by
        simp [text, hyphenate]
    _ = u.digits.filter (· ≠ '-') := by rw [← groups]
    _ = u.digits := List.filter_eq_self.2 fun c hc => by simpa using plain c hc

/-- **Two ids with one text are one id.** -/
theorem text_injective {u v : Uuid} (h : u.text = v.text) : u = v := by
  refine digits_injective ?_
  rw [← filter_text u, ← filter_text v, h]

/-! ## Reading -/

theorem length_digits (u : Uuid) : u.digits.length = 32 := by
  rw [digits, List.length_map, List.length_range]

/-- The digits spell the number, from the most significant one on. -/
theorem hexadecimal?_digits (u : Uuid) : Text.hexadecimal? u.digits = some u.value := by
  have front : ∀ k ≤ 32, Text.hexadecimal?
      ((List.range k).map fun i => Text.hexDigit (u.value / 16 ^ (31 - i) % 16)) =
        some (u.value / 16 ^ (32 - k)) := by
    intro k hk
    induction k with
    | zero =>
      have : u.value < 16 ^ 32 := u.value_lt
      rw [Nat.div_eq_of_lt this]
      rfl
    | succ k ih =>
      have digit :=
        Text.hexValue?_hexDigit (u.value / 16 ^ (31 - k) % 16) (Nat.mod_lt _ (by decide))
      have more : u.value / 16 ^ (32 - k) = u.value / 16 ^ (31 - k) / 16 := by
        rw [show 32 - k = 31 - k + 1 by omega, Nat.pow_succ, Nat.div_div_eq_div_mul]
      have before := ih (by omega)
      unfold Text.hexadecimal? at before ⊢
      rw [List.range_succ, List.map_append, List.foldl_append, before]
      simp only [List.map_cons, List.map_nil, List.foldl_cons, List.foldl_nil, Option.bind_some,
        digit, Option.map_some, Option.some.injEq]
      rw [more, show 32 - (k + 1) = 31 - k by omega]
      omega
  have all := front 32 (Nat.le_refl 32)
  rwa [Nat.sub_self, Nat.pow_zero, Nat.div_one] at all

theorem byteCount_of_plain {cs : List Char} (h : ∀ c ∈ cs, c.utf8Size = 1) :
    Text.byteCount cs = cs.length := by
  induction cs with
  | nil => rfl
  | cons c rest ih =>
    have first := h c List.mem_cons_self
    have others := ih fun x hx => h x (List.mem_cons_of_mem _ hx)
    unfold Text.byteCount at others ⊢
    rw [List.foldr_cons, others, first, List.length_cons, Nat.add_comm]

theorem byteCount_text (u : Uuid) : Text.byteCount u.text = 36 := by
  have plain : ∀ c ∈ u.digits, c.utf8Size = 1 := by
    intro c hc
    obtain ⟨i, -, rfl⟩ := List.mem_map.1 hc
    have sizes : ∀ n < 16, (Text.hexDigit n).utf8Size = 1 := by decide
    exact sizes _ (Nat.mod_lt _ (by decide))
  have length : u.text.length = 36 := by
    simp [text, hyphenate, length_digits]
  rw [byteCount_of_plain, length]
  intro c hc
  by_cases hyphen : c = '-'
  · rw [hyphen]
    decide
  · refine plain c ?_
    rw [← filter_text u]
    exact List.mem_filter.2 ⟨hc, by simpa using hyphen⟩

/-- **A UUID is read back** from its text. -/
theorem read_text (u : Uuid) : read u.text = .ok u := by
  have bytes := byteCount_text u
  have digits_eq : u.text.filter (· != '-') = u.digits := by
    rw [← filter_text u]
    refine List.filter_congr fun c _ => ?_
    by_cases hyphen : c = '-' <;> simp [hyphen]
  have spelled : ofDigits? u.digits = some u := by
    rw [ofDigits?, if_pos (length_digits u), hexadecimal?_digits]
    exact congrArg some (Uuid.ext (Nat.mod_eq_of_lt u.value_lt))
  have hyphenated : ofHyphenated? u.text = some u := by
    rw [ofHyphenated?, digits_eq]
    exact (if_pos rfl).trans spelled
  have inner : core? u.text = some u.text := if_pos bytes
  rw [read, if_neg (by rw [bytes]; decide), inner]
  simp only [hyphenated]

end Uuid

/-- The messages of two records have the same id exactly if the records have. -/
theorem Record.messageId_message_eq_iff (r s : Record) :
    r.message.options.messageId = s.message.options.messageId ↔ r.id = s.id := by
  constructor
  · intro h
    exact Uuid.text_injective (String.ofList_injective h)
  · intro h
    simp only [Record.message, Record.deliveryOptions, h]

end EventRelay
