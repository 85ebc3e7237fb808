import EventRelay.Failure
import EventRelay.Proofs.Text.Digits
import EventRelay.Proofs.Time.Calendar
import EventRelay.Time.Rfc3339

/-!
# Points in time are read back

The text of a point is read back as that point (`Instant.read_text`), field by field, unless it lies
in a leap second that does not end a minute (`Instant.Readable`); and what is read never lies in one
(`Instant.readable_of_read`), since offsets are whole minutes.
-/

namespace EventRelay

open Text

/-- A point in a leap second belongs to the last second of a minute; elsewhere it is written as the
second that follows. -/
def Instant.Readable (t : Instant) : Prop := t.nano < nanosPerSecond ∨ t.second % 60 = 59

instance (t : Instant) : Decidable t.Readable :=
  inferInstanceAs (Decidable (t.nano < nanosPerSecond ∨ t.second % 60 = 59))

/-- A point is made of its own second and its nanoseconds. -/
theorem Instant.ofParts?_self (t : Instant) : ofParts? t.second t.nano = some t :=
  dif_pos ⟨t.second_ge, t.second_le, t.nano_lt⟩

theorem Instant.parts_of_ofParts? {second : Int} {nano : Nat} {t : Instant}
    (h : ofParts? second nano = some t) : t.second = second ∧ t.nano = nano := by
  unfold ofParts? at h
  split at h
  · cases h
    exact ⟨rfl, rfl⟩
  · cases h

namespace Rfc3339

theorem isBlank_of_isDigit {c : Char} (h : isDigit c = true) : isBlank c = false := by
  simp only [isDigit, Bool.and_eq_true, decide_eq_true_eq, Char.le_def, UInt32.le_iff_toNat_le] at h
  have zero : ('0' : Char).val.toNat = 48 := rfl
  have nine : ('9' : Char).val.toNat = 57 := rfl
  have code : c.toNat = c.val.toNat := rfl
  simp only [isBlank, code, Bool.or_eq_false_iff, Bool.and_eq_false_iff, decide_eq_false_iff_not,
    beq_eq_false_iff_ne]
  omega

theorem dropBlank_cons {c : Char} (h : isBlank c = false) (rest : List Char) :
    dropBlank (c :: rest) = c :: rest := by
  rw [dropBlank, List.dropWhile_cons_of_neg (by simp [h])]

theorem dropBlank_padded (width n : Nat) (rest : List Char) :
    dropBlank (padded width n ++ rest) = padded width n ++ rest := by
  cases h : padded width n with
  | nil => exact absurd h (padded_ne_nil width n)
  | cons c ds =>
    exact dropBlank_cons (isBlank_of_isDigit (isDigit_of_mem_padded (h ▸ List.mem_cons_self))) _

/-- The digits of a column are taken, whatever follows. -/
theorem number_padded (width n : Nat) (positive : 0 < width) (h : n < 10 ^ width)
    (rest : List Char) : number width (padded width n ++ rest) = .ok (n, rest) := by
  have length := length_padded positive h
  have digits : (padded width n).takeWhile isDigit = padded width n := by
    obtain ⟨front, -⟩ := span_digits (padded width n) [] (fun _ => isDigit_of_mem_padded) nofun
    rwa [List.append_nil] at front
  unfold number
  simp only [dropBlank_padded, List.take_append_of_le_length (Nat.le_of_eq length.symm),
    List.take_of_length_le (Nat.le_of_eq length), digits]
  split
  · exact absurd ‹_› (padded_ne_nil width n)
  · rw [digitsValue_padded, List.drop_left]

/-- Two digits in their range are read back. -/
theorem field_padded (low high n : Nat) (h : n < 100) (mem : low ≤ n ∧ n ≤ high)
    (rest : List Char) : field low high (padded 2 n ++ rest) = .ok (n, rest) := by
  rw [field, number_padded 2 n (by decide) h, ok_bind]
  exact if_pos mem

theorem separator_cons {c : Char} (h : isBlank c = false) (rest : List Char) :
    separator c (c :: rest) = .ok rest := by
  rw [separator, dropBlank_cons h]
  exact if_pos rfl

/-- The digits of a year behind its sign end where no digit follows. -/
theorem signedYear_padded (n : Nat) {rest : List Char}
    (ends : ∀ c, rest.head? = some c → isDigit c = false) :
    signedYear (padded 4 n ++ rest) = .ok (n, rest) := by
  obtain ⟨front, -⟩ := span_digits (padded 4 n) rest (fun _ => isDigit_of_mem_padded) ends
  unfold signedYear
  rw [front]
  split
  · exact absurd ‹_› (padded_ne_nil 4 n)
  · rw [digitsValue_padded, List.drop_left]

/-- A year is read back from its text, signs and more than four digits included. -/
theorem year_yearText {y : Int} (low : -262143 ≤ y) (high : y ≤ 262142) (rest : List Char)
    (ends : ∀ c, rest.head? = some c → isDigit c = false) :
    year (Instant.yearText y ++ rest) = .ok (y, rest) := by
  have inRange : -2147483648 ≤ y ∧ y ≤ 2147483647 := by omega
  unfold Instant.yearText
  split
  · rename_i plain
    have read := number_padded 4 y.toNat (by decide) (by omega) rest
    have value : ((y.toNat : Nat) : Int) = y := by omega
    unfold year
    rw [dropBlank_padded]
    cases hd : padded 4 y.toNat with
    | nil => exact absurd hd (padded_ne_nil 4 _)
    | cons c ds =>
      have digit : isDigit c = true := isDigit_of_mem_padded (hd ▸ List.mem_cons_self)
      have signs : c ≠ '-' ∧ c ≠ '+' := by
        constructor <;> (rintro rfl; cases digit)
      rw [hd, List.cons_append] at read
      rw [List.cons_append]
      split
      · exact absurd (List.cons.inj ‹_›).1 signs.1
      · exact absurd (List.cons.inj ‹_›).1 signs.2
      · simp only [read, Except.map, value, ok_bind, if_pos inRange]
  · split
    · have value : -((y.natAbs : Nat) : Int) = y := by omega
      rw [List.cons_append, year, dropBlank_cons rfl]
      simp only [signedYear_padded y.natAbs ends, Except.map, value, ok_bind, if_pos inRange]
    · have value : ((y.natAbs : Nat) : Int) = y := by omega
      rw [List.cons_append, year, dropBlank_cons rfl]
      simp only [signedYear_padded y.natAbs ends, Except.map, value, ok_bind, if_pos inRange]

/-- A fraction is read with the digits that it is written with. -/
theorem fraction_padded (places n : Nat) (positive : 0 < places) (most : places ≤ 9)
    (h : n < 10 ^ places) :
    fraction ('.' :: padded places n ++ ['Z']) = .ok (n * 10 ^ (9 - places), ['Z']) := by
  have length := length_padded positive h
  obtain ⟨front, -⟩ := span_digits (padded places n) (['Z'].take (9 - places))
    (fun _ => isDigit_of_mem_padded) fun c hc => by
      rw [List.mem_singleton.1 (List.mem_of_mem_take (List.mem_of_mem_head? hc))]
      rfl
  rw [List.cons_append, fraction, List.take_append, length,
    List.take_of_length_le (by omega : (padded places n).length ≤ 9), front]
  split
  · exact absurd ‹_› (padded_ne_nil places n)
  · rw [digitsValue_padded, length, List.drop_append_of_le_length (by omega),
      List.drop_of_length_le (by omega)]
    rfl

/-- A fraction is read back, however many of its digits are written. -/
theorem fraction_fractionText {nano : Nat} (h : nano < nanosPerSecond) :
    fraction (Instant.fractionText nano ++ ['Z']) = .ok (nano, ['Z']) := by
  unfold nanosPerSecond at h
  unfold Instant.fractionText
  split
  · rename_i zero
    rw [zero]
    rfl
  · split
    · rw [fraction_padded 3 _ (by decide) (by decide) (by omega),
        show nano / 1000000 * 10 ^ (9 - 3) = nano by omega]
    · split
      · rw [fraction_padded 6 _ (by decide) (by decide) (by omega),
          show nano / 1000 * 10 ^ (9 - 6) = nano by omega]
      · rw [fraction_padded 9 _ (by decide) (by decide) (by omega),
          show nano * 10 ^ (9 - 9) = nano by omega]

/-- The years of points in time are those that can be put together. -/
theorem year_mem (t : Instant) : -262143 ≤ (Calendar.dateOf (t.second / 86400)).year ∧
    (Calendar.dateOf (t.second / 86400)).year ≤ 262142 := by
  have first := t.second_ge
  have last := t.second_le
  unfold firstSecond at first
  unfold lastSecond at last
  exact Calendar.year_dateOf_mem (t.second / 86400) (by omega) (by omega)

/-- The fields of a point are put together to the point. -/
theorem assemble_parts {t : Instant} (h : t.Readable) :
    assemble (Calendar.dateOf (t.second / 86400)) ((t.second % 86400).toNat / 3600)
      ((t.second % 86400).toNat / 60 % 60)
      ((t.second % 86400).toNat % 60 + t.nano / nanosPerSecond) (t.nano % nanosPerSecond) 0 =
      .ok t := by
  have nano_lt := t.nano_lt
  unfold nanosPerSecond at *
  obtain ⟨low, high⟩ := year_mem t
  have valid := Calendar.valid_dateOf (t.second / 86400)
  have number := Calendar.dayNumber_dateOf (t.second / 86400)
  have inDate : ¬ (¬ (Calendar.dateOf (t.second / 86400)).valid = true ∨
      (Calendar.dateOf (t.second / 86400)).year < -262143 ∨
      262142 < (Calendar.dateOf (t.second / 86400)).year) := by
    simp only [valid, not_true_eq_false, false_or]
    omega
  unfold Instant.Readable nanosPerSecond at h
  have whole : t.second / 86400 * 86400 + (((t.second % 86400).toNat / 3600 * 3600 +
      (t.second % 86400).toNat / 60 % 60 * 60 +
      (if (t.second % 86400).toNat % 60 + t.nano / 1000000000 = 60 then 59
        else (t.second % 86400).toNat % 60 + t.nano / 1000000000) : Nat) : Int) - 0 = t.second := by
    split <;> omega
  have nano : (if (t.second % 86400).toNat % 60 + t.nano / 1000000000 = 60
      then t.nano % 1000000000 + 1000000000 else t.nano % 1000000000) = t.nano := by
    split <;> omega
  unfold assemble
  rw [if_neg inDate, if_neg (by decide), number]
  dsimp only
  unfold nanosPerSecond
  rw [whole, nano, Instant.ofParts?_self]

end Rfc3339

open Rfc3339 in
/-- **A point in time is read back** from its text. -/
theorem Instant.read_text {t : Instant} (h : t.Readable) : Instant.read t.text = .ok t := by
  have nano_lt := t.nano_lt
  unfold nanosPerSecond at nano_lt
  have assembled := assemble_parts h
  obtain ⟨low, high⟩ := year_mem t
  have month_mem := Calendar.month_dateOf_mem (t.second / 86400)
  have day_mem := Calendar.day_dateOf_mem (t.second / 86400)
  have second_le : (t.second % 86400).toNat % 60 + t.nano / nanosPerSecond ≤ 60 := by
    unfold nanosPerSecond
    omega
  have hour_le : (t.second % 86400).toNat / 3600 ≤ 23 := by omega
  have minute_le : (t.second % 86400).toNat / 60 % 60 ≤ 59 := by omega
  have fraction_lt : t.nano % nanosPerSecond < nanosPerSecond := Nat.mod_lt _ (by decide)
  unfold Instant.text
  dsimp only
  generalize Calendar.dateOf (t.second / 86400) = date at *
  generalize (t.second % 86400).toNat / 3600 = hour at *
  generalize (t.second % 86400).toNat / 60 % 60 = minute at *
  generalize (t.second % 86400).toNat % 60 + t.nano / nanosPerSecond = second at *
  have year_read (rest : List Char) := year_yearText low high ('-' :: rest) fun c hc => by
    obtain rfl : '-' = c := Option.some.inj hc
    rfl
  have month_read := field_padded 1 12 _ (by omega) month_mem
  have day_read := field_padded 1 31 _ (by omega) day_mem
  have hour_read := field_padded 0 23 hour (by omega) (by omega)
  have minute_read := field_padded 0 59 minute (by omega) (by omega)
  have second_read := field_padded 0 60 second (by omega) (by omega)
  have between (rest : List Char) : dateTimeSeparator ('T' :: rest) = .ok rest := rfl
  have offset_read : offset (dropBlank ['Z']) = .ok (0, []) := rfl
  have hyphen : isBlank '-' = false := rfl
  have colon : isBlank ':' = false := rfl
  simp only [Instant.read, List.append_assoc, List.cons_append, year_read, ok_bind,
    separator_cons hyphen, separator_cons colon, month_read, day_read, between, hour_read,
    minute_read, second_read, fraction_fractionText fraction_lt, offset_read]
  exact assembled

namespace Rfc3339

/-! ## What is read -/

theorem fraction_lt {cs rest : List Char} {n : Nat} (h : fraction cs = .ok (n, rest)) :
    n < nanosPerSecond := by
  unfold fraction at h
  split at h
  · rename_i behind
    split at h
    · cases h
    · rename_i digits
      obtain ⟨rfl, -⟩ := Prod.mk.inj (Except.ok.inj h)
      have all : ∀ c ∈ (behind.take 9).takeWhile isDigit, isDigit c = true :=
        List.all_eq_true.1 List.all_takeWhile
      have most : ((behind.take 9).takeWhile isDigit).length ≤ 9 :=
        Nat.le_trans (List.takeWhile_sublist _).length_le (List.length_take_le 9 behind)
      calc digitsValue ((behind.take 9).takeWhile isDigit) *
            10 ^ (9 - ((behind.take 9).takeWhile isDigit).length)
          < 10 ^ ((behind.take 9).takeWhile isDigit).length *
              10 ^ (9 - ((behind.take 9).takeWhile isDigit).length) :=
            Nat.mul_lt_mul_of_pos_right (digitsValue_lt all) (Nat.pow_pos (by decide))
        _ = 10 ^ 9 := by rw [← Nat.pow_add, Nat.add_sub_cancel' most]
  · obtain ⟨rfl, -⟩ := Prod.mk.inj (Except.ok.inj h)
    decide

/-- An offset is a whole number of minutes. -/
theorem offsetSeconds_mod {cs rest : List Char} {n : Nat}
    (h : offsetSeconds cs = .ok (n, rest)) : n % 60 = 0 := by
  unfold offsetSeconds at h
  obtain ⟨⟨⟨a, b⟩, behind⟩, -, h⟩ := bind_eq_ok_iff.1 h
  obtain ⟨⟨⟨c, d⟩, behind'⟩, -, h⟩ := bind_eq_ok_iff.1 h
  dsimp only at h
  split at h
  · cases h
  · obtain ⟨rfl, -⟩ := Prod.mk.inj (Except.ok.inj h)
    omega

/-- Offsets are whole minutes. -/
theorem offset_mod {cs rest : List Char} {s : Int} (h : offset cs = .ok (s, rest)) :
    s % 60 = 0 := by
  have signed {cs rest : List Char} {sign s : Int}
      (h : (offsetSeconds cs).map (fun x => (sign * (x.1 : Int), x.2)) = .ok (s, rest)) :
      s % 60 = 0 := by
    obtain ⟨⟨n, behind⟩, hn, heq⟩ := map_eq_ok_iff.1 h
    obtain ⟨rfl, -⟩ := Prod.mk.inj heq
    have whole : (n : Int) % 60 = 0 := by exact_mod_cast offsetSeconds_mod hn
    rw [Int.mul_emod, whole, Int.mul_zero, Int.zero_emod]
  unfold offset at h
  dsimp only at h
  split at h
  · cases h
  · cases h
    rfl
  · cases h
    rfl
  · exact signed h
  · exact signed h
  · exact signed h
  · split at h
    · cases h
      rfl
    · cases h
  · cases h

/-- What is put together from the parts of a text can be written and read back. -/
theorem readable_of_assemble {date : Calendar.Date} {hour minute second nano : Nat} {offset : Int}
    {t : Instant} (hnano : nano < nanosPerSecond) (hoffset : offset % 60 = 0)
    (h : assemble date hour minute second nano offset = .ok t) : t.Readable := by
  unfold assemble at h
  split at h
  · cases h
  · split at h
    · cases h
    · dsimp only at h
      split at h
      · rename_i t' parts
        cases h
        obtain ⟨whole, part⟩ := Instant.parts_of_ofParts? parts
        unfold Instant.Readable
        rw [whole, part]
        split
        · right
          omega
        · exact .inl hnano
      · cases h

end Rfc3339

open Rfc3339 in
/-- **A point in time that was read** can be read again. -/
theorem Instant.readable_of_read {cs : List Char} {t : Instant} (h : Instant.read cs = .ok t) :
    t.Readable := by
  unfold Instant.read at h
  obtain ⟨⟨year, rest⟩, -, h⟩ := bind_eq_ok_iff.1 h
  obtain ⟨rest, -, h⟩ := bind_eq_ok_iff.1 h
  obtain ⟨⟨month, rest⟩, -, h⟩ := bind_eq_ok_iff.1 h
  obtain ⟨rest, -, h⟩ := bind_eq_ok_iff.1 h
  obtain ⟨⟨day, rest⟩, -, h⟩ := bind_eq_ok_iff.1 h
  obtain ⟨rest, -, h⟩ := bind_eq_ok_iff.1 h
  obtain ⟨⟨hour, rest⟩, -, h⟩ := bind_eq_ok_iff.1 h
  obtain ⟨rest, -, h⟩ := bind_eq_ok_iff.1 h
  obtain ⟨⟨minute, rest⟩, -, h⟩ := bind_eq_ok_iff.1 h
  obtain ⟨rest, -, h⟩ := bind_eq_ok_iff.1 h
  obtain ⟨⟨second, rest⟩, -, h⟩ := bind_eq_ok_iff.1 h
  obtain ⟨⟨nano, rest⟩, hnano, h⟩ := bind_eq_ok_iff.1 h
  obtain ⟨⟨offset, rest⟩, hoffset, h⟩ := bind_eq_ok_iff.1 h
  dsimp only at h
  split at h
  · exact readable_of_assemble (fraction_lt hnano) (offset_mod hoffset) h
  · cases h

end EventRelay
