import EventRelay.Proofs.Json.Strings
import EventRelay.Proofs.Json.Values

/-!
# Documents are read back

A value whose numbers are integers of 64 bits is read back from its text (`read_write`): the reader
finds the reading of the value, and behind it what stood behind the text. The induction is on the
value, for any text behind it that does not go on with a number (`Ends`).
-/

namespace EventRelay.Json

open Text

/-! ## Numbers -/

/-- No number goes on with this text. -/
def Ends (rest : List Char) : Prop :=
  ∀ c, rest.head? = some c → isDigit c = false ∧ c ≠ '.' ∧ c ≠ 'e' ∧ c ≠ 'E'

theorem ends_nil : Ends [] := by simp [Ends]

/-- A number ends before any character that is no digit, no point and no sign of an exponent. -/
theorem ends_cons {c : Char} {rest : List Char}
    (h : isDigit c = false ∧ c ≠ '.' ∧ c ≠ 'e' ∧ c ≠ 'E') : Ends (c :: rest) := by
  intro d hd
  obtain rfl : c = d := Option.some.inj hd
  exact h

theorem scanFraction_of_ends {rest : List Char} (ends : Ends rest) (n : Numeral) :
    scanFraction n rest = .complete n rest := by
  cases rest with
  | nil => rfl
  | cons c rest =>
    obtain ⟨-, point, lower, upper⟩ := ends c rfl
    unfold scanFraction
    split
    · exact absurd (List.cons.inj ‹_›).1 point
    · unfold scanScale
      split
      · exact absurd (List.cons.inj ‹_›).1 lower
      · exact absurd (List.cons.inj ‹_›).1 upper
      · rfl

/-- The digits of a natural number are scanned to the end, since no zero leads them. -/
theorem scanNumeral_decimal (negative : Bool) (n : Nat) {rest : List Char} (ends : Ends rest) :
    scanNumeral negative (decimal n ++ rest) = .complete ⟨negative, decimal n, [], none⟩ rest := by
  have stops : ∀ c, rest.head? = some c → isDigit c = false := fun c hc => (ends c hc).1
  have digits : ∀ c ∈ decimal n, isDigit c = true := fun _ => isDigit_of_mem_decimal
  cases hd : decimal n with
  | nil => exact absurd hd (decimal_ne_nil n)
  | cons c ds =>
    rw [hd] at digits
    rw [List.cons_append]
    by_cases zero : c = '0'
    · subst zero
      obtain rfl : n = 0 := eq_zero_of_head_decimal (by rw [hd]; rfl)
      obtain rfl : ds = [] := (List.cons.inj hd).2.symm
      have nothing : (rest.head?.map isDigit).getD false = false := by
        cases hc : rest.head? with
        | none => rfl
        | some c => exact stops c hc
      rw [scanNumeral, List.nil_append, nothing]
      exact scanFraction_of_ends ends _
    · obtain ⟨front, behind⟩ :=
        span_digits ds rest (fun x hx => digits x (List.mem_cons_of_mem _ hx)) stops
      rw [scanNumeral]
      · rw [if_pos (digits c List.mem_cons_self), front, behind]
        exact scanFraction_of_ends ends _
      · exact fun h => zero h

/-- Digits that spell a number of 64 bits are all taken. -/
theorem gather_of_lt {ds : List Char} {start : Nat}
    (fits : ds.foldl (fun n c => n * 10 + digitValue c) start < 2 ^ 64) :
    gather start ds = (ds.foldl (fun n c => n * 10 + digitValue c) start, 0) := by
  have grows : ∀ (ds : List Char) (start : Nat),
      start ≤ ds.foldl (fun n c => n * 10 + digitValue c) start := by
    intro ds
    induction ds with
    | nil => exact Nat.le_refl
    | cons d ds ih =>
      intro start
      have := ih (start * 10 + digitValue d)
      rw [List.foldl_cons]
      omega
  induction ds generalizing start with
  | nil => rfl
  | cons d ds ih =>
    rw [List.foldl_cons] at fits ⊢
    rw [gather, if_pos (Nat.lt_of_le_of_lt (grows ds _) fits)]
    exact ih fits

theorem gather_decimal {n : Nat} (fits : n < 2 ^ 64) : gather 0 (decimal n) = (n, 0) := by
  have value : (decimal n).foldl (fun n c => n * 10 + digitValue c) 0 = n := digitsValue_decimal n
  rw [gather_of_lt (by rwa [value]), value]

/-- A numeral of 64 bits has the integer that it spells as its value. -/
theorem value?_decimal {negative : Bool} {n : Nat} (fits : n < 2 ^ 64)
    (low : negative = true → n ≠ 0 ∧ n ≤ 2 ^ 63) :
    Numeral.value? ⟨negative, decimal n, [], none⟩ = some (.int (if negative then -n else n)) := by
  unfold Numeral.value?
  simp only [gather_decimal fits]
  cases negative with
  | false => simp
  | true =>
    obtain ⟨nonzero, small⟩ := low rfl
    simpa [nonzero] using small

/-- A number of 64 bits that is written in base ten is read back. -/
theorem readNumber_decimal (negative : Bool) (n : Nat) {rest : List Char} (ends : Ends rest)
    (fits : n < 2 ^ 64) (low : negative = true → n ≠ 0 ∧ n ≤ 2 ^ 63) :
    readNumber negative (decimal n ++ rest) =
      (.number (.int (if negative then -n else n)), some rest) := by
  simp only [readNumber, scanNumeral_decimal negative n ends, value?_decimal fits low]

/-- A digit begins nothing but a number. -/
theorem readScalar_digit {c : Char} (h : isDigit c = true) (rest : List Char) :
    readScalar (c :: rest) = readNumber false (c :: rest) := by
  have others : c ≠ 'n' ∧ c ≠ 't' ∧ c ≠ 'f' ∧ c ≠ '"' ∧ c ≠ '-' := by
    refine ⟨?_, ?_, ?_, ?_, ?_⟩ <;> (rintro rfl; cases h)
  obtain ⟨n, t, f, quote, minus⟩ := others
  rw [readScalar, if_neg n, if_neg t, if_neg f, if_neg quote, if_neg minus, if_pos h]

/-- **Integers are read back**, with their sign. -/
theorem readScalar_signed {n : Int} {rest : List Char} (ends : Ends rest)
    (low : -(2 ^ 63 : Nat) ≤ n) (high : n < (2 ^ 64 : Nat)) :
    readScalar (signed n ++ rest) = (.number (.int n), some rest) := by
  unfold signed
  split
  · have := readNumber_decimal true n.natAbs ends (by omega)
      fun _ => by omega
    rw [List.cons_append, readScalar]
    simp only [Char.reduceEq, ↓reduceIte] at this ⊢
    rw [this, show -(n.natAbs : Int) = n by omega]
  · have := readNumber_decimal false n.natAbs ends (by omega) nofun
    have value : (n.natAbs : Int) = n := by omega
    simp only [Bool.false_eq_true, ↓reduceIte, value] at this
    cases hd : decimal n.natAbs with
    | nil => exact absurd hd (decimal_ne_nil _)
    | cons c ds =>
      have digit : isDigit c = true := isDigit_of_mem_decimal (hd ▸ List.mem_cons_self)
      rw [hd] at this
      rw [List.cons_append, readScalar_digit digit]
      exact this

/-! ## Values -/

/-- The first character of a value: not blank, and not the end of a list. -/
def Starts (cs : List Char) : Prop := ∃ c rest, cs = c :: rest ∧ isGap c = false ∧ c ≠ ']'

theorem skipGap_cons {c : Char} (h : isGap c = false) (rest : List Char) :
    skipGap (c :: rest) = c :: rest := by
  rw [skipGap, List.dropWhile_cons_of_neg (by simp [h])]

/-- A text that begins neither a list nor an object is read as a scalar. -/
theorem readValue_scalar {text rest : List Char} {fuel : Nat}
    (starts : ∃ c cs, text = c :: cs ∧ isGap c = false ∧ c ≠ '[' ∧ c ≠ '\x7b')
    (enough : text.length ≤ fuel) : readValue fuel (text ++ rest) = readScalar (text ++ rest) := by
  obtain ⟨c, cs, rfl, gap, list, object⟩ := starts
  obtain ⟨fuel, rfl⟩ : ∃ n, fuel = n + 1 := ⟨fuel - 1, by rw [List.length_cons] at enough; omega⟩
  rw [List.cons_append, readValue, skipGap_cons gap]
  split
  · exact absurd (List.cons.inj ‹_›).1 list
  · exact absurd (List.cons.inj ‹_›).1 object
  · rfl

/-- A written integer begins with a character that begins no list, no object and no gap. -/
theorem signed_eq_cons (n : Int) : ∃ c rest, signed n = c :: rest ∧ isGap c = false ∧
    c ≠ ']' ∧ c ≠ '[' ∧ c ≠ '\x7b' := by
  unfold signed
  split
  · exact ⟨'-', _, rfl, rfl, by decide⟩
  · cases hd : decimal n.natAbs with
    | nil => exact absurd hd (decimal_ne_nil _)
    | cons c ds =>
      have digit : isDigit c = true := isDigit_of_mem_decimal (hd ▸ List.mem_cons_self)
      refine ⟨c, ds, rfl, ?_, ?_, ?_, ?_⟩
      · simp only [isGap, Bool.or_eq_false_iff, beq_eq_false_iff_ne]
        refine ⟨⟨⟨?_, ?_⟩, ?_⟩, ?_⟩ <;> (rintro rfl; cases digit)
      all_goals
        rintro rfl
        cases digit

/-- The text of a value begins as a value does. -/
theorem starts_write {v : Json} (h : v.Integral) : Starts (write v) := by
  cases h with
  | null => exact ⟨'n', _, rfl, rfl, by decide⟩
  | bool b => cases b with
    | true => exact ⟨'t', _, rfl, rfl, by decide⟩
    | false => exact ⟨'f', _, rfl, rfl, by decide⟩
  | @int n =>
    obtain ⟨c, rest, heq, gap, bracket, -⟩ := signed_eq_cons n
    exact ⟨c, rest, by rw [write, heq], gap, bracket⟩
  | str s => exact ⟨'"', _, by rw [write, writeString]; rfl, rfl, by decide⟩
  | @arr items => cases items with
    | nil => exact ⟨'[', _, by rw [write], rfl, by decide⟩
    | cons v vs => exact ⟨'[', _, by rw [write], rfl, by decide⟩
  | @obj entries => cases entries with
    | nil => exact ⟨'\x7b', _, by rw [write], rfl, by decide⟩
    | cons e es => exact ⟨'\x7b', _, by rw [write], rfl, by decide⟩

/-- No value is written as an empty text, so that reading it takes at least one step. -/
theorem length_write_pos {v : Json} (h : v.Integral) : 0 < (write v).length := by
  obtain ⟨c, rest, heq, -⟩ := starts_write h
  rw [heq]
  exact Nat.succ_pos _

theorem length_writeItems_pos (vs : List Json) : 0 < (writeItems vs).length := by
  cases vs <;> simp [writeItems]

theorem length_writeEntries_pos (es : List (String × Json)) : 0 < (writeEntries es).length := by
  cases es <;> simp [writeEntries]

/-- Behind an item a list goes on with a comma or a bracket, which ends a number. -/
theorem ends_writeItems (vs : List Json) (rest : List Char) : Ends (writeItems vs ++ rest) := by
  cases vs with
  | nil => exact ends_cons (by decide)
  | cons v vs =>
    rw [writeItems]
    exact ends_cons (by decide)

/-- Behind a value an object goes on with a comma or a brace, which ends a number. -/
theorem ends_writeEntries (es : List (String × Json)) (rest : List Char) :
    Ends (writeEntries es ++ rest) := by
  cases es with
  | nil => exact ends_cons (by decide)
  | cons e es =>
    rw [writeEntries]
    exact ends_cons (by decide)

theorem readValue_list (fuel : Nat) (cs : List Char) : readValue (fuel + 1) ('[' :: cs) =
    (.array (readItems fuel true cs).1 (readItems fuel true cs).2.1,
      (readItems fuel true cs).2.2) := rfl

theorem readValue_object (fuel : Nat) (cs : List Char) : readValue (fuel + 1) ('\x7b' :: cs) =
    (.object (readEntries fuel true cs).1 (readEntries fuel true cs).2.1,
      (readEntries fuel true cs).2.2) := rfl

def comma (first : Bool) : List Char := if first then [] else [',']

/-- An item is read if its value is. -/
theorem readItems_item {fuel : Nat} (first : Bool) {text behind : List Char} {item : Reading}
    (starts : Starts text) (read : readValue fuel (text ++ behind) = (item, some behind)) :
    readItems (fuel + 1) first (comma first ++ (text ++ behind)) =
      (item :: (readItems fuel false behind).1, (readItems fuel false behind).2) := by
  obtain ⟨c, rest, rfl, gap, bracket⟩ := starts
  rw [List.cons_append] at read
  cases first with
  | true =>
    simp only [comma, ↓reduceIte, List.nil_append, List.cons_append, readItems, skipGap_cons gap,
      if_neg bracket, Bool.true_or, read]
  | false =>
    have gap' : isGap ',' = false := rfl
    simp only [comma, Bool.false_eq_true, ↓reduceIte, List.cons_append, List.nil_append, readItems,
      skipGap_cons gap', Char.reduceEq, Bool.false_or, decide_true, read]

/-- An entry is read if its value is. -/
theorem readEntries_entry {fuel : Nat} (first : Bool) (key : String) {text behind : List Char}
    {value : Reading} (read : readValue fuel (text ++ behind) = (value, some behind)) :
    readEntries (fuel + 1) first
        (comma first ++ (writeString key ++ ':' :: (text ++ behind))) =
      ((.text key, value) :: (readEntries fuel false behind).1,
        (readEntries fuel false behind).2) := by
  have quote : isGap '"' = false := rfl
  have gap : isGap ',' = false := rfl
  have key_read := readString_escape key (':' :: (text ++ behind))
  have colon_read : colon (':' :: (text ++ behind)) = .ok (text ++ behind) := rfl
  cases first with
  | true =>
    simp only [comma, ↓reduceIte, List.nil_append, List.cons_append, writeString, List.append_assoc,
      readEntries, skipGap_cons quote, Char.reduceEq, Bool.true_or, key_read, colon_read, read]
  | false =>
    simp only [comma, Bool.false_eq_true, ↓reduceIte, List.cons_append, List.nil_append,
      writeString, List.append_assoc, readEntries, skipGap_cons gap, skipGap_cons quote,
      Char.reduceEq, Bool.false_or, decide_true, key_read, colon_read, read]

mutual
/-- **A value is read back** from its text, and what stands behind the text is left. -/
theorem readValue_write : ∀ (v : Json) (fuel : Nat) (rest : List Char), v.Integral →
    (write v).length ≤ fuel → Ends rest →
    readValue fuel (write v ++ rest) = (v.toReading, some rest)
  | .null, _, _, _, enough, _ => by
    rw [write] at enough ⊢
    rw [readValue_scalar ⟨'n', _, rfl, rfl, by decide, by decide⟩ enough, toReading]
    rfl
  | .bool true, _, _, _, enough, _ => by
    rw [write] at enough ⊢
    rw [readValue_scalar ⟨'t', _, rfl, rfl, by decide, by decide⟩ enough, toReading]
    rfl
  | .bool false, _, _, _, enough, _ => by
    rw [write] at enough ⊢
    rw [readValue_scalar ⟨'f', _, rfl, rfl, by decide, by decide⟩ enough, toReading]
    rfl
  | .int n, _, _, integral, enough, ends => by
    cases integral with
    | int low high =>
      obtain ⟨c, digits, heq, gap, -, list, object⟩ := signed_eq_cons n
      rw [write] at enough ⊢
      rw [readValue_scalar ⟨c, digits, heq, gap, list, object⟩ enough, toReading,
        readScalar_signed ends low high]
  | .real x, _, _, integral, _, _ => nomatch integral
  | .str s, _, rest, _, enough, _ => by
    have starts : writeString s = '"' :: (escape s.toList ++ ['"']) := rfl
    rw [write] at enough ⊢
    rw [readValue_scalar ⟨'"', _, starts, rfl, by decide, by decide⟩ enough, toReading, starts,
      List.cons_append, List.append_assoc, ← readString_escape s rest]
    rfl
  | .arr [], fuel, rest, _, enough, _ => by
    obtain ⟨fuel, rfl⟩ : ∃ n, fuel = n + 2 := ⟨fuel - 2, by simp [write] at enough; omega⟩
    rw [write, toReading, itemReadings]
    rfl
  | .arr (v :: vs), fuel, rest, integral, enough, _ => by
    cases integral with
    | arr h =>
      obtain ⟨first, others⟩ := List.forall_mem_cons.1 h
      have pos := length_write_pos first
      have pos' := length_writeItems_pos vs
      rw [write, List.length_cons, List.length_append] at enough
      obtain ⟨fuel, rfl⟩ : ∃ n, fuel = n + 2 := ⟨fuel - 2, by omega⟩
      have item := readValue_write v fuel (writeItems vs ++ rest) first
        (by omega) (ends_writeItems vs rest)
      have items := readItems_write vs fuel rest others (by omega)
      have read := readItems_item true (starts_write first) item
      rw [items, comma, if_pos rfl, List.nil_append] at read
      rw [write, toReading, itemReadings, List.cons_append, List.append_assoc, readValue_list, read]
  | .obj [], fuel, rest, _, enough, _ => by
    obtain ⟨fuel, rfl⟩ : ∃ n, fuel = n + 2 := ⟨fuel - 2, by simp [write] at enough; omega⟩
    rw [write, toReading, entryReadings]
    rfl
  | .obj ((k, v) :: es), fuel, rest, integral, enough, _ => by
    cases integral with
    | obj h =>
      obtain ⟨first, others⟩ := List.forall_mem_cons.1 h
      have pos := length_write_pos first
      have pos' := length_writeEntries_pos es
      rw [write, List.length_cons, List.length_append, List.length_cons, List.length_append]
        at enough
      obtain ⟨fuel, rfl⟩ : ∃ n, fuel = n + 2 := ⟨fuel - 2, by omega⟩
      have value := readValue_write v fuel (writeEntries es ++ rest) first
        (by omega) (ends_writeEntries es rest)
      have entries := readEntries_write es fuel rest others (by omega)
      have read := readEntries_entry true k value
      rw [entries, comma, if_pos rfl, List.nil_append] at read
      rw [write, toReading, entryReadings, List.cons_append, List.append_assoc, List.cons_append,
        List.append_assoc, readValue_object, read]

/-- **Lists are read back**, item by item, with as many steps as they have characters. -/
theorem readItems_write : ∀ (vs : List Json) (fuel : Nat) (rest : List Char),
    (∀ v ∈ vs, v.Integral) → (writeItems vs).length ≤ fuel →
    readItems fuel false (writeItems vs ++ rest) = (itemReadings vs, none, some rest)
  | [], fuel, rest, _, enough => by
    obtain ⟨fuel, rfl⟩ : ∃ n, fuel = n + 1 := ⟨fuel - 1, by simp [writeItems] at enough; omega⟩
    rw [writeItems, itemReadings]
    rfl
  | v :: vs, fuel, rest, integral, enough => by
    obtain ⟨first, others⟩ := List.forall_mem_cons.1 integral
    rw [writeItems, List.length_cons, List.length_append] at enough
    obtain ⟨fuel, rfl⟩ : ∃ n, fuel = n + 1 := ⟨fuel - 1, by omega⟩
    have item := readValue_write v fuel (writeItems vs ++ rest) first
      (by omega) (ends_writeItems vs rest)
    have items := readItems_write vs fuel rest others (by omega)
    have read := readItems_item false (starts_write first) item
    rw [items, comma, if_neg (by decide), List.singleton_append] at read
    rw [writeItems, itemReadings, List.cons_append, List.append_assoc, read]

/-- **Objects are read back**, entry by entry, with as many steps as they have characters. -/
theorem readEntries_write : ∀ (es : List (String × Json)) (fuel : Nat) (rest : List Char),
    (∀ e ∈ es, e.2.Integral) → (writeEntries es).length ≤ fuel →
    readEntries fuel false (writeEntries es ++ rest) = (entryReadings es, none, some rest)
  | [], fuel, rest, _, enough => by
    obtain ⟨fuel, rfl⟩ : ∃ n, fuel = n + 1 := ⟨fuel - 1, by simp [writeEntries] at enough; omega⟩
    rw [writeEntries, entryReadings]
    rfl
  | (k, v) :: es, fuel, rest, integral, enough => by
    obtain ⟨first, others⟩ := List.forall_mem_cons.1 integral
    rw [writeEntries, List.length_cons, List.length_append, List.length_cons, List.length_append]
      at enough
    obtain ⟨fuel, rfl⟩ : ∃ n, fuel = n + 1 := ⟨fuel - 1, by omega⟩
    have value := readValue_write v fuel (writeEntries es ++ rest) first
      (by omega) (ends_writeEntries es rest)
    have entries := readEntries_write es fuel rest others (by omega)
    have read := readEntries_entry false k value
    rw [entries, comma, if_neg (by decide), List.singleton_append] at read
    rw [writeEntries, entryReadings, List.cons_append, List.append_assoc, List.cons_append,
      List.append_assoc, read]
end

/-- **A document is read back** whole from its text. -/
theorem read_write {v : Json} (h : v.Integral) :
    Document.read (write v) = ⟨v.toReading, false⟩ := by
  have := readValue_write v _ [] h (Nat.le_succ _) ends_nil
  rw [List.append_nil] at this
  rw [Document.read, this]
  rfl

end EventRelay.Json
