import EventRelay.Failure
import EventRelay.Json.Document
import Mathlib.Data.String.Basic

/-!
# Values and their readings

The reading of a value gives the value back if the keys of its objects ascend and it is not nested
too deeply (`value_toReading`), and every value that comes out of a reading is such a one
(`ordered_of_value`, `depth_lt_of_value`).
-/

namespace EventRelay.Json

/-- All numbers in the value are integers of 64 bits, signed or unsigned. -/
inductive Integral : Json → Prop where
  | null : Integral .null
  | bool (b : Bool) : Integral (.bool b)
  | int {n : Int} (low : -(2 ^ 63 : Nat) ≤ n) (high : n < (2 ^ 64 : Nat)) : Integral (.int n)
  | str (s : String) : Integral (.str s)
  | arr {items : List Json} (h : ∀ v ∈ items, Integral v) : Integral (.arr items)
  | obj {entries : List (String × Json)} (h : ∀ e ∈ entries, Integral e.2) :
    Integral (.obj entries)

attribute [simp] Integral.null Integral.bool Integral.str

@[simp] theorem integral_arr_iff {items : List Json} :
    (Json.arr items).Integral ↔ ∀ v ∈ items, v.Integral :=
  ⟨fun h => by cases h with | arr h => exact h, .arr⟩

@[simp] theorem integral_obj_iff {entries : List (String × Json)} :
    (Json.obj entries).Integral ↔ ∀ e ∈ entries, e.2.Integral :=
  ⟨fun h => by cases h with | obj h => exact h, .obj⟩

/-- The keys of the entries ascend, so that no key comes twice. -/
def Ascending (entries : List (String × Json)) : Prop := entries.Pairwise fun e e' => e.1 < e'.1

/-- The entries of all objects in the value ascend. -/
inductive Ordered : Json → Prop where
  | null : Ordered .null
  | bool (b : Bool) : Ordered (.bool b)
  | int (n : Int) : Ordered (.int n)
  | real (x : Binary64) : Ordered (.real x)
  | str (s : String) : Ordered (.str s)
  | arr {items : List Json} (h : ∀ v ∈ items, Ordered v) : Ordered (.arr items)
  | obj {entries : List (String × Json)} (ascending : Ascending entries)
    (h : ∀ e ∈ entries, Ordered e.2) : Ordered (.obj entries)

attribute [simp] Ordered.null Ordered.bool Ordered.int Ordered.real Ordered.str

@[simp] theorem ordered_arr_iff {items : List Json} :
    (Json.arr items).Ordered ↔ ∀ v ∈ items, v.Ordered :=
  ⟨fun h => by cases h with | arr h => exact h, .arr⟩

@[simp] theorem ordered_obj_iff {entries : List (String × Json)} :
    (Json.obj entries).Ordered ↔ Ascending entries ∧ ∀ e ∈ entries, e.2.Ordered :=
  ⟨fun h => by cases h with | obj ascending h => exact ⟨ascending, h⟩, fun h => .obj h.1 h.2⟩

instance (entries : List (String × Json)) : Decidable (Ascending entries) :=
  inferInstanceAs (Decidable (List.Pairwise _ _))

mutual
/-- The number of lists and objects around the innermost one, itself included. -/
def depth : Json → Nat
  | .arr items => depthItems items + 1
  | .obj entries => depthEntries entries + 1
  | .null | .bool _ | .int _ | .real _ | .str _ => 0

def depthItems : List Json → Nat
  | [] => 0
  | v :: vs => max v.depth (depthItems vs)

def depthEntries : List (String × Json) → Nat
  | [] => 0
  | (_, v) :: es => max v.depth (depthEntries es)
end

/-! ## Entries in order -/

section
variable {key : String} {value : Json} {entries sorted : List (String × Json)}

/-- An entry that is inserted brings in nothing but itself. -/
theorem mem_insertEntry {e : String × Json} (h : e ∈ insertEntry key value sorted) :
    e = (key, value) ∨ e ∈ sorted := by
  induction sorted with
  | nil => exact .inl (List.mem_singleton.1 h)
  | cons first rest ih =>
    rw [insertEntry] at h
    split at h
    · simpa using h
    · split at h
      · rcases List.mem_cons.1 h with rfl | h
        · exact .inl rfl
        · exact .inr (List.mem_cons_of_mem _ h)
      · rcases List.mem_cons.1 h with rfl | h
        · exact .inr List.mem_cons_self
        · exact (ih h).imp_right (List.mem_cons_of_mem _)

/-- Inserting keeps the keys in order, and none of them comes twice. -/
theorem ascending_insertEntry (h : Ascending sorted) :
    Ascending (insertEntry key value sorted) := by
  induction sorted with
  | nil => exact List.pairwise_singleton _ _
  | cons first rest ih =>
    obtain ⟨above, ascending⟩ := List.pairwise_cons.1 h
    rw [insertEntry]
    split
    · rename_i lt
      refine List.pairwise_cons.2 ⟨fun e he => ?_, h⟩
      rcases List.mem_cons.1 he with rfl | he
      · exact lt
      · exact lt.trans (above e he)
    · split
      · rename_i heq
        subst heq
        exact List.pairwise_cons.2 ⟨above, ascending⟩
      · rename_i not_before ne
        refine List.pairwise_cons.2 ⟨fun e he => ?_, ih ascending⟩
        rcases mem_insertEntry he with rfl | he
        · exact lt_of_le_of_ne (not_lt.1 not_before) (Ne.symm ne)
        · exact above e he

/-- An entry whose key is beyond all others comes last. -/
theorem insertEntry_of_above (above : ∀ e ∈ sorted, e.1 < key) :
    insertEntry key value sorted = sorted ++ [(key, value)] := by
  induction sorted with
  | nil => rfl
  | cons first rest ih =>
    have lt := above first List.mem_cons_self
    rw [insertEntry, if_neg lt.asymm, if_neg lt.ne',
      ih fun e he => above e (List.mem_cons_of_mem _ he), List.cons_append]

theorem mem_sortEntries {e : String × Json} (h : e ∈ sortEntries entries) : e ∈ entries := by
  have along : ∀ sorted, e ∈ entries.foldl (fun sorted e => insertEntry e.1 e.2 sorted) sorted →
      e ∈ sorted ∨ e ∈ entries := by
    clear h
    induction entries with
    | nil => exact fun _ => .inl
    | cons first rest ih =>
      intro sorted h
      rcases ih _ h with h | h
      · exact (mem_insertEntry h).elim (fun h => .inr (by simp [h])) .inl
      · exact .inr (List.mem_cons_of_mem _ h)
  exact (along [] h).resolve_left List.not_mem_nil

/-- Sorted entries ascend, whatever the order of the text was. -/
theorem ascending_sortEntries (entries : List (String × Json)) :
    Ascending (sortEntries entries) := by
  have along : ∀ sorted, Ascending sorted →
      Ascending (entries.foldl (fun sorted e => insertEntry e.1 e.2 sorted) sorted) := by
    induction entries with
    | nil => exact fun _ => id
    | cons first rest ih => exact fun sorted h => ih _ (ascending_insertEntry h)
  exact along [] List.Pairwise.nil

/-- Entries that ascend are in order. -/
theorem Ascending.sortEntries_eq (h : Ascending entries) : sortEntries entries = entries := by
  have along : ∀ sorted, Ascending (sorted ++ entries) →
      entries.foldl (fun sorted e => insertEntry e.1 e.2 sorted) sorted = sorted ++ entries := by
    clear h
    induction entries with
    | nil => exact fun sorted _ => (List.append_nil sorted).symm
    | cons first rest ih =>
      intro sorted h
      have above : ∀ e ∈ sorted, e.1 < first.1 := fun e he =>
        (List.pairwise_append.1 h).2.2 e he first List.mem_cons_self
      have cut : sorted ++ first :: rest = (sorted ++ [first]) ++ rest := by simp
      rw [List.foldl_cons, insertEntry_of_above above]
      rw [cut] at h ⊢
      exact ih _ h
  exact along [] h

end

/-! ## The reading of a value -/

mutual
/-- **A value is read back** from its reading where there is enough room. -/
theorem value_toReading : ∀ (v : Json) (room : Nat), v.Ordered → v.depth < room →
    v.toReading.value room = .ok v
  | .null, _, _, _ | .bool _, _, _, _ | .int _, _, _, _ | .real _, _, _, _ | .str _, _, _, _ => by
    simp only [toReading, Reading.value]
  | .arr items, room, h, shallow => by
    cases h with
    | arr h =>
      rw [depth] at shallow
      have inner := valueItems_itemReadings items (room - 1) h (by omega)
      rw [toReading, Reading.value, if_neg (by omega), inner]
      rfl
  | .obj entries, room, h, shallow => by
    cases h with
    | obj ascending h =>
      rw [depth] at shallow
      have inner := valueEntries_entryReadings entries (room - 1) h (by omega)
      rw [toReading, Reading.value, if_neg (by omega), inner]
      exact congrArg (fun es => Except.ok (Json.obj es)) ascending.sortEntries_eq

/-- Items at hand are read as themselves. -/
theorem valueItems_itemReadings : ∀ (items : List Json) (room : Nat),
    (∀ v ∈ items, v.Ordered) → depthItems items < room →
    valueItems room (itemReadings items) = .ok items
  | [], _, _, _ => by simp only [itemReadings, valueItems]
  | v :: vs, room, h, shallow => by
    rw [depthItems] at shallow
    have first := value_toReading v room (h v List.mem_cons_self) (by omega)
    have rest := valueItems_itemReadings vs room
      (fun u hu => h u (List.mem_cons_of_mem _ hu)) (by omega)
    rw [itemReadings, valueItems, first, rest]
    rfl

/-- Entries at hand are read as themselves, since they are sorted already. -/
theorem valueEntries_entryReadings : ∀ (entries : List (String × Json)) (room : Nat),
    (∀ e ∈ entries, e.2.Ordered) → depthEntries entries < room →
    valueEntries room (entryReadings entries) = .ok entries
  | [], _, _, _ => by simp only [entryReadings, valueEntries]
  | (k, v) :: es, room, h, shallow => by
    rw [depthEntries] at shallow
    have first := value_toReading v room (h (k, v) List.mem_cons_self) (by omega)
    have rest := valueEntries_entryReadings es room
      (fun e he => h e (List.mem_cons_of_mem _ he)) (by omega)
    rw [entryReadings, valueEntries, first, rest]
    rfl
end

/-! ## The value of a reading -/

theorem depthEntries_lt {entries : List (String × Json)} {n : Nat} (positive : 0 < n)
    (h : ∀ e ∈ entries, e.2.depth < n) : depthEntries entries < n := by
  induction entries with
  | nil => exact positive
  | cons e es ih =>
    obtain ⟨first, others⟩ := List.forall_mem_cons.1 h
    exact Nat.max_lt.2 ⟨first, ih others⟩

mutual
/-- **What comes out of a reading** is in order and no deeper than there was room. -/
theorem ordered_of_value : ∀ (r : Reading) {room : Nat} {v : Json}, 0 < room →
    r.value room = .ok v → v.Ordered ∧ v.depth < room
  | .null, room, v, positive, h | .bool _, room, v, positive, h
  | .number (.int _), room, v, positive, h | .number (.real _), room, v, positive, h
  | .text _, room, v, positive, h => by
    rw [Reading.value] at h
    cases h
    exact ⟨by constructor, positive⟩
  | .unfit, room, v, positive, h | .broken _, room, v, positive, h => by
    rw [Reading.value] at h
    cases h
  | .array items ended, room, v, positive, h => by
    rw [Reading.value] at h
    split at h
    · cases h
    · obtain ⟨vs, hvs, h⟩ := bind_eq_ok_iff.1 h
      obtain ⟨ordered, shallow⟩ := ordered_of_valueItems items (by omega) hvs
      cases ended with
      | none =>
        cases h
        refine ⟨.arr ordered, ?_⟩
        rw [depth]
        omega
      | some f => cases h
  | .object entries ended, room, v, positive, h => by
    rw [Reading.value] at h
    split at h
    · cases h
    · obtain ⟨es, hes, h⟩ := bind_eq_ok_iff.1 h
      obtain ⟨ordered, shallow⟩ := ordered_of_valueEntries entries (by omega) hes
      cases ended with
      | none =>
        cases h
        refine ⟨.obj (ascending_sortEntries es) fun e he => ordered e (mem_sortEntries he), ?_⟩
        rw [depth]
        have : depthEntries (sortEntries es) < room - 1 :=
          depthEntries_lt (by omega) fun e he => shallow e (mem_sortEntries he)
        omega
      | some f => cases h

/-- Items that were read are ordered and not too deep. -/
theorem ordered_of_valueItems : ∀ (items : List Reading) {room : Nat} {vs : List Json}, 0 < room →
    valueItems room items = .ok vs → (∀ v ∈ vs, v.Ordered) ∧ depthItems vs < room
  | [], room, vs, positive, h => by
    rw [valueItems] at h
    cases h
    exact ⟨by simp, positive⟩
  | r :: rest, room, vs, positive, h => by
    rw [valueItems] at h
    obtain ⟨v, hv, h⟩ := bind_eq_ok_iff.1 h
    obtain ⟨vs, hvs, h⟩ := bind_eq_ok_iff.1 h
    cases h
    obtain ⟨first, shallow⟩ := ordered_of_value r positive hv
    obtain ⟨others, shallow'⟩ := ordered_of_valueItems rest positive hvs
    refine ⟨by simpa using ⟨first, others⟩, ?_⟩
    rw [depthItems]
    omega

/-- Entries that were read are ordered inside and not too deep. -/
theorem ordered_of_valueEntries : ∀ (entries : List (Reading × Reading)) {room : Nat}
    {es : List (String × Json)}, 0 < room → valueEntries room entries = .ok es →
    (∀ e ∈ es, e.2.Ordered) ∧ ∀ e ∈ es, e.2.depth < room
  | [], room, es, positive, h => by
    rw [valueEntries] at h
    cases h
    simp
  | (.text key, value) :: rest, room, es, positive, h => by
    rw [valueEntries] at h
    obtain ⟨v, hv, h⟩ := bind_eq_ok_iff.1 h
    obtain ⟨es, hes, h⟩ := bind_eq_ok_iff.1 h
    cases h
    obtain ⟨first, shallow⟩ := ordered_of_value value positive hv
    obtain ⟨others, shallow'⟩ := ordered_of_valueEntries rest positive hes
    exact ⟨List.forall_mem_cons.2 ⟨first, others⟩, List.forall_mem_cons.2 ⟨shallow, shallow'⟩⟩
  | (.broken _, _) :: _, room, es, positive, h | (.null, _) :: _, room, es, positive, h
  | (.bool _, _) :: _, room, es, positive, h | (.number _, _) :: _, room, es, positive, h
  | (.unfit, _) :: _, room, es, positive, h | (.array _ _, _) :: _, room, es, positive, h
  | (.object _ _, _) :: _, room, es, positive, h => by
    simp only [valueEntries, reduceCtorEq] at h
end

end EventRelay.Json
