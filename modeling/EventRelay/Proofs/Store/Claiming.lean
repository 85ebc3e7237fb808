import EventRelay.Proofs.Store.Keys

/-!
# Claiming in one pass

A batch is claimed record by record, each time from the first row on. What comes out is what one
pass over the rows would give: the first claimable records, in the order of the rows, and no other
row is touched (`claimUpTo_eq`). Two batches one after the other are one larger batch
(`claimUpTo_claimUpTo`), because a claimed record is not claimable.

For settling there is a description of the same kind: where the tables of the store are sound, a
change of the record with an id is a change of the row that has this id (`Sound.update_eq`).
-/

namespace EventRelay.Contents

/-- Changes the first records that satisfy a condition, at most so many. -/
def changeUpTo (p : Record → Bool) (f : Record → Record) :
    Nat → List (Nat × Record) → List (Nat × Record)
  | _, [] => []
  | limit, (seq, r) :: rest =>
    if p r then
      match limit with
      | 0 => (seq, r) :: rest
      | limit + 1 => (seq, f r) :: changeUpTo p f limit rest
    else (seq, r) :: changeUpTo p f limit rest

section
variable {p : Record → Bool} {f : Record → Record} {rows front back : List (Nat × Record)}

@[simp] theorem changeUpTo_zero (rows : List (Nat × Record)) : changeUpTo p f 0 rows = rows := by
  induction rows with
  | nil => rfl
  | cons row rest ih =>
    obtain ⟨seq, r⟩ := row
    by_cases hp : p r = true
    · simp [changeUpTo, hp]
    · simp [changeUpTo, hp, ih]

/-- Rows that do not satisfy the condition are passed over. -/
theorem changeUpTo_append (h : ∀ row ∈ front, p row.2 = false) (limit : Nat) :
    changeUpTo p f limit (front ++ back) = front ++ changeUpTo p f limit back := by
  induction front with
  | nil => rfl
  | cons row rest ih =>
    obtain ⟨seq, r⟩ := row
    have hp : p r = false := h (seq, r) List.mem_cons_self
    simp only [List.cons_append, changeUpTo, hp, Bool.false_eq_true, if_false]
    rw [ih fun row hrow => h row (List.mem_cons_of_mem _ hrow)]

theorem changeUpTo_of_none (h : ∀ row ∈ rows, p row.2 = false) (limit : Nat) :
    changeUpTo p f limit rows = rows := by
  have := @changeUpTo_append p f rows [] h limit
  simpa [changeUpTo] using this

theorem filter_eq_nil_of_none (h : ∀ row ∈ rows, p row.2 = false) :
    (rows.map (·.2)).filter p = [] := by
  refine List.filter_eq_nil_iff.2 fun r hr => ?_
  obtain ⟨row, hrow, rfl⟩ := List.mem_map.1 hr
  simp [h row hrow]

/-- A row that is there after the changes was there before, or it is one of those that were to be
changed. -/
theorem mem_changeUpTo {limit : Nat} {row : Nat × Record} (h : row ∈ changeUpTo p f limit rows) :
    row ∈ rows ∨ row.2 ∈ (((rows.map (·.2)).filter p).take limit).map f := by
  induction rows generalizing limit with
  | nil => exact .inl h
  | cons first rest ih =>
    obtain ⟨seq, r⟩ := first
    cases hp : p r with
    | true =>
      cases limit with
      | zero =>
        rw [changeUpTo_zero] at h
        exact .inl h
      | succ limit =>
        simp only [changeUpTo, hp, if_true] at h
        simp only [List.map_cons, List.filter_cons, hp, if_true, List.take_succ_cons]
        rcases List.mem_cons.1 h with rfl | h
        · exact .inr List.mem_cons_self
        · exact (ih h).imp (List.mem_cons_of_mem _) (List.mem_cons_of_mem _)
    | false =>
      simp only [changeUpTo, hp, Bool.false_eq_true, if_false] at h
      simp only [List.map_cons, List.filter_cons, hp, Bool.false_eq_true, if_false]
      rcases List.mem_cons.1 h with rfl | h
      · exact .inl List.mem_cons_self
      · exact (ih h).imp_left (List.mem_cons_of_mem _)

/-- A search that finds nothing has seen every row. -/
theorem changeFirst?_eq_none (h : changeFirst? p f rows = none) :
    ∀ row ∈ rows, p row.2 = false := by
  induction rows with
  | nil => simp
  | cons row rest ih =>
    obtain ⟨seq, r⟩ := row
    rw [changeFirst?] at h
    split at h
    · cases h
    · rename_i hp
      intro row hrow
      rcases List.mem_cons.1 hrow with rfl | hrow
      · simpa using hp
      · exact ih (Option.map_eq_none_iff.1 h) row hrow

/-- One change after the other, where what is changed does not satisfy the condition any more. -/
theorem changeUpTo_changeUpTo (spent : ∀ r, p r = true → p (f r) = false) (limit more : Nat) :
    changeUpTo p f more (changeUpTo p f limit rows) = changeUpTo p f (limit + more) rows := by
  induction rows generalizing limit with
  | nil => rfl
  | cons row rest ih =>
    obtain ⟨seq, r⟩ := row
    cases hp : p r with
    | false => simp only [changeUpTo, hp, Bool.false_eq_true, if_false, ih]
    | true =>
      cases limit with
      | zero => simp
      | succ limit =>
        rw [Nat.succ_add]
        simp only [changeUpTo, hp, if_true, spent r hp, Bool.false_eq_true, if_false, ih]

/-- What is changed does not satisfy the condition any more, so that the rest is left of it. -/
theorem filter_changeUpTo (spent : ∀ r, p r = true → p (f r) = false) (limit : Nat) :
    ((changeUpTo p f limit rows).map (·.2)).filter p = ((rows.map (·.2)).filter p).drop limit := by
  induction rows generalizing limit with
  | nil => simp [changeUpTo]
  | cons row rest ih =>
    obtain ⟨seq, r⟩ := row
    cases hp : p r with
    | false => simp [changeUpTo, hp, ih]
    | true =>
      cases limit with
      | zero => simp
      | succ limit => simp [changeUpTo, hp, spent r hp, ih]

end

/-! ## Claiming -/

section
variable {policy : Policy} {worker : String} {now : Instant}

@[simp] theorem claimable_claim (r : Record) (worker : String) (since now : Instant)
    (maxAttempts : UInt32) : (r.claim worker since).claimable now maxAttempts = false := by
  simp [Record.claimable, Record.claim]

/-- What a single claim answers and leaves behind. -/
theorem claimOne?_eq_some {c c' : Contents} {r' : Record}
    (h : c.claimOne? policy worker now = some (r', c')) :
    ∃ front seq r back, c.rows = front ++ (seq, r) :: back ∧
      (∀ row ∈ front, row.2.claimable now policy.maxAttempts = false) ∧
      r.claimable now policy.maxAttempts = true ∧ r' = r.claim worker now ∧
      c' = { c with rows := front ++ (seq, r.claim worker now) :: back } := by
  unfold claimOne? at h
  obtain ⟨⟨r₁, rows'⟩, h₁, h₂⟩ := Option.map_eq_some_iff.1 h
  obtain ⟨rfl, rfl⟩ : r₁ = r' ∧ { c with rows := rows' } = c' := by simpa using h₂
  obtain ⟨front, seq, r, back, hrows, hfront, hr, rfl, rfl⟩ := changeFirst?_eq_some h₁
  exact ⟨front, seq, r, back, hrows, hfront, hr, rfl, rfl⟩

/-- A claim comes back empty only where nothing can be claimed. -/
theorem claimOne?_eq_none {c : Contents} (h : c.claimOne? policy worker now = none) :
    ∀ row ∈ c.rows, row.2.claimable now policy.maxAttempts = false :=
  changeFirst?_eq_none (Option.map_eq_none_iff.1 h)

/-- **A batch of claims is one pass over the rows.** It answers the first claimable records, as they
stand in the store afterwards, and changes no other row. -/
theorem claimUpTo_eq (limit : Nat) (c : Contents) :
    claimUpTo policy worker now limit c =
      (((c.records.filter (·.claimable now policy.maxAttempts)).take limit).map
          (·.claim worker now),
        { c with
          rows := changeUpTo (·.claimable now policy.maxAttempts) (·.claim worker now) limit
            c.rows }) := by
  induction limit generalizing c with
  | zero => simp [claimUpTo]
  | succ limit ih =>
    rw [claimUpTo]
    cases hone : c.claimOne? policy worker now with
    | none =>
      have hnone := claimOne?_eq_none hone
      have hfilter : c.records.filter (·.claimable now policy.maxAttempts) = [] :=
        filter_eq_nil_of_none hnone
      rw [hfilter, changeUpTo_of_none hnone]
      rfl
    | some found =>
      obtain ⟨r', c'⟩ := found
      obtain ⟨front, seq, r, back, hrows, hfront, hr, rfl, rfl⟩ := claimOne?_eq_some hone
      have skip : (front.map (·.2)).filter (·.claimable now policy.maxAttempts) = [] :=
        filter_eq_nil_of_none hfront
      simp only [ih, records, hrows, List.map_append, List.map_cons, List.filter_append, skip,
        List.nil_append, List.filter_cons, hr, if_true, claimable_claim, Bool.false_eq_true,
        if_false, List.take_succ_cons, Prod.mk.injEq, true_and]
      rw [changeUpTo_append hfront, changeUpTo_append hfront]
      simp only [changeUpTo, hr, if_true, claimable_claim, Bool.false_eq_true, if_false]

/-- A record that stands in the store after a batch of claims stood there before, or it is
answered. -/
theorem mem_claimUpTo {limit : Nat} {c : Contents} {r : Record}
    (h : r ∈ (claimUpTo policy worker now limit c).2.records) :
    r ∈ c.records ∨ r ∈ (claimUpTo policy worker now limit c).1 := by
  rw [claimUpTo_eq] at h ⊢
  obtain ⟨row, hrow, rfl⟩ := List.mem_map.1 h
  rcases mem_changeUpTo hrow with hrow | hrow
  · exact .inl (List.mem_map_of_mem hrow)
  · exact .inr hrow

/-- After a batch of claims those claimable records are left that were behind it. -/
theorem claimable_claimUpTo (limit : Nat) (c : Contents) :
    (claimUpTo policy worker now limit c).2.records.filter (·.claimable now policy.maxAttempts) =
      (c.records.filter (·.claimable now policy.maxAttempts)).drop limit := by
  rw [claimUpTo_eq]
  exact filter_changeUpTo (fun r _ => claimable_claim r worker now now policy.maxAttempts) limit

/-- Two batches one after the other leave behind what one larger batch leaves behind. -/
theorem claimUpTo_claimUpTo (limit more : Nat) (c : Contents) :
    (claimUpTo policy worker now more (claimUpTo policy worker now limit c).2).2 =
      (claimUpTo policy worker now (limit + more) c).2 := by
  simp only [claimUpTo_eq]
  rw [changeUpTo_changeUpTo fun r _ => claimable_claim r worker now now policy.maxAttempts]

end

/-! ## Settling -/

/-- Where the tables are sound, a change of the record with an id is a change of its row. -/
theorem Sound.update_eq {c : Contents} {staged : List Record} (h : c.Sound staged) (id : Uuid)
    (f : Record → Record) :
    c.update id f =
      { c with rows := c.rows.map fun row => if row.2.id = id then (row.1, f row.2) else row } := by
  unfold update
  cases hseq : c.index.get? id with
  | none =>
    have others : ∀ row ∈ c.rows, row.2.id ≠ id := by
      rintro row hrow rfl
      rw [h.indexed row hrow] at hseq
      cases hseq
    have same : (c.rows.map fun row => if row.2.id = id then (row.1, f row.2) else row) = c.rows :=
      (List.map_congr_left fun row hrow => if_neg (others row hrow)).trans (List.map_id' _)
    rw [same]
  | some seq =>
    obtain ⟨r₀, hr₀, hid⟩ := h.found id seq hseq
    have same : ∀ row ∈ c.rows, row.1 = seq ↔ row.2.id = id := by
      intro row hrow
      constructor
      · rintro rfl
        rw [← hid, h.eq_of_seq hr₀ hrow]
      · rintro rfl
        rw [h.indexed row hrow] at hseq
        exact Option.some.inj hseq
    simp only [updateAt]
    congr 1
    exact List.map_congr_left fun row hrow => by simp only [same row hrow]

/-- A change that leaves ids and keys keeps the tables sound. -/
theorem Sound.update {c : Contents} {staged : List Record} (h : c.Sound staged) (id : Uuid)
    {f : Record → Record} (same : ∀ r, (f r).id = r.id ∧ (f r).dedupeKey = r.dedupeKey) :
    (c.update id f).Sound staged := by
  obtain ⟨rows, heq, hrows⟩ := h.toFiled.update_rows id f
  rw [heq]
  refine h.of_rowsChange hrows fun r r' hr => ?_
  rcases hr with rfl | ⟨-, rfl⟩
  · exact ⟨rfl, rfl⟩
  · exact same r

theorem Sound.claimOne? {c c' : Contents} {staged : List Record} (h : c.Sound staged)
    {policy : Policy} {worker : String} {now : Instant} {r : Record}
    (hone : c.claimOne? policy worker now = some (r, c')) : c'.Sound staged := by
  obtain ⟨rows, rfl, hrows, -⟩ := claimOne?_rows hone
  refine h.of_rowsChange hrows fun r r' hr => ?_
  rcases hr with rfl | ⟨-, rfl⟩
  · exact ⟨rfl, rfl⟩
  · exact ⟨rfl, rfl⟩

/-- In a sound table an update by id changes the one record that has it. -/
theorem Sound.records_update {c : Contents} {staged : List Record} (h : c.Sound staged) (id : Uuid)
    (f : Record → Record) :
    (c.update id f).records = c.records.map fun r => if r.id = id then f r else r := by
  rw [h.update_eq]
  simp only [records, List.map_map]
  refine List.map_congr_left fun row _ => ?_
  by_cases hid : row.2.id = id
  · simp [hid]
  · simp [hid]

/-- Where the tables are sound, a single claim leaves no other record with the same id. -/
theorem Sound.claimOne?_eq_some {c c' : Contents} {staged : List Record} (h : c.Sound staged)
    {policy : Policy} {worker : String} {now : Instant} {w : Record}
    (hone : c.claimOne? policy worker now = some (w, c')) :
    ∃ front seq r back, c.rows = front ++ (seq, r) :: back ∧
      (∀ row ∈ front, row.2.claimable now policy.maxAttempts = false) ∧
      r.claimable now policy.maxAttempts = true ∧ w = r.claim worker now ∧
      c' = { c with rows := front ++ (seq, r.claim worker now) :: back } ∧
      ∀ row ∈ front ++ back, row.2.id ≠ r.id := by
  obtain ⟨front, seq, r, back, hrows, hfront, hclaim, rfl, rfl⟩ := Contents.claimOne?_eq_some hone
  refine ⟨front, seq, r, back, hrows, hfront, hclaim, rfl, rfl, fun row hrow heq => ?_⟩
  have distinct := h.distinct
  rw [List.map_append] at distinct
  have ids := (List.nodup_append.1 distinct).1
  rw [records, hrows, List.map_append, List.map_cons, List.map_append, List.map_cons,
    List.nodup_middle, List.nodup_cons, ← List.map_append, ← List.map_append, List.map_map] at ids
  exact ids.1 (heq ▸ List.mem_map_of_mem (f := fun row : Nat × Record => row.2.id) hrow)

/-- A single claim is a change of the record with one id as well. -/
theorem Sound.records_claimOne? {c c' : Contents} {staged : List Record} (h : c.Sound staged)
    {policy : Policy} {worker : String} {now : Instant} {w : Record}
    (hone : c.claimOne? policy worker now = some (w, c')) :
    ∃ r ∈ c.records, r.claimable now policy.maxAttempts = true ∧ w = r.claim worker now ∧
      c'.records = c.records.map fun r' => if r'.id = r.id then r'.claim worker now else r' := by
  obtain ⟨front, seq, r, back, hrows, -, hclaim, rfl, rfl, others⟩ := h.claimOne?_eq_some hone
  refine ⟨r, by simp [records, hrows], hclaim, rfl, ?_⟩
  have same : ∀ rows : List (Nat × Record), (∀ row ∈ rows, row.2.id ≠ r.id) →
      ((rows.map (·.2)).map fun r' => if r'.id = r.id then r'.claim worker now else r') =
        rows.map (·.2) := by
    intro rows hne
    rw [List.map_map]
    exact List.map_congr_left fun row hrow => if_neg (hne row hrow)
  simp only [records, hrows, List.map_append, List.map_cons, if_true,
    same front fun row hrow => others row (List.mem_append_left _ hrow),
    same back fun row hrow => others row (List.mem_append_right _ hrow)]

end EventRelay.Contents
