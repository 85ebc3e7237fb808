import EventRelay.Proofs.Depot
import EventRelay.Proofs.Store.Claiming

/-!
# What a batch of claims does to a store

A batch is made of single claims, each of which looks at the records from the first one on and
changes the first that is claimable. `Store.batch_is_one_pass` says what comes of it, in terms of
the records as they stood before the batch: who is answered, which rows change and how, and what
stays as it was (`Contents.OnePass`). It also says how many single claims there are
(`Store.Claims`): whatever the limit is, at most one more than there are claimable records.
-/

namespace EventRelay

/-! ## One single claim after the other -/

/-- Single claims one after the other, until so many records are claimed or a claim finds none; the
number of the claims, the claimed records, and the store in the end. -/
inductive Store.Claims (policy : Policy) (worker : String) (now : Instant) :
    Nat → Store → Nat → List Record → Store → Prop where
  | full {s} : Claims policy worker now 0 s 0 [] s
  | none {limit s s'} (h : s.claimOne policy worker now = .ok (none, s')) :
    Claims policy worker now (limit + 1) s 1 [] s'
  | some {limit s s' s'' count r rs} (h : s.claimOne policy worker now = .ok (some r, s'))
    (rest : Claims policy worker now limit s' count rs s'') :
    Claims policy worker now (limit + 1) s (count + 1) (r :: rs) s''

namespace Contents

section
variable {policy : Policy} {worker : String} {now : Instant} {limit : Nat} {c : Contents}

/-- A batch of claims consists of single claims, of which there is at most one more than there are
claimable records. -/
theorem claims_claimUpTo (limit : Nat) (c : Contents) :
    Store.Claims policy worker now limit ⟨c, false⟩
      (min limit ((c.records.filter (·.claimable now policy.maxAttempts)).length + 1))
      (claimUpTo policy worker now limit c).1 ⟨(claimUpTo policy worker now limit c).2, false⟩ := by
  induction limit generalizing c with
  | zero =>
    rw [Nat.zero_min]
    exact .full
  | succ limit ih =>
    -- The first claim is a batch of one, so that it finds the first claimable record and leaves the
    -- others to the rest of the batch.
    have first := congrArg Prod.fst (@claimUpTo_eq policy worker now 1 c)
    have left := @claimable_claimUpTo policy worker now 1 c
    rw [claimUpTo] at first left ⊢
    cases hone : c.claimOne? policy worker now with
    | none =>
      simp only [hone] at first ⊢
      have nothing : c.records.filter (·.claimable now policy.maxAttempts) = [] := by
        simpa using first
      rw [nothing, List.length_nil, Nat.zero_add, Nat.min_eq_right (Nat.succ_le_succ limit.zero_le)]
      exact .none (by simp [Store.claimOne, Store.locked, hone])
    | some found =>
      obtain ⟨r, c'⟩ := found
      simp only [hone, claimUpTo] at first left ⊢
      have some_left : c.records.filter (·.claimable now policy.maxAttempts) ≠ [] := by
        intro nothing
        simp [nothing] at first
      have fewer : (c'.records.filter (·.claimable now policy.maxAttempts)).length + 1 =
          (c.records.filter (·.claimable now policy.maxAttempts)).length := by
        rw [left, List.length_drop]
        exact Nat.sub_add_cancel (List.length_pos_iff.2 some_left)
      rw [← fewer, Nat.add_min_add_right]
      exact .some (by simp [Store.claimOne, Store.locked, hone]) (ih c')

end

/-! ## One pass -/

section
variable {p : Record → Bool} {f : Record → Record} {rows : List (Nat × Record)}

/-- A row is changed if it satisfies the condition and fewer than `limit` rows before it do. -/
theorem getElem?_changeUpTo (limit i : Nat) :
    (changeUpTo p f limit rows)[i]? = rows[i]?.map fun row =>
      if p row.2 = true ∧ ((rows.map (·.2)).take i).countP p < limit then (row.1, f row.2)
      else row := by
  induction rows generalizing limit i with
  | nil => simp [changeUpTo]
  | cons row rest ih =>
    obtain ⟨seq, r⟩ := row
    cases hp : p r with
    | false =>
      cases i with
      | zero => simp [changeUpTo, hp]
      | succ i => simp [changeUpTo, hp, ih]
    | true =>
      cases limit with
      | zero => simp
      | succ limit =>
        cases i with
        | zero => simp [changeUpTo, hp]
        | succ i => simp [changeUpTo, hp, ih]

@[simp] theorem numbers_changeUpTo (limit : Nat) :
    (changeUpTo p f limit rows).map (·.1) = rows.map (·.1) := by
  induction rows generalizing limit with
  | nil => rfl
  | cons row rest ih =>
    obtain ⟨seq, r⟩ := row
    cases hp : p r with
    | false => simp [changeUpTo, hp, ih]
    | true =>
      cases limit with
      | zero => simp
      | succ limit => simp [changeUpTo, hp, ih]

/-- The changed rows in their order. Where the numbers of the rows ascend, the rows that satisfy the
condition afterwards have larger ones. -/
theorem changed_before_left (spent : ∀ r, p r = true → p (f r) = false)
    (ascending : rows.Pairwise (·.1 < ·.1)) (limit : Nat) :
    ∃ changed : List (Nat × Record), changed.Sublist (changeUpTo p f limit rows) ∧
      changed.map (·.2) = (((rows.map (·.2)).filter p).take limit).map f ∧
      ∀ row ∈ changed, ∀ row' ∈ changeUpTo p f limit rows, p row'.2 = true → row.1 < row'.1 := by
  induction rows generalizing limit with
  | nil => exact ⟨[], List.nil_sublist _, by simp, by simp⟩
  | cons row rest ih =>
    obtain ⟨seq, r⟩ := row
    obtain ⟨below, ascending⟩ := List.pairwise_cons.1 ascending
    cases hp : p r with
    | false =>
      obtain ⟨changed, sublist, records, before⟩ := ih ascending limit
      simp only [changeUpTo, hp, Bool.false_eq_true, if_false, List.map_cons, List.filter_cons]
      refine ⟨changed, sublist.cons _, records, fun row hrow row' hrow' claimable => ?_⟩
      rcases List.mem_cons.1 hrow' with rfl | hrow'
      · exact absurd (hp.symm.trans claimable) (by decide)
      · exact before row hrow row' hrow' claimable
    | true =>
      cases limit with
      | zero => exact ⟨[], List.nil_sublist _, by simp, by simp⟩
      | succ limit =>
        obtain ⟨changed, sublist, records, before⟩ := ih ascending limit
        simp only [changeUpTo, hp, if_true, List.map_cons, List.filter_cons, List.take_succ_cons]
        refine ⟨(seq, f r) :: changed, sublist.cons_cons _, by rw [List.map_cons, records], ?_⟩
        intro row hrow row' hrow' claimable
        rcases List.mem_cons.1 hrow' with rfl | hrow'
        · exact absurd ((spent r hp).symm.trans claimable) (by decide)
        · rcases List.mem_cons.1 hrow with rfl | hrow
          · have number : row'.1 ∈ rest.map (·.1) := by
              rw [← numbers_changeUpTo limit]
              exact List.mem_map_of_mem hrow'
            obtain ⟨old, hold, hnumber⟩ := List.mem_map.1 number
            exact hnumber ▸ below old hold
          · exact before row hrow row' hrow' claimable

end

/-- What a batch of claims answers and leaves behind, said in one pass over the records as they
stood before it. -/
structure OnePass (c : Contents) (policy : Policy) (limit : Nat) (worker : String) (now : Instant)
    (answer : List Record) (c' : Contents) : Prop where
  /-- The first claimable records are answered, in the order of the store: in the hands of the
  worker since now, and else as they were. -/
  answered : answer = ((c.records.filter (·.claimable now policy.maxAttempts)).take limit).map
    fun r => { r with status := .publishing, lockedBy := some worker, lockedAt := some now }
  /-- As many as there are, up to the limit. -/
  number : answer.length = min limit (c.records.countP (·.claimable now policy.maxAttempts))
  /-- Where the numbers of the rows ascend, the answered records stand in the order of theirs, and
  every record that is left claimable has a larger one. -/
  inTurn : c.rows.Pairwise (·.1 < ·.1) → ∃ changed : List (Nat × Record),
    changed.Sublist c'.rows ∧ changed.map (·.2) = answer ∧ changed.Pairwise (·.1 < ·.1) ∧
    ∀ row ∈ changed, ∀ row' ∈ c'.rows,
      row'.2.claimable now policy.maxAttempts = true → row.1 < row'.1
  /-- A record changes if it is claimable and fewer than `limit` claimable ones stand before it.
  Every other one, and the number of every row, is as it was. -/
  rows : ∀ i : Nat, c'.rows[i]? = c.rows[i]?.map fun row =>
    if row.2.claimable now policy.maxAttempts = true ∧
        (c.records.take i).countP (·.claimable now policy.maxAttempts) < limit then
      (row.1,
        { row.2 with status := .publishing, lockedBy := some worker, lockedAt := some now })
    else row
  /-- The answered copies are those that the store holds. -/
  copies : ∀ r ∈ answer, r ∈ c'.records
  index : c'.index = c.index
  owners : c'.owners = c.owners
  nextSeq : c'.nextSeq = c.nextSeq
  /-- Where the tables agree with the records, looking an answered id up finds the answered copy. -/
  found : ∀ staged, c.Sound staged → ∀ r ∈ answer, c'.get? r.id = some r
  /-- Looking up any other id finds what it found before. -/
  others : ∀ staged, c.Sound staged → ∀ id, (∀ r ∈ answer, r.id ≠ id) → c'.get? id = c.get? id

section
variable {policy : Policy} {worker : String} {now : Instant} {c : Contents} {staged : List Record}

/-- Claims keep the contents sound. -/
theorem Sound.claimed (h : c.Sound staged) (limit : Nat) :
    (claimUpTo policy worker now limit c).2.Sound staged := by
  obtain ⟨rows, heq, hrows, -⟩ := @claimUpTo_rows policy worker now limit c
  rw [heq]
  refine h.of_rowsChange hrows fun r r' hr => ?_
  rcases hr with rfl | ⟨-, rfl⟩
  · exact ⟨rfl, rfl⟩
  · exact ⟨rfl, rfl⟩

/-- A record stands in the table as it was answered. -/
theorem mem_records_of_answered {limit : Nat} {r : Record}
    (hr : r ∈ (claimUpTo policy worker now limit c).1) :
    r ∈ (claimUpTo policy worker now limit c).2.records := by
  obtain ⟨rows, heq, -, answered⟩ := @claimUpTo_rows policy worker now limit c
  obtain ⟨seq, -, -, -, -, hrow⟩ := answered r hr
  rw [heq]
  exact List.mem_map_of_mem hrow

/-- A batch of claims does not touch records that it does not answer. -/
theorem Sound.get?_claimUpTo (h : c.Sound staged) {limit : Nat} {id : Uuid}
    (other : ∀ r ∈ (Contents.claimUpTo policy worker now limit c).1, r.id ≠ id) :
    (Contents.claimUpTo policy worker now limit c).2.get? id = c.get? id := by
  have h' : (Contents.claimUpTo policy worker now limit c).2.Sound staged := h.claimed limit
  refine Option.ext fun r => ?_
  rw [h.get?_eq_some_iff, h'.get?_eq_some_iff]
  constructor
  · rintro ⟨hr, hid⟩
    rcases mem_claimUpTo hr with hr | hr
    · exact ⟨hr, hid⟩
    · exact absurd hid (other r hr)
  · rintro ⟨hr, hid⟩
    obtain ⟨rows, heq, hrows, -⟩ := @claimUpTo_rows policy worker now limit c
    obtain ⟨⟨seq, r⟩, hrow, rfl⟩ := List.mem_map.1 hr
    obtain ⟨r', hrow', hclaims⟩ := hrows.forward hrow
    have hr' : r' ∈ (Contents.claimUpTo policy worker now limit c).2.records := by
      rw [heq]
      exact List.mem_map_of_mem hrow'
    have hid' : r'.id = r.id := by
      rcases hclaims with rfl | ⟨-, rfl⟩ <;> rfl
    rcases mem_claimUpTo hr' with old | answered
    · rw [h.eq_of_id (List.mem_append_left _ hr) (List.mem_append_left _ old) hid'.symm]
      exact ⟨hr', hid'.trans hid⟩
    · exact absurd (hid'.trans hid) (other r' answered)

/-- **Repeated claims are one pass over the rows.** -/
theorem onePass_claimUpTo (policy : Policy) (limit : Nat) (worker : String) (now : Instant)
    (c : Contents) :
    c.OnePass policy limit worker now (claimUpTo policy worker now limit c).1
      (claimUpTo policy worker now limit c).2 where
  answered := by
    rw [claimUpTo_eq]
    rfl
  number := by
    rw [claimUpTo_eq, List.length_map, List.length_take, List.countP_eq_length_filter]
  inTurn ascending := by
    rw [claimUpTo_eq]
    have spent : ∀ r : Record, r.claimable now policy.maxAttempts = true →
        (r.claim worker now).claimable now policy.maxAttempts = false :=
      fun r _ => claimable_claim r worker now now policy.maxAttempts
    obtain ⟨changed, sublist, records, before⟩ := changed_before_left spent ascending limit
    refine ⟨changed, sublist, records, List.Pairwise.sublist sublist ?_, before⟩
    rw [← List.pairwise_map, numbers_changeUpTo, List.pairwise_map]
    exact ascending
  rows i := by
    rw [claimUpTo_eq]
    exact getElem?_changeUpTo limit i
  copies r hr := mem_records_of_answered hr
  index := by rw [claimUpTo_eq]
  owners := by rw [claimUpTo_eq]
  nextSeq := by rw [claimUpTo_eq]
  found _ sound _ hr :=
    (sound.claimed limit).get?_eq_some_iff.2 ⟨mem_records_of_answered hr, rfl⟩
  others _ sound _ other := sound.get?_claimUpTo other

end
end Contents

/-- **A batch of claims is one pass.** Whatever a store holds, as long as its lock is in order, and
whatever the limit is: a batch is answered, after single claims of which there is at most one more
than there are claimable records; the answer and the contents afterwards are as `Contents.OnePass`
has it; and another batch at the same time is answered with the claimable records that come next. -/
theorem Store.batch_is_one_pass {s : Store} (lock : s.poisoned = false) (policy : Policy)
    (limit : Nat) (worker : String) (now : Instant) :
    ∃ answer c', s.claimBatch policy limit worker now = .ok (answer, ⟨c', false⟩) ∧
      Store.Claims policy worker now limit s
        (min limit (s.contents.records.countP (·.claimable now policy.maxAttempts) + 1))
        answer ⟨c', false⟩ ∧
      s.contents.OnePass policy limit worker now answer c' ∧
      ∀ worker' more, ∃ c'', (⟨c', false⟩ : Store).claimBatch policy more worker' now =
        .ok ((((s.contents.records.filter (·.claimable now policy.maxAttempts)).drop limit).take
          more).map (·.claim worker' now), ⟨c'', false⟩) := by
  obtain ⟨c, poisoned⟩ := s
  obtain rfl : poisoned = false := lock
  refine ⟨_, _, claimBatch_eq policy limit worker now c, ?_, c.onePass_claimUpTo .., ?_⟩
  · rw [List.countP_eq_length_filter]
    exact c.claims_claimUpTo limit
  · intro worker' more
    refine ⟨(Contents.claimUpTo policy worker' now more (c.claimUpTo policy worker now limit).2).2,
      (claimBatch_eq policy more worker' now _).trans ?_⟩
    have next := congrArg Prod.fst (@Contents.claimUpTo_eq policy worker' now more
      (c.claimUpTo policy worker now limit).2)
    rw [Contents.claimable_claimUpTo] at next
    rw [next]

/-- One of six records is in the hands of another worker, one is put off, and one has no attempts
left. -/
def Depot.mixedQueue : List Operation :=
  let policy : Policy := ⟨2, .ofSeconds 5, .ofSeconds 300⟩
  [.enqueue 0 (.ofNat 1) (.brief none) .epoch, .enqueue 0 (.ofNat 2) (.brief none) .epoch,
    .enqueue 0 (.ofNat 3) (.brief none) .epoch, .enqueue 0 (.ofNat 4) (.brief none) .epoch,
    .enqueue 0 (.ofNat 5) (.brief none) .epoch, .enqueue 0 (.ofNat 6) (.brief none) .epoch,
    .claimOne 0 policy "v" .epoch, .reschedule 0 policy (.ofNat 3) "reset" 0 .epoch,
    .reschedule 0 policy (.ofNat 5) "reset" 0 .epoch,
    .reschedule 0 policy (.ofNat 5) "reset" 1 .epoch]

theorem Store.batch_is_one_pass_mixedQueue :
    ∃ s, ((Depot.start 1).after Depot.mixedQueue).stores[0]? = some s ∧ s.poisoned = false ∧
      s.contents.records.length = 6 ∧
      ∃ answer c' next c'', s.claimBatch ⟨2, .ofSeconds 5, .ofSeconds 300⟩ 2 "w"
          (Instant.epoch.later (.ofSeconds 1)) = .ok (answer, ⟨c', false⟩) ∧
        answer.map (·.id) = [.ofNat 2, .ofNat 4] ∧
        s.contents.OnePass ⟨2, .ofSeconds 5, .ofSeconds 300⟩ 2 "w"
          (Instant.epoch.later (.ofSeconds 1)) answer c' ∧
        (⟨c', false⟩ : Store).claimBatch ⟨2, .ofSeconds 5, .ofSeconds 300⟩ 2 "x"
          (Instant.epoch.later (.ofSeconds 1)) = .ok (next, ⟨c'', false⟩) ∧
        next.map (·.id) = [.ofNat 6] := by
  obtain ⟨s, hs, lock, length, first, second⟩ : ∃ s,
      ((Depot.start 1).after Depot.mixedQueue).stores[0]? = some s ∧ s.poisoned = false ∧
      s.contents.records.length = 6 ∧
      ((s.contents.records.filter (·.claimable (Instant.epoch.later (.ofSeconds 1)) 2)).take
        2).map (·.id) = [.ofNat 2, .ofNat 4] ∧
      (((s.contents.records.filter (·.claimable (Instant.epoch.later (.ofSeconds 1)) 2)).drop
        2).take 2).map (·.id) = [.ofNat 6] :=
    ⟨_, rfl, rfl, by decide +kernel, by decide +kernel, by decide +kernel⟩
  obtain ⟨answer, c', batch, -, pass, more⟩ := Store.batch_is_one_pass lock
    ⟨2, .ofSeconds 5, .ofSeconds 300⟩ 2 "w" (Instant.epoch.later (.ofSeconds 1))
  obtain ⟨c'', next⟩ := more "x" 2
  refine ⟨s, hs, lock, length, answer, c', _, c'', batch, ?_, pass, next, ?_⟩
  · rw [pass.answered, List.map_map]
    exact first
  · rw [List.map_map]
    exact second

end EventRelay
