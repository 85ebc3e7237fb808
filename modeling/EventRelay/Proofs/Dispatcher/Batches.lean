import EventRelay.Proofs.Dispatcher.Playing

/-!
# A batch in closed form

What a tick makes of a sound store and a broker in memory, if nobody acts in between. The claims are
one change of the records that are picked (`Sound.claimUpTo_eq_mapRecords`). A broker in memory
refuses as many messages as it has failures left and takes the others, so that the first records of
the batch are postponed and the others are published (`Sound.deliver_eq_mapRecords`). Together that
is one change of the picked records in their places (`Sound.tick_play`).
-/

namespace EventRelay

open Dispatcher

/-! ## Changes in place -/

namespace Contents

def mapRecords (f : Record → Record) (c : Contents) : Contents :=
  { c with rows := c.rows.map fun row => (row.1, f row.2) }

section
variable (f g : Record → Record) (c : Contents)

@[simp] theorem records_mapRecords : (c.mapRecords f).records = c.records.map f := by
  simp [mapRecords, records]

@[simp] theorem mapRecords_mapRecords :
    (c.mapRecords f).mapRecords g = c.mapRecords fun r => g (f r) := by
  simp [mapRecords]

variable {f g c} in
theorem mapRecords_congr (h : ∀ r ∈ c.records, f r = g r) : c.mapRecords f = c.mapRecords g := by
  have rows : (c.rows.map fun row => (row.1, f row.2)) = c.rows.map fun row => (row.1, g row.2) :=
    List.map_congr_left fun row hrow => by rw [h _ (List.mem_map_of_mem hrow)]
  rw [mapRecords, mapRecords, rows]

variable {f c} in
/-- Changes that change no record change nothing. -/
theorem mapRecords_of_fixed (h : ∀ r ∈ c.records, f r = r) : c.mapRecords f = c := by
  have rows : (c.rows.map fun row => (row.1, f row.2)) = c.rows :=
    (List.map_congr_left fun row hrow => by rw [h _ (List.mem_map_of_mem hrow)]).trans
      (List.map_id' _)
  rw [mapRecords, rows]

end

section
variable {c : Contents} {staged : List Record}

/-- In sound contents a change of the record with an id is a change of all records that have this
id. -/
theorem Sound.update_eq_mapRecords (h : c.Sound staged) (id : Uuid) (f : Record → Record) :
    c.update id f = c.mapRecords fun r => if r.id = id then f r else r := by
  rw [h.update_eq, mapRecords]
  congr 1
  refine List.map_congr_left fun row _ => ?_
  split <;> rfl

/-- Changes that keep ids and keys keep contents sound. -/
theorem Sound.mapRecords (h : c.Sound staged) {f : Record → Record}
    (same : ∀ r, (f r).id = r.id ∧ (f r).dedupeKey = r.dedupeKey) :
    (c.mapRecords f).Sound staged := by
  have rows : RowsChange (fun r r' => r' = f r) c.rows (c.mapRecords f).rows :=
    List.forall₂_map_right_iff.2 (List.forall₂_same.2 fun row _ => ⟨rfl, rfl⟩)
  exact h.of_rowsChange rows fun r r' hr => hr ▸ same r

/-- No two records of sound contents have the same id. -/
theorem Sound.records_distinct (h : c.Sound staged) : (c.records.map (·.id)).Nodup := by
  have distinct := h.distinct
  rw [List.map_append] at distinct
  exact (List.nodup_append.1 distinct).1

end

/-! ## Claiming -/

/-- The records that the next claim of a batch picks. -/
def picked (policy : Policy) (now : Instant) (limit : Nat) (c : Contents) : List Record :=
  (c.records.filter (·.claimable now policy.maxAttempts)).take limit

/-- Where the ids are distinct, changing the first records that satisfy a condition is changing
those with their ids. -/
theorem changeUpTo_eq_map {p : Record → Bool} {f : Record → Record} {limit : Nat}
    {rows : List (Nat × Record)} (distinct : (rows.map (·.2.id)).Nodup) :
    changeUpTo p f limit rows = rows.map fun row =>
      (row.1, if row.2.id ∈ (((rows.map (·.2)).filter p).take limit).map (·.id) then f row.2
        else row.2) := by
  induction rows generalizing limit with
  | nil => rfl
  | cons row rest ih =>
    obtain ⟨seq, r⟩ := row
    rw [List.map_cons, List.nodup_cons] at distinct
    obtain ⟨new, distinct⟩ := distinct
    have others {limit : Nat} : r.id ∉ (((rest.map (·.2)).filter p).take limit).map (·.id) := by
      intro hin
      obtain ⟨r', hr', hid⟩ := List.mem_map.1 hin
      obtain ⟨row, hrow, rfl⟩ := List.mem_map.1 (List.mem_of_mem_filter (List.mem_of_mem_take hr'))
      exact new (List.mem_map.2 ⟨row, hrow, hid⟩)
    cases hp : p r with
    | false =>
      simp only [changeUpTo, hp, Bool.false_eq_true, if_false, List.map_cons, List.filter_cons,
        others, ih distinct]
    | true =>
      cases limit with
      | zero => simp
      | succ limit =>
        have later : ∀ row ∈ rest, row.2.id ≠ r.id := fun row hrow hid =>
          new (List.mem_map.2 ⟨row, hrow, hid⟩)
        simp only [changeUpTo, hp, if_true, List.map_cons, List.filter_cons, List.take_succ_cons,
          List.mem_cons, true_or, ih distinct]
        congr 1
        exact List.map_congr_left fun row hrow => by simp only [later row hrow, false_or]

section
variable {c : Contents} {staged : List Record} {policy : Policy} {worker : String} {now : Instant}

/-- **Claiming a batch changes the picked records in their places.** -/
theorem Sound.claimUpTo_eq_mapRecords (h : c.Sound staged) (limit : Nat) :
    claimUpTo policy worker now limit c =
      ((c.picked policy now limit).map (·.claim worker now),
        c.mapRecords fun r =>
          if r.id ∈ (c.picked policy now limit).map (·.id) then r.claim worker now else r) := by
  have distinct := h.records_distinct
  rw [records, List.map_map] at distinct
  rw [claimUpTo_eq, changeUpTo_eq_map distinct]
  rfl

theorem mem_of_mem_picked {limit : Nat} {r : Record} (h : r ∈ c.picked policy now limit) :
    r ∈ c.records := List.mem_of_mem_filter (List.mem_of_mem_take h)

/-- Whatever the next claim picks is claimable. -/
theorem claimable_of_mem_picked {limit : Nat} {r : Record} (h : r ∈ c.picked policy now limit) :
    r.claimable now policy.maxAttempts = true := (List.mem_filter.1 (List.mem_of_mem_take h)).2

/-- The next claim picks no record twice. -/
theorem Sound.picked_distinct (h : c.Sound staged) (limit : Nat) :
    ((c.picked policy now limit).map (·.id)).Nodup :=
  h.records_distinct.sublist (((List.take_sublist ..).trans List.filter_sublist).map _)

end
end Contents

/-! ## Delivering -/

/-- The record after a broker in memory has refused its message. -/
def Record.postponed (policy : Policy) (now : Instant) (r : Record) : Record :=
  { r with
    status := .pending, attempts := r.attempts + 1, error := some "broker unavailable"
    nextAttemptAt := now.later (policy.backoff.delay r.attempts), lockedBy := none
    lockedAt := none }

namespace Record
variable {policy : Policy} {r : Record} {now : Instant}

/-- Who may be claimed has attempts left, so that one more is counted. -/
theorem countUp_of_claimable {maxAttempts : UInt32} (h : r.claimable now maxAttempts = true) :
    countUp r.attempts = r.attempts + 1 := by
  obtain ⟨-, -, left⟩ := claimable_iff.1 h
  refine if_neg fun last => ?_
  have bound := maxAttempts.toNat_lt
  rw [last, UInt32.lt_iff_toNat_lt] at left
  exact absurd left (by simp; omega)

/-- A claimed record that the broker refuses is put off, with one more attempt than it was claimed
with. -/
theorem concluded_claim_refused (h : r.claimable now policy.maxAttempts = true) (worker : String)
    (timeout : Duration) :
    (r.claim worker now).concluded policy timeout r.attempts now
        (.error (.refused Broker.unavailable)) = r.postponed policy now := by
  simp only [concluded, reschedule, claim, postponed, countUp_of_claimable h]
  rfl

end Record

abbrev idsOf (rs : List Record) : List Uuid := rs.map (·.id)

theorem idsOf_take_append_drop (n : Nat) (rs : List Record) :
    idsOf (rs.take n) ++ idsOf (rs.drop n) = idsOf rs := by
  rw [idsOf, idsOf, ← List.map_append, List.take_append_drop]

/-- A claim keeps the ids of records and their order. -/
@[simp] theorem idsOf_map_claim (worker : String) (now : Instant) (rs : List Record) :
    idsOf (rs.map (·.claim worker now)) = idsOf rs := by
  simp only [idsOf, List.map_map]
  rfl

namespace Contents
variable {c : Contents} {staged : List Record} {policy : Policy} {timeout : Duration}
  {now : Instant}

/-- What a broker in memory that has some failures left makes of a record, if it is one of those
that are to be delivered. -/
def fate (policy : Policy) (timeout : Duration) (now : Instant) (failures : Nat)
    (todo : List Record) (r : Record) : Record :=
  if r.id ∈ idsOf (todo.take failures) then
    r.concluded policy timeout r.attempts now (.error (.refused Broker.unavailable))
  else if r.id ∈ idsOf (todo.drop failures) then r.markPublished now
  else r

/-- A record that is not to be delivered stays as it is. -/
theorem fate_of_not_mem {failures : Nat} {todo : List Record} {r : Record}
    (h : r.id ∉ idsOf todo) : fate policy timeout now failures todo r = r := by
  rw [← idsOf_take_append_drop failures, List.mem_append, not_or] at h
  rw [fate, if_neg h.1, if_neg h.2]

/-- Of the claimed records the first ones are put off, as many as the broker has failures left, and
the others are published. -/
theorem fate_claim {failures : Nat} {rs : List Record} {r : Record} (hr : r ∈ rs)
    (claimable : r.claimable now policy.maxAttempts = true) (worker : String) :
    fate policy timeout now failures (rs.map (·.claim worker now)) (r.claim worker now) =
      if r.id ∈ idsOf (rs.take failures) then r.postponed policy now else r.markPublished now := by
  have parts : r.id ∈ idsOf (rs.take failures) ∨ r.id ∈ idsOf (rs.drop failures) := by
    rw [← List.mem_append, idsOf_take_append_drop]
    exact List.mem_map_of_mem hr
  simp only [fate, ← List.map_take, ← List.map_drop, idsOf_map_claim]
  by_cases first : r.id ∈ idsOf (rs.take failures)
  · rw [if_pos first]
    exact (if_pos first).trans (Record.concluded_claim_refused claimable worker timeout)
  · rw [if_neg first]
    exact (if_neg first).trans (if_pos (parts.resolve_left first))

/-- **Delivering a batch changes the records of the batch in their places**, where the copies agree
with the store about the attempts. The broker refuses the first ones, as many as it has failures
left, and takes the others. -/
theorem Sound.deliver_eq_mapRecords (h : c.Sound staged) {todo : List Record}
    (distinct : (idsOf todo).Nodup)
    (current : ∀ w ∈ todo, ∀ r ∈ c.records, r.id = w.id → r.attempts = w.attempts) (b : Broker) :
    c.deliver policy Broker.publish timeout todo (.frozen now) b =
      (c.mapRecords (fate policy timeout now b.failures todo),
        { b with
          failures := b.failures - todo.length
          log := b.log ++ (todo.drop b.failures).map (·.message) }) := by
  induction todo generalizing c b with
  | nil =>
    have fixed : ∀ r ∈ c.records, fate policy timeout now b.failures [] r = r := fun r _ =>
      fate_of_not_mem List.not_mem_nil
    simp [deliver, mapRecords_of_fixed fixed]
  | cons w rest ih =>
    obtain ⟨new, distinct⟩ := List.nodup_cons.1 distinct
    have one (outcome : Except Undelivered Unit) :
        c.conclude policy timeout w now outcome = c.mapRecords fun r =>
          if r.id = w.id then r.concluded policy timeout w.attempts now outcome else r :=
      h.update_eq_mapRecords ..
    have sameId (r : Record) (outcome : Except Undelivered Unit) :
        (r.concluded policy timeout w.attempts now outcome).id = r.id :=
      Record.id_eq_of_origin (Record.origin_concluded ..)
    -- The others have other ids, so that the store still agrees with their copies.
    have goesOn (outcome : Except Undelivered Unit) (b : Broker) :
        (c.conclude policy timeout w now outcome).deliver policy Broker.publish timeout rest
            (.frozen now) b =
          (c.mapRecords fun r => fate policy timeout now b.failures rest
              (if r.id = w.id then r.concluded policy timeout w.attempts now outcome else r),
            { b with
              failures := b.failures - rest.length
              log := b.log ++ (rest.drop b.failures).map (·.message) }) := by
      rw [ih (h.conclude w now outcome) distinct ?_ b, one, mapRecords_mapRecords]
      intro w' hw' r hr hid
      rw [one, records_mapRecords] at hr
      obtain ⟨r₀, hr₀, rfl⟩ := List.mem_map.1 hr
      by_cases hw : r₀.id = w.id
      · rw [if_pos hw, sameId, hw] at hid
        exact absurd (List.mem_map.2 ⟨w', hw', hid.symm⟩) new
      · rw [if_neg hw] at hid ⊢
        exact current w' (List.mem_cons_of_mem _ hw') r₀ hr₀ hid
    have still : (Readings.frozen now).drop 1 = .frozen now := rfl
    rw [deliver, still]
    cases hb : b.failures with
    | zero =>
      simp only [Broker.publish_of_ready hb, Readings.frozen, goesOn, hb]
      rw [Prod.mk.injEq]
      refine ⟨mapRecords_congr fun r hr => ?_, by simp⟩
      by_cases hw : r.id = w.id
      · rw [if_pos hw, fate_of_not_mem (by rwa [sameId, hw])]
        simp [fate, hw, Record.concluded]
      · rw [if_neg hw]
        simp [fate, hw]
    | succ n =>
      simp only [Broker.publish_of_failing hb, Readings.frozen, goesOn]
      rw [Prod.mk.injEq]
      refine ⟨mapRecords_congr fun r hr => ?_, by simp⟩
      by_cases hw : r.id = w.id
      · rw [if_pos hw, fate_of_not_mem (by rwa [sameId, hw])]
        simp [fate, hw, current w List.mem_cons_self r hr hw]
      · rw [if_neg hw]
        simp [fate, hw]

end Contents
/-! ## Ticks -/

section
variable {α β σ : Type} (policy : Policy) (send : σ → Message → Except Undelivered Unit × σ)
  (now : Instant)

/-- While the clock stands still, one sequence of calls is played after the other. -/
theorem Action.play_andThen (a : Action α) (f : α → Action β) (s : Store) (p : σ) :
    (a.andThen f).play policy send (.frozen now) s p =
      (f (a.play policy send (.frozen now) s p).1).play policy send (.frozen now)
        (a.play policy send (.frozen now) s p).2.1 (a.play policy send (.frozen now) s p).2.2 := by
  induction a generalizing s p with
  | done a => rfl
  | note entry next ih => exact ih s p
  | claimBatch limit worker next ih | publish m timeout next ih | markPublished id next ih
  | reschedule id error attempts next ih | recoverStuck threshold next ih
  | purgePublished retention next ih => exact ih _ _ _

end

section
variable (config : DispatcherConfig) (policy : Policy) (now : Instant)

/-- **One record of a tick**, played against a store and a broker in memory: a failure of the broker
puts it off, and otherwise it is published. -/
theorem settle_play (r : Record) (report : TickReport) (c : Contents) (b : Broker) :
    (settle config r report).play policy Broker.publish (.frozen now) ⟨c, false⟩ b =
      (if b.failures = 0 then { report with published := report.published + 1 }
        else { report with rescheduled := report.rescheduled + 1 },
        ⟨c.conclude policy config.confirmTimeout r now (b.publish r.message).1, false⟩,
        (b.publish r.message).2) := by
  cases hb : b.failures with
  | zero =>
    simp [settle, deliver, Action.andThen, Action.play, Broker.publish, hb, Store.markPublished,
      Store.locked, Store.answered, Contents.conclude, Record.concluded, Readings.frozen]
  | succ n =>
    simp [settle, deliver, Action.andThen, Action.play, Broker.publish, hb,
      Depot.reschedule_store_eq, Depot.putOff, Store.answered, Contents.conclude,
      Record.concluded, Readings.frozen, Except.map]

/-- What a batch adds to the report: the broker refuses as many as it has failures left. -/
theorem settleAll_play (rs : List Record) (report : TickReport) (c : Contents) (b : Broker) :
    (settleAll config rs report).play policy Broker.publish (.frozen now) ⟨c, false⟩ b =
      (⟨report.claimed, report.published + (rs.length - b.failures),
          report.rescheduled + min b.failures rs.length⟩,
        ⟨(c.deliver policy Broker.publish config.confirmTimeout rs (.frozen now) b).1, false⟩,
        (c.deliver policy Broker.publish config.confirmTimeout rs (.frozen now) b).2) := by
  induction rs generalizing report c b with
  | nil => simp [settleAll, Action.play, Contents.deliver]
  | cons r rest ih =>
    have still : (Readings.frozen now).drop 1 = .frozen now := rfl
    rw [settleAll, Action.play_andThen, settle_play, ih, Contents.deliver, still]
    refine Prod.ext ?_ rfl
    cases hb : b.failures with
    | zero =>
      simp only [Broker.publish, hb, if_true, List.length_cons, TickReport.mk.injEq, true_and]
      exact ⟨by omega, by omega⟩
    | succ n =>
      simp only [Broker.publish, hb, Nat.add_one_ne_zero, if_false, List.length_cons,
        TickReport.mk.injEq, true_and]
      exact ⟨by omega, by omega⟩

/-- A tick settles what it has claimed. -/
theorem tick_play_of_claim (worker : String) {c c' : Contents} {rs : List Record} (b : Broker)
    (h : c.claimUpTo policy worker now config.batchSize = (rs, c')) :
    (tick config worker).play policy Broker.publish (.frozen now) ⟨c, false⟩ b =
      (settleAll config rs ⟨rs.length, 0, 0⟩).play policy Broker.publish (.frozen now)
        ⟨c', false⟩ b := by
  have still : (Readings.frozen now).drop config.batchSize = .frozen now := rfl
  simp only [tick, Action.play, Store.claimEach_eq, Contents.claimEach_frozen, h,
    Store.answered, still]
  cases rs with
  | nil => rfl
  | cons r rest => exact Action.play_andThen ..

section
variable {c : Contents} {staged : List Record} (h : c.Sound staged)
include h

/-- A record that has the id of a picked one is picked itself. -/
theorem Contents.Sound.mem_picked {limit : Nat} {r : Record} (hr : r ∈ c.records)
    (hid : r.id ∈ idsOf (c.picked policy now limit)) : r ∈ c.picked policy now limit := by
  obtain ⟨r', hr', same⟩ := List.mem_map.1 hid
  have stored := List.mem_append_left staged (Contents.mem_of_mem_picked hr')
  rwa [← h.eq_of_id stored (List.mem_append_left _ hr) same]

/-- What a batch leaves behind of the records that were picked for it. -/
theorem Contents.Sound.deliver_picked (worker : String) (b : Broker) :
    let rs := c.picked policy now config.batchSize
    (c.claimUpTo policy worker now config.batchSize).2.deliver policy Broker.publish
        config.confirmTimeout (rs.map (·.claim worker now)) (.frozen now) b =
      (c.mapRecords fun r =>
          if r.id ∈ idsOf (rs.take b.failures) then r.postponed policy now
          else if r.id ∈ idsOf (rs.drop b.failures) then r.markPublished now
          else r,
        { b with
          failures := b.failures - rs.length
          log := b.log ++ (rs.drop b.failures).map (·.message) }) := by
  intro rs
  let claimIf (r : Record) : Record := if r.id ∈ idsOf rs then r.claim worker now else r
  have unchanged (r : Record) : (claimIf r).id = r.id ∧ (claimIf r).dedupeKey = r.dedupeKey ∧
      (claimIf r).attempts = r.attempts := by
    simp only [claimIf]
    split <;> exact ⟨rfl, rfl, rfl⟩
  have sound : (c.mapRecords claimIf).Sound staged :=
    h.mapRecords fun r => ⟨(unchanged r).1, (unchanged r).2.1⟩
  have distinct : (idsOf (rs.map (·.claim worker now))).Nodup := by
    rw [idsOf_map_claim]
    exact h.picked_distinct ..
  -- A copy that was claimed has the attempts of the record that it was made of.
  have current : ∀ w ∈ rs.map (·.claim worker now), ∀ r ∈ (c.mapRecords claimIf).records,
      r.id = w.id → r.attempts = w.attempts := by
    intro w hw r hr hid
    obtain ⟨r₁, hr₁, rfl⟩ := List.mem_map.1 hw
    rw [Contents.records_mapRecords] at hr
    obtain ⟨r₀, hr₀, rfl⟩ := List.mem_map.1 hr
    have stored := List.mem_append_left staged (Contents.mem_of_mem_picked hr₁)
    have same := h.eq_of_id (List.mem_append_left _ hr₀) stored ((unchanged r₀).1.symm.trans hid)
    rw [(unchanged r₀).2.2, same]
    rfl
  have delivered := @Contents.Sound.deliver_eq_mapRecords _ _ policy config.confirmTimeout now sound
    _ distinct current b
  rw [Contents.mapRecords_mapRecords] at delivered
  rw [h.claimUpTo_eq_mapRecords]
  refine delivered.trans ?_
  rw [Prod.mk.injEq]
  refine ⟨Contents.mapRecords_congr fun r hr => ?_, ?_⟩
  · have parts := idsOf_take_append_drop b.failures rs
    by_cases hin : r.id ∈ idsOf rs
    · have picked := h.mem_picked policy now hr hin
      rw [show claimIf r = r.claim worker now from if_pos hin,
        Contents.fate_claim picked (Contents.claimable_of_mem_picked picked)]
      rw [← parts, List.mem_append] at hin
      by_cases first : r.id ∈ idsOf (rs.take b.failures)
      · rw [if_pos first, if_pos first]
      · rw [if_neg first, if_neg first, if_pos (hin.resolve_left first)]
    · rw [show claimIf r = r from if_neg hin, Contents.fate_of_not_mem (by rwa [idsOf_map_claim])]
      rw [← parts, List.mem_append, not_or] at hin
      rw [if_neg hin.1, if_neg hin.2]
  · simp only [← List.map_drop, List.map_map, List.length_map]
    rfl

end

/-- **One tick in closed form.** In a sound store it picks the first claimable records, as many as
fit into a batch. The first of them, as many as the broker has failures left, are postponed, and the
others are published: nothing else is changed in the store or told to the broker. -/
theorem Contents.Sound.tick_play {c : Contents} {staged : List Record} (h : c.Sound staged)
    (worker : String) (b : Broker) :
    let rs := c.picked policy now config.batchSize
    let k := min b.failures rs.length
    (tick config worker).play policy Broker.publish (.frozen now) ⟨c, false⟩ b =
      (⟨rs.length, rs.length - k, k⟩,
        ⟨c.mapRecords fun r =>
            if r.id ∈ idsOf (rs.take k) then r.postponed policy now
            else if r.id ∈ idsOf (rs.drop k) then r.markPublished now
            else r, false⟩,
        { b with failures := b.failures - k, log := b.log ++ (rs.drop k).map (·.message) }) := by
  intro rs k
  have claimed : c.claimUpTo policy worker now config.batchSize =
      (rs.map (·.claim worker now), (c.claimUpTo policy worker now config.batchSize).2) :=
    Prod.ext (by rw [h.claimUpTo_eq_mapRecords]) rfl
  have first : rs.take k = rs.take b.failures := by
    rw [← List.take_take, List.take_length]
  have others : rs.drop k = rs.drop b.failures := by
    rcases Nat.le_total b.failures rs.length with le | le
    · rw [show k = b.failures from Nat.min_eq_left le]
    · rw [show k = rs.length from Nat.min_eq_right le, List.drop_length,
        List.drop_of_length_le le]
  have counts : rs.length - k = rs.length - b.failures ∧ b.failures - k = b.failures - rs.length :=
    ⟨by omega, by omega⟩
  rw [tick_play_of_claim config policy now worker b claimed, settleAll_play,
    h.deliver_picked config policy now worker b, first, others, counts.1, counts.2]
  simp only [List.length_map, Nat.zero_add]
  rfl

end
end EventRelay
