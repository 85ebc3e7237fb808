import EventRelay.Proofs.Depot.Terminal
import Mathlib.Data.List.Flatten
import Mathlib.Data.List.Pairwise

/-!
# Nobody claims what another has claimed

A claimed record is not pending, and it becomes pending again only by a reschedule or by a recovery
that releases it; nothing else, no purge and no commit of new records, makes the id claimable
again (`Effect.taken`). So between two claims of one id it was given back
(`claims_exclude_each_other`). Claims are taken one by one here, whoever makes them, so that the
batches of different callers may be claimed in turns: as long as nothing is given back, their
results have nothing in common.
-/

namespace EventRelay.Depot

/-- The ids of the records that an operation has claimed in the store `n`. -/
def claimedFrom (n : Nat) (event : Operation × Answer) : List Uuid :=
  ((claimedIn event).filter (·.1 = n)).map (·.2)

/-- At this moment the record with the id is rescheduled, or a recovery releases it. -/
inductive GivesBack (n : Nat) (id : Uuid) (z : Moment) : Prop where
  | rescheduled (h : Reschedules n id z.event.1)
  | released {threshold now r} (h : z.event.1 = .recoverStuck n threshold now)
      (held : z.before.find? n id = some r) (publishing : r.status = .publishing)
      (freed : z.after.find? n id = some r.release)

/-- The ids that the call `i` has claimed in the store `n`, where each step of a stretch is a step
of one of several calls. -/
def claimedBy (n : Nat) (call : Nat → Nat) (i : Nat) (stretch : List Moment) : List Uuid :=
  (stretch.zipIdx.filter fun p => call p.2 = i).flatMap fun p => claimedFrom n p.1.event

/-- The record with the id is not there to be claimed: it is not pending, if it is stored, and no
transaction has it staged. -/
structure Taken (d : Depot) (n : Nat) (id : Uuid) : Prop where
  busy : ∀ r ∈ d.records n, r.id = id → r.status ≠ .pending
  unstaged : ∀ r ∈ d.staged n, r.id ≠ id

section
variable {d d' : Depot} {op : Operation} {a : Answer} {n : Nat} {id : Uuid}

/-- The two ways of saying what an operation has claimed agree. -/
theorem mem_claimedFrom {event : Operation × Answer} :
    id ∈ claimedFrom n event ↔ (n, id) ∈ claimedIn event := by
  simp [claimedFrom]

theorem claimedFrom_batch (m : Nat) (policy : Policy) (limit : Nat) (worker : String)
    (now : Instant) (rs : List Record) :
    claimedFrom n (.claimBatch m policy limit worker now, .records rs) =
      if m = n then rs.map (·.id) else [] := by
  by_cases heq : m = n
  · simp [claimedFrom, claimedIn, List.filter_map, Function.comp_def, heq]
  · simp [claimedFrom, claimedIn, List.filter_map, Function.comp_def, heq]

theorem pending_of_claimable {r : Record} {now : Instant} {maxAttempts : UInt32}
    (h : r.claimable now maxAttempts = true) : r.status = .pending :=
  (Record.claimable_iff.1 h).1

/-- **What is claimed** was claimable under the policy of the claim, and is stored in the hands of
the worker then. -/
theorem Effect.exists_of_claimed (hd : Effect d op a d') (h : id ∈ claimedFrom n (op, a)) :
    ∃ policy worker now, ((∃ limit, op = .claimBatch n policy limit worker now) ∨
        op = .claimOne n policy worker now) ∧
      ∃ r ∈ d.records n, r.id = id ∧ r.claimable now policy.maxAttempts = true ∧
        r.claim worker now ∈ d'.records n := by
  rw [mem_claimedFrom] at h
  unfold claimedIn at h
  split at h
  · rename_i m policy limit worker now ws heq
    cases heq
    obtain ⟨w, hw, ⟨⟩⟩ := List.mem_map.1 h
    obtain ⟨r, hr, claimable, rfl, stored⟩ := hd.exists_of_claimBatch hw
    exact ⟨policy, worker, now, .inl ⟨limit, rfl⟩, r, hr, rfl, claimable, stored⟩
  · rename_i m policy worker now w heq
    cases heq
    cases List.mem_singleton.1 h
    obtain ⟨r, hr, claimable, rfl, stored⟩ := hd.exists_of_claimOne
    exact ⟨policy, worker, now, .inr rfl, r, hr, rfl, claimable, stored⟩
  · cases h

/-- What is claimed was pending, and is in the hands of a worker then. -/
theorem Effect.of_claimed (hd : Effect d op a d') (h : id ∈ claimedFrom n (op, a)) :
    (∃ r ∈ d.records n, r.id = id ∧ r.status = .pending) ∧
      ∃ r ∈ d'.records n, r.id = id ∧ r.status = .publishing := by
  obtain ⟨policy, worker, now, -, r, hr, rfl, claimable, stored⟩ := hd.exists_of_claimed h
  exact ⟨⟨r, hr, rfl, pending_of_claimable claimable⟩, _, stored, rfl, rfl⟩

/-- No claim answers more records than it is asked for. -/
theorem Effect.length_records_le {limit : Nat} {policy : Policy} {worker : String} {now : Instant}
    {rs : List Record} (hd : Effect d (.claimBatch n policy limit worker now) (.records rs) d') :
    rs.length ≤ limit := by
  cases hd with
  | claimed hc =>
    rw [Contents.claimUpTo_eq, List.length_map]
    exact List.length_take_le ..

/-- No operation claims a record twice. -/
theorem Effect.claimedFrom_nodup (sound : d.Sound) (hd : Effect d op a d') :
    (claimedFrom n (op, a)).Nodup := by
  cases hd with
  | claimed hc =>
    rename_i m policy limit worker now c
    have ids := (sound m c hc).distinct
    rw [List.map_append, List.nodup_append] at ids
    rw [claimedFrom_batch]
    split
    · rw [Contents.claimUpTo_eq, List.map_map]
      exact ids.1.sublist (((List.take_sublist ..).trans List.filter_sublist).map _)
    · exact List.nodup_nil
  | claimedOne =>
    rename_i m policy worker now c r' c' hc hone
    by_cases heq : m = n
    · simp [claimedFrom, claimedIn, heq]
    · simp [claimedFrom, claimedIn, heq]
  | _ => simp [claimedFrom, claimedIn]

/-- What is claimed is taken. -/
theorem Effect.taken_of_claimed (sound' : d'.Sound) (hd : Effect d op a d')
    (h : id ∈ claimedFrom n (op, a)) : d'.Taken n id := by
  obtain ⟨-, r, hr, rfl, hpublishing⟩ := hd.of_claimed h
  constructor
  · intro r' hr' hid
    rw [sound'.eq_of_id hr' hr hid, hpublishing]
    simp
  · exact fun r' hr' hid => sound'.unstaged hr hr' hid.symm

/-- **One step leaves a taken record taken**, unless it gives it back. -/
theorem Effect.taken (sound : d.Sound) (sound' : d'.Sound) (hd : Effect d op a d')
    (old : op.made ≠ some id) (kept : ¬ GivesBack n id ⟨d, (op, a), d'⟩) (h : d.Taken n id) :
    d'.Taken n id := by
  constructor
  · intro r' hr' hid hpending
    obtain ⟨r, hr, hid₀, hc⟩ := hd.backward_of_old sound.filed old h.unstaged hr' hid
    cases hc with
    | kept => exact h.busy r' hr hid₀ hpending
    | claimed | claimedOne | marked => cases hpending
    | rescheduled hid' =>
      obtain rfl := hid'.symm.trans hid₀
      exact kept (.rescheduled ⟨_, _, _, _, rfl⟩)
    | released hstale =>
      exact kept (.released rfl (sound.find?_eq_some_iff.2 ⟨hr, hid₀⟩) (Record.stale_iff.1 hstale).1
        (sound'.find?_eq_some_iff.2 ⟨hr', hid⟩))
  · exact hd.unstaged_of_old old h.unstaged

/-- **What is in a worker's hands is not claimed again.** -/
theorem Taken.not_claimed (h : d.Taken n id) (hd : Effect d op a d') :
    id ∉ claimedFrom n (op, a) := by
  intro hclaim
  obtain ⟨⟨r, hr, hid, hpending⟩, -⟩ := hd.of_claimed hclaim
  exact h.busy r hr hid hpending

end

/-! ## Runs -/

section
variable {past mid later stretch : List Moment} {x y : Moment} {d d' : Depot} {n : Nat} {id : Uuid}

/-- A taken record stays taken as long as nobody gives it back. -/
theorem taken_along (h : Consistent past d) (run : Run Does d mid d')
    (fresh : FreshIds (past ++ mid)) (made : id ∈ madeIds past) (taken : d.Taken n id)
    (kept : ∀ z ∈ mid, ¬ GivesBack n id z) : d'.Taken n id := by
  have step : ∀ done z, Consistent (past ++ done) z.before →
      Consistent ((past ++ done) ++ [z]) z.after → FreshIds ((past ++ done) ++ [z]) →
      Effect z.before z.event.1 z.event.2 z.after →
      ((∀ z ∈ done, ¬ GivesBack n id z) → z.before.Taken n id) →
      (∀ w ∈ done ++ [z], ¬ GivesBack n id w) → z.after.Taken n id := by
    intro done z old new fresh effect hdone kept
    have before := hdone fun w hw => kept w (List.mem_append_left _ hw)
    have unmade : z.event.1.made ≠ some id :=
      fun hmade => FreshIds.new fresh hmade (mem_madeIds_append made)
    exact effect.taken old.sound new.sound unmade (kept z (by simp)) before
  have start : (∀ z ∈ ([] : List Moment), ¬ GivesBack n id z) → d.Taken n id := fun _ => taken
  exact h.along (P := fun done d => (∀ z ∈ done, ¬ GivesBack n id z) → d.Taken n id)
    run fresh step start kept

/-- Between two claims of an id, somebody gives it back. -/
theorem givesBack_between {k : Nat} (run : Run Does (start k) (past ++ x :: (mid ++ y :: later)) d)
    (fresh : FreshIds (past ++ x :: (mid ++ y :: later))) (hx : id ∈ claimedFrom n x.event)
    (hy : id ∈ claimedFrom n y.event) : ∃ z ∈ mid, GivesBack n id z := by
  by_contra hnone
  have kept : ∀ z ∈ mid, ¬ GivesBack n id z := fun z hz hgives => hnone ⟨z, hz, hgives⟩
  obtain ⟨before, hx', after, rest⟩ := cut_run run fresh
  obtain ⟨m, run_mid, rfl, -⟩ := run_append.1 rest
  rw [← List.cons_append, ← List.append_assoc] at run fresh
  obtain ⟨-, hy', -, -⟩ := cut_run run fresh
  rw [List.append_cons past x mid] at fresh
  have fresh_mid := fresh.sublist ((List.sublist_append_left _ (y :: later)).filterMap _)
  obtain ⟨⟨r, hr, hid, -⟩, -⟩ := hx'.of_claimed hx
  have made : id ∈ madeIds (past ++ [x]) :=
    mem_madeIds_append (hid ▸ before.known n r (List.mem_append_left _ hr))
  have taken := taken_along after run_mid fresh_mid made
    (hx'.taken_of_claimed after.sound hx) kept
  exact taken.not_claimed hy' hy

/-- In a stretch in which nothing is given back, no two steps claim the same id. -/
theorem disjoint_claims {k : Nat} (run : Run Does (start k) (past ++ (stretch ++ later)) d)
    (fresh : FreshIds (past ++ (stretch ++ later)))
    (kept : ∀ z ∈ stretch, ∀ id, ¬ GivesBack n id z) :
    stretch.Pairwise fun x y => List.Disjoint (claimedFrom n x.event) (claimedFrom n y.event) := by
  induction stretch generalizing past with
  | nil => exact .nil
  | cons x rest ih =>
    refine .cons (fun y hy id hx hy' => ?_) ?_
    · obtain ⟨mid, back, rfl⟩ := List.append_of_mem hy
      rw [List.cons_append, List.append_assoc, List.cons_append] at run fresh
      obtain ⟨z, hz, hgives⟩ := givesBack_between run fresh hx hy'
      exact kept z (by simp [hz]) id hgives
    · rw [List.cons_append, List.append_cons] at run fresh
      exact ih run fresh fun z hz => kept z (List.mem_cons_of_mem _ hz)

/-- The claims of a stretch in which nothing is given back, with their places in the stretch. -/
theorem nodup_claims {k : Nat} (run : Run Does (start k) (past ++ (stretch ++ later)) d)
    (fresh : FreshIds (past ++ (stretch ++ later)))
    (kept : ∀ z ∈ stretch, ∀ id, ¬ GivesBack n id z) :
    (stretch.zipIdx.flatMap fun p => claimedFrom n p.1.event).Nodup := by
  refine List.nodup_flatMap.2 ⟨fun p hp => ?_, ?_⟩
  · have hmem : p.1 ∈ stretch := by
      rw [← List.zipIdx_map_fst 0 stretch]
      exact List.mem_map_of_mem hp
    obtain ⟨front, back, rfl⟩ := List.append_of_mem hmem
    rw [List.append_assoc, List.cons_append, ← List.append_assoc] at run fresh
    obtain ⟨before, effect, -, -⟩ := cut_run run fresh
    exact effect.claimedFrom_nodup before.sound
  · have pairwise := disjoint_claims run fresh kept
    rw [← List.zipIdx_map_fst 0 stretch] at pairwise
    exact List.pairwise_map (f := Prod.fst).1 pairwise

end

/-- **Claims exclude each other.** In every run of any operations on any stores and transactions in
which no id was made twice: between two steps that claim the same id from a store, the record is
rescheduled or released by a recovery; and wherever the steps of a stretch are dealt out to calls,
the results of the calls have no repeats and nothing in common, as long as nothing is given back
in the stretch. -/
theorem claims_exclude_each_other {k : Nat} {history : List Moment} {d : Depot} {n : Nat}
    (run : Run Does (start k) history d) (fresh : FreshIds history) :
    (∀ past x mid y later id, history = past ++ x :: (mid ++ y :: later) →
      id ∈ claimedFrom n x.event → id ∈ claimedFrom n y.event → ∃ z ∈ mid, GivesBack n id z) ∧
    ∀ past stretch later, history = past ++ (stretch ++ later) →
      (∀ z ∈ stretch, ∀ id, ¬ GivesBack n id z) → ∀ call i,
        (claimedBy n call i stretch).Nodup ∧
          ∀ j, j ≠ i → List.Disjoint (claimedBy n call i stretch) (claimedBy n call j stretch) := by
  constructor
  · rintro past x mid y later id rfl hx hy
    exact givesBack_between run fresh hx hy
  · rintro past stretch later rfl kept call i
    have nodup := nodup_claims run fresh kept
    refine ⟨nodup.sublist (List.filter_sublist.flatMap _), fun j hne id hi hj => ?_⟩
    obtain ⟨p, hp, hpid⟩ := List.mem_flatMap.1 hi
    obtain ⟨q, hq, hqid⟩ := List.mem_flatMap.1 hj
    obtain ⟨hp, hpi⟩ := List.mem_filter.1 hp
    obtain ⟨hq, hqj⟩ := List.mem_filter.1 hq
    rw [decide_eq_true_eq] at hpi hqj
    -- An id that both have got was claimed at two places of the stretch.
    have hpq : p ≠ q := by
      rintro rfl
      exact hne (hqj.symm.trans hpi)
    have symm : Std.Symm (Function.onFun (List.Disjoint (α := Uuid))
        fun p : Moment × Nat => claimedFrom n p.1.event) := ⟨fun _ _ h _ ha hb => h hb ha⟩
    exact (List.nodup_flatMap.1 nodup).2.forall hp hq hpq hpid hqid

/-- Two workers claim in turns, a delivery fails, and the record is claimed once more. -/
def inTurns : List Operation :=
  [.enqueue 0 (.ofNat 1) (.brief none) .epoch, .enqueue 0 (.ofNat 2) (.brief none) .epoch,
    .enqueue 0 (.ofNat 3) (.brief none) .epoch, .claimOne 0 .default "w" .epoch,
    .claimOne 0 .default "v" .epoch, .claimOne 0 .default "w" .epoch,
    .reschedule 0 .default (.ofNat 1) "refused" 0 .epoch,
    .claimOne 0 .default "v" (Instant.epoch.later (.ofSeconds 5))]

/-- The first record is claimed twice, with a failed delivery in between, and the batches of the two
workers have no record in common. -/
theorem claims_exclude_each_other_inTurns :
    ∃ past x mid y, (start 1).moments inTurns = past ++ x :: (mid ++ [y]) ∧
      FreshIds ((start 1).moments inTurns) ∧
      .ofNat 1 ∈ claimedFrom 0 x.event ∧ .ofNat 1 ∈ claimedFrom 0 y.event ∧
      (∃ z ∈ mid, GivesBack 0 (.ofNat 1) z) ∧
      claimedBy 0 (· % 2) 0 (x :: mid.take 2) = [.ofNat 1, .ofNat 3] ∧
      claimedBy 0 (· % 2) 1 (x :: mid.take 2) = [.ofNat 2] ∧
      List.Disjoint (claimedBy 0 (· % 2) 0 (x :: mid.take 2))
        (claimedBy 0 (· % 2) 1 (x :: mid.take 2)) := by
  have fresh : FreshIds ((start 1).moments inTurns) := by decide +kernel
  have run := run_moments (start 1) inTurns
  obtain ⟨past, x, mid, y, heq, hx, hy, hops, h₀, h₁⟩ : ∃ past x mid y,
      (start 1).moments inTurns = past ++ x :: (mid ++ [y]) ∧
      .ofNat 1 ∈ claimedFrom 0 x.event ∧ .ofNat 1 ∈ claimedFrom 0 y.event ∧
      (x :: mid).map (·.event.1) = (inTurns.drop 3).take 4 ∧
      claimedBy 0 (· % 2) 0 (x :: mid.take 2) = [.ofNat 1, .ofNat 3] ∧
      claimedBy 0 (· % 2) 1 (x :: mid.take 2) = [.ofNat 2] :=
    ⟨[_, _, _], _, [_, _, _], _, rfl, by decide +kernel, by decide +kernel, rfl,
      by decide +kernel, by decide +kernel⟩
  have result := claims_exclude_each_other (n := 0) run fresh
  have kept : ∀ z ∈ x :: mid.take 2, ∀ id, ¬ GivesBack 0 id z := by
    intro z hz id hgives
    have : z.event.1 ∈ (inTurns.drop 3).take 3 := by
      have hmem := List.mem_map_of_mem (f := (·.event.1)) hz
      have : (x :: mid.take 2).map (·.event.1) = ((x :: mid).map (·.event.1)).take 3 := by simp
      rw [this, hops] at hmem
      exact hmem
    cases hgives with
    | rescheduled h =>
      obtain ⟨policy, error, attempts, now, hop⟩ := h
      rw [hop] at this
      simp [inTurns] at this
    | released hop =>
      rw [hop] at this
      simp [inTurns] at this
  have cut : (start 1).moments inTurns =
      past ++ ((x :: mid.take 2) ++ (mid.drop 2 ++ [y])) := by
    rw [heq, List.cons_append, ← List.append_assoc (mid.take 2), List.take_append_drop]
  exact ⟨past, x, mid, y, heq, fresh, hx, hy, result.1 past x mid y [] _ heq hx hy, h₀, h₁,
    (result.2 past _ _ cut kept (· % 2) 0).2 1 (by decide)⟩

end EventRelay.Depot
