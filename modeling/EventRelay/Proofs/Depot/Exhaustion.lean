import EventRelay.Proofs.Depot.Bookkeeping
import EventRelay.Proofs.Depot.Exclusion
import EventRelay.Proofs.Depot.Recovery

/-!
# What is exhausted stays exhausted

A claim takes a record only if it has attempts left (`Effect.claimable_of_claimed`), and the
attempts of a record never fall, whoever settles it and however often (`Effect.spent`). So a record
that has used them up is never handed to a worker again, and while it is pending an operator is told
of it.
-/

namespace EventRelay.Depot

/-- The record with the id, if it is stored, has used up its attempts, and no transaction has it
staged. -/
structure Spent (d : Depot) (n : Nat) (id : Uuid) (maxAttempts : UInt32) : Prop where
  used : ∀ r ∈ d.records n, r.id = id → maxAttempts ≤ r.attempts
  unstaged : ∀ r ∈ d.staged n, r.id ≠ id

section
variable {d d' : Depot} {op : Operation} {a : Answer} {n : Nat} {id : Uuid} {policy : Policy}
variable {maxAttempts : UInt32}

/-- What is claimed was claimable under the policy of whoever has claimed it. -/
theorem Effect.claimable_of_claimed (hd : Effect d op a d') (h : id ∈ claimedFrom n (op, a)) :
    ∃ policy ∈ op.policyFor n, ∃ now, ∃ r ∈ d.records n, r.id = id ∧
      r.claimable now policy.maxAttempts = true := by
  obtain ⟨policy, worker, now, claims, r, hr, hid, claimable, -⟩ := hd.exists_of_claimed h
  refine ⟨policy, ?_, now, r, hr, hid, claimable⟩
  rcases claims with ⟨limit, rfl⟩ | rfl
  · exact if_pos rfl
  · exact if_pos rfl

/-- A spent record is not claimed. -/
theorem Spent.not_claimed (h : d.Spent n id policy.maxAttempts) (hd : Effect d op a d')
    (same : ∀ p ∈ op.policyFor n, p = policy) : id ∉ claimedFrom n (op, a) := by
  intro hclaim
  obtain ⟨p, hp, now, r, hr, hid, claimable⟩ := hd.claimable_of_claimed hclaim
  obtain rfl := same p hp
  obtain ⟨-, -, left⟩ := Record.claimable_iff.1 claimable
  exact UInt32.not_lt.2 (h.used r hr hid) left

/-- **One step leaves a spent record spent.** -/
theorem Effect.spent (filed : d.Filed) (hd : Effect d op a d') (old : op.made ≠ some id)
    (h : d.Spent n id maxAttempts) : d'.Spent n id maxAttempts := by
  constructor
  · intro r' hr' hid
    obtain ⟨r, hr, hid₀, hc⟩ := hd.backward_of_old filed old h.unstaged hr' hid
    exact UInt32.le_trans (h.used r hr hid₀) hc.tallies.grow
  · exact hd.unstaged_of_old old h.unstaged

/-- Ids are distinct in a sound store, so that it is enough to look at the record itself. -/
theorem Sound.spent (h : d.Sound) {r : Record} (hr : r ∈ d.records n)
    (used : maxAttempts ≤ r.attempts) : d.Spent n r.id maxAttempts := by
  constructor
  · intro r' hr' hid
    rwa [h.eq_of_id hr' hr hid]
  · exact fun r' hr' hid => h.unstaged hr hr' hid.symm

end

/-! ## Runs -/

section
variable {past later : List Moment} {d d' : Depot} {n : Nat} {id : Uuid} {policy : Policy}

/-- A spent record stays spent, and none of the moments claims it. -/
theorem spent_along (h : Consistent past d) (run : Run Does d later d')
    (fresh : FreshIds (past ++ later)) (under : UnderPolicy n policy later)
    (made : id ∈ madeIds past) (spent : d.Spent n id policy.maxAttempts) :
    d'.Spent n id policy.maxAttempts ∧ ∀ y ∈ later, id ∉ claimedFrom n y.event := by
  have step : ∀ done y, Consistent (past ++ done) y.before →
      Consistent ((past ++ done) ++ [y]) y.after → FreshIds ((past ++ done) ++ [y]) →
      Effect y.before y.event.1 y.event.2 y.after →
      (UnderPolicy n policy done →
        y.before.Spent n id policy.maxAttempts ∧ ∀ z ∈ done, id ∉ claimedFrom n z.event) →
      UnderPolicy n policy (done ++ [y]) →
        y.after.Spent n id policy.maxAttempts ∧ ∀ z ∈ done ++ [y], id ∉ claimedFrom n z.event := by
    intro done y old new fresh effect hdone under
    obtain ⟨before, unclaimed⟩ := hdone fun z hz => under z (List.mem_append_left _ hz)
    have unmade : y.event.1.made ≠ some id :=
      fun hmade => FreshIds.new fresh hmade (mem_madeIds_append made)
    refine ⟨effect.spent old.sound.filed unmade before, fun z hz => ?_⟩
    rcases List.mem_append.1 hz with hz | hz
    · exact unclaimed z hz
    · cases List.mem_singleton.1 hz
      exact before.not_claimed effect (under y (by simp))
  have start : UnderPolicy n policy [] →
      d.Spent n id policy.maxAttempts ∧ ∀ z ∈ ([] : List Moment), id ∉ claimedFrom n z.event :=
    fun _ => ⟨spent, by simp⟩
  exact h.along
    (P := fun done d => UnderPolicy n policy done →
      d.Spent n id policy.maxAttempts ∧ ∀ z ∈ done, id ∉ claimedFrom n z.event)
    run fresh step start under

end

/-- A listing that may be as long as the store is large holds every exhausted record. -/
theorem mem_exhausted {s : Store} {policy : Policy} {limit : Nat} {r : Record}
    (unpoisoned : s.poisoned = false) (large : s.contents.rows.length ≤ limit)
    (hr : r ∈ s.contents.records) (exhausted : r.exhausted policy.maxAttempts = true) :
    ∃ rs, s.exhausted policy limit = .ok rs ∧ r ∈ rs := by
  have answer : s.exhausted policy limit =
      .ok ((s.contents.records.filter (·.exhausted policy.maxAttempts)).take limit) := by
    simp [Store.exhausted, Store.look, unpoisoned]
  have all : (s.contents.records.filter (·.exhausted policy.maxAttempts)).length ≤ limit :=
    Nat.le_trans (List.length_filter_le ..) (by rwa [Contents.records, List.length_map])
  rw [List.take_of_length_le all] at answer
  exact ⟨_, answer, List.mem_filter.2 ⟨hr, exhausted⟩⟩

/-- **What is exhausted stays exhausted.** Take a run of any operations in which no id was made
twice, and a record that has used up its attempts at some moment of it. Whatever the clients of the
store do from then on, with the policy of the store and with any arguments and clocks: no claim
answers the record again; and as long as it is stored its attempts are used up, and while it is
pending a listing of the exhausted records that may be as long as the store is large holds it. -/
theorem exhausted_stays_exhausted {k n : Nat} {policy : Policy} {past later : List Moment}
    {d d' : Depot} {r : Record} (run : Run Does (start k) past d) (further : Run Does d later d')
    (fresh : FreshIds (past ++ later)) (under : UnderPolicy n policy later)
    (hr : r ∈ d.records n) (used : policy.maxAttempts ≤ r.attempts) :
    (∀ y ∈ later, r.id ∉ claimedFrom n y.event) ∧
      ∀ s, d'.stores[n]? = some s → ∀ r' ∈ s.contents.records, r'.id = r.id →
        policy.maxAttempts ≤ r'.attempts ∧
          (r'.status = .pending → ∀ limit, s.contents.rows.length ≤ limit →
            ∃ rs, s.exhausted policy limit = .ok rs ∧ r' ∈ rs) := by
  have before := consistent_of_run run
    (fresh.sublist ((List.sublist_append_left past later).filterMap _))
  have after := consistent_of_run (run_append.2 ⟨d, run, further⟩) fresh
  have made := before.known n r (List.mem_append_left _ hr)
  obtain ⟨spent, unclaimed⟩ :=
    spent_along before further fresh under made (before.sound.spent hr used)
  refine ⟨unclaimed, fun s hs r' hr' hid => ?_⟩
  obtain ⟨lock, hc⟩ := after.healthy.getElem? hs
  have used' : policy.maxAttempts ≤ r'.attempts := spent.used r' (by rwa [records_eq hc]) hid
  refine ⟨used', fun pending limit large => mem_exhausted (by rw [lock]) large hr' ?_⟩
  simp [Record.exhausted, pending, used']

def onlyOnce : Policy := { Policy.default with maxAttempts := 1 }

/-- The worker `w` loses its record to the worker `v`, and both fail to deliver it; then the clock
jumps. -/
def bothFail : List Operation :=
  [.enqueue 0 (.ofNat 1) (.brief none) .epoch, .claimBatch 0 onlyOnce 10 "w" .epoch,
    .recoverStuck 0 .zero (Instant.epoch.later (.ofSeconds 1)),
    .claimBatch 0 onlyOnce 10 "v" (Instant.epoch.later (.ofSeconds 2)),
    .reschedule 0 onlyOnce (.ofNat 1) "reset" 0 (Instant.epoch.later (.ofSeconds 3)),
    .reschedule 0 onlyOnce (.ofNat 1) "timed out" 0 (Instant.epoch.later (.ofSeconds 4)),
    .recoverStuck 0 .zero .latest, .claimBatch 0 onlyOnce 10 "w" .latest]

/-- With a single attempt allowed the record is spent after the first failure, and neither the
second failure nor a clock that jumps brings it back. -/
theorem exhausted_stays_exhausted_bothFail :
    ∃ r ∈ (((start 1).after (bothFail.take 5))).records 0, r.attempts = 1 ∧
      FreshIds ((start 1).moments bothFail) ∧
      (∀ y ∈ ((start 1).after (bothFail.take 5)).moments (bothFail.drop 5),
        r.id ∉ claimedFrom 0 y.event) ∧
      ∃ s, ((start 1).after bothFail).stores[0]? = some s ∧
        ∃ r' rs, r'.id = r.id ∧ r'.attempts = 2 ∧ s.exhausted onlyOnce 1 = .ok rs ∧ r' ∈ rs := by
  have fresh : FreshIds ((start 1).moments bothFail) := by decide +kernel
  have run := run_moments (start 1) (bothFail.take 5)
  have further := run_moments ((start 1).after (bothFail.take 5)) (bothFail.drop 5)
  have under : UnderPolicy 0 onlyOnce
      (((start 1).after (bothFail.take 5)).moments (bothFail.drop 5)) := by decide +kernel
  obtain ⟨r, hr, attempts, s, hs, large, r', hr', hid, pending, attempts'⟩ : ∃ r,
      r ∈ ((start 1).after (bothFail.take 5)).records 0 ∧ r.attempts = 1 ∧ ∃ s,
      ((start 1).after bothFail).stores[0]? = some s ∧ s.contents.rows.length ≤ 1 ∧ ∃ r',
      r' ∈ s.contents.records ∧ r'.id = r.id ∧ r'.status = .pending ∧ r'.attempts = 2 :=
    ⟨_, List.mem_cons_self, rfl, _, rfl, by decide, _, List.mem_cons_self, rfl, rfl, rfl⟩
  have result := exhausted_stays_exhausted run further fresh under hr (by rw [attempts]; decide)
  obtain ⟨rs, listed, hrs⟩ := (result.2 s hs r' hr' hid).2 pending 1 large
  exact ⟨r, hr, attempts, fresh, result.1, s, hs, r', rs, hid, attempts', listed, hrs⟩

end EventRelay.Depot
