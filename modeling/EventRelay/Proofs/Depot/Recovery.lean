import EventRelay.Proofs.Depot.Soundness
import EventRelay.Proofs.Store.Claiming
import EventRelay.Proofs.Time

/-!
# Recovery strands nothing

A record in the hands of a worker was due when it was claimed and had attempts left, and nothing
that happens to it while it is in these hands takes this away (`Record.Redeemable`,
`Effect.redeemable`). What a recovery releases was claimed before its cutoff, and the cutoff is not
after the time of the recovery (`Instant.earlier_le`), so that it can be claimed again at once,
whatever the clock has shown in between.
-/

namespace EventRelay

/-- If the record is in the hands of a worker, it was due when it was claimed and has attempts
left. -/
def Record.Redeemable (maxAttempts : UInt32) (r : Record) : Prop :=
  r.status = .publishing →
    ∃ since, r.lockedAt = some since ∧ r.nextAttemptAt ≤ since ∧ r.attempts < maxAttempts

def Operation.policyFor (n : Nat) : Operation → Option Policy
  | .claimBatch m policy _ _ _ | .claimOne m policy _ _ | .reschedule m policy _ _ _ _
  | .exhausted m policy _ => if m = n then some policy else none
  | _ => none

/-- All clients of the store `n` have the same policy, as its clones do. -/
def UnderPolicy (n : Nat) (policy : Policy) (history : List Depot.Moment) : Prop :=
  ∀ x ∈ history, ∀ p ∈ x.event.1.policyFor n, p = policy

instance (n : Nat) (policy : Policy) (history : List Depot.Moment) :
    Decidable (UnderPolicy n policy history) :=
  inferInstanceAs (Decidable (∀ x ∈ history, ∀ p ∈ x.event.1.policyFor n, p = policy))

/-- A row whose record was in the hands of a worker is pending in the second store. -/
def Store.Releases (s s' : Store) (r r' : Record) : Prop :=
  ∃ seq, (seq, r) ∈ s.contents.rows ∧ (seq, r') ∈ s'.contents.rows ∧
    r.status = .publishing ∧ r'.status = .pending

/-! ## Records in the hands of workers -/

section
variable {r : Record} {maxAttempts : UInt32} {now : Instant}

/-- A pending record is in nobody's hands, so that there is nothing to be redeemed. -/
theorem Record.redeemable_of_pending (h : r.status = .pending) : r.Redeemable maxAttempts := by
  intro hp
  rw [h] at hp
  cases hp

/-- A record that was claimable when it was claimed can be taken back and claimed again. -/
theorem Record.redeemable_claim (worker : String) (h : r.claimable now maxAttempts = true) :
    (r.claim worker now).Redeemable maxAttempts := by
  obtain ⟨-, due, left⟩ := Record.claimable_iff.1 h
  exact fun _ => ⟨now, rfl, due, left⟩

/-- A record that has been held for longer than a threshold can be claimed as soon as it is
released. -/
theorem Record.Redeemable.claimable_release (h : r.Redeemable maxAttempts) {threshold : Duration}
    (stale : r.stale (now.earlier threshold) = true) :
    r.release.claimable now maxAttempts = true := by
  obtain ⟨publishing, since, held, before⟩ := Record.stale_iff.1 stale
  obtain ⟨since', held', due, left⟩ := h publishing
  obtain rfl : since' = since := Option.some.inj (held'.symm.trans held)
  have ready : r.nextAttemptAt ≤ now :=
    Instant.le_trans due
      (Instant.le_trans (Instant.le_of_lt before) (Instant.earlier_le now threshold))
  exact Record.claimable_iff.2 ⟨rfl, ready, left⟩

end

/-! ## Steps and runs -/

namespace Depot

section
variable {d d' : Depot} {op : Operation} {a : Answer} {n : Nat} {policy : Policy}

/-- The records that the store `n` holds or may still take in are redeemable. -/
def Redeemable (d : Depot) (n : Nat) (maxAttempts : UInt32) : Prop :=
  ∀ r ∈ d.records n ++ d.staged n, r.Redeemable maxAttempts

theorem redeemable_start (k n : Nat) (maxAttempts : UInt32) :
    (start k).Redeemable n maxAttempts := by
  intro r hr
  simp [records] at hr

/-- Under one policy no operation makes a record irredeemable. -/
theorem Change.redeemable {r r' : Record} (h : Change n op r r')
    (same : ∀ p ∈ op.policyFor n, p = policy) (hr : r.Redeemable policy.maxAttempts) :
    r'.Redeemable policy.maxAttempts := by
  cases h with
  | kept => exact hr
  | claimed claimable =>
    cases same _ (if_pos rfl)
    exact Record.redeemable_claim _ claimable
  | claimedOne claimable =>
    cases same _ (if_pos rfl)
    exact Record.redeemable_claim _ claimable
  | marked => exact fun hp => nomatch hp
  | rescheduled | released => exact Record.redeemable_of_pending rfl

/-- **No step strands a record.** -/
theorem Effect.redeemable (filed : d.Filed) (hd : Effect d op a d')
    (same : ∀ p ∈ op.policyFor n, p = policy) (h : d.Redeemable n policy.maxAttempts) :
    d'.Redeemable n policy.maxAttempts := by
  intro r' hr'
  rcases List.mem_append.1 hr' with hr' | hr'
  · rcases hd.backward filed hr' with ⟨r, hr, hc⟩ | henter
    · exact hc.redeemable same (h r (List.mem_append_left _ hr))
    · cases henter with
      | enqueued => exact Record.redeemable_of_pending rfl
      | committed htx hn hin =>
        exact h r' (List.mem_append_right _ (mem_staged.2 ⟨_, _, htx, hn, hin⟩))
  · rcases hd.staged_backward hr' with hr | ⟨t, id, e, now, -, -, rfl⟩
    · exact h r' (List.mem_append_right _ hr)
    · exact Record.redeemable_of_pending rfl

/-- All records of a run under one policy are redeemable in the end. -/
theorem redeemable_of_run {k : Nat} {history : List Moment} (run : Run Does (start k) history d)
    (under : UnderPolicy n policy history) :
    d.Healthy ∧ d.Filed ∧ d.Redeemable n policy.maxAttempts := by
  have keep : ∀ past x, (UnderPolicy n policy past →
      x.before.Healthy ∧ x.before.Filed ∧ x.before.Redeemable n policy.maxAttempts) →
      x.before.Does x.event x.after → UnderPolicy n policy (past ++ [x]) →
      x.after.Healthy ∧ x.after.Filed ∧ x.after.Redeemable n policy.maxAttempts := by
    intro past x h hx under
    obtain ⟨healthy, filed, redeemable⟩ := h fun y hy => under y (List.mem_append_left _ hy)
    have effect : Effect x.before x.event.1 x.event.2 x.after := healthy.effect hx
    exact ⟨(effect.healthy healthy).1, effect.filed filed,
      effect.redeemable filed (under x (by simp)) redeemable⟩
  have base : UnderPolicy n policy [] →
      (start k).Healthy ∧ (start k).Filed ∧ (start k).Redeemable n policy.maxAttempts :=
    fun _ => ⟨healthy_start k, filed_start k, redeemable_start k n policy.maxAttempts⟩
  exact Run.invariant
    (P := fun past d => UnderPolicy n policy past →
      d.Healthy ∧ d.Filed ∧ d.Redeemable n policy.maxAttempts)
    keep run base under

end
end Depot

/-! ## What a recovery releases -/

section
variable {c : Contents}

/-- A recovery takes no row out. -/
theorem Contents.length_recover (c : Contents) (cutoff : Instant) :
    (c.recover cutoff).2.rows.length = c.rows.length :=
  List.length_map ..

/-- What a recovery releases was stale, and nothing but its lock has changed. -/
theorem Store.Releases.of_recover (filed : c.Filed) {cutoff : Instant} {r r' : Record}
    (h : (⟨c, false⟩ : Store).Releases ⟨(c.recover cutoff).2, false⟩ r r') :
    r.stale cutoff = true ∧ r' = r.release := by
  obtain ⟨seq, hr, hr', publishing, pending⟩ := h
  obtain ⟨rows, heq, hrows⟩ := c.recover_rows cutoff
  rw [heq] at hr'
  obtain ⟨r₀, hr₀, hc⟩ := hrows.backward hr'
  obtain rfl := filed.eq_of_seq hr hr₀
  split at hc
  · exact ⟨‹_›, hc⟩
  · rw [hc, publishing] at pending
    cases pending

/-- A batch that may be as large as the store takes every claimable record. -/
theorem Contents.claimUpTo_all {policy : Policy} {worker : String} {now : Instant} {limit : Nat}
    (large : c.rows.length ≤ limit) {r : Record} (hr : r ∈ c.records)
    (claimable : r.claimable now policy.maxAttempts = true) :
    r.claim worker now ∈ (c.claimUpTo policy worker now limit).1 := by
  have all : (c.records.filter (·.claimable now policy.maxAttempts)).length ≤ limit :=
    Nat.le_trans (List.length_filter_le ..) (by rwa [records, List.length_map])
  rw [claimUpTo_eq, List.take_of_length_le all]
  exact List.mem_map_of_mem (List.mem_filter.2 ⟨hr, claimable⟩)

end

/-- **Recovery strands nothing.** At the end of any run of any operations whose clients share the
policy of the store, whatever their clocks have shown: every record in the hands of a worker was
due when it was claimed and has attempts left. What a recovery releases, at any time and for any
threshold, can be claimed at this very time, with its attempts and its error as before, and a claim
of a large enough batch at this time returns all of it. -/
theorem Depot.recovery_strands_nothing {k n : Nat} {policy : Policy} {history : List Depot.Moment}
    {d : Depot} (run : Run Depot.Does (Depot.start k) history d)
    (under : UnderPolicy n policy history) {s : Store} (hs : d.stores[n]? = some s) :
    (∀ r ∈ s.contents.records, r.status = .publishing →
      ∃ since, r.lockedAt = some since ∧ r.nextAttemptAt ≤ since ∧
        r.attempts < policy.maxAttempts) ∧
    ∀ threshold now, ∃ count s', s.recoverStuck threshold now = .ok (count, s') ∧
      (∀ r r', s.Releases s' r r' → r'.claimable now policy.maxAttempts = true ∧
        r'.attempts = r.attempts ∧ r'.error = r.error) ∧
      ∀ limit worker, s.contents.rows.length ≤ limit → ∃ rs s'',
        s'.claimBatch policy limit worker now = .ok (rs, s'') ∧
        ∀ r r', s.Releases s' r r' → r'.claim worker now ∈ rs := by
  obtain ⟨healthy, filed, redeemable⟩ := redeemable_of_run run under
  obtain ⟨lock, hc⟩ := healthy.getElem? hs
  have held : ∀ r ∈ s.contents.records, r.Redeemable policy.maxAttempts := fun r hr =>
    redeemable r (List.mem_append_left _ (by rwa [records_eq hc]))
  refine ⟨held, fun threshold now => ?_⟩
  rw [lock]
  refine ⟨_, ⟨(s.contents.recover (now.earlier threshold)).2, false⟩, rfl, ?_, ?_⟩
  · intro r r' h
    obtain ⟨stale, rfl⟩ := h.of_recover (filed n _ hc)
    obtain ⟨seq, hr, -⟩ := h
    exact ⟨(held r (List.mem_map_of_mem hr)).claimable_release stale, rfl, rfl⟩
  · intro limit worker large
    obtain ⟨rs, s'', claimed, hrs⟩ : ∃ rs s'',
        (⟨(s.contents.recover (now.earlier threshold)).2, false⟩ : Store).claimBatch policy limit
          worker now = .ok (rs, s'') ∧
        rs = ((s.contents.recover (now.earlier threshold)).2.claimUpTo policy worker now limit).1
        := by
      cases limit with
      | zero => exact ⟨_, _, rfl, rfl⟩
      | succ limit => exact ⟨_, _, rfl, rfl⟩
    refine ⟨rs, s'', claimed, fun r r' h => ?_⟩
    obtain ⟨stale, rfl⟩ := h.of_recover (filed n _ hc)
    obtain ⟨seq, hr, hr', -⟩ := h
    have claimable := (held r (List.mem_map_of_mem hr)).claimable_release stale
    rw [hrs]
    exact Contents.claimUpTo_all (by rwa [Contents.length_recover]) (List.mem_map_of_mem hr')
      claimable

/-- A record fails, is put off and is claimed again, while the clock is set back in between. -/
def Depot.clockSetBack : List Operation :=
  [.enqueue 0 (.ofNat 1) (.brief none) (Instant.epoch.later (.ofSeconds 1000)),
    .claimBatch 0 .default 10 "v" (Instant.epoch.later (.ofSeconds 1000)),
    .reschedule 0 .default (.ofNat 1) "reset" 0 (Instant.epoch.later (.ofSeconds 20)),
    .claimBatch 0 .default 10 "w" (Instant.epoch.later (.ofSeconds 25))]

/-- The record that was claimed under a clock set back is recovered, claimable at once, and returned
by the next batch. -/
theorem Depot.recovery_strands_nothing_clockSetBack :
    UnderPolicy 0 .default ((start 1).moments clockSetBack) ∧
      ∃ s r s', ((start 1).after clockSetBack).stores[0]? = some s ∧
        s.recoverStuck (.ofSeconds 300) (Instant.epoch.later (.ofSeconds 400)) = .ok (1, s') ∧
        s.Releases s' r r.release ∧
        r.release.claimable (Instant.epoch.later (.ofSeconds 400)) 10 = true ∧
        r.release.attempts = 1 ∧ r.release.error = some "reset" := by
  have under : UnderPolicy 0 .default ((start 1).moments clockSetBack) := by decide +kernel
  obtain ⟨s, hs, seq, r, hrow, publishing, attempts, error, s', recovered, hrow'⟩ : ∃ s,
      ((start 1).after clockSetBack).stores[0]? = some s ∧ ∃ seq r, (seq, r) ∈ s.contents.rows ∧
      r.status = .publishing ∧ r.attempts = 1 ∧ r.error = some "reset" ∧ ∃ s',
      s.recoverStuck (.ofSeconds 300) (Instant.epoch.later (.ofSeconds 400)) = .ok (1, s') ∧
      (seq, r.release) ∈ s'.contents.rows :=
    ⟨_, rfl, _, _, List.mem_cons_self, rfl, rfl, rfl, _, rfl, List.mem_cons_self⟩
  have released : s.Releases s' r r.release := ⟨seq, hrow, hrow', publishing, rfl⟩
  refine ⟨under, s, r, s', hs, recovered, released, ?_, attempts, error⟩
  obtain ⟨count, s₁, recovered', claimable, -⟩ :=
    (recovery_strands_nothing (run_moments (start 1) clockSetBack) under hs).2
      (.ofSeconds 300) (Instant.epoch.later (.ofSeconds 400))
  obtain ⟨-, rfl⟩ : 1 = count ∧ s' = s₁ := by simpa using recovered.symm.trans recovered'
  exact (claimable r r.release released).1

end EventRelay
