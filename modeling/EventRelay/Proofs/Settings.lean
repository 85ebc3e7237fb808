import EventRelay.Failure
import EventRelay.Proofs.Depot.Effects
import EventRelay.Proofs.Time
import EventRelay.Settings.Basic

/-!
# Accepted settings

`Settings.validate_eq_ok_iff` says which settings are accepted. What this means for retries is
`Settings.retry_curve_ascends`: the delays begin at the base and rise to the cap, and a record that
has failed more often is put off at least as far. The number of attempts may be any there is, as
large as the base and the cap may be: delays that are computed, delays that are cut off, and points
in time that run into the end of time are all in the same order as the attempts.
-/

namespace EventRelay

namespace Settings

/-! ## Acceptance -/

/-- A demand is met exactly if its condition holds. -/
theorem demand_eq_ok_iff {condition : Bool} {field reason : String} {u : Unit} :
    demand condition field reason = .ok u ↔ condition = true := by
  cases condition with
  | true => simp [demand]
  | false => simp [demand]

/-- All numbers pass exactly if none of them is zero. -/
theorem checkPositive_eq_ok_iff {fields : List (String × UInt64)} {u : Unit} :
    checkPositive fields = .ok u ↔ ∀ field ∈ fields, field.2 ≠ 0 := by
  unfold checkPositive
  cases zero : fields.find? (·.2 = 0) with
  | none => simpa using zero
  | some field =>
    have here : field ∈ fields := List.mem_of_find?_eq_some zero
    have value : field.2 = 0 := by simpa using List.find?_some zero
    constructor
    · nofun
    · intro positive
      exact absurd value (positive field here)

/-- What settings have to satisfy. -/
structure Accepted (s : Settings) : Prop where
  positive : ∀ field ∈ positiveFields s.dispatcher, field.2 ≠ 0
  workerId : ∀ w, s.dispatcher.workerId = some w → Text.blank w = false
  attempts : s.policy.maxAttempts ≠ 0
  backoff : s.policy.backoffBaseMs ≤ s.policy.backoffCapMs
  storeUrl : s.store.kind = .postgres → s.store.url.isSome = true
  brokerUrl : s.broker.kind = .amqp → s.broker.url.isSome = true

/-- **What it takes to be accepted**: exactly the conditions of `Accepted`, whatever the order of
the checks is. -/
theorem validate_eq_ok_iff {s : Settings} : s.validate = .ok () ↔ s.Accepted := by
  have named : (!(s.dispatcher.workerId.map Text.blank).getD false) = true ↔
      ∀ w, s.dispatcher.workerId = some w → Text.blank w = false := by
    cases s.dispatcher.workerId with
    | none => simp
    | some w => simp
  have store : (decide (s.store.kind ≠ .postgres) || s.store.url.isSome) = true ↔
      (s.store.kind = .postgres → s.store.url.isSome = true) := by
    simp [imp_iff_not_or]
  have broker : (decide (s.broker.kind ≠ .amqp) || s.broker.url.isSome) = true ↔
      (s.broker.kind = .amqp → s.broker.url.isSome = true) := by
    simp [imp_iff_not_or]
  simp only [validate, bind_eq_ok_iff, checkPositive_eq_ok_iff, demand_eq_ok_iff, named, store,
    broker, decide_eq_true_eq]
  constructor
  · rintro ⟨_, positive, _, workerId, _, attempts, _, backoff, _, storeUrl, brokerUrl⟩
    exact ⟨positive, workerId, attempts, backoff, storeUrl, brokerUrl⟩
  · intro h
    exact ⟨(), h.positive, (), h.workerId, (), h.attempts, (), h.backoff, (), h.storeUrl,
      h.brokerUrl⟩

/-- Accepted settings have no base above the cap, also as durations. -/
theorem Accepted.base_le_cap {s : Settings} (h : s.Accepted) :
    s.outboxPolicy.backoff.base ≤ s.outboxPolicy.backoff.cap := by
  rw [Duration.le_def]
  exact Nat.mul_le_mul_right 1000000 (UInt64.le_iff_toNat_le.1 h.backoff)

end Settings

/-! ## Putting off -/

/-- A failure after so many attempts is noted, and the record is put off until `next`. -/
def Store.PutsOff (s : Store) (policy : Policy) (id : Uuid) (error : String) (attempts : UInt32)
    (now next : Instant) : Prop :=
  ∃ entries s' r, s.reschedule policy id error attempts now = .ok (entries, s') ∧
    s'.get? id = .ok (some r) ∧ r.nextAttemptAt = next

/-- A failed delivery of a record that is held puts it off by the delay of its attempts, counted
from the reading. -/
theorem Store.putsOff {s : Store} {id : Uuid} {r : Record} (h : s.get? id = .ok (some r))
    (policy : Policy) (error : String) (attempts : UInt32) (now : Instant) :
    s.PutsOff policy id error attempts now (now.later (policy.backoff.delay attempts)) := by
  obtain ⟨c, poisoned⟩ := s
  cases poisoned with
  | true => cases h
  | false =>
    have held : c.get? id = some r := Except.ok.inj h
    refine ⟨_, _, r.reschedule error (now.later (policy.backoff.delay attempts)),
      Depot.reschedule_store_eq policy id error attempts now c, ?_, rfl⟩
    exact congrArg Except.ok ((Contents.get?_update c id _).trans (by rw [held, Option.map_some]))

/-- **The delays of accepted settings ascend.** If settings are accepted and `n` attempts are not
more than `m`, then the delay with no attempt is exactly the base, and the delays with `n` and with
`m` attempts stand in this order between the base and the cap. If a record is held and the clock can
be read, a failure is noted with either number of attempts and puts the record off by its delay,
counted from the reading, so that `m` attempts put it off at least as far as `n` attempts do. -/
theorem Settings.retry_curve_ascends {s : Settings} (accepted : s.validate = .ok ())
    {n m : UInt32} (le : n ≤ m) :
    (s.outboxPolicy.backoff.delay 0).nanos = s.policy.backoffBaseMs.toNat * 1000000 ∧
    s.policy.backoffBaseMs.toNat * 1000000 ≤ (s.outboxPolicy.backoff.delay n).nanos ∧
    (s.outboxPolicy.backoff.delay n).nanos ≤ (s.outboxPolicy.backoff.delay m).nanos ∧
    (s.outboxPolicy.backoff.delay m).nanos ≤ s.policy.backoffCapMs.toNat * 1000000 ∧
    ∀ (clock : Clock) (now : Instant), clock.read = .ok now →
      ∀ (store : Store) (id : Uuid) (r : Record) (error : String), store.get? id = .ok (some r) →
        store.PutsOff s.outboxPolicy id error n now
            (now.later (s.outboxPolicy.backoff.delay n)) ∧
          store.PutsOff s.outboxPolicy id error m now
            (now.later (s.outboxPolicy.backoff.delay m)) ∧
          now.later (s.outboxPolicy.backoff.delay n) ≤
            now.later (s.outboxPolicy.backoff.delay m) := by
  have base_le_cap := (validate_eq_ok_iff.1 accepted).base_le_cap
  have ascend : s.outboxPolicy.backoff.delay n ≤ s.outboxPolicy.backoff.delay m :=
    s.outboxPolicy.backoff.delay_le_delay le
  refine ⟨?_, Backoff.base_le_delay base_le_cap n, ascend, s.outboxPolicy.backoff.delay_le_cap m,
    ?_⟩
  · rw [Backoff.delay_zero base_le_cap]
    rfl
  · intro clock now read store id r error held
    have ordinary := (Instant.ordinary_of_read read).1
    exact ⟨Store.putsOff held s.outboxPolicy error n now,
      Store.putsOff held s.outboxPolicy error m now,
      Instant.later_mono ordinary ordinary now.le_refl ascend⟩

/-- The settings of a relay that starts with a millisecond and waits for up to a hundred days. -/
def Settings.patient : Settings := { Settings.default with policy := ⟨50, 1, 8640000000⟩ }

/-- The first event is put off by what 31 attempts ask for, and then by the whole hundred days. -/
theorem Settings.retry_curve_ascends_patient :
    let backoff := patient.outboxPolicy.backoff
    patient.validate = .ok () ∧ (Clock.ofInstant .epoch).read = .ok .epoch ∧
    (backoff.delay 31).nanos < (backoff.delay 32).nanos ∧
    (backoff.delay 32).nanos ≤ 8640000000 * 1000000 ∧
    ∃ s r, ((Depot.start 1).after
        [.enqueue 0 (.ofNat 1) (.brief none) .epoch]).stores[0]? = some s ∧
      s.get? (.ofNat 1) = .ok (some r) ∧
      s.PutsOff patient.outboxPolicy (.ofNat 1) "reset" 31 .epoch
        (Instant.epoch.later (backoff.delay 31)) ∧
      s.PutsOff patient.outboxPolicy (.ofNat 1) "reset" 32 .epoch
        (Instant.epoch.later (backoff.delay 32)) ∧
      Instant.epoch.later (backoff.delay 31) ≤ Instant.epoch.later (backoff.delay 32) := by
  intro backoff
  have accepted : patient.validate = .ok () := by decide +kernel
  have read : (Clock.ofInstant .epoch).read = .ok .epoch := by decide +kernel
  obtain ⟨s, r, hs, held⟩ : ∃ s r, ((Depot.start 1).after
      [.enqueue 0 (.ofNat 1) (.brief none) .epoch]).stores[0]? = some s ∧
      s.get? (.ofNat 1) = .ok (some r) := ⟨_, _, rfl, rfl⟩
  obtain ⟨-, -, -, cap, putOff⟩ := retry_curve_ascends accepted
    (n := 31) (m := 32) (by decide)
  obtain ⟨first, second, le⟩ := putOff _ _ read s (.ofNat 1) r "reset" held
  exact ⟨accepted, read, by decide +kernel, cap, s, r, hs, held, first, second, le⟩

end EventRelay
