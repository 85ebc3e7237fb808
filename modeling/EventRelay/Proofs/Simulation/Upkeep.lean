import EventRelay.Proofs.Service
import EventRelay.Proofs.Simulation.Waiting

/-!
# The pace of upkeep

A round of upkeep makes one call and breaks off if and only if the clock cannot be read for it
(`perform_upkeep`). A loop of upkeep whose runs take no time makes its calls at the multiples of its
interval until one of them breaks off, so that the number of its calls in the first milliseconds
follows from its interval, the clock and the plans for its calls (`Pace.Count.unique`).
-/

namespace EventRelay

/-! ## Whole milliseconds -/

theorem ceilMillis_mul_add (millis nanos : Nat) :
    ceilMillis (millis * nanosPerMilli + nanos) = millis + ceilMillis nanos := by
  rw [ceilMillis, Nat.add_assoc, Nat.add_comm, Nat.add_mul_div_right _ _ (by decide), Nat.add_comm,
    ceilMillis]

/-- A whole number of milliseconds is not rounded at all. -/
theorem ceilMillis_mul (millis : Nat) : ceilMillis (millis * nanosPerMilli) = millis := by
  have zero : ceilMillis 0 = 0 := rfl
  have whole := ceilMillis_mul_add millis 0
  rwa [zero, Nat.add_zero, Nat.add_zero] at whole

theorem ceilMillis_mono {a b : Nat} (h : a ≤ b) : ceilMillis a ≤ ceilMillis b :=
  Nat.div_le_div_right (Nat.add_le_add_right h _)

namespace Simulation

/-! ## One round of upkeep -/

/-- The next call of a loop of upkeep breaks off: the clock cannot be read, and no plan makes the
call fail before it is. -/
def Breaks (clock : Clock) (plan : Option StorePlan) : Prop :=
  (∃ fault, clock.read = .error fault) ∧ ∀ failure, plan ≠ some (.fail failure)

namespace World
variable {α : Type} (w : World) (n : Nat)

/-- An operation that reads the clock first can break only by a clock that cannot be read. -/
theorem readingFirst_breaks (operation : Store → Instant → Except Failure (α × Store)) :
    (∃ fault, (w.readingFirst n operation).1 = .error fault) ↔
      ∃ fault, w.clock.read = .error fault := by
  unfold readingFirst
  cases w.clock.read <;> simp

/-- A call that reads the clock first breaks off if and only if the clock cannot be read and no plan
makes the call fail before. -/
theorem failOr_breaks (call : Call) (plans : Plans) (planned : Option StorePlan)
    (operation : Store → Instant → Except Failure (α × Store)) :
    (∃ fault, (w.failOr call plans planned (·.readingFirst n operation)).1 = .error fault) ↔
      Breaks w.clock planned := by
  unfold failOr Breaks
  dsimp only
  split
  · simp
  · rename_i unplanned
    exact (readingFirst_breaks ..).trans ⟨fun h => ⟨h, unplanned⟩, And.left⟩

/-- What a round of upkeep does with the answer is written to the journal. -/
theorem perform_upkeep_rest (agent : Nat) (message field failed : String)
    (answer : Except Failure Nat) :
    ∃ v, perform agent ((Dispatcher.upkeep message field failed answer).andThen fun _ => .done ())
        w = (.finished, v) ∧ Makes w v [] := by
  rcases answer with e | (_ | k)
  · exact ⟨_, rfl, .note ..⟩
  · exact ⟨_, rfl, .refl w⟩
  · exact ⟨_, rfl, .note ..⟩

/-- Behind its call a round of upkeep makes no other one; it panics exactly if the call does. -/
theorem goOn_upkeep (agent : Nat) {w : World} {x : Ending Nat × World} {c : Call} {broken : Prop}
    (makes : Makes w x.2 [c]) (breaks : (∃ fault, x.1 = .error fault) ↔ broken)
    (message field failed : String) :
    ∃ p v, goOn (.panicked ·.message) (fun a => perform agent
        ((Dispatcher.upkeep message field failed a).andThen fun _ => .done ())) x = (p, v) ∧
      Makes w v [c] ∧ (p = .finished ∧ ¬ broken ∨ (∃ message, p = .panicked message) ∧ broken) := by
  obtain ⟨fault | answer, v⟩ := x
  · exact ⟨_, _, rfl, makes, .inr ⟨⟨_, rfl⟩, breaks.1 ⟨fault, rfl⟩⟩⟩
  · obtain ⟨v', done, still⟩ := perform_upkeep_rest v agent message field failed answer
    refine ⟨_, v', done, makes.trans still, .inl ⟨rfl, fun h => ?_⟩⟩
    obtain ⟨fault, hfault⟩ := breaks.2 h
    cases hfault

/-- **A round of upkeep makes one call**, and breaks off if and only if this does. -/
theorem perform_upkeep (agent : Nat) {loop : Loop} (upkeep : loop ≠ .tick) :
    ∃ p v c, perform agent (w.round agent loop) w = (p, v) ∧ Makes w v [c] ∧ c.loop = loop ∧
      (p = .finished ∧ ¬ Breaks w.clock (w.plans.upkeep loop).head?.join ∨
        (∃ message, p = .panicked message) ∧ Breaks w.clock (w.plans.upkeep loop).head?.join) := by
  cases loop with
  | tick => exact absurd rfl upkeep
  | reap =>
    obtain ⟨p, v, done, makes, ending⟩ := goOn_upkeep agent
      (recoverStuck_makes w agent (w.agent agent).config.staleLockThreshold)
      (failOr_breaks ..) "recovered stuck outbox events" "recovered"
      "recover stuck publishing failed"
    exact ⟨p, v, _, done, makes, rfl, ending⟩
  | purge =>
    obtain ⟨p, v, done, makes, ending⟩ := goOn_upkeep agent
      (purgePublished_makes w agent (w.agent agent).config.retention)
      (failOr_breaks ..) "purged published outbox events" "purged"
      "purge published failed"
    exact ⟨p, v, _, done, makes, rfl, ending⟩

end World

/-! ## Pace -/

/-- The time between two runs of a loop in nanoseconds, which is cut at `Schedule.horizon` like
every wait: of intervals above thirty years nothing is meant to be said. -/
def stride (config : DispatcherConfig) (loop : Loop) : Nat :=
  min (Schedule.period (World.interval config loop)) (Schedule.horizon * nanosPerMilli)

/-- A run that is due at a multiple of the stride leads to one at the next multiple. -/
theorem next_on_pace (config : DispatcherConfig) (loop : Loop) (start k : Nat) :
    Task.next config loop (start * nanosPerMilli + k * stride config loop)
        ((start + ceilMillis (k * stride config loop)) * nanosPerMilli) =
      start * nanosPerMilli + (k + 1) * stride config loop := by
  unfold Task.next Schedule.next Schedule.tolerance stride
  generalize Schedule.period (World.interval config loop) = p
  generalize Schedule.horizon = h
  have past := le_firing (k * min p (h * nanosPerMilli))
  have soon := firing_lt (k * min p (h * nanosPerMilli))
  unfold firing at past soon
  have inTime : ¬ start * nanosPerMilli + k * min p (h * nanosPerMilli) + 5 * nanosPerMilli <
      (start + ceilMillis (k * min p (h * nanosPerMilli))) * nanosPerMilli := by
    rw [Nat.add_mul]
    omega
  dsimp only
  rw [if_neg inTime]
  rcases Nat.le_total p (h * nanosPerMilli) with short | long
  · rw [Nat.min_eq_left short] at *
    rw [Nat.min_eq_left (by rw [Nat.add_mul]; omega), Nat.add_mul k 1 p]
    omega
  · rw [Nat.min_eq_right long] at *
    have whole : ceilMillis (k * (h * nanosPerMilli)) = k * h := by
      rw [← Nat.mul_assoc, ceilMillis_mul]
    rw [whole, Nat.add_mul, Nat.mul_assoc, Nat.min_eq_right (by omega), Nat.add_mul k 1]
    omega

/-- When a loop of upkeep makes its calls: by the clock at its start, the plans for the calls, and
the time between two of them in nanoseconds. -/
structure Pace where
  clock : Clock
  plans : List (Option StorePlan)
  stride : Nat

namespace Pace
variable {p : Pace} {millis k k' : Nat}

/-- The milliseconds from the start to the call with a number. -/
def moment (p : Pace) (k : Nat) : Nat := ceilMillis (k * p.stride)

/-- At an interval of whole milliseconds the calls come at its multiples. -/
theorem moment_of_whole (h : p.stride = millis * nanosPerMilli) (k : Nat) :
    p.moment k = k * millis := by
  rw [moment, h, ← Nat.mul_assoc, ceilMillis_mul]

/-- The call with a number breaks off. -/
def Breaks (p : Pace) (k : Nat) : Prop :=
  Simulation.Breaks ⟨p.clock.nanos + (p.moment k * nanosPerMilli : Nat)⟩ p.plans[k]?.join

/-- The number of calls in the first milliseconds: all of them are made in this time, none but the
last breaks off, and if the last does not, the next call comes later. -/
structure Count (p : Pace) (millis k : Nat) : Prop where
  before : ∀ j < k, p.moment j < millis
  unbroken : ∀ j, j + 1 < k → ¬ p.Breaks j
  complete : millis ≤ p.moment k ∨ ∃ j, k = j + 1 ∧ p.Breaks j

theorem Count.le (h : p.Count millis k) (h' : p.Count millis k') : k ≤ k' := by
  refine Nat.le_of_not_lt fun less => ?_
  rcases h'.complete with later | ⟨j, rfl, broken⟩
  · exact Nat.not_lt_of_le later (h.before k' less)
  · exact h.unbroken j less broken

/-- The count of the moments before a point in time is one number. -/
theorem Count.unique (h : p.Count millis k) (h' : p.Count millis k') : k = k' :=
  Nat.le_antisymm (h.le h') (h'.le h)

/-- The moments come in order. -/
theorem moment_le_succ (p : Pace) (k : Nat) : p.moment k ≤ p.moment (k + 1) :=
  ceilMillis_mono (Nat.mul_le_mul_right _ (Nat.le_succ k))

/-- The next call is not farther ahead than a timer may be set. -/
theorem moment_succ_le (h : p.stride ≤ Schedule.horizon * nanosPerMilli) (k : Nat) :
    p.moment (k + 1) ≤ p.moment k + Schedule.horizon := by
  unfold moment
  generalize Schedule.horizon = far at *
  rw [Nat.add_comm _ far, ← ceilMillis_mul_add]
  refine ceilMillis_mono ?_
  rw [Nat.add_mul]
  omega

end Pace
end Simulation
end EventRelay
