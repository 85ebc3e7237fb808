import EventRelay.Proofs.Simulation.Upkeep
import EventRelay.Simulation.Steps

/-!
# Three loops beside each other

The loops of a dispatcher that was started do not disturb one another: the moments at which a loop
of upkeep makes its calls follow from its start, its interval and the clock alone
(`upkeep_moments`), whatever the publisher does to the ticks in the meantime, and whatever is done
beside the loops. The invariant is that a loop that has made so many calls waits for the multiple of
its interval with this number (`Started.OnPace`). It is kept when time passes, when the loop itself
goes on, when one of the others does, and by every step beside the loops.
-/

namespace EventRelay.Simulation

/-! ## Moments -/

/-- The milliseconds from a start to the calls of a loop. -/
def momentsOf (loop : Loop) (start : Nat) (calls : List (Nat × Call)) : List Nat :=
  (calls.filter (·.2.loop = loop)).map (·.1 - start)

theorem momentsOf_append (loop : Loop) (start : Nat) (calls more : List (Nat × Call)) :
    momentsOf loop start (calls ++ more) =
      momentsOf loop start calls ++ momentsOf loop start more := by
  simp [momentsOf]

/-! ## A loop that was started -/

/-- A loop of upkeep that was started: the world before its first run, its dispatcher, the token
that ends it, and its number among the tasks. -/
structure Started where
  origin : World
  loop : Loop
  dispatcher : Nat
  agent : Agent
  token : Nat
  task : Nat

namespace Started
variable {s : Started} {w v : World} {limit k n : Nat} {a : Activity}

/-- The pace at which the loop makes its calls. -/
def pace (s : Started) : Pace :=
  ⟨s.origin.clock, s.origin.plans.upkeep s.loop, stride s.agent.config s.loop⟩

def doing (s : Started) (a : Activity) : Task := ⟨s.dispatcher, s.token, s.loop, a⟩

/-- The clock has gone on with the time that was spent waiting. -/
def InTime (s : Started) (w : World) : Prop :=
  w.clock = ⟨s.origin.clock.nanos + ((w.elapsed - s.origin.elapsed) * nanosPerMilli : Nat)⟩

/-- What the loop is doing after so many calls. -/
inductive Phase (s : Started) (w : World) : Nat → Activity → Prop
  | scheduled (still : w.elapsed = s.origin.elapsed) (inTime : s.InTime w) : Phase s w 0 .scheduled
  | waiting {k : Nat} (unbroken : ∀ j < k + 1, ¬ s.pace.Breaks j) (inTime : s.InTime w)
    (reach : w.elapsed ≤ s.origin.elapsed + s.pace.moment (k + 1))
    (near : s.origin.elapsed + s.pace.moment (k + 1) ≤ w.elapsed + Schedule.horizon) :
    Phase s w (k + 1)
      (.waiting (s.origin.elapsed * nanosPerMilli + (k + 1) * s.pace.stride))
  | panicked {k : Nat} {message : String} (unbroken : ∀ j < k, ¬ s.pace.Breaks j)
    (broken : s.pace.Breaks k) :
    Phase s w (k + 1) (.panicked message)

/-- **The loop keeps its pace**: it has made so many calls since its start, each at its moment and
before a point in time, and the tasks beside it are of other loops. -/
structure OnPace (s : Started) (limit k : Nat) (w : World) : Prop where
  since : s.origin.elapsed ≤ w.elapsed
  agent : w.agents[s.dispatcher]? = some s.agent
  alive : w.cancelled s.token = false
  own : ∃ a, w.tasks[s.task]? = some (s.doing a) ∧ s.Phase w k a
  others : ∀ n t, w.tasks[n]? = some t → n ≠ s.task →
    t.loop ≠ s.loop ∧ t.activity.Left (·.loop = t.loop)
  plans : w.plans.upkeep s.loop = s.pace.plans.drop k
  calls : ∃ more, w.calls = s.origin.calls ++ more ∧
    momentsOf s.loop s.origin.elapsed more = (List.range k).map s.pace.moment
  before : ∀ j < k, s.origin.elapsed + s.pace.moment j < limit

/-- The loop waits for the moment of its next call. -/
theorem wakeTime?_waiting (alive : w.cancelled s.token = false) (k : Nat) :
    w.wakeTime? (s.doing (.waiting (s.origin.elapsed * nanosPerMilli + k * s.pace.stride))) =
      some (s.origin.elapsed + s.pace.moment k) := by
  rw [World.wakeTime?]
  simp only [doing, alive, Bool.false_eq_true, if_false, ceilMillis_mul_add, Pace.moment]

theorem InTime.passUntil (h : s.InTime w) (since : s.origin.elapsed ≤ w.elapsed) {millis : Nat}
    (near : millis ≤ w.elapsed + Schedule.horizon) : s.InTime (w.passUntil millis) := by
  have fits : (millis - w.elapsed) * nanosPerMilli < 2 ^ 64 * nanosPerSecond := by
    have : millis - w.elapsed ≤ Schedule.horizon := by omega
    refine (Nat.mul_le_mul_right _ this).trans_lt ?_
    decide
  have passed : (Duration.ofNanos? ((millis - w.elapsed) * nanosPerMilli)).getD .longest =
      ⟨_, fits⟩ := by rw [Duration.ofNanos?, dif_pos fits, Option.getD_some]
  have sum : max w.elapsed millis - s.origin.elapsed =
      w.elapsed - s.origin.elapsed + (millis - w.elapsed) := by omega
  unfold InTime at *
  rw [World.passUntil, Clock.later, passed, h]
  dsimp only
  rw [sum, Nat.add_mul, Int.natCast_add, Int.add_assoc]

/-! ## Time passes -/

/-- The loop keeps its pace when time passes, but not beyond its own next run. -/
theorem OnPace.passUntil (h : s.OnPace limit k w) {millis : Nat}
    (first : ∀ a, w.tasks[s.task]? = some (s.doing a) → ∀ wake,
      w.wakeTime? (s.doing a) = some wake → millis ≤ wake) :
    s.OnPace limit k (w.passUntil millis) := by
  obtain ⟨a, own, phase⟩ := h.own
  refine ⟨h.since.trans (Nat.le_max_left ..), h.agent, h.alive, ⟨a, own, ?_⟩, h.others, h.plans,
    h.calls, h.before⟩
  have soon := first a own
  cases phase with
  | scheduled still inTime =>
    have le : millis ≤ w.elapsed := soon _ rfl
    have same : (w.passUntil millis).elapsed = w.elapsed := Nat.max_eq_left le
    exact .scheduled (same.trans still) (inTime.passUntil h.since (Nat.le_add_right_of_le le))
  | waiting unbroken inTime reach near =>
    have le := soon _ (wakeTime?_waiting h.alive _)
    exact .waiting unbroken (inTime.passUntil h.since (le.trans near)) (Nat.max_le.2 ⟨reach, le⟩)
      (near.trans (Nat.add_le_add_right (Nat.le_max_left ..) _))
  | panicked unbroken broken => exact .panicked unbroken broken

/-! ## Tasks go on -/

/-- When its time has come, the loop makes its next run. -/
theorem Phase.resume_eq (h : s.Phase w k a) (alive : w.cancelled s.token = false) {wake : Nat}
    (hwake : w.wakeTime? (s.doing a) = some wake) (reached : wake ≤ w.elapsed) :
    w.resume s.task (s.doing a) =
        w.runRound s.task (s.doing a) (s.origin.elapsed * nanosPerMilli + k * s.pace.stride) ∧
      w.elapsed = s.origin.elapsed + s.pace.moment k ∧ s.InTime w ∧
      ∀ j < k, ¬ s.pace.Breaks j := by
  cases h with
  | scheduled still inTime =>
    have zero : s.pace.moment 0 = 0 := by
      rw [Pace.moment, Nat.zero_mul]
      rfl
    refine ⟨?_, by rw [zero, still, Nat.add_zero], inTime, by simp⟩
    rw [World.resume]
    simp only [doing, alive, Bool.false_eq_true, if_false, World.nanosElapsed, still, Nat.zero_mul,
      Nat.add_zero]
  | waiting unbroken inTime reach near =>
    obtain rfl := Option.some.inj ((wakeTime?_waiting alive _).symm.trans hwake)
    refine ⟨?_, Nat.le_antisymm reach reached, inTime, unbroken⟩
    rw [World.resume]
    simp only [doing, alive, Bool.false_eq_true, if_false]
  | panicked => cases hwake

/-- After a run at its moment the loop waits for the next, or it has broken off. -/
theorem phase_after (now : w.elapsed = s.origin.elapsed + s.pace.moment k) (inTime : s.InTime w)
    (unbroken : ∀ j < k, ¬ s.pace.Breaks j) {p : Progress}
    (ending : p = .finished ∧ ¬ s.pace.Breaks k ∨
      (∃ message, p = .panicked message) ∧ s.pace.Breaks k) :
    s.Phase w (k + 1) (p.activity (Task.next s.agent.config s.loop
      (s.origin.elapsed * nanosPerMilli + k * s.pace.stride) (w.elapsed * nanosPerMilli))) := by
  rcases ending with ⟨rfl, survives⟩ | ⟨⟨message, rfl⟩, broken⟩
  · rw [now, Pace.moment]
    unfold pace
    rw [Progress.activity, next_on_pace]
    refine .waiting (fun j hj => ?_) inTime ?_ ?_
    · rcases Nat.lt_succ_iff_lt_or_eq.1 hj with hj | rfl
      · exact unbroken j hj
      · exact survives
    · rw [now]
      exact Nat.add_le_add_left (s.pace.moment_le_succ k) _
    · rw [now, Nat.add_assoc]
      exact Nat.add_le_add_left (Pace.moment_succ_le (Nat.min_le_right ..) k) _
  · exact .panicked unbroken broken

/-- The phase is told by the clock and the time that has passed. -/
theorem Phase.of_same (h : s.Phase w k a) (elapsed : v.elapsed = w.elapsed)
    (clock : v.clock = w.clock) : s.Phase v k a := by
  have same (inTime : s.InTime w) : s.InTime v := by
    unfold InTime at *
    rw [clock, elapsed, inTime]
  cases h with
  | scheduled still inTime => exact .scheduled (elapsed.trans still) (same inTime)
  | waiting unbroken inTime reach near =>
    exact .waiting unbroken (same inTime) (elapsed ▸ reach) (elapsed ▸ near)
  | panicked unbroken broken => exact .panicked unbroken broken

/-- Calls are made, and then a task does something else: the loop keeps its pace if it keeps to its
phase and the calls of its kind are those that are due. -/
theorem OnPace.after_calls (h : s.OnPace limit k w) {made : List Call} (makes : Makes w v made)
    {m : Nat} (count : made.countP (·.loop = s.loop) = m)
    (moments : momentsOf s.loop s.origin.elapsed (made.map (w.elapsed, ·)) =
      (List.range' k m).map s.pace.moment)
    (before : ∀ j < k + m, s.origin.elapsed + s.pace.moment j < limit)
    (own : ∃ a', (v.setActivity n a).tasks[s.task]? = some (s.doing a') ∧
      s.Phase v (k + m) a')
    (others : ∀ t, w.tasks[n]? = some t → n ≠ s.task →
      t.loop ≠ s.loop ∧ a.Left (·.loop = t.loop)) :
    s.OnPace limit (k + m) (v.setActivity n a) where
  since := h.since.trans_eq makes.elapsed.symm
  agent := makes.agents ▸ h.agent
  alive := (congrArg (fun tokens => tokens[s.token]?.getD true) makes.tokens).trans h.alive
  own := by
    obtain ⟨a', ha', phase⟩ := own
    exact ⟨a', ha', phase.of_same rfl rfl⟩
  others m t ht hm := by
    rw [World.getElem?_setActivity, makes.tasks, Option.map_eq_some_iff] at ht
    obtain ⟨t, ht, rfl⟩ := ht
    split
    · rename_i same
      subst same
      exact others t ht hm
    · exact h.others m t ht hm
  plans := (makes.plans s.loop).trans (by rw [h.plans, List.drop_drop, count])
  calls := by
    obtain ⟨more, hmore, past⟩ := h.calls
    refine ⟨more ++ made.map (w.elapsed, ·), ?_, ?_⟩
    · rw [← List.append_assoc, ← hmore]
      exact makes.calls
    · rw [momentsOf_append, past, moments, ← List.map_append, List.range_eq_range',
        List.range_eq_range', ← List.range'_append_1, Nat.zero_add]
  before := before

/-- **The loop itself goes on**, and makes its next call. -/
theorem OnPace.resume_own (h : s.OnPace limit k w) (upkeep : s.loop ≠ .tick)
    (own : w.tasks[s.task]? = some (s.doing a)) {wake : Nat}
    (hwake : w.wakeTime? (s.doing a) = some wake) (reached : wake ≤ w.elapsed)
    (early : w.elapsed < limit) :
    s.OnPace limit (k + 1) (w.resume s.task (s.doing a)) := by
  obtain ⟨a', own', phase⟩ := h.own
  obtain rfl : a' = a := congrArg Task.activity (Option.some.inj (own'.symm.trans own))
  obtain ⟨resumed, now, inTime, unbroken⟩ := phase.resume_eq h.alive hwake reached
  obtain ⟨p, v, c, performed, makes, hc, ending⟩ := w.perform_upkeep s.dispatcher upkeep
  have config : (w.agent s.dispatcher).config = s.agent.config := by
    rw [World.agent, h.agent, Option.getD_some]
  have breaks : Breaks w.clock (w.plans.upkeep s.loop).head?.join = s.pace.Breaks k := by
    rw [h.plans, List.head?_drop, inTime, now, Nat.add_sub_cancel_left]
    rfl
  rw [breaks] at ending
  have phase' := phase_after now inTime unbroken ending
  rw [resumed, World.runRound_eq, doing, performed, config]
  refine h.after_calls makes (m := 1) (by simp [hc]) (by simp [momentsOf, hc, now]) ?_
    ⟨_, ?_, phase'.of_same makes.elapsed makes.clock⟩ fun t _ other => absurd rfl other
  · intro j hj
    rcases Nat.lt_succ_iff_lt_or_eq.1 hj with hj | rfl
    · exact h.before j hj
    · exact now ▸ early
  · rw [World.getElem?_setActivity, makes.tasks, own, Option.map_some, if_pos rfl]
    rfl

/-- **Another loop goes on**, which is nothing to this one. -/
theorem OnPace.resume_other (h : s.OnPace limit k w) {t : Task} (ht : w.tasks[n]? = some t)
    (other : n ≠ s.task) {wake : Nat} (hwake : w.wakeTime? t = some wake) :
    s.OnPace limit k (w.resume n t) := by
  obtain ⟨foreign, left⟩ := h.others n t ht other
  obtain ⟨v, made, a, resumed, makes, hmade, goesOn⟩ :=
    World.resume_cases (w.round_asks t.agent t.loop) left hwake
  have none_own : ∀ c ∈ made, c.loop ≠ s.loop := fun c hc => (hmade c hc).trans_ne foreign
  obtain ⟨a', own, phase⟩ := h.own
  rw [resumed]
  refine h.after_calls makes (m := 0) (by simpa using none_own)
    (by simpa [momentsOf] using none_own) h.before
    ⟨a', ?_, phase.of_same makes.elapsed makes.clock⟩ ?_
  · rw [World.getElem?_setActivity, makes.tasks, own, Option.map_some, if_neg other]
  · intro t' ht' _
    obtain rfl := Option.some.inj (ht'.symm.trans ht)
    exact ⟨foreign, goesOn.left⟩

/-! ## Somebody waits -/

/-- **The loop keeps its pace while somebody waits.** -/
theorem OnPace.runBefore (upkeep : s.loop ≠ .tick) (h : s.OnPace limit k w)
    (early : w.elapsed < limit) (fuel : Nat) :
    (World.runBefore limit fuel w).elapsed < limit ∧
      ∃ k, s.OnPace limit k (World.runBefore limit fuel w) := by
  refine World.runBefore_keeps (I := fun w => w.elapsed < limit ∧ ∃ k, s.OnPace limit k w)
    (fun w n t wake h next soon => ?_) fuel ⟨early, k, h⟩
  obtain ⟨early, k, h⟩ := h
  obtain ⟨ht, hwake, first⟩ := World.nextTask?_eq_some next
  have h' : s.OnPace limit k (w.passUntil wake) :=
    h.passUntil fun a own wake' => first _ (List.mem_of_getElem? own) wake'
  obtain ⟨wake', hwake', reached⟩ := World.wakeTime?_passUntil hwake
  have early' : (w.passUntil wake).elapsed < limit := Nat.max_lt.2 ⟨early, soon⟩
  have ht' : (w.passUntil wake).tasks[n]? = some t := ht
  obtain ⟨same, -⟩ := World.resume_nearer ht' hwake' reached early'
  refine ⟨same ▸ early', ?_⟩
  by_cases hn : n = s.task
  · obtain ⟨a, own, -⟩ := h'.own
    subst hn
    obtain rfl := Option.some.inj (ht'.symm.trans own)
    exact ⟨_, h'.resume_own upkeep own hwake' reached early'⟩
  · exact ⟨_, h'.resume_other ht' hn hwake'⟩

/-- Where the loop is before a point in time, it is before a later one. -/
theorem OnPace.mono (h : s.OnPace limit k w) {limit' : Nat} (le : limit ≤ limit') :
    s.OnPace limit' k w :=
  { h with before := fun j hj => (h.before j hj).trans_le le }

/-- **A wait keeps a loop of upkeep on its pace**, whatever the other tasks do in the meantime. -/
theorem OnPace.waitUntil (upkeep : s.loop ≠ .tick) (h : s.OnPace w.elapsed k w) (millis : Nat) :
    ∃ k, s.OnPace (w.waitUntil millis).elapsed k (w.waitUntil millis) := by
  unfold World.waitUntil
  split
  · exact ⟨k, h⟩
  · rename_i later
    have early : w.elapsed < millis := Nat.lt_of_not_le later
    obtain ⟨early', k', h'⟩ := (h.mono early.le).runBefore upkeep early (w.stepBound millis)
    have due := World.nothing_due_before early
    have there : ((World.runBefore millis (w.stepBound millis) w).passUntil millis).elapsed =
        millis := Nat.max_eq_right early'.le
    refine ⟨k', ?_⟩
    rw [there]
    exact h'.passUntil fun a own wake => due _ (List.mem_of_getElem? own) wake

end Started

/-! ## Steps beside the loops -/

/-- A step beside the loops: it neither starts nor stops any, nor does their rounds by hand, and it
leaves the clock to itself and the plans for upkeep as they are. -/
def Step.Beside : Step → Prop
  | .advance _ | .setClock _ | .tick _ | .reap _ | .sweep _ | .start .. | .shutdown _ | .join _
  | .dropHandle _ => False
  | .plan change => ∀ p l, (change p).upkeep l = p.upkeep l
  | _ => True

/-- What the loops go by is the same in two worlds, but for dispatchers that have come in
addition. -/
structure Undisturbed (w w' : World) : Prop where
  clock : w'.clock = w.clock
  elapsed : w'.elapsed = w.elapsed
  tokens : w'.tokens = w.tokens
  tasks : w'.tasks = w.tasks
  calls : w'.calls = w.calls
  agents : ∃ more, w'.agents = w.agents ++ more
  upkeep : ∀ l, w'.plans.upkeep l = w.plans.upkeep l

/-- Calls that nobody notes change stores, brokers and the journal; what else is new may be
transactions, subscriptions, clients and ids. -/
theorem Undisturbed.of_makes {w w' v : World} (makes : Makes w w' [])
    (h : v = { w' with
      made := v.made, stores := v.stores, clients := v.clients, transactions := v.transactions
      brokers := v.brokers, subscriptions := v.subscriptions }) : Undisturbed w v := by
  rw [h]
  exact ⟨makes.clock, makes.elapsed, makes.tokens, makes.tasks, by simp [makes.calls],
    ⟨[], by simp [makes.agents]⟩, makes.plans⟩

namespace World

theorem enqueueFor_makes (w : World) (n : Nat) (e : Event) :
    Makes w (w.enqueueFor n e).2 [] := by
  unfold enqueueFor
  split
  · exact .refl w
  · exact readingFirst_makes ..

/-- **A step beside the loops leaves them undisturbed**, unless it takes time. -/
theorem step_undisturbed (w : World) {s : Step} (h : s.Beside)
    (awake : ∀ millis, s ≠ .sleep millis) : Undisturbed w (w.step s).2 := by
  cases s with
  | sleep millis => exact absurd rfl (awake millis)
  | advance | setClock | tick | reap | sweep | start | shutdown | join | dropHandle => exact h.elim
  | plan change => exact ⟨rfl, rfl, rfl, rfl, rfl, ⟨[], by simp [step]⟩, h w.plans⟩
  | newDispatcher client toBroker worker config =>
    exact ⟨rfl, rfl, rfl, rfl, rfl, ⟨_, rfl⟩, fun _ => rfl⟩
  | enqueue client event => exact .of_makes (w.enqueueFor_makes client event) rfl
  | claim client limit worker => exact .of_makes (w.claimFor_makes client limit worker) rfl
  | markPublished client id => exact .of_makes (w.markPublishedFor_makes client id) rfl
  | reschedule client id error attempts => exact .of_makes (w.rescheduleFor_makes ..) rfl
  | recover client threshold =>
    exact .of_makes (readingFirst_makes w client fun s now => s.recoverStuck threshold now) rfl
  | purge client retention =>
    exact .of_makes (readingFirst_makes w client fun s now => s.purgePublished retention now) rfl
  | enqueueIn client name event =>
    simp only [step]
    split
    · exact .of_makes (.refl w) rfl
    · unfold stage
      dsimp only
      split
      · exact .of_makes (.refl w) rfl
      · exact .of_makes (.refl w) rfl
      · split
        · exact .of_makes (.refl w) rfl
        · exact .of_makes (.refl w) rfl
  | publish toBroker m =>
    have := publishTo_makes w (if toBroker then Publisher.broker w.currentBroker else .journal) m
    simp only [step]
    split <;> rename_i heq <;> rw [heq] at this <;> exact .of_makes this rfl
  | staged name | describe name | commit client name | receive name | isShutdown name =>
    simp only [step]
    split <;> exact .of_makes (.refl w) rfl
  | newBroker capacity =>
    simp only [step]
    split <;> exact .of_makes (.refl w) rfl
  | begin client name | rollback name =>
    simp only [step, dropTransaction]
    split <;> exact .of_makes (.refl w) rfl
  | newStore | cloneStore | policy | get | exhausted | snapshot | size | isEmpty | poison
  | failNext | published | subscribe => exact .of_makes (.refl w) rfl

def after (w : World) (steps : List Step) : World := steps.foldl (fun w s => (w.step s).2) w

end World

namespace Started
variable {s : Started} {w v : World} {limit k : Nat}

/-- A step that leaves the tasks and the time alone leaves the pace alone. -/
theorem OnPace.undisturbed (h : s.OnPace limit k w) (same : Undisturbed w v) :
    s.OnPace limit k v := by
  obtain ⟨a, own, phase⟩ := h.own
  obtain ⟨more, hmore⟩ := same.agents
  exact ⟨h.since.trans_eq same.elapsed.symm,
    by rw [hmore, List.getElem?_append_left (List.getElem?_eq_some_iff.1 h.agent).1, h.agent],
    (congrArg (fun tokens => tokens[s.token]?.getD true) same.tokens).trans h.alive,
    ⟨a, same.tasks ▸ own, phase.of_same same.elapsed same.clock⟩, same.tasks ▸ h.others,
    (same.upkeep _).trans h.plans, same.calls ▸ h.calls, h.before⟩

/-- Between steps, the number of calls that the loop has made is known. -/
theorem OnPace.count (h : s.OnPace w.elapsed k w) :
    s.pace.Count (w.elapsed - s.origin.elapsed) k := by
  have since := h.since
  obtain ⟨a, -, phase⟩ := h.own
  refine ⟨fun j hj => ?_, ?_, ?_⟩
  · have := h.before j hj
    omega
  · cases phase with
    | scheduled => exact fun j hj => absurd hj (Nat.not_lt_zero _)
    | waiting unbroken => exact fun j hj => unbroken j (Nat.lt_of_succ_lt hj)
    | panicked unbroken => exact fun j hj => unbroken j (Nat.lt_of_succ_lt_succ hj)
  · cases phase with
    | scheduled still => exact .inl (by omega)
    | waiting unbroken inTime reach => exact .inl (by omega)
    | panicked unbroken broken => exact .inr ⟨_, rfl, broken⟩

/-- **The loop keeps its pace**, whatever is done beside it. -/
theorem OnPace.after (upkeep : s.loop ≠ .tick) {steps : List Step}
    (beside : ∀ x ∈ steps, x.Beside) (h : s.OnPace w.elapsed k w) :
    ∃ k, s.OnPace (w.after steps).elapsed k (w.after steps) := by
  induction steps generalizing k w with
  | nil => exact ⟨k, h⟩
  | cons x rest ih =>
    obtain ⟨beside, others⟩ := List.forall_mem_cons.1 beside
    by_cases sleeps : ∃ millis, x = .sleep millis
    · obtain ⟨millis, rfl⟩ := sleeps
      obtain ⟨k', h'⟩ := h.waitUntil upkeep (w.elapsed + min millis Schedule.horizon)
      exact ih others h'
    · have same := w.step_undisturbed beside fun millis hx => sleeps ⟨millis, hx⟩
      exact ih others (same.elapsed ▸ h.undisturbed same)

end Started

/-! ## A dispatcher that was started -/

namespace World

/-- The milliseconds from an earlier world to the calls that a loop has made since then. -/
def momentsSince (origin : World) (loop : Loop) (w : World) : List Nat :=
  momentsOf loop origin.elapsed (w.calls.drop origin.calls.length)

/-- Every loop of upkeep of a dispatcher that was just started is on its pace. -/
theorem startLoops_onPace {w : World} (alone : w.tasks = []) {i : Nat} {agent : Agent}
    (known : w.agents[i]? = some agent) {loop : Loop} (upkeep : loop ≠ .tick) (name : String) :
    ∃ s : Started, s.origin = w ∧ s.loop = loop ∧ s.agent = agent ∧
      s.OnPace (w.startLoops i name).elapsed 0 (w.startLoops i name) := by
  -- A handle that had the name is dropped, which leaves the number of tokens as it was.
  have dropped : ∃ tokens handles, w.dropHandle name =
      { w with tokens := tokens, handles := handles } ∧ tokens.length = w.tokens.length := by
    unfold dropHandle
    split
    · exact ⟨_, _, rfl, List.length_set⟩
    · exact ⟨_, _, rfl, rfl⟩
  obtain ⟨tokens, handles, hdrop, hlength⟩ := dropped
  have started : w.startLoops i name = { w with
      tokens := tokens ++ [false]
      tasks := [.tick, .reap, .purge].map fun l => ⟨i, w.tokens.length, l, .scheduled⟩
      handles := (w.startLoops i name).handles
      journal := (w.startLoops i name).journal } := by
    simp only [startLoops, hdrop, note, alone, List.nil_append]
    rfl
  have task : ∃ n : Nat, [Loop.tick, .reap, .purge][n]? = some loop := by
    cases loop
    · exact ⟨0, rfl⟩
    · exact ⟨1, rfl⟩
    · exact ⟨2, rfl⟩
  obtain ⟨n, hn⟩ := task
  refine ⟨⟨w, loop, i, agent, w.tokens.length, n⟩, rfl, rfl, rfl, ?_⟩
  rw [started]
  refine ⟨Nat.le_refl _, known, ?_, ⟨.scheduled, ?_, .scheduled rfl ?_⟩, ?_, rfl,
    ⟨[], (List.append_nil _).symm, rfl⟩, by simp⟩
  · simp [cancelled, ← hlength]
  · rw [List.getElem?_map, hn]
    rfl
  · simp [Started.InTime]
  · intro m t ht hm
    rw [List.getElem?_map, Option.map_eq_some_iff] at ht
    obtain ⟨l, hl, rfl⟩ := ht
    refine ⟨fun same : l = loop => hm ?_, trivial⟩
    exact (List.getElem?_inj (List.getElem?_eq_some_iff.1 hl).1 (by decide)).1
      (hl.trans (same ▸ hn.symm))

/-- **The moments of upkeep**: the calls come at their moments, as many of them as fit into the time
that has passed. -/
theorem upkeep_moments {w : World} (alone : w.tasks = []) {i : Nat} {agent : Agent}
    (known : w.agents[i]? = some agent) {loop : Loop} (upkeep : loop ≠ .tick) (name : String)
    {steps : List Step} (beside : ∀ x ∈ steps, x.Beside) :
    let p : Pace := ⟨w.clock, w.plans.upkeep loop, stride agent.config loop⟩
    let w' := (w.startLoops i name).after steps
    ∃ k, p.Count (w'.elapsed - w.elapsed) k ∧
      w.momentsSince loop w' = (List.range k).map p.moment := by
  intro p w'
  obtain ⟨s, rfl, rfl, rfl, started⟩ := w.startLoops_onPace alone known upkeep name
  obtain ⟨k, h⟩ := started.after upkeep beside
  refine ⟨k, ?_, ?_⟩
  · exact h.count
  · obtain ⟨more, hmore, moments⟩ := h.calls
    rw [momentsSince, hmore, List.drop_left, moments]
    rfl

/-- At an interval of whole milliseconds, as all settings have it, the calls come at its
multiples. -/
theorem upkeep_moments_of_whole {w : World} (alone : w.tasks = []) {i : Nat} {agent : Agent}
    (known : w.agents[i]? = some agent) {loop : Loop} (upkeep : loop ≠ .tick) {millis : Nat}
    (whole : stride agent.config loop = millis * nanosPerMilli) (name : String)
    {steps : List Step} (beside : ∀ x ∈ steps, x.Beside) :
    ∃ k, w.momentsSince loop ((w.startLoops i name).after steps) =
      (List.range k).map (· * millis) := by
  obtain ⟨k, -, moments⟩ := w.upkeep_moments alone known upkeep name beside
  refine ⟨k, moments.trans (List.map_congr_left fun j _ => ?_)⟩
  exact Pace.moment_of_whole whole j

/-- **The loops do not disturb one another.** A loop of upkeep that is started at the same clock
with the same interval makes its calls at the same times from its start on, whatever the publishers
and the intervals of the ticks are, and whatever else is done beside the loops. -/
theorem upkeep_undisturbed {w₁ w₂ : World} {i₁ i₂ : Nat} {a₁ a₂ : Agent} {loop : Loop}
    (upkeep : loop ≠ .tick) (alone₁ : w₁.tasks = []) (alone₂ : w₂.tasks = [])
    (known₁ : w₁.agents[i₁]? = some a₁) (known₂ : w₂.agents[i₂]? = some a₂)
    (clock : w₁.clock = w₂.clock) (plans : w₁.plans.upkeep loop = w₂.plans.upkeep loop)
    (interval : World.interval a₁.config loop = World.interval a₂.config loop)
    (name₁ name₂ : String) {steps₁ steps₂ : List Step}
    (beside₁ : ∀ s ∈ steps₁, s.Beside) (beside₂ : ∀ s ∈ steps₂, s.Beside)
    (together : ((w₁.startLoops i₁ name₁).after steps₁).elapsed - w₁.elapsed =
      ((w₂.startLoops i₂ name₂).after steps₂).elapsed - w₂.elapsed) :
    w₁.momentsSince loop ((w₁.startLoops i₁ name₁).after steps₁) =
      w₂.momentsSince loop ((w₂.startLoops i₂ name₂).after steps₂) := by
  obtain ⟨k₁, count₁, moments₁⟩ := w₁.upkeep_moments alone₁ known₁ upkeep name₁ beside₁
  obtain ⟨k₂, count₂, moments₂⟩ := w₂.upkeep_moments alone₂ known₂ upkeep name₂ beside₂
  have same : stride a₁.config loop = stride a₂.config loop := by rw [stride, interval, stride]
  rw [clock, plans, same] at count₁ moments₁
  rw [together] at count₁
  rw [moments₁, moments₂, count₁.unique count₂]

def calm : World :=
  { start .epoch .default with
    agents := [⟨0, .journal, "w", { DispatcherConfig.default with
      reapInterval := .ofMillis 2, purgeInterval := .ofMillis 3 }⟩] }

def stormy : World :=
  { start .epoch .default with
    agents := [⟨0, .broker 0, "w", { DispatcherConfig.default with
      tickInterval := .ofMillis 1, reapInterval := .ofMillis 2, purgeInterval := .ofMillis 3 }⟩]
    plans := { publish := [(3, .panic "gone")] } }

/-- The end of the loop that ticks changes nothing for the loop that reaps. -/
theorem upkeep_undisturbed_stormy :
    let calmly := (calm.startLoops 0 "d").after [.sleep 4, .sleep 6]
    let stormily := (stormy.startLoops 0 "d").after [.enqueue 0 (.brief none), .sleep 10]
    calm.momentsSince .reap calmly = [0, 2, 4, 6, 8] ∧
      stormy.momentsSince .reap stormily = [0, 2, 4, 6, 8] ∧
      calmly.isOver 0 = false ∧ stormily.isOver 0 = true := by
  have quiet : ∀ s ∈ [Step.sleep 4, .sleep 6], s.Beside := by simp [Step.Beside]
  have loud : ∀ s ∈ [Step.enqueue 0 (.brief none), .sleep 10], s.Beside := by simp [Step.Beside]
  have alone : calm.tasks = [] ∧ stormy.tasks = [] := ⟨rfl, rfl⟩
  have known : calm.agents[0]? = some (calm.agent 0) ∧
      stormy.agents[0]? = some (stormy.agent 0) := ⟨rfl, rfl⟩
  have upkeep : Loop.reap ≠ .tick := by decide
  have together : ((calm.startLoops 0 "d").after [.sleep 4, .sleep 6]).elapsed - calm.elapsed =
      ((stormy.startLoops 0 "d").after [.enqueue 0 (.brief none), .sleep 10]).elapsed -
        stormy.elapsed := by
    decide +kernel
  intro calmly stormily
  have same : calm.momentsSince .reap calmly = stormy.momentsSince .reap stormily :=
    upkeep_undisturbed upkeep alone.1 alone.2 known.1 known.2 rfl rfl rfl "d" "d" quiet
      loud together
  have moments : calm.momentsSince .reap calmly = [0, 2, 4, 6, 8] := by decide +kernel
  exact ⟨moments, same ▸ moments, by decide +kernel, by decide +kernel⟩

end World
end EventRelay.Simulation
