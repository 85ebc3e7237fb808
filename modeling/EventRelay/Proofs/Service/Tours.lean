import EventRelay.Proofs.Depot.Exclusion
import EventRelay.Proofs.Dispatcher.Stages
import EventRelay.Proofs.Service

/-!
# The tours of the tick task

A tick in progress is on a tour: it was begun at some moment and has come to some stage. Beside the
tasks of a service stands the tour of its tick task, if this is inside a run (`Traced`). What
happens leaves the tour as it is, moves it by one stage, begins it or ends it (`Moved`,
`Traced.step`), and no tour takes longer than the timers of a whole batch let it
(`OnTour.elapsed_le`). Invariants of services speak about tours and not about the calls that a task
has still to make (`Observed.along`).
-/

namespace EventRelay

open Simulation (Loop)

/-- The calls are calls of upkeep, with the durations of a configuration. -/
def Action.Upkeep (config : DispatcherConfig) : Action Unit → Prop
  | .done _ => True
  | .note _ next => next.Upkeep config
  | .recoverStuck threshold next =>
    threshold = config.staleLockThreshold ∧ ∀ a, (next a).Upkeep config
  | .purgePublished retention next => retention = config.retention ∧ ∀ a, (next a).Upkeep config
  | _ => False

/-- An operation of upkeep, as the dispatcher asks for it. -/
inductive Engine.KeepsUp (e : Engine) : Operation → Prop where
  | recovers {now} : KeepsUp e (.recoverStuck e.store e.config.staleLockThreshold now)
  | purges {now} : KeepsUp e (.purgePublished e.store e.config.retention now)

/-- The longest time that one publication takes, in nanoseconds. -/
def Engine.pace (e : Engine) : Nat := firing (patience e.config.confirmTimeout)

/-- When a tick that was begun at some moment is over at the latest. -/
def Engine.closing (e : Engine) (woken : Nat) : Nat :=
  firing woken + e.config.batchSize * e.pace

namespace Service

/-- A tick in progress: when it was begun, and how far it has got. -/
structure Tour where
  woken : Nat
  stage : Stage

/-- The ids of the records that a tick on its tour has claimed and not yet settled. -/
def heldOn : Option Tour → List Uuid
  | none => []
  | some tour => tour.stage.held.map (·.id)

/-- A tick that came to its present call at the point `since` is on its tour, and on time. -/
structure OnTour (e : Engine) (elapsed : Nat) (rest : Action Unit) (since : Nat) (tour : Tour) :
    Prop where
  follows : rest.Follows e.config.confirmTimeout e.worker tour.stage
  since_le : since ≤ elapsed
  le_latest : elapsed ≤ rest.latest since
  ahead : since + (tour.stage.waiting.length + tour.stage.limit) * e.pace ≤ e.closing tour.woken
  claiming : ∀ limit got, tour.stage = .claiming limit got → elapsed = tour.woken

/-- The tick task is on a tour, or on none. -/
inductive TickTask (e : Engine) (elapsed : Nat) : Doing → Option Tour → Prop where
  | off {doing} (h : ∀ rest since due, doing ≠ .running rest since due) :
    TickTask e elapsed doing none
  | on {rest since due tour} (h : OnTour e elapsed rest since tour) :
    TickTask e elapsed (.running rest since due) (some tour)

/-- The tick task is on this tour, and the others do upkeep. -/
structure Traced (e : Engine) (s : Service) (tour : Option Tour) : Prop where
  tick : TickTask e s.elapsed (s.tasks .tick) tour
  upkeep : ∀ l, l ≠ .tick → ∀ rest since due, s.tasks l = .running rest since due →
    rest.Upkeep e.config

/-- The task that does it, if this is more than an entry in the journal. -/
def Occurrence.task? : Occurrence → Option Loop
  | .wakes l | .calls l _ _ | .publishes l _ _ | .panics l | .rests l => some l
  | _ => none

/-- What a step is for the tour of the tick task, and where it leads. -/
inductive Moved (e : Engine) (x : Moment) : Option Tour → Option Tour → Prop where
  | still {tour} (depot : x.after.depot = x.before.depot) (other : x.event.task? ≠ some .tick) :
    Moved e x tour tour
  | client {tour op a} (hev : x.event = .client op a)
    (hd : x.before.depot.Does (op, a) x.after.depot) : Moved e x tour tour
  | upkeep {tour l op a} (hev : x.event = .calls l op a) (hl : l ≠ .tick) (keeps : e.KeepsUp op)
    (hd : x.before.depot.Does (op, a) x.after.depot) : Moved e x tour tour
  | wakes (hev : x.event = .wakes .tick) (depot : x.after.depot = x.before.depot) :
    Moved e x none (some ⟨x.before.elapsed, .claiming e.config.batchSize []⟩)
  | calls {woken st op a st'} (hev : x.event = .calls .tick op a)
    (hcalls : st.Calls e.store e.policy e.worker op a st')
    (hd : x.before.depot.Does (op, a) x.after.depot) :
    Moved e x (some ⟨woken, st⟩) (some ⟨woken, st'⟩)
  | publishes {woken w todo outcome} (hev : x.event = .publishes .tick w.message outcome)
    (depot : x.after.depot = x.before.depot) :
    Moved e x (some ⟨woken, .delivering (w :: todo)⟩)
      (some ⟨woken, .after e.config.confirmTimeout w todo outcome⟩)
  | panics {tour} (hev : x.event = .panics .tick) (depot : x.after.depot = x.before.depot) :
    Moved e x tour none
  | rests {tour} (hev : x.event = .rests .tick) (idle : tour.stage.Idle)
    (depot : x.after.depot = x.before.depot) : Moved e x (some tour) none

/-! ## Records in hand -/

section
variable {st st' : Stage}

theorem held_idle (h : st.Idle) : st.held = [] := by
  cases h <;> rfl

/-- After a publication the round still holds the record, until it has settled it. -/
theorem held_after (timeout : Duration) (w : Record) (todo : List Record)
    (outcome : Except Undelivered Unit) :
    (Stage.after timeout w todo outcome).held = w :: todo := by
  rw [Stage.held, Stage.sent_after, Stage.waiting_after]
  rfl

/-- What a call leaves in hand: what was in hand or has just been claimed, unless it is settled. -/
theorem mem_held_calls {n : Nat} {policy : Policy} {worker : String} {op : Operation} {a : Answer}
    {id : Uuid} (h : st.Calls n policy worker op a st')
    (hid : id ∈ st.held.map (·.id) ∨ id ∈ Depot.claimedFrom n (op, a))
    (unsettled : Depot.settledIn op ≠ some (n, id)) : id ∈ st'.held.map (·.id) := by
  cases h with
  | claimBatch | claimOne =>
    simpa [Stage.held, Stage.sent, Stage.waiting, Depot.claimedFrom, Depot.claimedIn, eq_comm]
      using hid
  | claimNone =>
    simpa [Stage.held, Stage.sent, Stage.waiting, Depot.claimedFrom, Depot.claimedIn] using hid
  | recoverStuck | purgePublished =>
    simp [Stage.held, Stage.sent, Stage.waiting, Depot.claimedFrom, Depot.claimedIn] at hid
  | markPublished | reschedule =>
    rcases hid with hid | hid
    · rcases List.mem_cons.1 hid with rfl | hid
      · exact absurd rfl unsettled
      · exact hid
    · cases hid

end

/-! ## Upkeep -/

section
variable {e : Engine}

theorem upkeep_upkeep (config : DispatcherConfig) (message field failed : String)
    (answer : Except Failure Nat) :
    ((Dispatcher.upkeep message field failed answer).andThen fun _ => .done ()).Upkeep config := by
  rcases answer with _ | _ | _ <;> exact trivial

/-- The rounds of the other loops are upkeep. -/
theorem work_upkeep (config : DispatcherConfig) (worker : String) {l : Loop} (h : l ≠ .tick) :
    (Relay.work config worker l).Upkeep config := by
  cases l with
  | tick => exact absurd rfl h
  | reap | purge => exact ⟨rfl, fun a => upkeep_upkeep config _ _ _ a⟩

/-- A round of upkeep does upkeep only, and goes on with upkeep. -/
theorem answered_upkeep {rest rest' : Action Unit} {op : Operation} {a : Answer}
    (h : Relay.Answered e.store e.policy rest op a rest') (hu : rest.Upkeep e.config) :
    e.KeepsUp op ∧ rest'.Upkeep e.config := by
  cases h with
  | claimBatch | claimOne | claimNone | markPublished | reschedule => exact hu.elim
  | recoverStuck =>
    obtain ⟨rfl, hnext⟩ := hu
    exact ⟨.recovers, hnext _⟩
  | purgePublished =>
    obtain ⟨rfl, hnext⟩ := hu
    exact ⟨.purges, hnext _⟩

end

/-! ## Time -/

section
variable {e : Engine} {elapsed since : Nat} {rest : Action Unit} {tour : Tour}

/-- A call cannot be over before the task has come to it. -/
theorem le_latest_self (rest : Action Unit) (since : Nat) : since ≤ rest.latest since := by
  unfold Action.latest
  split
  · exact Nat.le_trans (Nat.le_add_right ..) (le_firing _)
  · exact Nat.le_refl _

/-- Only a publication takes time. -/
theorem answered_latest {n : Nat} {policy : Policy} {rest' : Action Unit} {op : Operation}
    {a : Answer} (h : Relay.Answered n policy rest op a rest') (since : Nat) :
    rest.latest since = since := by
  cases h <;> rfl

/-- Whole milliseconds that fit in after a point fit in after the timer that is set to it. -/
theorem firing_add_le_of_le {a x y : Nat} (h : a + x * nanosPerMilli ≤ y * nanosPerMilli) :
    firing a + x * nanosPerMilli ≤ y * nanosPerMilli := by
  unfold firing ceilMillis nanosPerMilli at *
  omega

/-- As long as the timers of all publications that are still to be made fit in, the present one may
take all its time. -/
theorem firing_ahead {woken more : Nat} (h : since + (more + 1) * e.pace ≤ e.closing woken) :
    firing (since + patience e.config.confirmTimeout) + more * e.pace ≤ e.closing woken := by
  have pace : e.pace = ceilMillis (patience e.config.confirmTimeout) * nanosPerMilli := rfl
  have closing : e.closing woken = (ceilMillis woken +
      e.config.batchSize * ceilMillis (patience e.config.confirmTimeout)) * nanosPerMilli := by
    rw [Engine.closing, pace, ← Nat.mul_assoc, firing, ← Nat.add_mul]
  have fits : firing since + (more + 1) * e.pace ≤ e.closing woken := by
    rw [pace, closing, ← Nat.mul_assoc] at h ⊢
    exact firing_add_le_of_le h
  have next := firing_add_le since (patience e.config.confirmTimeout)
  rw [Nat.succ_mul] at fits
  unfold Engine.pace at *
  omega

/-- What a tick delivers at its present call, and that the timers of the records after it fit in. -/
theorem OnTour.delivers {m : Message} {timeout : Duration}
    {next : Except Undelivered Unit → Action Unit}
    (h : OnTour e elapsed (.publish m timeout next) since tour) :
    ∃ w todo, tour.stage = .delivering (w :: todo) ∧ m = w.message ∧
      (∀ outcome, (next outcome).Follows e.config.confirmTimeout e.worker
        (.after e.config.confirmTimeout w todo outcome)) ∧
      elapsed + todo.length * e.pace ≤ e.closing tour.woken := by
  obtain ⟨w, todo, hstage, rfl, rfl, hnext⟩ := h.follows
  refine ⟨w, todo, hstage, rfl, hnext, ?_⟩
  have ahead : since + (todo.length + 1) * e.pace ≤ e.closing tour.woken := by
    simpa [hstage, Stage.waiting, Stage.limit] using h.ahead
  have latest : elapsed ≤ firing (since + patience e.config.confirmTimeout) := h.le_latest
  exact Nat.le_trans (Nat.add_le_add_right latest _) (firing_ahead ahead)

/-- **A tick is over in time**: it takes no longer than the timers of a whole batch let it. -/
theorem OnTour.elapsed_le (h : OnTour e elapsed rest since tour) :
    elapsed ≤ e.closing tour.woken := by
  cases rest with
  | publish m timeout next =>
    obtain ⟨w, todo, -, -, -, fits⟩ := h.delivers
    omega
  | _ =>
    have latest := h.le_latest
    have ahead := h.ahead
    simp only [Action.latest] at latest
    omega

/-- A task that goes on without a publication has lost no time. -/
theorem OnTour.eq_since (h : OnTour e elapsed rest since tour)
    (at_once : rest.latest since = since) : elapsed = since := by
  have := h.since_le
  have := h.le_latest
  omega

/-- Before its first publication a tick loses no time. -/
theorem latest_of_claiming {limit : Nat} {got : List Record} {timeout : Duration} {worker : String}
    (h : rest.Follows timeout worker (.claiming limit got)) (since : Nat) :
    rest.latest since = since := by
  cases rest with
  | publish m timeout next =>
    obtain ⟨w, todo, hstage, -⟩ := h
    cases hstage
  | _ => rfl

/-- A call to the store leaves no more to be published than before. -/
theorem calls_ahead {n : Nat} {policy : Policy} {worker : String} {op : Operation} {a : Answer}
    {d d' : Depot} {st st' : Stage} (h : st.Calls n policy worker op a st')
    (hd : Depot.Effect d op a d') :
    st'.waiting.length + st'.limit ≤ st.waiting.length + st.limit := by
  cases h with
  | claimBatch =>
    have := hd.length_records_le
    simp only [Stage.waiting, Stage.limit, List.length_append]
    omega
  | claimOne =>
    simp only [Stage.waiting, Stage.limit, List.length_append, List.length_singleton]
    omega
  | claimNone | markPublished | reschedule | recoverStuck | purgePublished =>
    simp only [Stage.waiting, Stage.limit]
    omega

/-- A stage in which records are claimed comes after another one. -/
theorem calls_claiming {n limit : Nat} {policy : Policy} {worker : String} {op : Operation}
    {a : Answer} {st : Stage} {got : List Record}
    (h : st.Calls n policy worker op a (.claiming limit got)) :
    ∃ limit got, st = .claiming limit got := by
  cases h
  exact ⟨_, _, rfl⟩

/-! ## The steps of a tour -/

/-- A tick begins its tour with a claim of a whole batch. -/
theorem OnTour.wakes (e : Engine) (now : Nat) :
    OnTour e now (Relay.work e.config e.worker .tick) now
      ⟨now, .claiming e.config.batchSize []⟩ where
  follows := work_follows e.config e.worker .tick
  since_le := Nat.le_refl _
  le_latest := le_latest_self _ _
  ahead := by
    have := le_firing now
    simp only [Stage.waiting, Stage.limit, List.length_nil, Nat.zero_add, Engine.closing]
    omega
  claiming _ _ _ := rfl

/-- Time passes on a tour only as far as the timer of the present call lets it. -/
theorem OnTour.passes (h : OnTour e elapsed rest since tour) {point : Nat} (le : elapsed ≤ point)
    (latest : point ≤ rest.latest since) : OnTour e point rest since tour where
  follows := h.follows
  since_le := Nat.le_trans h.since_le le
  le_latest := latest
  ahead := h.ahead
  claiming limit got hstage := by
    have at_once := latest_of_claiming (hstage ▸ h.follows) since
    have := h.claiming limit got hstage
    have := h.since_le
    have := h.le_latest
    omega

theorem OnTour.notes {entry : Journal.Entry} {next : Action Unit}
    (h : OnTour e elapsed (.note entry next) since tour) :
    OnTour e elapsed next elapsed tour where
  follows := h.follows
  since_le := Nat.le_refl _
  le_latest := le_latest_self _ _
  ahead := by
    rw [h.eq_since rfl]
    exact h.ahead
  claiming := h.claiming

/-- An answered call takes the tick to the next stage of its tour, at the same moment. -/
theorem OnTour.calls {op : Operation} {a : Answer} {rest' : Action Unit} {d d' : Depot}
    (h : OnTour e elapsed rest since tour)
    (hr : Relay.Answered e.store e.policy rest op a rest') (hd : Depot.Effect d op a d') :
    ∃ st, tour.stage.Calls e.store e.policy e.worker op a st ∧
      OnTour e elapsed rest' elapsed ⟨tour.woken, st⟩ := by
  obtain ⟨st, hcalls, follows⟩ := hr.stage h.follows
  refine ⟨st, hcalls, follows, Nat.le_refl _, le_latest_self _ _, ?_, fun limit got hst => ?_⟩
  · have fewer := Nat.mul_le_mul_right e.pace (calls_ahead hcalls hd)
    have := h.ahead
    rw [h.eq_since (answered_latest hr since)]
    dsimp only
    omega
  · obtain rfl : st = .claiming limit got := hst
    obtain ⟨limit', got', hstage⟩ := calls_claiming hcalls
    exact h.claiming limit' got' hstage

/-- A publication that ends takes the tick to the next record. -/
theorem OnTour.publishes {m : Message} {timeout : Duration}
    {next : Except Undelivered Unit → Action Unit}
    (h : OnTour e elapsed (.publish m timeout next) since tour)
    (outcome : Except Undelivered Unit) :
    ∃ w todo, tour.stage = .delivering (w :: todo) ∧ m = w.message ∧
      OnTour e elapsed (next outcome) elapsed
        ⟨tour.woken, .after e.config.confirmTimeout w todo outcome⟩ := by
  obtain ⟨w, todo, hstage, hm, hnext, fits⟩ := h.delivers
  refine ⟨w, todo, hstage, hm, hnext outcome, Nat.le_refl _, le_latest_self _ _, ?_, ?_⟩
  · rw [Stage.waiting_after, Stage.limit_after, Nat.add_zero]
    exact fits
  · intro limit got hst
    cases outcome <;> cases hst

end

/-! ## The steps of a service -/

section
variable {e : Engine} {s : Service} {l : Loop} {doing : Doing} {o o' : Option Tour}

theorem traced_start (e : Engine) (d : Depot) : Traced e (start d) none where
  tick := .off fun _ _ _ h => nomatch h
  upkeep _ _ _ _ _ h := nomatch h

/-- What the tick task turns to decides where the tour stands. -/
theorem Traced.turn_tick (h : Traced e s o) (ht : TickTask e s.elapsed doing o') :
    Traced e (s.turn .tick doing) o' where
  tick := by rwa [tasks_turn_self]
  upkeep l hl rest since due hrest := by
    rw [tasks_turn_of_ne _ _ _ hl] at hrest
    exact h.upkeep l hl rest since due hrest

/-- The other tasks turn to upkeep and leave the tour alone. -/
theorem Traced.turn_other (h : Traced e s o) (hl : l ≠ .tick)
    (hu : ∀ rest since due, doing = .running rest since due → rest.Upkeep e.config) :
    Traced e (s.turn l doing) o where
  tick := by
    rw [tasks_turn_of_ne _ _ _ (Ne.symm hl)]
    exact h.tick
  upkeep l' hl' rest since due hrest := by
    by_cases heq : l' = l
    · subst heq
      rw [tasks_turn_self] at hrest
      exact hu rest since due hrest
    · rw [tasks_turn_of_ne _ _ _ heq] at hrest
      exact h.upkeep l' hl' rest since due hrest

/-- A tick task inside a run is on a tour. -/
theorem Traced.on_of_running (h : Traced e s o) {rest : Action Unit} {since due : Nat}
    (hl : s.tasks .tick = .running rest since due) :
    ∃ tour, o = some tour ∧ OnTour e s.elapsed rest since tour := by
  have tick := h.tick
  rw [hl] at tick
  cases tick with
  | off off => exact absurd rfl (off rest since due)
  | on on => exact ⟨_, rfl, on⟩

/-- A tick task that is on a tour is inside a run. -/
theorem Traced.running {tour : Tour} (h : Traced e s (some tour)) :
    ∃ rest since due, s.tasks .tick = .running rest since due ∧
      OnTour e s.elapsed rest since tour := by
  have tick := h.tick
  generalize s.tasks .tick = doing at tick
  cases tick with
  | on on => exact ⟨_, _, _, rfl, on⟩

/-- **What happens moves the tour of the tick task**, or leaves it where it is. -/
theorem Traced.step {x : Moment} (h : Traced e x.before o) (healthy : x.before.depot.Healthy)
    (hx : Does e x.before x.event x.after) : ∃ o', Traced e x.after o' ∧ Moved e x o o' := by
  obtain ⟨s, ev, s'⟩ := x
  dsimp only at *
  cases hx with
  | client hd => exact ⟨o, ⟨h.tick, h.upkeep⟩, .client rfl hd⟩
  | shutsDown => exact ⟨o, ⟨h.tick, h.upkeep⟩, .still rfl nofun⟩
  | passes le asleep =>
    refine ⟨o, ⟨?_, h.upkeep⟩, .still rfl nofun⟩
    have tick := h.tick
    have latest := asleep .tick
    dsimp only
    generalize s.tasks .tick = doing at tick latest
    cases tick with
    | off off => exact .off off
    | on on => exact .on (on.passes le latest)
  | wakes hl =>
    rename_i l due due_le
    rcases eq_or_ne l .tick with rfl | other
    · have tick := h.tick
      rw [hl] at tick
      cases tick with
      | off => exact ⟨_, h.turn_tick (.on (.wakes e s.elapsed)), .wakes rfl rfl⟩
    · refine ⟨o, h.turn_other other ?_, .still rfl (other <| Option.some.inj ·)⟩
      rintro _ _ _ ⟨⟩
      exact work_upkeep _ _ other
  | notes hl =>
    rename_i l entry next since due
    rcases eq_or_ne l .tick with rfl | other
    · obtain ⟨tour, rfl, on⟩ := h.on_of_running hl
      exact ⟨_, h.turn_tick (.on on.notes), .still rfl nofun⟩
    · refine ⟨o, h.turn_other other ?_, .still rfl nofun⟩
      rintro _ _ _ ⟨⟩
      have upkeep := h.upkeep l other _ _ _ hl
      exact upkeep
  | calls hl hr hd =>
    rename_i l op a d rest rest' since due
    rcases eq_or_ne l .tick with rfl | other
    · obtain ⟨⟨woken, st⟩, rfl, on⟩ := h.on_of_running hl
      obtain ⟨st', hcalls, on'⟩ := on.calls hr (healthy.effect hd)
      have turned : Traced e (s.turn .tick (.running rest' s.elapsed due)) (some ⟨woken, st'⟩) :=
        h.turn_tick (.on on')
      exact ⟨some ⟨woken, st'⟩, ⟨turned.tick, turned.upkeep⟩, .calls rfl hcalls hd⟩
    · obtain ⟨keeps, upkeep⟩ := answered_upkeep hr (h.upkeep l other _ _ _ hl)
      have turned : Traced e (s.turn l (.running rest' s.elapsed due)) o := by
        refine h.turn_other other ?_
        rintro _ _ _ ⟨⟩
        exact upkeep
      exact ⟨o, ⟨turned.tick, turned.upkeep⟩, .upkeep rfl other keeps hd⟩
  | publishes hl late =>
    rename_i l m timeout next since due outcome
    rcases eq_or_ne l .tick with rfl | other
    · obtain ⟨⟨woken, st⟩, rfl, on⟩ := h.on_of_running hl
      obtain ⟨w, todo, rfl, rfl, on'⟩ := on.publishes outcome
      exact ⟨_, h.turn_tick (.on on'), .publishes rfl rfl⟩
    · exact (h.upkeep l other _ _ _ hl).elim
  | panics hl =>
    rename_i l m timeout next since due
    rcases eq_or_ne l .tick with rfl | other
    · exact ⟨none, h.turn_tick (.off nofun), .panics rfl rfl⟩
    · exact (h.upkeep l other _ _ _ hl).elim
  | rests hl =>
    rename_i l since due
    rcases eq_or_ne l .tick with rfl | other
    · obtain ⟨tour, rfl, on⟩ := h.on_of_running hl
      exact ⟨none, h.turn_tick (.off nofun), .rests rfl on.follows rfl⟩
    · exact ⟨o, h.turn_other other nofun, .still rfl (other <| Option.some.inj ·)⟩
  | stops hl =>
    rename_i l due cancelled
    rcases eq_or_ne l .tick with rfl | other
    · have tick := h.tick
      rw [hl] at tick
      cases tick with
      | off => exact ⟨none, h.turn_tick (.off nofun), .still rfl nofun⟩
    · exact ⟨o, h.turn_other other nofun, .still rfl nofun⟩

/-- A call of the tick task leads its tour from one stage to another. -/
theorem Moved.of_call {x : Moment} {op : Operation} {a : Answer} (h : Moved e x o o')
    (hev : x.event = .calls .tick op a) :
    ∃ woken st st', o = some ⟨woken, st⟩ ∧ o' = some ⟨woken, st'⟩ ∧
      st.Calls e.store e.policy e.worker op a st' := by
  cases h with
  | calls hev' hcalls =>
    cases hev.symm.trans hev'
    exact ⟨_, _, _, rfl, rfl, hcalls⟩
  | upkeep hev' other =>
    cases hev.symm.trans hev'
    exact absurd rfl other
  | still depot other =>
    rw [hev] at other
    exact absurd rfl other
  | client hev' | wakes hev' | publishes hev' | panics hev' | rests hev' =>
    cases hev.symm.trans hev'

end

/-! ## Runs -/

/-- The depot has come about by these operations, and the tick task is on this tour. -/
structure Observed (e : Engine) (past : List Depot.Moment) (s : Service) (tour : Option Tour) :
    Prop where
  consistent : Depot.Consistent past s.depot
  traced : Traced e s tour

section
variable {e : Engine} {past : List Depot.Moment} {s s' : Service} {later : List Moment}
  {o : Option Tour}

/-- A step of the service keeps the depot consistent with its operations. -/
theorem consistent_step {x : Moment} (h : Depot.Consistent past x.before.depot)
    (hx : Does e x.before x.event x.after) (fresh : FreshIds (past ++ operations [x])) :
    Depot.Consistent (past ++ operations [x]) x.after.depot := by
  obtain ⟨s, ev, s'⟩ := x
  dsimp only at *
  have still : Depot.Consistent (past ++ []) s.depot := by rwa [List.append_nil]
  cases hx with
  | client hd | calls _ _ hd => exact h.does hd fresh
  | passes | shutsDown | wakes | notes | publishes | panics | rests | stops => exact still

/-- **One step of the service** takes the observer along: the depot stays consistent, and the tick
moves on its tour or stays where it is. -/
theorem Observed.step {x : Moment} (h : Observed e past x.before o)
    (hx : Does e x.before x.event x.after) (fresh : FreshIds (past ++ operations [x])) :
    ∃ o', Observed e (past ++ operations [x]) x.after o' ∧ Moved e x o o' := by
  obtain ⟨o', traced, moved⟩ := h.traced.step h.consistent.healthy hx
  exact ⟨o', ⟨consistent_step h.consistent hx fresh, traced⟩, moved⟩

theorem fresh_until {x : Moment} {rest : List Moment}
    (fresh : FreshIds (past ++ operations (later ++ x :: rest))) :
    FreshIds (past ++ operations later ++ operations [x]) := by
  rw [List.append_cons, operations_append, operations_append, ← List.append_assoc,
    ← List.append_assoc] at fresh
  exact fresh.sublist ((List.sublist_append_left _ (operations rest)).filterMap _)

/-- Where no id is made, none is made twice. -/
theorem fresh_operations (fresh : FreshIds past)
    (made : (operations later).filterMap (·.event.1.made) = []) :
    FreshIds (past ++ operations later) := by
  rw [FreshIds, List.filterMap_append, made, List.append_nil]
  exact fresh

/-- **Invariants along tours.** What every step of a run keeps, given the tour of the tick task
before and after it, holds at the end of the run. -/
theorem Observed.along {P : List Moment → Service → Option Tour → Prop} (h : Observed e past s o)
    (run : Run (Does e) s later s') (fresh : FreshIds (past ++ operations later))
    (start : P [] s o)
    (keep : ∀ done x rest o o', later = done ++ x :: rest →
      Observed e (past ++ operations done) x.before o → Does e x.before x.event x.after →
      Moved e x o o' → P done x.before o → P (done ++ [x]) x.after o') :
    ∃ o', Observed e (past ++ operations later) s' o' ∧ P later s' o' := by
  have step : ∀ done x rest, later = done ++ x :: rest →
      (∃ o, Observed e (past ++ operations done) x.before o ∧ P done x.before o) →
      Does e x.before x.event x.after →
      ∃ o, Observed e (past ++ operations (done ++ [x])) x.after o ∧ P (done ++ [x]) x.after o := by
    rintro done x rest rfl ⟨o, before, hp⟩ hx
    obtain ⟨o', after, moved⟩ := before.step hx (fresh_until fresh)
    refine ⟨o', ?_, keep done x rest o o' rfl before hx moved hp⟩
    rwa [operations_append, ← List.append_assoc]
  have begin : ∃ o, Observed e (past ++ operations ([] : List Moment)) s o ∧ P [] s o := by
    refine ⟨o, ?_, start⟩
    rwa [operations, List.filterMap_nil, List.append_nil]
  exact Run.along (P := fun done s => ∃ o, Observed e (past ++ operations done) s o ∧ P done s o)
    step run begin

/-- A run cut at a moment: how the tick task stands before it and after it. -/
theorem Observed.cut {x : Moment} {rest : List Moment} (h : Observed e past s o)
    (run : Run (Does e) s (later ++ x :: rest) s')
    (fresh : FreshIds (past ++ operations (later ++ x :: rest))) :
    ∃ o₁ o₂, Observed e (past ++ operations later) x.before o₁ ∧ Moved e x o₁ o₂ ∧
      Observed e (past ++ operations (later ++ [x])) x.after o₂ ∧
      Run (Does e) x.after rest s' := by
  obtain ⟨m, before, rfl, hx, after⟩ := run_append.1 run
  have fresh_x := fresh_until fresh
  have fresh_later := fresh_x.sublist ((List.sublist_append_left _ (operations [x])).filterMap _)
  obtain ⟨o₁, observed, -⟩ := h.along (P := fun _ _ _ => True) before fresh_later trivial
    fun _ _ _ _ _ _ _ _ _ _ => trivial
  obtain ⟨o₂, observed', moved⟩ := observed.step hx fresh_x
  refine ⟨o₁, o₂, observed, moved, ?_, after⟩
  rwa [operations_append, ← List.append_assoc]

end
end Service
end EventRelay
