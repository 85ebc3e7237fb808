import EventRelay.Proofs.Depot.Soundness
import EventRelay.Proofs.Dispatcher.Batches
import EventRelay.Proofs.Simulation.Running
import EventRelay.Simulation.Steps

/-!
# Rounds in memory

Where no call is planned otherwise and the clock can be read, a dispatcher that works on a store and
a broker in memory is answered by them at once. A round that a client has it do is then played
against the two without interference (`run_eq_play`), whatever loops there are beside it. So a tick
is known in closed form, for every state that a store can come to (`tick_step`).
-/

namespace EventRelay

/-- Noting that a missing record is published changes nothing. -/
theorem Contents.update_of_get?_eq_none {c : Contents} {id : Uuid} (h : c.get? id = none)
    (f : Record → Record) : c.update id f = c := by
  rw [update]
  split
  · rename_i seq found
    rw [get?, found, Option.bind_some, List.lookup_eq_none_iff] at h
    have others : (c.rows.map fun row => if row.1 = seq then (row.1, f row.2) else row) = c.rows :=
      (List.map_congr_left fun row hrow =>
        if_neg fun same => by simpa [same] using h row hrow).trans (List.map_id' _)
    rw [updateAt, others]
  · rfl

/-- A record that is not there is marked without a complaint. -/
theorem Store.markPublished_of_missing {s : Store} {id : Uuid} (h : s.get? id = .ok none)
    (now : Instant) : s.markPublished id now = .ok ((), s) := by
  simp only [get?, look] at h
  split at h
  · cases h
  · rename_i healthy
    rw [markPublished, locked, if_neg healthy, Contents.update_of_get?_eq_none (Except.ok.inj h)]

namespace Simulation

/-- A dispatcher that works in memory: its store and its broker are there, calls go through to them,
and the clock can be read. -/
structure InMemory (w : World) (agent : Nat) (now : Instant) (store broker : Nat) : Prop where
  unplanned : w.plans = {}
  reads : w.clock.read = .ok now
  client : (w.client (w.agent agent).client).store = store
  publisher : (w.agent agent).publisher = .broker broker
  stored : store < w.stores.length
  connected : broker < w.brokers.length

/-- A world that differs from another in what it has noted, and in the store and the broker with
these numbers. -/
def Parts (w : World) (n m : Nat) (s : Store) (b : Broker) (v : World) : Prop :=
  v = { w with
    stores := w.stores.set n s, brokers := w.brokers.set m b, journal := v.journal
    calls := v.calls }

namespace Parts
variable {w v : World} {agent n m : Nat} {now : Instant} {s : Store} {b : Broker}

theorem refl (hs : w.stores[n]? = some s) (hb : w.brokers[m]? = some b) : Parts w n m s b w := by
  obtain ⟨hn, rfl⟩ := List.getElem?_eq_some_iff.1 hs
  obtain ⟨hm, rfl⟩ := List.getElem?_eq_some_iff.1 hb
  simp [Parts]

section
variable (h : Parts w n m s b v)
include h

theorem note (entry : Journal.Entry) : Parts w n m s b (v.note entry) := by
  rw [Parts] at h ⊢
  rw [h]
  rfl

theorem notes (entries : List Journal.Entry) : Parts w n m s b (entries.foldl World.note v) := by
  induction entries generalizing v with
  | nil => exact h
  | cons entry entries ih => exact ih (h.note entry)

theorem noteCall (c : Call) : Parts w n m s b (v.noteCall c) := by
  rw [Parts] at h ⊢
  rw [h]
  rfl

theorem setBroker (b' : Broker) : Parts w n m s b' (v.setBroker m b') := by
  rw [Parts] at h ⊢
  rw [h]
  simp [World.setBroker]

theorem agent_eq (i : Nat) : v.agent i = w.agent i := by
  rw [h]
  rfl

theorem client_eq (i : Nat) : v.client i = w.client i := by
  rw [h]
  rfl

end

section
variable (mem : InMemory w agent now n m) (h : Parts w n m s b v)
include mem h

theorem setStoreOf (s' : Store) :
    Parts w n m s' b (v.setStoreOf (w.agent agent).client s') := by
  have place : (v.client (w.agent agent).client).store = n := by rw [h.client_eq, mem.client]
  rw [Parts] at h ⊢
  rw [World.setStoreOf, place, h]
  simp

theorem storeOf_eq : v.storeOf (w.agent agent).client = s := by
  have place : (v.client (w.agent agent).client).store = n := by rw [h.client_eq, mem.client]
  rw [World.storeOf, place, h]
  simp [Transaction.storeAt, mem.stored]

theorem broker_eq : v.broker m = b := by
  rw [World.broker, h]
  simp [mem.connected]

theorem reads : v.clock.read = .ok now := by
  rw [h]
  exact mem.reads

theorem unplanned : v.plans = {} := by
  rw [h]
  exact mem.unplanned

end

/-! ## Calls -/

/-- A call is answered by the store, which may be another one after that. -/
def Answered {α : Type} (w : World) (n m : Nat) (b : Broker) (r : Except Failure α × Store)
    (x : Ending α × World) : Prop :=
  x.1 = .ok r.1 ∧ Parts w n m r.2 b x.2

section
variable {α : Type} (mem : InMemory w agent now n m) (h : Parts w n m s b v)
  (operation : Store → Instant → Except Failure (α × Store))
include mem h

/-- What the store answers is what the world answers, and the rest of the world stays. -/
theorem settled (r : Except Failure (α × Store)) :
    (v.settled (w.agent agent).client r).1 = (s.answered r).1 ∧
      Parts w n m (s.answered r).2 b (v.settled (w.agent agent).client r).2 := by
  cases r with
  | ok a => exact ⟨rfl, h.setStoreOf mem a.2⟩
  | error failure => exact ⟨rfl, h⟩

/-- With a clock that can be read and no plans, an operation of the world is the store's own. -/
theorem readingFirst : Answered w n m b (s.answered (operation s now))
    (v.readingFirst (w.agent agent).client operation) := by
  have settled := h.settled mem (operation s now)
  rw [World.readingFirst, h.reads mem, h.storeOf_eq mem]
  exact ⟨congrArg _ settled.1, settled.2⟩

theorem readingInside : Answered w n m b (s.answered (operation s now))
    (v.readingInside (w.agent agent).client operation) := by
  have settled := h.settled mem (operation s now)
  rw [World.readingInside, h.reads mem, h.storeOf_eq mem]
  exact ⟨congrArg _ settled.1, settled.2⟩

end

section
variable (mem : InMemory w agent now n m) (h : Parts w n m s b v)
include mem h

/-- No plan is there to be used up. -/
theorem planless (c : Call) : Parts w n m s b { v.noteCall c with plans := {} } := by
  have same : ({ v.noteCall c with plans := {} } : World) = v.noteCall c := by
    rw [← (h.noteCall c).unplanned mem]
  rw [same]
  exact h.noteCall c

theorem claimFor (limit : Nat) (worker : String) :
    Answered w n m b (s.answered (s.claimEach (w.client (w.agent agent).client).policy worker
      (.frozen now) limit)) (v.claimFor (w.agent agent).client limit worker) := by
  rw [Store.claimEach_frozen, World.claimFor, h.client_eq]
  split
  · rename_i zero
    subst zero
    exact ⟨rfl, h⟩
  · exact h.readingInside mem fun s now => s.claimBatch _ limit worker now

theorem markPublishedFor (id : Uuid) :
    Answered w n m b (s.answered (s.markPublished id now))
      (v.markPublishedFor (w.agent agent).client id) := by
  rw [World.markPublishedFor, h.storeOf_eq mem]
  split
  · rename_i missing
    rw [Store.markPublished_of_missing missing]
    exact ⟨rfl, h⟩
  · exact h.readingInside mem fun s now => s.markPublished id now

/-- A postponement uses the policy of the agent's client. -/
theorem rescheduleFor (id : Uuid) (error : String) (attempts : UInt32) :
    let r := s.answered
      (s.reschedule (w.client (w.agent agent).client).policy id error attempts now)
    Answered w n m b (r.1.map fun _ => (), r.2)
      (v.rescheduleFor (w.agent agent).client id error attempts) := by
  intro r
  obtain ⟨answer, rest⟩ := h.readingFirst mem fun s now =>
    s.reschedule (w.client (w.agent agent).client).policy id error attempts now
  rw [World.rescheduleFor, h.client_eq]
  split <;> rename_i read <;> rw [read] at answer rest
  · exact ⟨by rw [← Except.ok.inj answer]; rfl, rest.notes _⟩
  · exact ⟨by rw [← Except.ok.inj answer]; rfl, rest⟩
  · cases answer

/-! ## Calls of the dispatcher -/

/-- A claim of the world is the store's claim, one record after the other. -/
theorem claimBatch (limit : Nat) (worker : String) :
    Answered w n m b (s.answered (s.claimEach (w.client (w.agent agent).client).policy worker
      (.frozen now) limit)) (v.claimBatch agent limit worker) := by
  have call := (h.planless mem (.claimBatch limit worker)).claimFor mem limit worker
  have noted := h.noteCall (.claimBatch limit worker)
  simp only [World.claimBatch, noted.unplanned mem, noted.agent_eq]
  exact call

/-- Where nothing is planned, a call goes through to the store. -/
theorem failOr {α : Type} {r : Except Failure α × Store} (call : Call)
    {through : World → Ending α × World}
    (answered : ∀ {v}, Parts w n m s b v → Answered w n m b r (through v)) :
    Answered w n m b r (v.failOr call {} none through) :=
  answered (h.planless mem call)

theorem markPublished (id : Uuid) :
    Answered w n m b (s.answered (s.markPublished id now)) (v.markPublished agent id) := by
  rw [World.markPublished, h.unplanned mem, h.agent_eq]
  exact h.failOr mem (.markPublished id) fun h => h.markPublishedFor mem id

theorem reschedule (id : Uuid) (error : String) (attempts : UInt32) :
    let r := s.answered
      (s.reschedule (w.client (w.agent agent).client).policy id error attempts now)
    Answered w n m b (r.1.map fun _ => (), r.2) (v.reschedule agent id error attempts) := by
  rw [World.reschedule, h.unplanned mem, h.agent_eq]
  exact h.failOr mem (.reschedule id error attempts)
    fun h => h.rescheduleFor mem id error attempts

theorem recoverStuck (threshold : Duration) :
    Answered w n m b (s.answered (s.recoverStuck threshold now))
      (v.recoverStuck agent threshold) := by
  rw [World.recoverStuck, h.unplanned mem, h.agent_eq]
  exact h.failOr mem (.recoverStuck threshold)
    fun h => h.readingFirst mem fun s now => s.recoverStuck threshold now

theorem purgePublished (retention : Duration) :
    Answered w n m b (s.answered (s.purgePublished retention now))
      (v.purgePublished agent retention) := by
  rw [World.purgePublished, h.unplanned mem, h.agent_eq]
  exact h.failOr mem (.purgePublished retention)
    fun h => h.readingFirst mem fun s now => s.purgePublished retention now

/-- The broker answers at once. -/
theorem publish (message : Message) (timeout : Duration) :
    let begun := v.beginPublish message timeout
    let ended := (begun.2.waitUntil begun.1.wake).endPublish agent message begun.1.plan
    ended.1 = .ok (b.publish message).1 ∧ Parts w n m s (b.publish message).2 ended.2 := by
  have noted := h.planless mem (.publish message)
  have begun : v.beginPublish message timeout =
      (⟨v.elapsed, some .deliver⟩, { v.noteCall (.publish message) with plans := {} }) := by
    simp only [World.beginPublish, (h.noteCall (.publish message)).unplanned mem, List.head?_nil,
      Option.getD_none, Nat.zero_min, true_or, if_true]
    rfl
  have still : ({ v.noteCall (.publish message) with plans := {} } : World).waitUntil v.elapsed =
      { v.noteCall (.publish message) with plans := {} } := if_pos (Nat.le_refl _)
  simp only [begun, still, World.endPublish, World.publishTo, noted.agent_eq, mem.publisher,
    noted.broker_eq mem]
  exact ⟨trivial, noted.setBroker _⟩

end
end Parts

/-! ## Rounds -/

namespace World
variable {α : Type} {w v : World} {agent n m : Nat} {now : Instant} {s : Store} {b : Broker}

/-- **A round in memory is played without interference.** -/
theorem run_eq_play (mem : InMemory w agent now n m) (a : Action α) (h : Parts w n m s b v) :
    let played := a.play (w.client (w.agent agent).client).policy Broker.publish (.frozen now) s b
    (run agent a v).1 = .ok played.1 ∧ Parts w n m played.2.1 played.2.2 (run agent a v).2 := by
  induction a generalizing s b v with
  | done a => exact ⟨rfl, h⟩
  | note entry next ih => exact ih (h.note entry)
  | claimBatch limit worker next ih =>
    have call := h.claimBatch mem limit worker
    rw [run, carryOut, goOn_of_ok call.1]
    exact ih _ call.2
  | markPublished id next ih =>
    have call := h.markPublished mem id
    rw [run, carryOut, goOn_of_ok call.1]
    exact ih _ call.2
  | reschedule id error attempts next ih =>
    have call := h.reschedule mem id error attempts
    rw [run, carryOut, goOn_of_ok call.1]
    exact ih _ call.2
  | recoverStuck threshold next ih =>
    have call := h.recoverStuck mem threshold
    rw [run, carryOut, goOn_of_ok call.1]
    exact ih _ call.2
  | purgePublished retention next ih =>
    have call := h.purgePublished mem retention
    rw [run, carryOut, goOn_of_ok call.1]
    exact ih _ call.2
  | publish message timeout next ih =>
    obtain ⟨answer, rest⟩ := h.publish mem message timeout
    rw [run, carryOut, waiting]
    dsimp only
    rw [goOn_of_ok answer]
    exact ih _ rest

/-- A tick that runs to its end is answered with its report. -/
theorem step_tick_of_run {report : TickReport}
    (h : (run agent (Dispatcher.tick (w.agent agent).config (w.agent agent).worker) w).1 =
      .ok report) :
    w.step (.tick agent) = (.report report,
      (run agent (Dispatcher.tick (w.agent agent).config (w.agent agent).worker) w).2) := by
  simp only [step, runRoundOf]
  split <;> rename_i ran <;> rw [ran] at h ⊢
  · rw [Except.ok.inj h]
  · cases h

/-- **One tick over a store and a broker in memory**, for every state that the store can come to.
The tick picks the first claimable records in the order in which they came in, as many as fit into a
batch. The first of them, as many as the broker has failures left, are pending afterwards, without a
lock, with one more attempt, the broker's words for an error, and the time of the next attempt that
follows from the attempts before; the others are published. All else is as it was: the other
records, the order of the records, the tables of the store, and the rest of the world but for its
notes. The broker has taken the messages of the others, in order. -/
theorem tick_step {k : Nat} {history : List Depot.Moment} {d : Depot}
    (reached : Run Depot.Does (Depot.start k) history d) (fresh : FreshIds history)
    (mem : InMemory w agent now n m) (hs : w.stores[n]? = some s) (hd : d.stores[n]? = some s)
    (hb : w.brokers[m]? = some b) :
    let policy := (w.client (w.agent agent).client).policy
    let rs := s.contents.picked policy now (w.agent agent).config.batchSize
    let refused := min b.failures rs.length
    ∃ journal calls, w.step (.tick agent) =
      (.report ⟨rs.length, rs.length - refused, refused⟩,
        { w with
          stores := w.stores.set n ⟨s.contents.mapRecords fun r =>
            if r.id ∈ idsOf (rs.take refused) then r.postponed policy now
            else if r.id ∈ idsOf (rs.drop refused) then r.markPublished now
            else r, false⟩
          brokers := w.brokers.set m
            { b with
              failures := b.failures - refused
              log := b.log ++ (rs.drop refused).map (·.message) }
          journal := journal, calls := calls }) := by
  intro policy rs refused
  have consistent := Depot.consistent_of_run reached fresh
  obtain ⟨hlock, hc⟩ := consistent.healthy.getElem? hd
  have sound := consistent.sound n s.contents hc
  obtain ⟨answer, rest⟩ := run_eq_play mem (Dispatcher.tick (w.agent agent).config
    (w.agent agent).worker) (Parts.refl hs hb)
  rw [hlock, sound.tick_play] at answer rest
  rw [step_tick_of_run answer]
  exact ⟨_, _, congrArg (Prod.mk _) rest⟩

def fourEvents : List Operation :=
  (List.range 4).map fun n => .enqueue 0 (.ofNat n) (.brief none) .epoch

/-- A store with four events, a broker that fails once, and a dispatcher that claims three at a
time. -/
def halting : World :=
  { start .epoch .default with
    stores := ((Depot.start 1).after fourEvents).stores, brokers := [⟨1024, [], 1⟩]
    agents := [⟨0, .broker 0, "w", { DispatcherConfig.default with batchSize := 3 }⟩] }

/-- The first of three records is put off, two are published, and the fourth has to wait. -/
theorem tick_step_halting :
    FreshIds ((Depot.start 1).moments fourEvents) ∧ InMemory halting 0 .epoch 0 0 ∧
      ∃ w', halting.step (.tick 0) = (.report ⟨3, 2, 1⟩, w') ∧
        (w'.storeOf 0).contents.records.map (fun r => (r.status, r.attempts)) =
          [(.pending, 1), (.published, 0), (.published, 0), (.pending, 0)] ∧
        (w'.broker 0).failures = 0 ∧ (w'.broker 0).log.length = 2 := by
  have fresh : FreshIds ((Depot.start 1).moments fourEvents) := by decide +kernel
  have mem : InMemory halting 0 .epoch 0 0 :=
    ⟨rfl, by decide, rfl, rfl, by decide, by decide⟩
  obtain ⟨s, hs⟩ : ∃ s, halting.stores[0]? = some s := ⟨_, rfl⟩
  obtain ⟨journal, calls, ticked⟩ :=
    tick_step (Depot.run_moments (Depot.start 1) fourEvents) fresh mem hs hs rfl
  obtain rfl := Option.some.inj hs
  rw [ticked]
  exact ⟨fresh, mem, _, Prod.ext rfl rfl, rfl, rfl, rfl⟩

end World
end Simulation
end EventRelay
