import EventRelay.Proofs.Store.Veil
import EventRelay.Simulation.Calls

/-!
# A world behind a veil

In a world whose payloads are behind a veil, calls are answered as in the world itself, but for the
payloads in the answers, and lead to the same world behind the veil. The tasks are left out of it:
what they have still to do depends on payloads as a function, and is related in another way.
-/

namespace EventRelay

def Journal.Entry.veil (e : Journal.Entry) : Journal.Entry :=
  { e with fields := e.fields.map fun f => if f.1 = "body" then (f.1, .text "") else f }

/-- A line of the journal about a delivery shows the message behind the veil, and no body. -/
theorem Journal.delivery_veil (m : Message) (body : String) :
    (delivery m body).veil = delivery m.veil "" := by
  simp [Entry.veil, delivery, Message.veil]

/-- What a store notes when a delivery has failed is no body of any. -/
theorem Store.reschedule_notes {s s' : Store} {policy : Policy} {id : Uuid} {error : String}
    {attempts : UInt32} {now : Instant} {entries : List Journal.Entry}
    (h : s.reschedule policy id error attempts now = .ok (entries, s')) :
    entries.map Journal.Entry.veil = entries := by
  have exhausted (k : Int) :
      (Journal.attemptsExhausted id k).veil = Journal.attemptsExhausted id k := by
    simp [Journal.Entry.veil, Journal.attemptsExhausted, Journal.idField]
  unfold reschedule locked at h
  split at h
  · cases h
  · obtain ⟨rfl, -⟩ := Prod.mk.inj (Except.ok.inj h)
    split
    · split
      · rw [List.map_singleton, exhausted]
      · rfl
    · rfl

namespace Simulation

def StorePlan.veil : StorePlan → StorePlan
  | .fail failure => .fail failure
  | .answer records => .answer (records.map Record.veil)

def Plans.veil (p : Plans) : Plans where
  claimBatch := p.claimBatch.map (Option.map StorePlan.veil)
  markPublished := p.markPublished.map (Option.map StorePlan.veil)
  reschedule := p.reschedule.map (Option.map StorePlan.veil)
  recoverStuck := p.recoverStuck.map (Option.map StorePlan.veil)
  purgePublished := p.purgePublished.map (Option.map StorePlan.veil)
  publish := p.publish

def Call.veil : Call → Call
  | .publish m => .publish m.veil
  | call => call

/-- The next plan behind a veil. -/
theorem planned_veil (plans : List (Option StorePlan)) :
    (plans.map (Option.map StorePlan.veil)).head?.join = plans.head?.join.map StorePlan.veil := by
  rcases plans with _ | ⟨_ | plan, rest⟩ <;> rfl

namespace World

/-- The world behind a veil, and without its tasks. -/
def veil (w : World) : World :=
  { w with
    stores := w.stores.map Store.veil
    transactions := w.transactions.map fun x => (x.1, x.2.veil)
    brokers := w.brokers.map Broker.veil
    plans := w.plans.veil
    tasks := []
    journal := w.journal.map Journal.Entry.veil
    calls := w.calls.map fun x => (x.1, x.2.veil) }

section
variable (w : World) (n : Nat)

theorem storeOf_veil : w.veil.storeOf n = (w.storeOf n).veil :=
  Transaction.storeAt_veil w.stores (w.client n).store

theorem setStoreOf_veil (s : Store) : w.veil.setStoreOf n s.veil = (w.setStoreOf n s).veil := by
  simp only [setStoreOf, veil, List.map_set]
  rfl

theorem broker_veil : w.veil.broker n = (w.broker n).veil := by
  simp only [broker, veil, List.getElem?_map]
  cases w.brokers[n]? <;> rfl

theorem setBroker_veil (b : Broker) : w.veil.setBroker n b.veil = (w.setBroker n b).veil := by
  simp only [setBroker, veil, List.map_set]

theorem note_veil (entry : Journal.Entry) : (w.note entry).veil = w.veil.note entry.veil := by
  simp only [note, veil, List.map_append, List.map_singleton]

theorem notes_veil (entries : List Journal.Entry) :
    (entries.foldl note w).veil = (entries.map Journal.Entry.veil).foldl note w.veil := by
  induction entries generalizing w with
  | nil => rfl
  | cons entry rest ih => exact (ih (w.note entry)).trans (by rw [note_veil]; rfl)

end

/-! ## Reading the clock -/

section
variable {α : Type} (w : World) (n : Nat) {g : α → α}

theorem settled_veil (r : Except Failure (α × Store)) :
    w.veil.settled n (r.map fun x => (g x.1, x.2.veil)) =
      ((w.settled n r).1.map g, (w.settled n r).2.veil) := by
  cases r with
  | error failure => rfl
  | ok x => exact congrArg (Prod.mk _) (w.setStoreOf_veil n x.2)

variable {operation operation' : Store → Instant → Except Failure (α × Store)}
  (h : ∀ s now, operation' s.veil now = (operation s now).map fun x => (g x.1, x.2.veil))
include h

theorem readingFirst_veil :
    w.veil.readingFirst n operation' =
      ((w.readingFirst n operation).1.map (Except.map g),
        (w.readingFirst n operation).2.veil) := by
  have clock : w.veil.clock = w.clock := rfl
  unfold readingFirst
  rw [clock, storeOf_veil]
  cases w.clock.read with
  | error fault => rfl
  | ok now =>
    dsimp only
    rw [h, settled_veil]
    rfl

theorem readingInside_veil :
    w.veil.readingInside n operation' =
      ((w.readingInside n operation).1.map (Except.map g),
        (w.readingInside n operation).2.veil) := by
  have clock : w.veil.clock = w.clock := rfl
  unfold readingInside
  rw [clock, storeOf_veil]
  cases w.clock.read with
  | error fault =>
    dsimp only
    rw [Store.poisoned_veil]
    split
    · rfl
    · rw [Store.poison_veil, setStoreOf_veil]
      rfl
  | ok now =>
    dsimp only
    rw [h, settled_veil]
    rfl

end

section
variable {α : Type} (w : World) (n : Nat)
  {operation operation' : Store → Instant → Except Failure (α × Store)}

/-- An answer without payloads is the same behind the veil. -/
theorem answer_map_id (x : Ending α) : x.map (Except.map fun a => a) = x := by
  rcases x with _ | _ | _ <;> rfl

/-- An operation that never answers with a payload answers the same behind the veil. -/
theorem readingFirst_same
    (h : ∀ s now, operation' s.veil now = (operation s now).map fun x => (x.1, x.2.veil)) :
    w.veil.readingFirst n operation' =
      ((w.readingFirst n operation).1, (w.readingFirst n operation).2.veil) := by
  rw [w.readingFirst_veil (g := fun a => a) n h, answer_map_id]

theorem readingInside_same
    (h : ∀ s now, operation' s.veil now = (operation s now).map fun x => (x.1, x.2.veil)) :
    w.veil.readingInside n operation' =
      ((w.readingInside n operation).1, (w.readingInside n operation).2.veil) := by
  rw [w.readingInside_veil (g := fun a => a) n h, answer_map_id]

/-- An answer that comes through is the store's own. -/
theorem readingFirst_answers {w : World} {n : Nat} {a : α} {v : World}
    (h : w.readingFirst n operation = (.ok (.ok a), v)) :
    ∃ now s, operation (w.storeOf n) now = .ok (a, s) := by
  unfold readingFirst at h
  cases hread : w.clock.read with
  | error fault =>
    rw [hread] at h
    cases h
  | ok now =>
    rw [hread] at h
    dsimp only at h
    refine ⟨now, ?_⟩
    rcases hop : operation (w.storeOf n) now with failure | ⟨b, s⟩
    · rw [hop] at h
      cases h
    · rw [hop] at h
      cases h
      exact ⟨s, rfl⟩

end

/-! ## Operations of a client -/

section
variable (w : World) (n : Nat)

/-- An event can be veiled before it is enqueued. -/
theorem enqueueFor_veil (e : Event) :
    w.veil.enqueueFor n e.veil =
      ((w.enqueueFor n e).1.map (Except.map (Option.map Record.veil)),
        (w.enqueueFor n e).2.veil) := by
  unfold enqueueFor
  rw [Event.validate_veil]
  cases e.validate with
  | error failure => rfl
  | ok => exact w.readingFirst_veil n fun s now => s.enqueue_veil (idMade w.made) e now

theorem claimFor_veil (limit : Nat) (worker : String) :
    w.veil.claimFor n limit worker =
      ((w.claimFor n limit worker).1.map (Except.map (List.map Record.veil)),
        (w.claimFor n limit worker).2.veil) := by
  unfold claimFor
  split
  · rfl
  · exact w.readingInside_veil n fun s now =>
      s.claimBatch_veil (w.client n).policy limit worker now

theorem markPublishedFor_veil (id : Uuid) :
    w.veil.markPublishedFor n id =
      ((w.markPublishedFor n id).1, (w.markPublishedFor n id).2.veil) := by
  have read : w.veil.readingInside n (fun s now => s.markPublished id now) = _ :=
    w.readingInside_same n fun s now => s.markPublished_veil id now
  unfold markPublishedFor
  rw [storeOf_veil, Store.get?_veil, read]
  rcases (w.storeOf n).get? id with _ | _ | r <;> rfl

theorem rescheduleFor_veil (id : Uuid) (error : String) (attempts : UInt32) :
    w.veil.rescheduleFor n id error attempts =
      ((w.rescheduleFor n id error attempts).1,
        (w.rescheduleFor n id error attempts).2.veil) := by
  have read : w.veil.readingFirst n
      (fun s now => s.reschedule (w.client n).policy id error attempts now) = _ :=
    w.readingFirst_same n fun s now => s.reschedule_veil (w.client n).policy id error attempts now
  have same : w.veil.client n = w.client n := rfl
  unfold rescheduleFor
  dsimp only
  rw [same, read]
  rcases answered : w.readingFirst n fun s now =>
    s.reschedule (w.client n).policy id error attempts now with ⟨_ | _ | entries, v⟩
  · rfl
  · rfl
  · obtain ⟨now, s, noted⟩ := readingFirst_answers answered
    dsimp only
    rw [notes_veil, Store.reschedule_notes noted]

theorem recoverFor_veil (threshold : Duration) :
    w.veil.recoverFor n threshold =
      ((w.recoverFor n threshold).1, (w.recoverFor n threshold).2.veil) :=
  w.readingFirst_same n fun s now => s.recoverStuck_veil threshold now

theorem purgeFor_veil (retention : Duration) :
    w.veil.purgeFor n retention =
      ((w.purgeFor n retention).1, (w.purgeFor n retention).2.veil) :=
  w.readingFirst_same n fun s now => s.purgePublished_veil retention now

/-! ## Calls of dispatchers -/

/-- A call is noted and a plan for it is used up. -/
theorem called_veil (call : Call) (plans : Plans) :
    ({ w.noteCall call with plans := plans } : World).veil =
      { w.veil.noteCall call.veil with plans := plans.veil } := by
  simp only [noteCall, veil, List.map_append, List.map_singleton]

/-- **A claim commutes with the veil**, whatever is planned for it. -/
theorem claimBatch_veil (limit : Nat) (worker : String) :
    w.veil.claimBatch n limit worker =
      ((w.claimBatch n limit worker).1.map (Except.map (List.map Record.veil)),
        (w.claimBatch n limit worker).2.veil) := by
  have used := w.called_veil (.claimBatch limit worker)
    { w.plans with claimBatch := w.plans.claimBatch.tail }
  rw [Plans.veil, List.map_tail] at used
  have planned : (w.veil.noteCall (.claimBatch limit worker)).plans.claimBatch.head?.join =
      (w.noteCall (.claimBatch limit worker)).plans.claimBatch.head?.join.map StorePlan.veil :=
    planned_veil w.plans.claimBatch
  unfold claimBatch
  dsimp only
  rw [planned]
  rcases (w.noteCall (.claimBatch limit worker)).plans.claimBatch.head?.join with
    _ | failure | records
  · exact (congrArg (·.claimFor (w.agent n).client limit worker) used).symm.trans
      (claimFor_veil _ _ limit worker)
  · exact congrArg (Prod.mk _) used.symm
  · exact congrArg (Prod.mk _) used.symm

/-- A call that fails by plan or goes through commutes with the veil, if what goes through does. -/
theorem failOr_veil {α : Type} (call : Call) (plans : Plans) (planned : List (Option StorePlan))
    (through : World → Ending α × World)
    (h : ∀ v : World, through v.veil = ((through v).1, (through v).2.veil)) :
    w.veil.failOr call.veil plans.veil (planned.map (Option.map StorePlan.veil)).head?.join
        through =
      ((w.failOr call plans planned.head?.join through).1,
        (w.failOr call plans planned.head?.join through).2.veil) := by
  unfold failOr
  rw [planned_veil, ← called_veil]
  rcases planned.head?.join with _ | failure | records
  · exact h _
  · rfl
  · exact h _

theorem markPublished_veil (id : Uuid) :
    w.veil.markPublished n id = ((w.markPublished n id).1, (w.markPublished n id).2.veil) := by
  have acted := w.failOr_veil (.markPublished id)
    { w.plans with markPublished := w.plans.markPublished.tail } w.plans.markPublished
    (·.markPublishedFor (w.agent n).client id) (markPublishedFor_veil · _ id)
  rwa [Plans.veil, List.map_tail] at acted

theorem reschedule_veil (id : Uuid) (error : String) (attempts : UInt32) :
    w.veil.reschedule n id error attempts =
      ((w.reschedule n id error attempts).1, (w.reschedule n id error attempts).2.veil) := by
  have acted := w.failOr_veil (.reschedule id error attempts)
    { w.plans with reschedule := w.plans.reschedule.tail } w.plans.reschedule
    (·.rescheduleFor (w.agent n).client id error attempts)
    (rescheduleFor_veil · _ id error attempts)
  rwa [Plans.veil, List.map_tail] at acted

theorem recoverStuck_veil (threshold : Duration) :
    w.veil.recoverStuck n threshold =
      ((w.recoverStuck n threshold).1, (w.recoverStuck n threshold).2.veil) := by
  have acted := w.failOr_veil (.recoverStuck threshold)
    { w.plans with recoverStuck := w.plans.recoverStuck.tail } w.plans.recoverStuck
    (·.recoverFor (w.agent n).client threshold) (recoverFor_veil · _ threshold)
  rwa [Plans.veil, List.map_tail] at acted

theorem purgePublished_veil (retention : Duration) :
    w.veil.purgePublished n retention =
      ((w.purgePublished n retention).1, (w.purgePublished n retention).2.veil) := by
  have acted := w.failOr_veil (.purgePublished retention)
    { w.plans with purgePublished := w.plans.purgePublished.tail } w.plans.purgePublished
    (·.purgeFor (w.agent n).client retention) (purgeFor_veil · _ retention)
  rwa [Plans.veil, List.map_tail] at acted

/-! ## Publishing -/

/-- When a publication ends that is begun now, and how, by the plan for it. -/
def attempt (now : Nat) (timeout : Duration) (planned : Nat × PublishPlan) : Attempt :=
  let delay := min planned.1 Schedule.horizon
  let limit := min (ceilMillis timeout.nanos) Schedule.horizon
  if delay = 0 ∨ delay ≤ limit then ⟨now + delay, some planned.2⟩ else ⟨now + limit, none⟩

/-- An attempt uses up the next plan for publishing and notes the call, and does nothing else. -/
theorem beginPublish_eq (m : Message) (timeout : Duration) :
    w.beginPublish m timeout =
      (attempt w.elapsed timeout (w.plans.publish.head?.getD (0, .deliver)),
        { w.noteCall (.publish m) with
          plans := { w.plans with publish := w.plans.publish.tail } }) := by
  unfold beginPublish attempt
  dsimp only
  split <;> rename_i h
  · exact congrArg (Prod.mk · _) (if_pos h).symm
  · exact congrArg (Prod.mk · _) (if_neg h).symm

theorem beginPublish_veil (m : Message) (timeout : Duration) :
    w.veil.beginPublish m.veil timeout =
      ((w.beginPublish m timeout).1, (w.beginPublish m timeout).2.veil) := by
  rw [beginPublish_eq, beginPublish_eq, called_veil]
  rfl

end

section
variable {w₁ w₂ : World} (n : Nat) {m₁ m₂ : Message}

/-- A publication leads to the same world behind the veil. What is written to the journal in place
of a delivery does not: its body is hidden only afterwards. -/
theorem publishTo_same (p : Publisher) (world : w₁.veil = w₂.veil) (message : m₁.veil = m₂.veil) :
    (w₁.publishTo p m₁).1 = (w₂.publishTo p m₂).1 ∧
      (w₁.publishTo p m₁).2.veil = (w₂.publishTo p m₂).2.veil := by
  cases p with
  | broker k =>
    have one (w : World) (m : Message) : w.veil.publishTo (.broker k) m.veil =
        ((w.publishTo (.broker k) m).1, (w.publishTo (.broker k) m).2.veil) := by
      unfold publishTo
      dsimp only
      rw [broker_veil, Broker.publish_veil, setBroker_veil]
    have both := one w₁ m₁
    rw [world, message, one] at both
    exact ⟨(congrArg Prod.fst both).symm, (congrArg Prod.snd both).symm⟩
  | journal =>
    refine ⟨rfl, ?_⟩
    simp only [publishTo]
    rw [note_veil, note_veil, Journal.delivery_veil, Journal.delivery_veil, world, message]

/-- The end of an attempt is the same for worlds and messages that are the same behind the veil. -/
theorem endPublish_same (plan : Option PublishPlan) (world : w₁.veil = w₂.veil)
    (message : m₁.veil = m₂.veil) :
    (w₁.endPublish n m₁ plan).1 = (w₂.endPublish n m₂ plan).1 ∧
      (w₁.endPublish n m₁ plan).2.veil = (w₂.endPublish n m₂ plan).2.veil := by
  have agents : w₁.agents = w₂.agents := show w₁.veil.agents = w₂.veil.agents by rw [world]
  have publisher : (w₁.agent n).publisher = (w₂.agent n).publisher := by
    rw [agent, agents, agent]
  rcases plan with _ | (_ | chain | message)
  · exact ⟨rfl, world⟩
  · obtain ⟨same, rest⟩ := publishTo_same (w₁.agent n).publisher world message
    unfold endPublish
    rw [← publisher]
    exact ⟨congrArg Except.ok same, rest⟩
  · exact ⟨rfl, world⟩
  · exact ⟨rfl, world⟩

end

end World
end Simulation
end EventRelay
