import EventRelay.Proofs.Depot.Leases
import EventRelay.Proofs.Relay.Safety
import EventRelay.Proofs.Service.Ending
import EventRelay.Proofs.Service.Tours

/-!
# A shutdown abandons no batch

A shutdown ends a task only where it waits for its next run, so that a tick in progress goes on to
its end. Each record that it has claimed waits for its publication, is out, or has been served
(`Fate`), and the stages of the tick lead from one to the next. What the store shows in the hands of
the worker of this dispatcher is what its tick has in hand (`Accounted`); so nothing is left when
the task has ended. Others may take records away in the meantime, and settle or claim them
themselves, as long as they do not claim for the same worker.
-/

namespace EventRelay.Service

open Depot (claimedFrom settledIn unsettled_of_claimant)

/-! ## What becomes of a claimed record -/

def claimedRecords : Operation × Answer → List Record
  | (.claimBatch _ _ _ _ _, .records rs) => rs
  | (.claimOne _ _ _ _, .record (some r)) => [r]
  | _ => []

/-- What has come of the publication of a record is noted: it is marked, or it is rescheduled for
the reason. -/
inductive Settlement (e : Engine) (w : Record) : Except Undelivered Unit → Operation → Prop where
  | marked {now} : Settlement e w (.ok ()) (.markPublished e.store w.id now)
  | rescheduled {error now} : Settlement e w (.error error)
      (.reschedule e.store e.policy w.id (Dispatcher.reasonText e.config.confirmTimeout error)
        w.attempts now)

/-- The tick has published the record, and since then it has done nothing but write to the
journal. -/
def SentOut (w : Record) (outcome : Except Undelivered Unit) (seen : List Moment) : Prop :=
  ∃ front y mid, seen = front ++ y :: mid ∧ y.event = .publishes .tick w.message outcome ∧
    ∀ z ∈ mid, z.event.task? ≠ some .tick

/-- The tick publishes the record, and then it settles it by what has come of the publication. -/
def Served (e : Engine) (w : Record) (seen : List Moment) : Prop :=
  ∃ front x back outcome op, seen = front ++ x :: back ∧ SentOut w outcome front ∧
    x.event = .calls .tick op .done ∧ Settlement e w outcome op

/-- What has become so far of a record that a tick has claimed. -/
inductive Fate (e : Engine) (w : Record) (woken : Nat) (seen : List Moment) :
    Option Tour → Prop where
  | waits {st} (h : w ∈ st.waiting) : Fate e w woken seen (some ⟨woken, st⟩)
  | sent {todo outcome} (h : SentOut w outcome seen) :
    Fate e w woken seen (some ⟨woken, .after e.config.confirmTimeout w todo outcome⟩)
  | served {o} (h : Served e w seen) : Fate e w woken seen o

section
variable {e : Engine} {w : Record} {woken : Nat} {seen : List Moment} {x : Moment}
  {o o' : Option Tour} {st st' : Stage} {op : Operation} {a : Answer}
  {outcome : Except Undelivered Unit} {todo : List Record}

theorem SentOut.later (h : SentOut w outcome seen) (other : x.event.task? ≠ some .tick) :
    SentOut w outcome (seen ++ [x]) := by
  obtain ⟨front, y, mid, rfl, hev, quiet⟩ := h
  refine ⟨front, y, mid ++ [x], by simp, hev, fun z hz => ?_⟩
  rcases List.mem_append.1 hz with hz | hz
  · exact quiet z hz
  · rwa [List.mem_singleton.1 hz]

theorem Served.later (h : Served e w seen) : Served e w (seen ++ [x]) := by
  obtain ⟨front, y, back, outcome, op, rfl, h⟩ := h
  exact ⟨front, y, back ++ [x], outcome, op, by simp, h⟩

/-- What a tick has claimed it is to publish. -/
theorem claimed_waiting (h : st.Calls e.store e.policy e.worker op a st')
    (hw : w ∈ claimedRecords (op, a)) : w ∈ st'.waiting := by
  cases h with
  | claimBatch => exact List.mem_append_right _ hw
  | claimOne => exact List.mem_append_right _ hw
  | _ => cases hw

/-- A record that waits for its publication waits as long as the tick calls the store. -/
theorem waiting_calls (h : st.Calls e.store e.policy e.worker op a st') (hw : w ∈ st.waiting) :
    w ∈ st'.waiting := by
  cases h with
  | claimBatch | claimOne => exact List.mem_append_left _ hw
  | claimNone | markPublished | reschedule => exact hw
  | recoverStuck | purgePublished => cases hw

/-- The call after a publication settles the record. -/
theorem settlement_calls
    (h : (Stage.after e.config.confirmTimeout w todo outcome).Calls e.store e.policy e.worker op a
      st') : Settlement e w outcome op ∧ a = .done := by
  cases outcome with
  | ok =>
    cases h with
    | markPublished => exact ⟨.marked, rfl⟩
  | error error =>
    cases h with
    | reschedule => exact ⟨.rescheduled, rfl⟩

theorem not_idle_after : ¬ (Stage.after e.config.confirmTimeout w todo outcome).Idle := by
  cases outcome <;> exact nofun

/-- **Every step leads a claimed record on**, or leaves it where it is. -/
theorem Fate.step (h : Fate e w woken seen o) (moved : Moved e x o o')
    (survives : ∀ l, x.event ≠ .panics l) : Fate e w woken (seen ++ [x]) o' := by
  cases h with
  | waits hw =>
    cases moved with
    | still | client | upkeep => exact .waits hw
    | calls hev hcalls => exact .waits (waiting_calls hcalls hw)
    | publishes hev =>
      rcases List.mem_cons.1 hw with rfl | hw
      · exact .sent ⟨seen, x, [], rfl, hev, by simp⟩
      · exact .waits (by rwa [Stage.waiting_after])
    | panics hev => exact absurd hev (survives _)
    | rests hev idle =>
      rename_i st
      cases idle <;> cases hw
  | sent out =>
    rename_i todo outcome
    generalize hst : Stage.after e.config.confirmTimeout w todo outcome = st at moved
    cases moved with
    | still depot other => exact hst ▸ .sent (out.later other)
    | client hev => exact hst ▸ .sent (out.later (by simp [hev, Occurrence.task?]))
    | upkeep hev other =>
      exact hst ▸ .sent (out.later (by simpa [hev, Occurrence.task?] using other))
    | calls hev hcalls =>
      subst hst
      obtain ⟨settles, rfl⟩ := settlement_calls hcalls
      exact .served ⟨seen, x, [], outcome, _, rfl, out, hev, settles⟩
    | publishes hev => cases outcome <;> cases hst
    | panics hev => exact absurd hev (survives _)
    | rests hev idle =>
      subst hst
      exact absurd idle not_idle_after
  | served served => exact .served served.later

/-- A call that claims records is one of a tick that claims. -/
theorem claiming_of_claimed (h : st.Calls e.store e.policy e.worker op a st')
    (hw : w ∈ claimedRecords (op, a)) : ∃ limit got, st = .claiming limit got := by
  cases h with
  | claimBatch | claimOne | claimNone => exact ⟨_, _, rfl⟩
  | _ => cases hw

end

/-! ## What the store shows in the hands of the worker -/

/-- The records that the store shows in the hands of the worker are those that its tick has in hand,
and no task of the dispatcher has died. -/
structure Accounted (e : Engine) (s : Service) (o : Option Tour) : Prop where
  orderly : s.depot.Orderly
  placed : e.store < s.depot.stores.length
  alive : ∀ l, s.tasks l ≠ .panicked
  held : ∀ r ∈ s.depot.records e.store, r.status = .publishing → r.lockedBy = some e.worker →
    r.id ∈ heldOn o

section
variable {e : Engine} {past : List Depot.Moment} {x : Moment} {s : Service} {o o' : Option Tour}
  {l : Simulation.Loop} {doing : Doing} {op : Operation} {a : Answer}

/-- Where no task has panicked and one turns to something else than a panic, none has panicked. -/
theorem alive_turn (h : ∀ l, s.tasks l ≠ .panicked) (hl : doing ≠ .panicked) :
    ∀ l', (s.turn l doing).tasks l' ≠ .panicked := by
  intro l'
  by_cases heq : l' = l
  · subst heq
    rwa [tasks_turn_self]
  · rw [tasks_turn_of_ne _ _ _ heq]
    exact h l'

/-- A task dies only of a panic. -/
theorem alive_step (hx : Does e x.before x.event x.after) (survives : ∀ l, x.event ≠ .panics l)
    (h : ∀ l, x.before.tasks l ≠ .panicked) : ∀ l, x.after.tasks l ≠ .panicked := by
  obtain ⟨s, ev, s'⟩ := x
  dsimp only at *
  cases hx with
  | client | passes | shutsDown => exact h
  | wakes | notes | publishes | rests | stops => exact alive_turn h (by simp)
  | calls =>
    rename_i l op a d rest rest' since due hl hr hd
    have turned : ∀ l', (s.turn l (.running rest' s.elapsed due)).tasks l' ≠ .panicked :=
      alive_turn h (by simp)
    exact turned
  | panics => exact absurd rfl (survives _)

/-- A step that leaves the store as it is, and all that is in hand. -/
theorem Accounted.still (h : Accounted e x.before o) (depot : x.after.depot = x.before.depot)
    (alive : ∀ l, x.after.tasks l ≠ .panicked) (held : heldOn o' = heldOn o) :
    Accounted e x.after o' where
  orderly := depot ▸ h.orderly
  placed := depot ▸ h.placed
  alive := alive
  held := by
    rw [depot, held]
    exact h.held

/-- An operation after which the tick has in hand what it had and has not settled, and what was
claimed for its worker. -/
theorem Accounted.does (h : Accounted e x.before o) (sound : x.before.depot.Sound)
    (hd : x.before.depot.Does (op, a) x.after.depot) (alive : ∀ l, x.after.tasks l ≠ .panicked)
    (kept : ∀ id ∈ heldOn o, settledIn op ≠ some (e.store, id) → id ∈ heldOn o')
    (claimed : op.claimant e.store = some e.worker →
      ∀ id ∈ claimedFrom e.store (op, a), id ∈ heldOn o') : Accounted e x.after o' where
  orderly := h.orderly.does hd
  placed := ((h.orderly.healthy.effect hd).healthy h.orderly.healthy).2 ▸ h.placed
  alive := alive
  held r hr publishing by_worker := by
    have effect := h.orderly.healthy.effect hd
    rcases effect.locked_backward sound (h.orderly.unsent e.store) hr publishing with
      ⟨old, unsettled⟩ | ⟨answered, claimant⟩
    · exact kept r.id (h.held r old publishing by_worker) unsettled
    · exact claimed (claimant.trans by_worker) r.id answered

/-- **Every step keeps the account.** -/
theorem Accounted.step (h : Accounted e x.before o) (before : Observed e past x.before o)
    (hx : Does e x.before x.event x.after) (moved : Moved e x o o')
    (others : ∀ op a, x.event = .client op a → op.claimant e.store ≠ some e.worker)
    (survives : ∀ l, x.event ≠ .panics l) : Accounted e x.after o' := by
  have alive := alive_step hx survives h.alive
  have sound := before.consistent.sound
  cases moved with
  | still depot => exact h.still depot alive rfl
  | client hev hd =>
    refine h.does sound hd alive (fun id hid _ => hid) fun claims => ?_
    exact absurd claims (others _ _ hev)
  | upkeep hev other keeps hd =>
    refine h.does sound hd alive (fun id hid _ => hid) fun claims => ?_
    cases keeps <;> cases claims
  | wakes hev depot => exact h.still depot alive rfl
  | calls hev hcalls hd =>
    exact h.does sound hd alive (fun id hid unsettled => mem_held_calls hcalls (.inl hid) unsettled)
      fun claims id hid => mem_held_calls hcalls (.inr hid) (unsettled_of_claimant claims _)
  | publishes hev depot =>
    refine h.still depot alive ?_
    simp only [heldOn, held_after]
    rfl
  | panics hev => exact absurd hev (survives _)
  | rests hev idle depot =>
    refine h.still depot alive ?_
    simp only [heldOn, held_idle idle]
    rfl

/-- Before the first claim there is nothing to account for. -/
theorem accounted_start {k : Nat} {history : List Depot.Moment} {d : Depot}
    (content : Run Depot.Does (Depot.start k) history d) (placed : e.store < d.stores.length)
    (unlocked : ∀ r ∈ d.records e.store, r.lockedBy ≠ some e.worker) :
    Accounted e (start d) none where
  orderly := Depot.orderly_of_run content
  placed := placed
  alive _ := nofun
  held r hr _ by_worker := absurd by_worker (unlocked r hr)

/-- From its claim on a record is served, as long as the tick is not still at it. -/
theorem served_or_busy {w : Record} {s' : Service} {done later : List Moment}
    (h : Observed e past s o) (run : Run (Does e) s (done ++ x :: later) s')
    (fresh : FreshIds (past ++ operations (done ++ x :: later)))
    (survives : ∀ y ∈ later, ∀ l, y.event ≠ .panics l) (hev : x.event = .calls .tick op a)
    (hw : w ∈ claimedRecords (op, a)) :
    Served e w later ∨ (∃ rest since due, s'.tasks .tick = .running rest since due) ∧
      s'.elapsed ≤ e.closing x.before.elapsed := by
  obtain ⟨o₁, o₂, before, moved, after, rest⟩ := h.cut run fresh
  obtain ⟨woken, st, st', rfl, rfl, hcalls⟩ := moved.of_call hev
  obtain ⟨limit, got, rfl⟩ := claiming_of_claimed hcalls hw
  obtain ⟨_, _, _, _, claiming⟩ := before.traced.running
  rw [List.append_cons, operations_append, ← List.append_assoc] at fresh
  obtain ⟨o', observed, fate⟩ := after.along (P := fun seen _ o => Fate e w woken seen o) rest fresh
    (.waits (claimed_waiting hcalls hw)) fun front y back o o' heq _ _ moved fate =>
      fate.step moved (survives y (by simp [heq]))
  have busy : ∀ {tour}, Observed e (past ++ operations (done ++ [x]) ++ operations later) s'
      (some tour) → tour.woken = woken →
      (∃ rest since due, s'.tasks .tick = .running rest since due) ∧
        s'.elapsed ≤ e.closing x.before.elapsed := by
    intro tour observed woken_eq
    obtain ⟨rest, since, due, running, on⟩ := observed.traced.running
    rw [claiming.claiming limit got rfl, ← woken_eq]
    exact ⟨⟨rest, since, due, running⟩, on.elapsed_le⟩
  cases fate with
  | waits | sent => exact .inr (busy observed rfl)
  | served served => exact .inl served

end

/-! ## Shutdown -/

/-- **A shutdown abandons no batch.** A dispatcher is started on any content of its store in which
no record is locked by its worker, and others do what they like, but do not claim for this worker.
The shutdown may come at any moment or never. Then each record that a tick has claimed is published
and settled, unless the tick is still at it, and it is not for longer than the timers of a whole
batch let it; when the three tasks have ended, the store shows no record in the hands of the worker;
and from every moment on they can end, without anyone else. -/
theorem shutdown_abandons_no_batch {e : Engine} {k : Nat} {past : List Depot.Moment} {d : Depot}
    {history : List Moment} {s : Service} (content : Run Depot.Does (Depot.start k) past d)
    (placed : e.store < d.stores.length)
    (unlocked : ∀ r ∈ d.records e.store, r.lockedBy ≠ some e.worker)
    (run : Run (Does e) (start d) history s) (fresh : FreshIds (past ++ operations history))
    (others : ∀ x ∈ history, ∀ op a, x.event = .client op a → op.claimant e.store ≠ some e.worker)
    (survives : ∀ x ∈ history, ∀ l, x.event ≠ .panics l) :
    (∀ done x later op a, history = done ++ x :: later → x.event = .calls .tick op a →
      ∀ w ∈ claimedRecords (op, a), Served e w later ∨
        (∃ rest since due, s.tasks .tick = .running rest since due) ∧
          s.elapsed ≤ e.closing x.before.elapsed) ∧
    ((∀ l, s.tasks l = .ended) → ∀ r ∈ s.depot.records e.store, r.status = .publishing →
      r.lockedBy ≠ some e.worker) ∧
    ∃ more s', Run (Does e) s more s' ∧ (∀ x ∈ more, ∀ op a, x.event ≠ .client op a) ∧
      ∀ l, s'.tasks l = .ended := by
  have fresh_past := fresh.sublist ((List.sublist_append_left _ (operations history)).filterMap _)
  have begin : Observed e past (start d) none :=
    ⟨Depot.consistent_of_run content fresh_past, traced_start e d⟩
  obtain ⟨o, observed, accounted⟩ := begin.along (P := fun _ => Accounted e) run fresh
    (accounted_start content placed unlocked) fun done x rest o o' heq before hx moved h =>
      h.step before hx moved (others x (by simp [heq])) (survives x (by simp [heq]))
  refine ⟨?_, ?_, ?_⟩
  · rintro done x later op a rfl hev w hw
    exact served_or_busy begin run fresh (fun y hy => survives y (by simp [hy])) hev hw
  · intro ended r hr publishing by_worker
    have held := accounted.held r hr publishing by_worker
    cases o with
    | none => cases held
    | some tour =>
      obtain ⟨rest, since, due, running, -⟩ := observed.traced.running
      rw [ended] at running
      cases running
  · exact can_end .epoch accounted.alive accounted.orderly.healthy accounted.placed

def usual : Engine := ⟨0, .default, .default, "w"⟩

def twoStored : List Operation :=
  [.enqueue 0 (.ofNat 1) (.brief none) .epoch, .enqueue 0 (.ofNat 2) (.brief none) .epoch]

def copyOf (i : Nat) : Record := (Record.ofEvent (.ofNat i) (.brief none) .epoch).claim "w" .epoch

/-- The shutdown comes two seconds after the start, while the first publication waits. The first
record is published and marked then, the publication of the second one times out, and the tick task
ends last. -/
def shutDownEarly : List Occurrence :=
  [.wakes .tick,
    .calls .tick (.claimBatch 0 .default 200 "w" .epoch) (.records [copyOf 1, copyOf 2]),
    .wakes .reap, .calls .reap (.recoverStuck 0 (.ofSeconds 300) .epoch) (.count 0), .rests .reap,
    .wakes .purge, .calls .purge (.purgePublished 0 (.ofSeconds 604800) .epoch) (.count 0),
    .rests .purge, .passes 2000000000, .shutsDown, .stops .reap, .stops .purge,
    .publishes .tick (copyOf 1).message (.ok ()),
    .calls .tick (.markPublished 0 (.ofNat 1) (Instant.epoch.later (.ofSeconds 2))) .done,
    .passes 7000000000, .publishes .tick (copyOf 2).message (.error .timedOut), .notes .tick,
    .calls .tick (.reschedule 0 .default (.ofNat 2) (Dispatcher.reasonText (.ofSeconds 5) .timedOut)
      0 (Instant.epoch.later (.ofSeconds 7))) .done,
    .notes .tick, .rests .tick, .stops .tick]

/-- The early shutdown is a run that ends with all tasks over. -/
theorem shutDownEarly_run : ∃ history s,
    Run (Does usual) (start ((Depot.start 1).after twoStored)) history s ∧
      history.map (·.event) = shutDownEarly ∧ (∀ l, s.tasks l = .ended) ∧
      (operations history).filterMap (·.event.1.made) = [] := by
  refine ⟨[⟨_, .wakes .tick, _⟩, ⟨_, .calls .tick (.claimBatch 0 .default 200 "w" .epoch) _, _⟩,
      ⟨_, .wakes .reap, _⟩, ⟨_, .calls .reap (.recoverStuck 0 (.ofSeconds 300) .epoch) _, _⟩,
      ⟨_, .rests .reap, _⟩, ⟨_, .wakes .purge, _⟩,
      ⟨_, .calls .purge (.purgePublished 0 (.ofSeconds 604800) .epoch) _, _⟩,
      ⟨_, .rests .purge, _⟩, ⟨_, .passes 2000000000, _⟩, ⟨_, .shutsDown, _⟩, ⟨_, .stops .reap, _⟩,
      ⟨_, .stops .purge, _⟩, ⟨_, .publishes .tick (copyOf 1).message (.ok ()), _⟩,
      ⟨_, .calls .tick (.markPublished 0 (.ofNat 1) (Instant.epoch.later (.ofSeconds 2))) _, _⟩,
      ⟨_, .passes 7000000000, _⟩, ⟨_, .publishes .tick (copyOf 2).message (.error .timedOut), _⟩,
      ⟨_, .notes .tick, _⟩,
      ⟨_, .calls .tick (.reschedule 0 .default (.ofNat 2)
        (Dispatcher.reasonText (.ofSeconds 5) .timedOut) 0 (Instant.epoch.later (.ofSeconds 7)))
        _, _⟩,
      ⟨_, .notes .tick, _⟩, ⟨_, .rests .tick, _⟩, ⟨_, .stops .tick, _⟩], _,
    ⟨rfl, .wakes rfl (Nat.le_refl _), rfl, .calls rfl .claimBatch rfl,
      rfl, .wakes rfl (Nat.le_refl _), rfl, .calls rfl .recoverStuck rfl, rfl, .rests rfl,
      rfl, .wakes rfl (Nat.le_refl _), rfl, .calls rfl .purgePublished rfl, rfl, .rests rfl,
      rfl, .passes (by decide) ?_, rfl, .shutsDown, rfl, .stops rfl rfl, rfl, .stops rfl rfl,
      rfl, .publishes rfl nofun, rfl, .calls rfl .markPublished rfl, rfl, .passes (by decide) ?_,
      rfl, .publishes rfl ?_, rfl, .notes rfl, rfl, .calls rfl .reschedule rfl, rfl, .notes rfl,
      rfl, .rests rfl, rfl, .stops rfl rfl, rfl⟩, rfl, ?_, rfl⟩
  · rintro (_ | _ | _)
    · exact (by decide : 2000000000 ≤ firing (0 + patience (.ofSeconds 5)))
    · exact ⟨rfl, (by decide : 2000000000 ≤ firing 60000000000)⟩
    · exact ⟨rfl, (by decide : 2000000000 ≤ firing 3600000000000)⟩
  · rintro (_ | _ | _)
    · exact (by decide : 7000000000 ≤ firing (2000000000 + patience (.ofSeconds 5)))
    · trivial
    · trivial
  · exact fun _ => (by decide : firing (2000000000 + patience (.ofSeconds 5)) ≤ 7000000000)
  · rintro (_ | _ | _) <;> rfl

/-- Both records that were claimed before the shutdown are served: one is marked, and the other one,
which timed out, is rescheduled. -/
theorem shutdown_abandons_no_batch_early :
    ∃ claimed x later s, (claimed ++ x :: later).map (·.event) = shutDownEarly ∧
      Run (Does usual) (start ((Depot.start 1).after twoStored)) (claimed ++ x :: later) s ∧
      FreshIds ((Depot.start 1).moments twoStored ++ operations (claimed ++ x :: later)) ∧
      x.event = .calls .tick (.claimBatch 0 .default 200 "w" .epoch)
        (.records [copyOf 1, copyOf 2]) ∧
      (∀ l, s.tasks l = .ended) ∧ Served usual (copyOf 1) later ∧ Served usual (copyOf 2) later ∧
      ∀ r ∈ s.depot.records 0, r.status = .publishing → r.lockedBy ≠ some "w" := by
  obtain ⟨history, s, run, events, ended, made⟩ := shutDownEarly_run
  have fresh : FreshIds ((Depot.start 1).moments twoStored ++ operations history) :=
    fresh_operations (by decide +kernel) made
  have mem : ∀ x ∈ history, x.event ∈ shutDownEarly := fun x hx => events ▸ List.mem_map_of_mem hx
  have others : ∀ x ∈ history, ∀ op a, x.event = .client op a → op.claimant 0 ≠ some "w" := by
    intro x hx op a hev
    have := hev ▸ mem x hx
    simp [shutDownEarly] at this
  have survives : ∀ x ∈ history, ∀ l, x.event ≠ .panics l := by
    intro x hx l hev
    have := hev ▸ mem x hx
    simp [shutDownEarly] at this
  obtain ⟨served, unheld, -⟩ := shutdown_abandons_no_batch (e := usual)
    (Depot.run_moments (Depot.start 1) twoStored) (by decide) (by decide +kernel) run fresh others
    survives
  obtain ⟨y, more, rfl, -, events'⟩ := List.map_eq_cons_iff.1 events
  obtain ⟨x, later, rfl, hev, -⟩ := List.map_eq_cons_iff.1 events'
  have idle : ¬ ∃ rest since due, s.tasks .tick = .running rest since due := by
    rintro ⟨rest, since, due, running⟩
    rw [ended] at running
    cases running
  have done : ∀ w ∈ [copyOf 1, copyOf 2], Served usual w later := fun w hw =>
    (served [y] x later _ _ rfl hev w hw).resolve_right fun busy => idle busy.1
  exact ⟨[y], x, later, s, events, run, fresh, hev, ended, done _ (by simp), done _ (by simp),
    unheld ended⟩

end EventRelay.Service
