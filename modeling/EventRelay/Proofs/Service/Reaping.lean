import EventRelay.Proofs.Depot.Leases
import EventRelay.Proofs.Service.Tours
import EventRelay.Proofs.Time
import EventRelay.Settings.Basic

/-!
# The reaper and the tick in progress

A tick holds the records of its batch until it has settled them one by one, and each may take as
long as a publication may take. A recovery looks at the age of a lock only. So the reaper of a
dispatcher leaves the batch of its own tick alone if a whole batch of publications fits into the
time after which a lock is stale (`reaper_spares_batch_in_hand`): the leases of the batch were taken
when the tick began (`Leases`), and the tick is over before one of them is stale. Accepted settings
need not be of this kind, and then the reaper takes records from a tick that is alive
(`reaper_takes_batch_in_hand`).
-/

namespace EventRelay.Service

open Depot (Effect Leased claimedFrom settledIn)

/-! ## What a tick has in hand -/

/-- The ids of the records that the tick in progress has claimed in the store `n` and not yet
settled, after one more step. -/
def Occurrence.inHand (n : Nat) (ids : List Uuid) : Occurrence → List Uuid
  | .calls .tick op a => (ids ++ claimedFrom n (op, a)).filter fun id => settledIn op ≠ some (n, id)
  | _ => ids

/-- The ids of the records that the tick in progress has claimed in the store `n` and not yet
settled. -/
def inHand (n : Nat) (history : List Moment) : List Uuid :=
  (history.map (·.event)).foldl (Occurrence.inHand n) []

/-- At this moment the clock of the store goes with the timers, from its origin on, nobody but the
dispatcher settles or recovers records of the store, and no publication panics. -/
structure Solo (e : Engine) (origin : Int) (x : Moment) : Prop where
  inStep : ∀ l op a now, x.event = .calls l op a → op.reading = some now →
    (Clock.mk (origin + x.before.elapsed)).read = .ok now
  clients : ∀ op a, x.event = .client op a →
    (∀ id, settledIn op ≠ some (e.store, id)) ∧
      ∀ threshold now, op ≠ .recoverStuck e.store threshold now
  survives : ∀ l, x.event ≠ .panics l

section
variable {n : Nat} {policy : Policy} {worker : String} {op : Operation} {a : Answer}
  {st st' : Stage} {history : List Moment} {x : Moment}

theorem inHand_append (n : Nat) (history : List Moment) (x : Moment) :
    inHand n (history ++ [x]) = x.event.inHand n (inHand n history) := by
  rw [inHand, List.map_append, List.foldl_append]
  rfl

/-- The other tasks do not matter for what the tick has in hand. -/
theorem inHand_other (h : x.event.task? ≠ some .tick) :
    inHand n (history ++ [x]) = inHand n history := by
  rw [inHand_append]
  unfold Occurrence.inHand
  split
  · rename_i hev
    rw [hev] at h
    exact absurd rfl h
  · rfl

/-- Of different ids a settlement takes one. -/
theorem filter_settled {r : Record} {todo : List Record}
    (distinct : ((r :: todo).map (·.id)).Nodup) :
    ((r :: todo).map (·.id)).filter (fun id => some (n, r.id) ≠ some (n, id)) =
      todo.map (·.id) := by
  rw [List.map_cons, List.nodup_cons] at distinct
  rw [List.map_cons, List.filter_cons_of_neg (by simp)]
  refine List.filter_eq_self.2 fun id hid => ?_
  have other : r.id ≠ id := fun heq => distinct.1 (heq ▸ hid)
  simpa using other

/-- **A call and what is in hand.** What a stage holds after a call is what has been claimed and not
yet settled. -/
theorem held_calls (h : st.Calls n policy worker op a st')
    (distinct : (st.held.map (·.id)).Nodup) :
    st'.held.map (·.id) = (st.held.map (·.id) ++ claimedFrom n (op, a)).filter
      fun id => settledIn op ≠ some (n, id) := by
  cases h with
  | claimBatch | claimOne =>
    simp [Stage.held, Stage.sent, Stage.waiting, claimedFrom, Depot.claimedIn, settledIn,
      List.filter_map, Function.comp_def]
  | claimNone | recoverStuck | purgePublished =>
    simp [Stage.held, Stage.sent, Stage.waiting, claimedFrom, Depot.claimedIn, settledIn]
  | markPublished | reschedule =>
    simp only [claimedFrom, Depot.claimedIn, List.filter_nil, List.map_nil, List.append_nil]
    exact (filter_settled distinct).symm

/-- Only a tick that claims is answered with records, and it claims for its worker. -/
theorem calls_claimant (h : st.Calls n policy worker op a st') {worker' : String}
    (claims : op.claimant n = some worker') :
    worker' = worker ∧ ∃ limit got, st = .claiming limit got := by
  cases h with
  | claimBatch | claimOne | claimNone =>
    have : worker = worker' := by simpa [Operation.claimant] using claims
    exact ⟨this.symm, _, _, rfl⟩
  | _ => cases claims

end

/-! ## Time -/

section
variable {origin : Int} {elapsed woken : Nat} {since now : Instant}

/-- A lease that is not older than the threshold is not stale. -/
theorem not_stale (hs : (Clock.mk (origin + woken)).read = .ok since)
    (hn : (Clock.mk (origin + elapsed)).read = .ok now) {threshold : Duration}
    (young : elapsed ≤ woken + threshold.nanos) : ¬ since < now.earlier threshold := by
  obtain ⟨since_ordinary, since_nanos⟩ := Instant.ordinary_of_read hs
  obtain ⟨now_ordinary, now_nanos⟩ := Instant.ordinary_of_read hn
  have first : Instant.earliest.nanos ≤ since.nanos := by
    have := since.second_ge
    simp only [Instant.nanos, Instant.earliest, nanosPerSecond]
    omega
  rw [Instant.lt_iff_nanos since_ordinary (Instant.ordinary_earlier now_ordinary _),
    Instant.nanos_earlier now_ordinary]
  dsimp only at since_nanos now_nanos
  omega

/-- If a whole batch of publications is shorter than the threshold, a tick is over before the leases
of its batch are stale. -/
theorem closing_le {e : Engine} {settings : Settings}
    (configured : e.config = settings.dispatcherConfig)
    (short : settings.dispatcher.batchSize.toNat * settings.dispatcher.confirmTimeoutMs.toNat <
      settings.dispatcher.staleLockThresholdSecs.toNat * 1000) (woken : Nat) :
    e.closing woken ≤ woken + e.config.staleLockThreshold.nanos := by
  have timeout : e.config.confirmTimeout.nanos =
      settings.dispatcher.confirmTimeoutMs.toNat * nanosPerMilli := by
    rw [configured]
    rfl
  have threshold : e.config.staleLockThreshold.nanos =
      settings.dispatcher.staleLockThresholdSecs.toNat * 1000 * nanosPerMilli := by
    rw [configured, Nat.mul_assoc]
    rfl
  have batch : e.config.batchSize = settings.dispatcher.batchSize.toNat := by
    rw [configured]
    rfl
  have pace : e.pace ≤ settings.dispatcher.confirmTimeoutMs.toNat * nanosPerMilli := by
    rw [← firing_mul, ← timeout]
    exact firing_mono (Nat.min_le_left ..)
  have whole := Nat.mul_le_mul_left e.config.batchSize pace
  have fits := Nat.mul_le_mul_right nanosPerMilli (Nat.succ_le_of_lt short)
  have starts := firing_lt woken
  rw [batch, ← Nat.mul_assoc] at whole
  rw [Nat.succ_mul] at fits
  unfold Engine.closing
  rw [threshold, batch]
  omega

end

/-! ## Leases along a tour -/

/-- What the tick has in hand is leased to its worker since the tick began. -/
structure Leases (e : Engine) (origin : Int) (history : List Moment) (s : Service)
    (o : Option Tour) : Prop where
  inHand : inHand e.store history = heldOn o
  distinct : (heldOn o).Nodup
  leased : ∀ tour ∈ o, ∀ id ∈ heldOn o, ∃ since,
    (Clock.mk (origin + tour.woken)).read = .ok since ∧
      s.depot.Leased e.store e.worker since id

section
variable {e : Engine} {origin : Int} {past : List Depot.Moment} {history : List Moment} {x : Moment}
  {s : Service} {o o' : Option Tour} {op : Operation} {a : Answer}

theorem leases_start (e : Engine) (origin : Int) (s : Service) : Leases e origin [] s none where
  inHand := rfl
  distinct := List.nodup_nil
  leased := by simp

/-- A step that does nothing with the records in hand, and that moves the tour from one stage to
another. -/
theorem Leases.still (h : Leases e origin history x.before o)
    (depot : x.after.depot = x.before.depot)
    (same : Service.inHand e.store (history ++ [x]) = Service.inHand e.store history)
    (held : heldOn o' = heldOn o) (woken : ∀ tour' ∈ o', heldOn o ≠ [] →
      ∃ tour ∈ o, tour.woken = tour'.woken) : Leases e origin (history ++ [x]) x.after o' where
  inHand := by rw [same, h.inHand, held]
  distinct := held ▸ h.distinct
  leased tour' htour' id hid := by
    rw [held] at hid
    obtain ⟨tour, htour, hwoken⟩ := woken tour' htour' (List.ne_nil_of_mem hid)
    rw [depot, ← hwoken]
    exact h.leased tour htour id hid

/-- An operation of somebody else, or of another task, that settles nothing and recovers no lease of
the tick. -/
theorem Leases.does (h : Leases e origin history x.before o) (filed : x.before.depot.Filed)
    (hd : Effect x.before.depot op a x.after.depot) (other : x.event.task? ≠ some .tick)
    (unsettled : ∀ id, settledIn op ≠ some (e.store, id))
    (young : ∀ threshold now, op = .recoverStuck e.store threshold now → ∀ tour ∈ o, ∀ since,
      (Clock.mk (origin + tour.woken)).read = .ok since → ¬ since < now.earlier threshold) :
    Leases e origin (history ++ [x]) x.after o where
  inHand := by rw [inHand_other other, h.inHand]
  distinct := h.distinct
  leased tour htour id hid := by
    obtain ⟨since, read, leased⟩ := h.leased tour htour id hid
    exact ⟨since, read, leased.does filed hd (unsettled id) fun threshold now hop =>
      young threshold now hop tour htour since read⟩

/-- A call of the tick: it claims records, or it settles one that it has in hand. -/
theorem Leases.calls {woken : Nat} {st st' : Stage}
    (h : Leases e origin history x.before (some ⟨woken, st⟩))
    (before : Observed e past x.before (some ⟨woken, st⟩)) (hev : x.event = .calls .tick op a)
    (hcalls : st.Calls e.store e.policy e.worker op a st')
    (hd : Effect x.before.depot op a x.after.depot)
    (inStep : ∀ now, op.reading = some now →
      (Clock.mk (origin + x.before.elapsed)).read = .ok now) :
    Leases e origin (history ++ [x]) x.after (some ⟨woken, st'⟩) := by
  have sound := before.consistent.sound
  have held : heldOn (some ⟨woken, st'⟩) = (heldOn (some ⟨woken, st⟩) ++
      claimedFrom e.store (op, a)).filter fun id => settledIn op ≠ some (e.store, id) :=
    held_calls hcalls h.distinct
  refine ⟨?_, ?_, ?_⟩
  · rw [inHand_append, hev, h.inHand, held]
    rfl
  · rw [held]
    refine List.Nodup.filter _ (h.distinct.append (hd.claimedFrom_nodup sound) ?_)
    intro id hid claimed
    obtain ⟨since, -, leased⟩ := h.leased _ rfl id hid
    exact leased.not_claimed sound hd claimed
  · rintro _ ⟨⟩ id hid
    rw [held, List.mem_filter, decide_eq_true_eq, List.mem_append] at hid
    obtain ⟨hid | claimed, unsettled⟩ := hid
    · obtain ⟨since, read, leased⟩ := h.leased _ rfl id hid
      refine ⟨since, read, leased.does sound.filed hd unsettled ?_⟩
      -- A round that recovers records holds none.
      rintro threshold now rfl
      cases hcalls
      cases hid
    · obtain ⟨worker, since, claims, reading, leased⟩ := hd.leased_of_claimed claimed
      obtain ⟨rfl, limit, got, rfl⟩ := calls_claimant hcalls claims
      obtain ⟨rest, since', due, -, on⟩ := before.traced.running
      have read := inStep since reading
      rw [on.claiming limit got rfl] at read
      exact ⟨since, read, leased⟩

/-- **Every step keeps the leases of the batch in hand**, if a tick is over before they are
stale. -/
theorem Leases.step (h : Leases e origin history x.before o) (before : Observed e past x.before o)
    (moved : Moved e x o o') (solo : Solo e origin x)
    (in_time : ∀ woken, e.closing woken ≤ woken + e.config.staleLockThreshold.nanos) :
    Leases e origin (history ++ [x]) x.after o' := by
  have filed := before.consistent.sound.filed
  cases moved with
  | still depot other =>
    exact h.still depot (inHand_other other) rfl fun tour htour _ => ⟨tour, htour, rfl⟩
  | client hev hd =>
    obtain ⟨unsettled, unrecovered⟩ := solo.clients _ _ hev
    have other : x.event.task? ≠ some .tick := by simp [hev, Occurrence.task?]
    refine h.does filed (before.consistent.healthy.effect hd) other unsettled ?_
    intro threshold now hop
    exact absurd hop (unrecovered threshold now)
  | upkeep hev hl keeps hd =>
    refine h.does filed (before.consistent.healthy.effect hd) ?_ ?_ ?_
    · rw [hev]
      exact fun heq => hl (Option.some.inj heq)
    · cases keeps <;> simp [settledIn]
    · rintro threshold now rfl tour rfl since read
      cases keeps
      obtain ⟨rest, since', due, -, on⟩ := before.traced.running
      exact not_stale read (solo.inStep _ _ _ now hev rfl)
        (Nat.le_trans on.elapsed_le (in_time tour.woken))
  | wakes hev depot =>
    refine h.still depot ?_ rfl fun _ _ none => absurd rfl none
    rw [inHand_append, hev]
    rfl
  | calls hev hcalls hd =>
    exact h.calls before hev hcalls (before.consistent.healthy.effect hd) fun now =>
      solo.inStep _ _ _ now hev
  | publishes hev depot =>
    refine h.still depot ?_ ?_ fun tour htour _ => ⟨_, rfl, ?_⟩
    · rw [inHand_append, hev]
      rfl
    · simp only [heldOn, held_after]
      rfl
    · cases htour
      rfl
  | panics hev => exact absurd hev (solo.survives _)
  | rests hev idle depot =>
    refine h.still depot ?_ ?_ (by simp)
    · rw [inHand_append, hev]
      rfl
    · simp only [heldOn, held_idle idle]
      rfl

end

/-- **The reaper spares the batch in hand.** A dispatcher is started on any content of a store that
has come about by operations, with a configuration from settings in which a whole batch of
publications is shorter than the time after which a lock is stale. Then, however long the
publications take and whatever they come to, at every moment of its run every record that a tick
in progress has claimed and not yet settled is in the hands of this dispatcher; so no reap has
returned it to the pending ones. -/
theorem reaper_spares_batch_in_hand {settings : Settings} {e : Engine} {origin : Int} {k : Nat}
    {past : List Depot.Moment} {d : Depot} {history : List Moment} {s : Service}
    (configured : e.config = settings.dispatcherConfig)
    (short : settings.dispatcher.batchSize.toNat * settings.dispatcher.confirmTimeoutMs.toNat <
      settings.dispatcher.staleLockThresholdSecs.toNat * 1000)
    (content : Run Depot.Does (Depot.start k) past d) (run : Run (Does e) (start d) history s)
    (fresh : FreshIds (past ++ operations history)) (solo : ∀ x ∈ history, Solo e origin x) :
    ∀ id ∈ inHand e.store history, ∃ r ∈ s.depot.records e.store,
      r.id = id ∧ r.status = .publishing ∧ r.lockedBy = some e.worker := by
  have fresh_past := fresh.sublist ((List.sublist_append_left _ (operations history)).filterMap _)
  have begin : Observed e past (start d) none :=
    ⟨Depot.consistent_of_run content fresh_past, traced_start e d⟩
  obtain ⟨o, -, leases⟩ := begin.along (P := Leases e origin) run fresh
    (leases_start e origin (start d)) fun done x rest o o' heq before _ moved leases =>
      leases.step before moved (solo x (by simp [heq])) (closing_le configured short)
  intro id hid
  rw [leases.inHand] at hid
  cases o with
  | none => cases hid
  | some tour =>
    obtain ⟨since, -, r, hr, heq, publishing, by_worker, -⟩ := leases.leased tour rfl id hid
    exact ⟨r, hr, heq, publishing, by_worker⟩

/-! ## Accepted settings -/

/-- The usual settings, but for the size of a batch, the time for a publication, and the time
between two reaps. -/
def settingsWith (batchSize confirmTimeoutMs reapIntervalSecs : UInt64) : Settings :=
  { Settings.default with
    dispatcher := { DispatcherSettings.default with
      batchSize := batchSize, confirmTimeoutMs := confirmTimeoutMs,
      reapIntervalSecs := reapIntervalSecs } }

def engineWith (settings : Settings) : Engine := ⟨0, .default, settings.dispatcherConfig, "w"⟩

def oneEvent : List Operation := [.enqueue 0 (.ofNat 1) (.brief none) .epoch]

/-- All tasks have their first runs, and the reaper comes round again, at some point, while the
first publication still waits; it recovers so many records. -/
def secondReap (e : Engine) (t t' : Instant) (r : Record) (point count : Nat) : List Occurrence :=
  [.wakes .tick,
    .calls .tick (.claimBatch e.store e.policy e.config.batchSize e.worker t) (.records [r]),
    .wakes .reap, .calls .reap (.recoverStuck e.store e.config.staleLockThreshold t) (.count 0),
    .rests .reap,
    .wakes .purge, .calls .purge (.purgePublished e.store e.config.retention t) (.count 0),
    .rests .purge, .passes point, .wakes .reap,
    .calls .reap (.recoverStuck e.store e.config.staleLockThreshold t') (.count count)]

/-- The history of the second reap is a run, whatever the second recovery finds. -/
theorem secondReap_run {e : Engine} {d d₁ d₂ d₃ d₄ : Depot} {t t' : Instant} {r : Record}
    {origin : Int} {point count : Nat}
    (claims : d.Does (.claimBatch e.store e.policy e.config.batchSize e.worker t, .records [r]) d₁)
    (reaps : d₁.Does (.recoverStuck e.store e.config.staleLockThreshold t, .count 0) d₂)
    (purges : d₂.Does (.purgePublished e.store e.config.retention t, .count 0) d₃)
    (reaps_again :
      d₃.Does (.recoverStuck e.store e.config.staleLockThreshold t', .count count) d₄)
    (waits : point ≤ firing (0 + patience e.config.confirmTimeout))
    (reap_due : firing (Schedule.next (Schedule.period e.config.reapInterval) 0 0) = point)
    (purge_due : point ≤ firing (Schedule.next (Schedule.period e.config.purgeInterval) 0 0))
    (begin : (Clock.mk (origin + (0 : Nat))).read = .ok t)
    (later : (Clock.mk (origin + point)).read = .ok t') :
    ∃ history s, Run (Does e) (start d) history s ∧ s.depot = d₄ ∧
      history.map (·.event) = secondReap e t t' r point count ∧
      (operations history).filterMap (·.event.1.made) = [] ∧ ∀ x ∈ history, Solo e origin x := by
  refine ⟨[⟨_, .wakes .tick, _⟩,
      ⟨_, .calls .tick (.claimBatch e.store e.policy e.config.batchSize e.worker t) _, _⟩,
      ⟨_, .wakes .reap, _⟩,
      ⟨_, .calls .reap (.recoverStuck e.store e.config.staleLockThreshold t) _, _⟩,
      ⟨_, .rests .reap, _⟩, ⟨_, .wakes .purge, _⟩,
      ⟨_, .calls .purge (.purgePublished e.store e.config.retention t) _, _⟩,
      ⟨_, .rests .purge, _⟩, ⟨_, .passes point, _⟩, ⟨_, .wakes .reap, _⟩,
      ⟨_, .calls .reap (.recoverStuck e.store e.config.staleLockThreshold t') _, _⟩], _,
    ⟨rfl, .wakes rfl (Nat.le_refl _), rfl, .calls rfl .claimBatch claims,
      rfl, .wakes rfl (Nat.le_refl _), rfl, .calls rfl .recoverStuck reaps, rfl, .rests rfl,
      rfl, .wakes rfl (Nat.le_refl _), rfl, .calls rfl .purgePublished purges, rfl, .rests rfl,
      rfl, .passes (Nat.zero_le point) ?_, rfl, .wakes rfl (Nat.le_of_eq reap_due), rfl,
      .calls rfl .recoverStuck reaps_again, rfl⟩, rfl, rfl, rfl, ?_⟩
  · rintro (_ | _ | _)
    · exact waits
    · exact ⟨rfl, Nat.le_of_eq reap_due.symm⟩
    · exact ⟨rfl, purge_due⟩
  · intro x hx
    simp only [List.mem_cons, List.not_mem_nil, or_false] at hx
    refine ⟨fun l op a now hev reading => ?_, fun op a hev => ?_, fun l hev => ?_⟩ <;>
      rcases hx with rfl | rfl | rfl | rfl | rfl | rfl | rfl | rfl | rfl | rfl | rfl <;>
      cases hev <;> cases reading
    · exact begin
    · exact begin
    · exact begin
    · exact later

/-- The record of the first tick is in hand then. -/
theorem secondReap_inHand {e : Engine} {t t' : Instant} {r : Record} {point count : Nat}
    {history : List Moment} (events : history.map (·.event) = secondReap e t t' r point count) :
    inHand e.store history = [r.id] := by
  rw [inHand, events]
  simp [secondReap, Occurrence.inHand, claimedFrom, Depot.claimedIn, settledIn]

/-- With a time for publications that is short enough the second reap finds nothing to recover, and
the batch is still in hand. -/
theorem reaper_spares_batch_in_hand_fourSeconds :
    ∃ history s, (settingsWith 10 5000 4).validate = .ok () ∧
      Run (Does (engineWith (settingsWith 10 5000 4))) (start ((Depot.start 1).after oneEvent))
        history s ∧
      FreshIds ((Depot.start 1).moments oneEvent ++ operations history) ∧
      (∀ x ∈ history, Solo (engineWith (settingsWith 10 5000 4)) 0 x) ∧
      inHand 0 history = [.ofNat 1] ∧
      ∃ r ∈ s.depot.records 0, r.id = .ofNat 1 ∧ r.status = .publishing ∧
        r.lockedBy = some "w" := by
  obtain ⟨history, s, run, -, events, made, solo⟩ := @secondReap_run
    (engineWith (settingsWith 10 5000 4)) ((Depot.start 1).after oneEvent) _ _ _ _ .epoch
    (Instant.epoch.later (.ofSeconds 4))
    ((Record.ofEvent (.ofNat 1) (.brief none) .epoch).claim "w" .epoch) 0 4000000000 0
    rfl rfl rfl rfl (by decide) (by decide) (by decide) rfl rfl
  have fresh : FreshIds ((Depot.start 1).moments oneEvent ++ operations history) :=
    fresh_operations (List.nodup_singleton _) made
  have hand : inHand 0 history = [.ofNat 1] := secondReap_inHand events
  refine ⟨history, s, rfl, run, fresh, solo, hand, ?_⟩
  exact reaper_spares_batch_in_hand rfl (by decide) (Depot.run_moments (Depot.start 1) oneEvent)
    run fresh solo (.ofNat 1) (hand ▸ List.mem_singleton_self _)

/-- **The reaper takes a batch in hand.** These settings are accepted, and they give a publication
ten minutes. A lock is stale after five, so that a reap after 400 seconds releases the record that
the tick is about to publish. -/
theorem reaper_takes_batch_in_hand :
    ∃ history s w, (settingsWith 200 600000 400).validate = .ok () ∧
      Run (Does (engineWith (settingsWith 200 600000 400))) (start ((Depot.start 1).after oneEvent))
        history s ∧
      FreshIds ((Depot.start 1).moments oneEvent ++ operations history) ∧
      (∀ x ∈ history, Solo (engineWith (settingsWith 200 600000 400)) 0 x) ∧
      history.map (·.event) = secondReap (engineWith (settingsWith 200 600000 400)) .epoch
        (Instant.epoch.later (.ofSeconds 400)) w 400000000000 1 ∧
      inHand 0 history = [.ofNat 1] ∧
      ∃ r ∈ s.depot.records 0, r.id = .ofNat 1 ∧ r.status = .pending := by
  obtain ⟨history, s, run, depot, events, made, solo⟩ := @secondReap_run
    (engineWith (settingsWith 200 600000 400)) ((Depot.start 1).after oneEvent) _ _ _ _ .epoch
    (Instant.epoch.later (.ofSeconds 400))
    ((Record.ofEvent (.ofNat 1) (.brief none) .epoch).claim "w" .epoch) 0 400000000000 1
    rfl rfl rfl rfl (by decide) (by decide) (by decide) rfl rfl
  have fresh : FreshIds ((Depot.start 1).moments oneEvent ++ operations history) :=
    fresh_operations (List.nodup_singleton _) made
  have hand : inHand 0 history = [.ofNat 1] := secondReap_inHand events
  refine ⟨history, s, _, rfl, run, fresh, solo, events, hand, ?_⟩
  rw [depot]
  exact ⟨_, List.mem_singleton_self _, rfl, rfl⟩

end EventRelay.Service
