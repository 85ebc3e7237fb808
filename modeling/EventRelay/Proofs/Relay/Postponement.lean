import EventRelay.Proofs.Relay.Budget
import EventRelay.Proofs.Time

/-!
# Failed deliveries are put off

Where one tick after the other works on a store, and nobody else claims or settles records, a failed
delivery is put off: the record is not handed to the publisher again before a tick has claimed it at
a time that is not before the end of the delay, which depends on the number of failures before
(`failed_delivery_is_put_off`). The failures are counted by the copy that the round holds, and the
copy agrees with the store also if the record was taken back from the round in the meantime
(`AllFailed`, on top of the balance of `Ledger`). From then on the record is not due before the end
of the delay, wherever it is, and whoever recovers or purges (`Depot.NotDueBefore`); the next
failure puts it off again, and not to an earlier time, unless the clock was set back
(`put_off_is_cut_short`).
-/

namespace EventRelay

/-- The record whose publication was confirmed and is not noted yet. -/
def Stage.toNote : Stage → Option Uuid
  | .confirmed r _ => some r.id
  | _ => none

namespace Relay

/-- A publication of the record with the id fails. -/
def fails (id : Uuid) : Happening → Bool
  | .publishes _ m (.error _) => m.options.messageId = String.ofList id.text
  | _ => false

/-- How often the delivery of the record with the id has failed. -/
def failures (history : List Moment) (id : Uuid) : Nat :=
  history.countP fun x => fails id x.event

/-- The times that rounds have read are times of clocks, which show no leap seconds. -/
def OnClock (history : List Moment) : Prop :=
  ∀ x ∈ history, ∀ i op a, x.event = .calls i op a → ∀ now ∈ op.reading, now.Ordinary

/-- No reschedule of the record with the id reads a clock that shows a time before `t`. -/
def NotSetBack (n : Nat) (id : Uuid) (t : Instant) (history : List Moment) : Prop :=
  ∀ x ∈ history, ∀ i policy error attempts now a,
    x.event = .calls i (.reschedule n policy id error attempts now) a → t ≤ now

/-- The round `i` has claimed the record with the id, and its clock showed `due` or later then. -/
def ClaimedFrom (n : Nat) (policy : Policy) (id : Uuid) (due : Instant) (i : Nat)
    (history : List Moment) : Prop :=
  ∃ x ∈ history, ∃ limit worker now rs,
    x.event = .calls i (.claimBatch n policy limit worker now) (.records rs) ∧
    (∃ r ∈ rs, r.id = id) ∧ due ≤ now

end Relay

/-! ## Records that are put off -/

namespace Depot

/-- The record with the id is stored and nowhere staged, and it is not due before a time. -/
structure NotDueBefore (d : Depot) (n : Nat) (id : Uuid) (due : Instant) : Prop where
  stored : ∀ t ∈ d.records n, t.id = id → due ≤ t.nextAttemptAt
  unstaged : ∀ t ∈ d.staged n, t.id ≠ id

section
variable {d d' : Depot} {op : Operation} {a : Answer} {n : Nat} {id : Uuid} {due : Instant}

/-- Nothing but a reschedule changes when a record is due. -/
theorem Change.nextAttemptAt_cases {r r' : Record} (h : Change n op r r') :
    r'.nextAttemptAt = r.nextAttemptAt ∨ ∃ policy error attempts now,
      op = .reschedule n policy r.id error attempts now ∧
        r'.nextAttemptAt = now.later (policy.backoff.delay attempts) := by
  cases h with
  | kept | claimed | claimedOne | marked | released => exact .inl rfl
  | rescheduled hid =>
    subst hid
    exact .inr ⟨_, _, _, _, rfl, rfl⟩

/-- **One step leaves a record put off**, unless it reschedules it to an earlier time. -/
theorem Effect.notDueBefore (h : d.NotDueBefore n id due) (filed : d.Filed) (hd : Effect d op a d')
    (old : op.made ≠ some id)
    (later : ∀ policy error attempts now, op = .reschedule n policy id error attempts now →
      due ≤ now.later (policy.backoff.delay attempts)) : d'.NotDueBefore n id due := by
  constructor
  · intro t' ht' hid
    obtain ⟨t, ht, same, hc⟩ := hd.backward_of_old filed old h.unstaged ht' hid
    rcases hc.nextAttemptAt_cases with heq | ⟨policy, error, attempts, now, hop, heq⟩
    · rw [heq]
      exact h.stored t ht same
    · rw [heq]
      exact later policy error attempts now (same ▸ hop)
  · exact hd.unstaged_of_old old h.unstaged

/-- What a batch has claimed was due. -/
theorem NotDueBefore.le_of_claimed {policy : Policy} {limit : Nat} {worker : String} {now : Instant}
    {rs : List Record} (h : d.NotDueBefore n id due)
    (hd : Effect d (.claimBatch n policy limit worker now) (.records rs) d') {w : Record}
    (hw : w ∈ rs) (hid : w.id = id) : due ≤ now := by
  obtain ⟨r, hr, hclaim, rfl, -⟩ := hd.exists_of_claimBatch hw
  obtain ⟨-, ready, -⟩ := Record.claimable_iff.1 hclaim
  exact Instant.le_trans (h.stored r hr hid) ready

end
end Depot

/-! ## Failures -/

namespace Relay

section
variable {history : List Moment} {x : Moment} {id : Uuid}

theorem failures_append (history : List Moment) (x : Moment) (id : Uuid) :
    failures (history ++ [x]) id = failures history id + if fails id x.event then 1 else 0 := by
  simp [failures, List.countP_append, List.countP_singleton]

theorem publishes_of_fails {ev : Happening} (h : fails id ev = true) : publishes id ev = true := by
  unfold fails at h
  split at h
  · exact h
  · cases h

/-- No more publications have failed than were made. -/
theorem failures_le_publications (history : List Moment) (id : Uuid) :
    failures history id ≤ publications history id :=
  List.countP_mono_left fun _ _ h => publishes_of_fails h

theorem failures_still (unpublished : ∀ id, publishes id x.event = false) :
    failures (history ++ [x]) = failures history := by
  funext id
  have unfailed : fails id x.event = false :=
    Bool.eq_false_iff.2 fun hfails => by simpa [publishes_of_fails hfails] using unpublished id
  simp [failures_append, unfailed]

end

/-- All publications of a record that is not published have failed, but for the one that is
confirmed and still to be noted. -/
def AllFailed (n : Nat) (history : List Moment) (d : Depot) (toNote : Option Uuid) : Prop :=
  ∀ t ∈ d.records n, t.status ≠ .published → toNote ≠ some t.id →
    failures history t.id = publications history t.id

section
variable {n i i' : Nat} {policy : Policy} {history : List Moment} {x : Moment}
  {courses : List Course} {s s' : Stage} {op : Operation} {a : Answer} {toNote : Option Uuid}

/-- The counts agree where nothing was published. -/
theorem failures_eq_of_unpublished {id : Uuid} (h : publications history id = 0) :
    failures history id = publications history id := by
  have := failures_le_publications history id
  omega

/-- An operation that settles nothing leaves the count of failures as it is. -/
theorem AllFailed.does (h : AllFailed n history x.before.depot toNote)
    (watched : Watched n policy history x.before courses i s)
    (hd : x.before.depot.Does (op, a) x.after.depot) (unsettling : ∀ id, ¬ op.Settles n id)
    (new : ∀ id, op.made = some id → id ∉ Depot.madeIds (operations history))
    (unpublished : ∀ id, publishes id x.event = false) :
    AllFailed n (history ++ [x]) x.after.depot toNote := by
  intro t' ht' hstatus hnote
  rw [failures_still unpublished, publications_still unpublished]
  have effect := watched.consistent.healthy.effect hd
  rcases effect.backward watched.consistent.sound.filed ht' with ⟨t, ht, hc⟩ | henter
  · have same := hc.tally_eq (unsettling _)
    simp only [Record.tally, Prod.mk.injEq, decide_eq_decide] at same
    rw [same.1] at hnote ⊢
    exact h t ht (fun hp => hstatus (same.2.2.2 hp)) hnote
  · refine failures_eq_of_unpublished ?_
    cases henter with
    | enqueued => exact not_not.1 fun hne => new _ rfl (watched.ledger.known _ hne)
    | committed htx hn hin =>
      exact (watched.ledger.unsent t' (Depot.mem_staged.2 ⟨_, _, htx, hn, hin⟩)).2

/-- The round settles the record that it has published; if that has failed, the record was not
published by anybody else. -/
theorem AllFailed.settles {w : Record} (h : AllFailed n history x.before.depot s.toNote)
    (watched : Watched n policy history x.before courses i s) (hs : s.sent = some w)
    {c : Contents} (hc : x.before.depot.contents? n = some c) {f : Record → Record}
    (depot : x.after.depot = x.before.depot.put n (c.update w.id f))
    (same : ∀ t, (f t).id = t.id)
    (noted : s.toNote = some w.id → ∀ t, (f t).status = .published)
    (others : ∀ id, s.toNote = some id → id = w.id)
    (unpublished : ∀ id, publishes id x.event = false) :
    AllFailed n (history ++ [x]) x.after.depot none := by
  intro t' ht' hstatus _
  rw [failures_still unpublished, publications_still unpublished]
  rw [depot, watched.consistent.sound.records_settled hc] at ht'
  obtain ⟨t, ht, rfl⟩ := List.mem_map.1 ht'
  split at hstatus
  · rename_i hid
    obtain ⟨-, -, t₀, ht₀, htally⟩ := watched.ledger.sent w hs
    simp only [Record.tally, Prod.mk.injEq, decide_eq_false_iff_not] at htally
    have hfind := watched.consistent.sound.find?_eq_some_iff.2 ⟨ht₀, htally.1⟩
    obtain rfl : t₀ = t :=
      Option.some.inj (hfind.symm.trans (watched.consistent.sound.find?_eq_some_iff.2 ⟨ht, hid⟩))
    rw [if_pos hid, same]
    exact h t₀ ht htally.2.2 fun hnote => hstatus (noted (hid ▸ hnote) t₀)
  · rename_i hne
    rw [if_neg hne]
    exact h t ht hstatus fun hnote => hne (others _ hnote)

/-- **Every step keeps the failures in view.** -/
theorem AllFailed.step (h : AllFailed n history x.before.depot s.toNote)
    (watched : Watched n policy history x.before courses i s)
    (moved : Moved n policy history x i s i' s') :
    AllFailed n (history ++ [x]) x.after.depot s'.toNote := by
  cases moved with
  | still depot unpublished =>
    intro t ht
    rw [depot] at ht
    rw [failures_still unpublished, publications_still unpublished]
    exact h t ht
  | does hd unsettling new calls unpublished =>
    exact h.does watched hd unsettling new unpublished
  | calls hev hcalls busy whole hd =>
    have unpublished : ∀ id, publishes id x.event = false := by simp [hev, publishes]
    have effect := watched.consistent.healthy.effect hd
    cases hcalls with
    | claimBatch =>
      exact h.does watched hd (by rintro id ⟨⟩) (by simp [Operation.made]) unpublished
    | claimOne | claimNone => exact absurd rfl (whole _ _ _ _)
    | markPublished =>
      obtain ⟨c, hc, depot⟩ := effect.of_marked
      exact h.settles watched rfl hc depot (fun _ => rfl) (fun _ _ => rfl)
        (fun id hid => (Option.some.inj hid).symm) unpublished
    | reschedule =>
      obtain ⟨c, hc, depot⟩ := effect.of_rescheduled
      exact h.settles watched rfl hc depot (fun _ => rfl) (by rintro ⟨⟩) (by rintro _ ⟨⟩)
        unpublished
    | recoverStuck | purgePublished => exact absurd .upkeep busy
  | publishes hs hev depot timeout =>
    rename_i w todo outcome
    subst hs
    intro t ht hstatus hnote
    rw [depot] at ht
    have before := h t ht hstatus (by rintro ⟨⟩)
    have published := publishes_message w t.id i outcome
    rw [failures_append, publications_append, before, hev]
    cases outcome with
    | error e => rfl
    | ok =>
      have other : w.id ≠ t.id := fun hid => hnote (congrArg some hid)
      simp [fails, mt published.1 other]
  | ticks idle depot unpublished =>
    intro t ht hstatus _
    rw [depot] at ht
    rw [failures_still unpublished, publications_still unpublished]
    exact h t ht hstatus (by cases idle <;> rintro ⟨⟩)

end

/-- **At the end of a run** every publication of a record that is not published has failed, but for
the one that is still to be noted. -/
theorem allFailed_of_run {k n : Nat} {policy : Policy} {history : List Moment} {r : Relay}
    (run : Run Does (start k) history r) (fresh : FreshIds (operations history))
    (solo : Solo n policy history) :
    ∃ courses i s, Watched n policy history r courses i s ∧
      AllFailed n history r.depot s.toNote :=
  (watched_start n policy k).along (P := fun done d _ s => AllFailed n done d s.toNote) run fresh
    solo (fun _ _ _ _ _ _ _ watched moved h => h.step watched moved)
    (fun t ht => by simp [start, Depot.records] at ht)

/-! ## Postponement -/

/-- What holds after a failed delivery of the record with the id was put off until `due`, in the
steps `done` since then: it is not due before, and if the round at work holds it, this round has
claimed it since. -/
structure PutOff (n : Nat) (policy : Policy) (id : Uuid) (due : Instant) (past done : List Moment)
    (d : Depot) (i : Nat) (s : Stage) : Prop where
  made : id ∈ Depot.madeIds (operations (past ++ done))
  depot : d.NotDueBefore n id due
  claimed : ∀ w ∈ s.waiting, w.id = id → ClaimedFrom n policy id due i done

section
variable {n i i' : Nat} {policy : Policy} {past done : List Moment} {y : Moment}
  {courses : List Course} {s s' : Stage} {id : Uuid} {due : Instant}

theorem ClaimedFrom.later (h : ClaimedFrom n policy id due i done) :
    ClaimedFrom n policy id due i (done ++ [y]) := by
  obtain ⟨x, hx, claimed⟩ := h
  exact ⟨x, List.mem_append_left _ hx, claimed⟩

theorem PutOff.step (h : PutOff n policy id due past done y.before.depot i s)
    (watched : Watched n policy (past ++ done) y.before courses i s)
    (moved : Moved n policy (past ++ done) y i s i' s')
    (later : ∀ w todo reason now a, s = .failed w reason todo → w.id = id →
      y.event = .calls i (.reschedule n policy id reason w.attempts now) a →
      due ≤ now.later (policy.backoff.delay w.attempts)) :
    PutOff n policy id due past (done ++ [y]) y.after.depot i' s' := by
  have made : id ∈ Depot.madeIds (operations (past ++ (done ++ [y]))) := by
    rw [← List.append_assoc, operations_append]
    exact Depot.mem_madeIds_append h.made
  have filed := watched.consistent.sound.filed
  cases moved with
  | still depot =>
    exact ⟨made, by rw [depot]; exact h.depot, fun w hw hid => (h.claimed w hw hid).later⟩
  | does hd unsettling new =>
    have effect := watched.consistent.healthy.effect hd
    refine ⟨made, effect.notDueBefore h.depot filed (fun hmade => new id hmade h.made) ?_,
      fun w hw hid => (h.claimed w hw hid).later⟩
    rintro p error attempts now rfl
    exact absurd .putOff (unsettling id)
  | calls hev hcalls busy whole hd =>
    have effect := watched.consistent.healthy.effect hd
    have depot : y.after.depot.NotDueBefore n id due := by
      refine effect.notDueBefore h.depot filed (by cases hcalls <;> rintro ⟨⟩) ?_
      rintro p error attempts now rfl
      cases hcalls
      exact later _ _ _ _ _ rfl rfl hev
    refine ⟨made, depot, fun w hw hid => ?_⟩
    cases hcalls with
    | claimBatch =>
      obtain rfl := watched.atOnce _ _ rfl
      exact ⟨y, by simp, _, _, _, _, hev, ⟨w, hw, hid⟩, h.depot.le_of_claimed effect hw hid⟩
    | claimOne | claimNone => exact absurd rfl (whole _ _ _ _)
    | markPublished | reschedule => exact (h.claimed w hw hid).later
    | recoverStuck | purgePublished => exact absurd .upkeep busy
  | publishes hs hev depot timeout =>
    refine ⟨made, by rw [depot]; exact h.depot, fun w hw hid => ?_⟩
    rw [Stage.waiting_after] at hw
    subst hs
    exact (h.claimed w (List.mem_cons_of_mem _ hw) hid).later
  | ticks idle depot => exact ⟨made, by rw [depot]; exact h.depot, by rintro w ⟨⟩⟩

/-- The round that reschedules a record is at work and holds a copy whose delivery has failed. -/
theorem Moved.of_reschedule {j : Nat} {policy' : Policy} {error : String} {attempts : UInt32}
    {now : Instant} {a : Answer} (moved : Moved n policy past y i s i' s')
    (hy : y.event = .calls j (.reschedule n policy' id error attempts now) a) :
    ∃ w todo, s = .failed w error todo ∧ s' = .delivering todo ∧ w.id = id ∧
      w.attempts = attempts ∧
      y.before.depot.Does (.reschedule n policy id error attempts now, a) y.after.depot := by
  cases moved with
  | still _ _ uncalled | ticks _ _ _ uncalled => exact absurd hy (uncalled _ _ _)
  | does _ unsettling _ calls =>
    obtain rfl := calls _ _ _ hy
    exact absurd .putOff (unsettling id)
  | calls hev hcalls _ _ hd =>
    cases hev.symm.trans hy
    cases hcalls
    exact ⟨_, _, rfl, rfl, rfl, rfl, hd⟩
  | publishes _ hev => cases hev.symm.trans hy

/-- A delivery that has failed is put off by its reschedule. -/
theorem PutOff.start {w : Record} {todo : List Record} {reason : String} {now : Instant}
    {a : Answer} (watched : Watched n policy past y.before courses i s)
    {courses' : List Course} (watched' : Watched n policy (past ++ [y]) y.after courses' i' s')
    (hs : s = .failed w reason todo) (hs' : s' = .delivering todo)
    (hd : y.before.depot.Does (.reschedule n policy w.id reason w.attempts now, a) y.after.depot) :
    PutOff n policy w.id (now.later (policy.backoff.delay w.attempts)) (past ++ [y]) []
      y.after.depot i' s' := by
  obtain ⟨c, hc, depot⟩ := (watched.consistent.healthy.effect hd).of_rescheduled
  obtain ⟨-, -, t₀, ht₀, htally⟩ := watched.ledger.sent w (by rw [hs]; rfl)
  have hid : t₀.id = w.id := congrArg (·.1) htally
  have records := watched.consistent.sound.records_settled hc w.id
    (·.reschedule reason (now.later (policy.backoff.delay w.attempts)))
  rw [← depot] at records
  have stored : t₀.reschedule reason (now.later (policy.backoff.delay w.attempts)) ∈
      y.after.depot.records n := by
    rw [records]
    exact List.mem_map.2 ⟨t₀, ht₀, if_pos hid⟩
  constructor
  · rw [List.append_nil]
    have := watched'.consistent.known n _ (List.mem_append_left _ stored)
    rwa [show (t₀.reschedule reason _).id = w.id from hid] at this
  · constructor
    · intro t' ht' hid'
      rw [records] at ht'
      obtain ⟨t, ht, rfl⟩ := List.mem_map.1 ht'
      split at hid'
      · rename_i same
        rw [if_pos same]
        exact Instant.le_refl _
      · exact absurd hid' ‹_›
    · intro t' ht' hid'
      exact watched'.consistent.sound.unstaged stored ht' (hid.trans hid'.symm)
  · -- The copy that was put off is none of those that the round has still to deliver.
    intro v hv hid'
    have distinct := watched.ledger.distinct
    rw [hs] at distinct
    rw [hs'] at hv
    exact absurd (List.mem_map.2 ⟨v, hv, hid'⟩) (List.nodup_cons.1 distinct).1

/-- **What was put off stays put off**, as long as no clock is set back: every later failure finds
at least as many attempts, and puts the record off for at least as long. -/
theorem PutOff.along {r r' : Relay} {later : List Moment} {t : Instant} {attempts : UInt32}
    (h : PutOff n policy id (t.later (policy.backoff.delay attempts)) past [] r.depot i s)
    (watched : Watched n policy past r courses i s) (run : Run Does r later r')
    (fresh : FreshIds (operations (past ++ later))) (solo : Solo n policy (past ++ later))
    (ordinary : t.Ordinary) (counted : publications past id = attempts.toNat + 1)
    (onClock : OnClock later) (notSetBack : NotSetBack n id t later) :
    ∃ courses' i' s', Watched n policy (past ++ later) r' courses' i' s' ∧
      PutOff n policy id (t.later (policy.backoff.delay attempts)) past later r'.depot i' s' := by
  have step : ∀ done y courses i s i' s', Watched n policy (past ++ done) y.before courses i s →
      Moved n policy (past ++ done) y i s i' s' →
      (OnClock done → NotSetBack n id t done →
        PutOff n policy id (t.later (policy.backoff.delay attempts)) past done y.before.depot i s) →
      OnClock (done ++ [y]) → NotSetBack n id t (done ++ [y]) →
        PutOff n policy id (t.later (policy.backoff.delay attempts)) past (done ++ [y])
          y.after.depot i' s' := by
    intro done y courses i s i' s' watched moved h onClock notSetBack
    have putOff := h (fun z hz => onClock z (List.mem_append_left _ hz))
      (fun z hz => notSetBack z (List.mem_append_left _ hz))
    refine putOff.step watched moved ?_
    rintro w todo reason now a rfl rfl hev
    have more : publications past w.id ≤ publications (past ++ done) w.id := by
      rw [publications, publications, List.countP_append]
      exact Nat.le_add_right ..
    have tried := (watched.ledger.sent w rfl).2.1
    have grown : attempts ≤ w.attempts := by
      rw [UInt32.le_iff_toNat_le]
      omega
    exact Instant.later_mono ordinary (onClock y (by simp) _ _ _ hev now rfl)
      (notSetBack y (by simp) _ _ _ _ _ _ hev) (policy.backoff.delay_le_delay grown)
  obtain ⟨courses', i', s', watched', putOff⟩ := watched.along
    (P := fun done d i s => OnClock done → NotSetBack n id t done →
      PutOff n policy id (t.later (policy.backoff.delay attempts)) past done d i s)
    run fresh solo step (fun _ _ => h)
  exact ⟨courses', i', s', watched', putOff onClock notSetBack⟩

end

/-- **A failed delivery is put off.** In every run in which one tick after the other works on a
store that began empty, and nobody else claims or settles its records: if a failed delivery of a
record is rescheduled while the clock shows `t`, then it was failure number `attempts`, counted from
zero; and whenever a round is about to publish the record later on, this round has claimed it since,
at a time not before `t` and the delay for so many attempts, as far as time goes, provided that no
reschedule of the record in between has read a clock that was set back before `t`. -/
theorem failed_delivery_is_put_off {k n : Nat} {policy : Policy} {past later : List Moment}
    {x : Moment} {r : Relay} (run : Run Does (start k) (past ++ x :: later) r)
    (fresh : FreshIds (operations (past ++ x :: later))) (solo : Solo n policy (past ++ x :: later))
    (onClock : OnClock (x :: later)) {i : Nat} {id : Uuid} {error : String} {attempts : UInt32}
    {t : Instant} {a : Answer}
    (hx : x.event = .calls i (.reschedule n policy id error attempts t) a) :
    failures past id = attempts.toNat + 1 ∧
    (NotSetBack n id t later → ∀ j round m timeout next, r.rounds[j]? = some round →
      round.rest = .publish m timeout next → m.options.messageId = String.ofList id.text →
      ∃ y ∈ later, ∃ limit worker now rs,
        y.event = .calls j (.claimBatch n policy limit worker now) (.records rs) ∧
        (∃ w ∈ rs, w.id = id) ∧
        min (t.nanos + (policy.backoff.delay attempts).nanos) Instant.latest.nanos ≤
          now.nanos) := by
  obtain ⟨r₀, before, rfl, does, rest⟩ := run_append.1 run
  rw [List.append_cons] at fresh solo
  obtain ⟨courses, i₀, s, watched, allFailed⟩ :=
    allFailed_of_run before (fresh_past (fresh_past fresh)) solo.past.past
  obtain ⟨courses', i', s', watched', moved⟩ :=
    watched.step does solo.past (fresh_past fresh)
  obtain ⟨w, todo, rfl, rfl, rfl, rfl, hd⟩ := moved.of_reschedule hx
  obtain ⟨-, published, t₀, ht₀, htally⟩ := watched.ledger.sent w rfl
  simp only [Record.tally, Prod.mk.injEq, decide_eq_false_iff_not] at htally
  have failed : failures past w.id = publications past w.id := by
    have := allFailed t₀ ht₀ htally.2.2 (by rintro ⟨⟩)
    rwa [htally.1] at this
  refine ⟨failed.trans published, fun notSetBack j round m timeout next hj hrest hm => ?_⟩
  have ordinary : t.Ordinary := onClock x List.mem_cons_self _ _ _ hx t rfl
  have onClock_later : OnClock later := fun y hy => onClock y (List.mem_cons_of_mem _ hy)
  have counted : publications (past ++ [x]) w.id = w.attempts.toNat + 1 := by
    rw [publications_append, published, hx]
    rfl
  obtain ⟨courses', i', s', watched', putOff⟩ :=
    (PutOff.start watched watched' rfl rfl hd).along watched' rest fresh solo ordinary counted
      onClock_later notSetBack
  obtain ⟨c, hc, hf⟩ := watched'.onCourse.get hj
  rw [hrest] at hf
  obtain ⟨v, todo', hstage, rfl, -, -⟩ := hf
  have hid : v.id = w.id := Uuid.text_injective (String.ofList_injective hm)
  have busy : ¬ c.stage.Idle := by
    rw [hstage]
    rintro ⟨⟩
  obtain ⟨rfl, rfl⟩ := watched'.attended.busy hc busy
  obtain ⟨y, hy, limit, worker, now, rs, hev, hrs, due⟩ :=
    putOff.claimed v (by rw [hstage]; exact List.mem_cons_self) hid
  refine ⟨y, hy, limit, worker, now, rs, hev, hrs, ?_⟩
  have ordinary' : now.Ordinary := onClock_later y hy _ _ _ hev now rfl
  rwa [Instant.le_iff_nanos (Instant.ordinary_later ordinary _) ordinary',
    Instant.nanos_later ordinary] at due

def atSecond (s : UInt64) : Instant := Instant.epoch.later (.ofSeconds s)

/-- A delivery fails and is put off, the next one fails as well, but its reschedule reads a clock
that was set back, and a third tick claims the record before the end of the first delay. -/
def clockGoesBack : List Happening :=
  let r := Record.ofEvent (.ofNat 1) (.brief none) .epoch
  let r₁ := r.reschedule "reset" (atSecond 1005)
  let r₂ := r₁.reschedule "reset" (atSecond 20)
  [.client (.enqueue 0 (.ofNat 1) (.brief none) .epoch) (.record (some r)),
    .begins 0 .default .default "w" .tick,
    .calls 0 (.claimBatch 0 .default 200 "w" (atSecond 1000))
      (.records [r.claim "w" (atSecond 1000)]),
    .publishes 0 r.message (.error (.refused ["reset"])), .notes 0,
    .calls 0 (.reschedule 0 .default (.ofNat 1) "reset" 0 (atSecond 1000)) .done, .notes 0,
    .begins 0 .default .default "w" .tick,
    .calls 1 (.claimBatch 0 .default 200 "w" (atSecond 1005))
      (.records [r₁.claim "w" (atSecond 1005)]),
    .publishes 1 r.message (.error (.refused ["reset"])), .notes 1,
    .calls 1 (.reschedule 0 .default (.ofNat 1) "reset" 1 (atSecond 10)) .done, .notes 1,
    .begins 0 .default .default "w" .tick,
    .calls 2 (.claimBatch 0 .default 200 "w" (atSecond 20))
      (.records [r₂.claim "w" (atSecond 20)])]

/-- The round is about to publish the record with the id. -/
def AboutToPublish (r : Relay) (j : Nat) (id : Uuid) : Prop :=
  ∃ round m timeout next, r.rounds[j]? = some round ∧ round.rest = .publish m timeout next ∧
    m.options.messageId = String.ofList id.text

/-- The history of the example is a run, with the record about to be published again after each of
its two failures. -/
theorem clockGoesBack_run : ∃ past x mid rest r₁ r₂,
    (past ++ x :: (mid ++ rest)).map (·.event) = clockGoesBack ∧
    x.event = .calls 0 (.reschedule 0 .default (.ofNat 1) "reset" 0 (atSecond 1000)) .done ∧
    mid.map (·.event) = (clockGoesBack.drop 6).take 3 ∧
    Run Does (start 1) (past ++ x :: mid) r₁ ∧ AboutToPublish r₁ 1 (.ofNat 1) ∧
    Run Does r₁ rest r₂ ∧ AboutToPublish r₂ 2 (.ofNat 1) ∧
    FreshIds (operations (past ++ x :: (mid ++ rest))) ∧
    ((past ++ x :: (mid ++ rest)).filter fun x => beginsTick x.event).Pairwise fun y x =>
      ∃ round, x.before.rounds[y.before.rounds.length]? = some round ∧ round.rest = .done () := by
  refine ⟨[⟨_, _, _⟩, ⟨_, _, _⟩, ⟨_, _, _⟩, ⟨_, _, _⟩, ⟨_, _, _⟩], ⟨_, _, _⟩,
    [⟨_, _, _⟩, ⟨_, _, _⟩, ⟨_, _, _⟩],
    [⟨_, _, _⟩, ⟨_, _, _⟩, ⟨_, _, _⟩, ⟨_, _, _⟩, ⟨_, _, _⟩, ⟨_, _, _⟩], _, _, rfl, rfl, rfl,
    ⟨rfl, .client rfl, rfl, .begins, rfl, .calls rfl .claimBatch rfl, rfl, .publishes rfl rfl,
      rfl, .notes rfl rfl, rfl, .calls rfl .reschedule rfl, rfl, .notes rfl rfl, rfl, .begins,
      rfl, .calls rfl .claimBatch rfl, rfl⟩,
    ⟨_, _, _, _, rfl, rfl, rfl⟩,
    ⟨rfl, .publishes rfl rfl, rfl, .notes rfl rfl, rfl, .calls rfl .reschedule rfl,
      rfl, .notes rfl rfl, rfl, .begins, rfl, .calls rfl .claimBatch rfl, rfl⟩,
    ⟨_, _, _, _, rfl, rfl, rfl⟩, List.nodup_singleton (Uuid.ofNat 1), ?_⟩
  exact .cons (by rintro _ (_ | ⟨_, _ | ⟨_, ⟨⟩⟩⟩) <;> exact ⟨_, rfl, rfl⟩)
    (List.pairwise_pair.2 ⟨_, rfl, rfl⟩)

theorem clockGoesBack_solo {history : List Moment}
    (events : history.map (·.event) = clockGoesBack)
    (inTurn : (history.filter fun x => beginsTick x.event).Pairwise fun y x =>
      ∃ round, x.before.rounds[y.before.rounds.length]? = some round ∧ round.rest = .done ()) :
    Solo 0 .default history ∧ OnClock history := by
  have mem : ∀ x ∈ history, x.event ∈ clockGoesBack := fun x hx => events ▸ List.mem_map_of_mem hx
  refine ⟨?_, fun x hx i op a hx' now hnow => ?_⟩
  · constructor
    case inTurn => exact inTurn
    case rounds =>
      intro x hx m p config worker loop hx'
      have := hx' ▸ mem x hx
      simp only [clockGoesBack, List.mem_cons, reduceCtorEq, Happening.begins.injEq,
        List.not_mem_nil, false_or, or_false] at this
      rcases this with ⟨rfl, rfl, -⟩ | ⟨rfl, rfl, -⟩ | ⟨rfl, rfl, -⟩ <;> exact ⟨rfl, rfl⟩
    case clients =>
      intro x hx op a hx'
      have := hx' ▸ mem x hx
      simp only [clockGoesBack, List.mem_cons, reduceCtorEq, Happening.client.injEq,
        List.not_mem_nil, or_false] at this
      obtain ⟨rfl, -⟩ := this
      rintro (_ | _ | ⟨⟨⟩⟩)
    all_goals
      intro x hx
      intros
      intro hx'
      have := hx' ▸ mem x hx
      simp [clockGoesBack] at this
  · have := hx' ▸ mem x hx
    simp only [clockGoesBack, List.mem_cons, reduceCtorEq, Happening.calls.injEq,
      List.not_mem_nil, false_or, or_false] at this
    rcases this with ⟨-, rfl, -⟩ | ⟨-, rfl, -⟩ | ⟨-, rfl, -⟩ | ⟨-, rfl, -⟩ | ⟨-, rfl, -⟩ <;>
    · cases hnow
      exact Instant.ordinary_later (by decide) _

/-- The failure that is noted at second 1000 puts the record off for five seconds, and the next
claim is not before second 1005. -/
theorem failed_delivery_is_put_off_clockGoesBack :
    ∃ past x later r, Run Does (start 1) (past ++ x :: later) r ∧
      FreshIds (operations (past ++ x :: later)) ∧ Solo 0 .default (past ++ x :: later) ∧
      OnClock (x :: later) ∧ NotSetBack 0 (.ofNat 1) (atSecond 1000) later ∧
      x.event = .calls 0 (.reschedule 0 .default (.ofNat 1) "reset" 0 (atSecond 1000)) .done ∧
      failures past (.ofNat 1) = 1 ∧ AboutToPublish r 1 (.ofNat 1) ∧
      ClaimedFrom 0 .default (.ofNat 1) (atSecond 1005) 1 later := by
  obtain ⟨past, x, mid, rest, r₁, r₂, events, hx, hmid, run, about, -, -, fresh, inTurn⟩ :=
    clockGoesBack_run
  obtain ⟨solo, onClock⟩ := clockGoesBack_solo events inTurn
  have split : past ++ x :: (mid ++ rest) = past ++ x :: mid ++ rest := by simp
  rw [split] at fresh solo onClock
  have onClock_mid : OnClock (x :: mid) := fun y hy =>
    onClock y (List.mem_append_left _ (List.mem_append_right _ hy))
  have notSetBack : NotSetBack 0 (.ofNat 1) (atSecond 1000) mid := by
    intro y hy i p error attempts now a hev
    have mem : y.event ∈ mid.map (·.event) := List.mem_map_of_mem hy
    rw [hmid, hev] at mem
    simp [clockGoesBack] at mem
  obtain ⟨round, m, timeout, next, hround, hrest, hm⟩ := about
  obtain ⟨failed, claimed⟩ :=
    failed_delivery_is_put_off run (fresh_past fresh) solo.past onClock_mid hx
  obtain ⟨y, hy, limit, worker, now, rs, hev, hrs, due⟩ :=
    claimed notSetBack 1 round m timeout next hround hrest hm
  refine ⟨past, x, mid, r₁, run, fresh_past fresh, solo.past, onClock_mid, notSetBack, hx, failed,
    ⟨round, m, timeout, next, hround, hrest, hm⟩, y, hy, limit, worker, now, rs, hev, hrs, ?_⟩
  rw [Instant.le_iff_nanos (by decide) (onClock_mid y (List.mem_cons_of_mem _ hy) _ _ _ hev _ rfl)]
  exact Int.le_trans (by decide +kernel) due

/-- **A clock that is set back cuts a delay short.** The third tick publishes the record before the
end of the delay that has followed the first failure. -/
theorem put_off_is_cut_short :
    ∃ past x later r, Run Does (start 1) (past ++ x :: later) r ∧
      FreshIds (operations (past ++ x :: later)) ∧ Solo 0 .default (past ++ x :: later) ∧
      OnClock (past ++ x :: later) ∧
      x.event = .calls 0 (.reschedule 0 .default (.ofNat 1) "reset" 0 (atSecond 1000)) .done ∧
      AboutToPublish r 2 (.ofNat 1) ∧
      ¬ ∃ y ∈ past ++ x :: later, ∃ limit worker now rs,
        y.event = .calls 2 (.claimBatch 0 .default limit worker now) (.records rs) ∧
        min ((atSecond 1000).nanos + (Policy.default.backoff.delay 0).nanos)
          Instant.latest.nanos ≤ now.nanos := by
  obtain ⟨past, x, mid, rest, r₁, r₂, events, hx, -, run, -, run', about, fresh, inTurn⟩ :=
    clockGoesBack_run
  obtain ⟨solo, onClock⟩ := clockGoesBack_solo events inTurn
  have whole : Run Does (start 1) (past ++ x :: (mid ++ rest)) r₂ := by
    have := run_append.2 ⟨r₁, run, run'⟩
    rwa [List.append_assoc, List.cons_append] at this
  refine ⟨past, x, mid ++ rest, r₂, whole, fresh, solo, onClock, hx, about, ?_⟩
  rintro ⟨y, hy, limit, worker, now, rs, hev, due⟩
  have mem : y.event ∈ (past ++ x :: (mid ++ rest)).map (·.event) := List.mem_map_of_mem hy
  rw [events, hev] at mem
  simp only [clockGoesBack, List.mem_cons, reduceCtorEq, Happening.calls.injEq, List.not_mem_nil,
    Nat.reduceEqDiff, false_and, false_or, or_false, Operation.claimBatch.injEq] at mem
  obtain ⟨-, ⟨-, -, -, -, rfl⟩, -⟩ := mem
  exact absurd due (by decide +kernel)

end Relay
end EventRelay
