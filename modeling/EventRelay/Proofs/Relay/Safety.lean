import EventRelay.Proofs.Depot.Records
import EventRelay.Proofs.Relay

/-!
# No event is lost

A round never notes a record as published unless a publication of it was confirmed before
(`Careful`): that is how its calls are ordered, whatever the answers are and whatever others do in
between. So a record is published only after a confirmation, and since nothing but a purge of
published records takes records out, a record that was taken in is there until then
(`no_event_is_lost`). Nothing is assumed about the ids, the clocks, or which calls fail.
-/

namespace EventRelay

/-! ## Careful rounds -/

namespace Action

/-- Marks only ids that are confirmed, either from the start or by a publication of its own. -/
def Careful {α : Type} (confirmed : Uuid → Prop) : Action α → Prop
  | .done _ => True
  | .note _ next => next.Careful confirmed
  | .claimBatch _ _ next => ∀ r, (next r).Careful confirmed
  | .publish m _ next =>
    (∀ e, (next (.error e)).Careful confirmed) ∧
      (next (.ok ())).Careful fun id => confirmed id ∨ m.options.messageId = String.ofList id.text
  | .markPublished id next => confirmed id ∧ ∀ r, (next r).Careful confirmed
  | .reschedule _ _ _ next => ∀ r, (next r).Careful confirmed
  | .recoverStuck _ next => ∀ r, (next r).Careful confirmed
  | .purgePublished _ next => ∀ r, (next r).Careful confirmed

variable {α β : Type} {confirmed : Uuid → Prop}

theorem Careful.mono {more : Uuid → Prop} {a : Action α} (h : a.Careful confirmed)
    (sub : ∀ id, confirmed id → more id) : a.Careful more := by
  induction a generalizing confirmed more with
  | done => trivial
  | note _ next ih => exact ih h sub
  | claimBatch _ _ next ih => exact fun r => ih r (h r) sub
  | publish m _ next ih =>
    exact ⟨fun e => ih _ (h.1 e) sub, ih _ h.2 fun id => Or.imp_left (sub id)⟩
  | markPublished id next ih => exact ⟨sub id h.1, fun r => ih r (h.2 r) sub⟩
  | reschedule _ _ _ next ih => exact fun r => ih r (h r) sub
  | recoverStuck _ next ih => exact fun r => ih r (h r) sub
  | purgePublished _ next ih => exact fun r => ih r (h r) sub

/-- Careful calls after careful calls are careful. -/
theorem Careful.andThen {a : Action α} {f : α → Action β} (h : a.Careful confirmed)
    (hf : ∀ x, (f x).Careful confirmed) : (a.andThen f).Careful confirmed := by
  induction a generalizing confirmed with
  | done x => exact hf x
  | note _ next ih => exact ih h hf
  | claimBatch _ _ next ih => exact fun r => ih r (h r) hf
  | publish m _ next ih =>
    exact ⟨fun e => ih _ (h.1 e) hf, ih _ h.2 fun x => (hf x).mono fun _ => .inl⟩
  | markPublished id next ih => exact ⟨h.1, fun r => ih r (h.2 r) hf⟩
  | reschedule _ _ _ next ih => exact fun r => ih r (h r) hf
  | recoverStuck _ next ih => exact fun r => ih r (h r) hf
  | purgePublished _ next ih => exact fun r => ih r (h r) hf

end Action

namespace Dispatcher

variable {confirmed : Uuid → Prop} (config : DispatcherConfig) (worker : String)

/-- A record is marked only after its own publication was confirmed. -/
theorem deliver_careful (r : Record) : (deliver config r).Careful confirmed := by
  refine ⟨fun e => trivial, .inr rfl, fun result => ?_⟩
  cases result <;> trivial

/-- A record is marked only behind the confirmation of its own message. -/
theorem settle_careful (r : Record) (report : TickReport) :
    (settle config r report).Careful confirmed := by
  refine (deliver_careful config r).andThen fun reason => ?_
  cases reason with
  | none => trivial
  | some reason =>
    intro result
    cases result <;> trivial

theorem settleAll_careful (rs : List Record) (report : TickReport) :
    (settleAll config rs report).Careful confirmed := by
  induction rs generalizing report with
  | nil => trivial
  | cons r rest ih => exact (settle_careful config r report).andThen ih

/-- **A tick is careful**, whatever it claims: each record is marked behind its own confirmation. -/
theorem tick_careful : (tick config worker).Careful confirmed := by
  intro answer
  rcases answer with e | (_ | ⟨r, rest⟩)
  · trivial
  · trivial
  · exact (settleAll_careful config (r :: rest) _).andThen fun _ => trivial

theorem upkeep_careful (message field failed : String) (answer : Except Failure Nat) :
    (upkeep message field failed answer).Careful confirmed := by
  rcases answer with e | (_ | n) <;> trivial

theorem reap_careful : (reap config).Careful confirmed := upkeep_careful _ _ _

theorem purge_careful : (purge config).Careful confirmed := upkeep_careful _ _ _

end Dispatcher

namespace Relay

variable {confirmed : Uuid → Prop} {n : Nat} {policy : Policy} {rest rest' : Action Unit}
  {op : Operation} {a : Answer}

/-- **The rounds of a dispatcher are careful.** -/
theorem work_careful (config : DispatcherConfig) (worker : String) (loop : Simulation.Loop) :
    (work config worker loop).Careful confirmed := by
  cases loop with
  | tick => exact (Dispatcher.tick_careful config worker).andThen fun _ => trivial
  | reap => exact (Dispatcher.reap_careful config).andThen fun _ => trivial
  | purge => exact (Dispatcher.purge_careful config).andThen fun _ => trivial

/-- What is left after an answered call is as careful as what was left before. -/
theorem Answered.careful (h : Answered n policy rest op a rest') (hc : rest.Careful confirmed) :
    rest'.Careful confirmed := by
  cases h with
  | claimBatch | recoverStuck | purgePublished | reschedule | claimNone => exact hc _
  | claimOne => exact fun rs => hc _
  | markPublished => exact hc.2 _

/-- A careful round marks only what was confirmed. -/
theorem Answered.marks_confirmed {m : Nat} {id : Uuid} {now : Instant}
    (h : Answered n policy rest (.markPublished m id now) a rest')
    (hc : rest.Careful confirmed) : confirmed id := by
  cases h with
  | markPublished => exact hc.1

/-- What is left after a failed call is as careful as what was left before. -/
theorem Failed.careful {failure : Failure} (h : Failed failure rest rest')
    (hc : rest.Careful confirmed) : rest'.Careful confirmed := by
  cases h with
  | claimBatch | recoverStuck | purgePublished | reschedule => exact hc _
  | markPublished => exact hc.2 _

end Relay

/-! ## Records through a step -/

namespace Depot

/-- A healthy depot whose rows are filed, where nothing staged was ever delivered. -/
structure Orderly (d : Depot) : Prop where
  healthy : d.Healthy
  filed : d.Filed
  unsent : ∀ n, ∀ r ∈ d.staged n, r.status = .pending

theorem orderly_start (k : Nat) : (start k).Orderly :=
  ⟨healthy_start k, filed_start k, fun n r hr => by simp [staged, start] at hr⟩

/-- The record is in the store `n`, whatever its delivery has come to. -/
def Holds (d : Depot) (n : Nat) (r : Record) : Prop := ∃ r' ∈ d.records n, r'.origin = r.origin

section
variable {d d' : Depot} {op : Operation} {a : Answer} {n : Nat} {r : Record}

/-- Every operation, also one that commits to another store, keeps the depot orderly. -/
theorem Orderly.does (h : d.Orderly) (hd : d.Does (op, a) d') : d'.Orderly := by
  have effect := h.healthy.effect hd
  refine ⟨(effect.healthy h.healthy).1, effect.filed h.filed, fun n r hr => ?_⟩
  rcases effect.staged_backward hr with hr | ⟨t, id, e, now, -, -, rfl⟩
  · exact h.unsent n r hr
  · rfl

/-- At the end of every run the depot is orderly. -/
theorem orderly_of_run {k : Nat} {history : List Moment} (run : Run Does (start k) history d) :
    d.Orderly := by
  have keep : ∀ (past : List Moment) (x : Moment), x.before.Orderly →
      x.before.Does x.event x.after → x.after.Orderly := fun _ _ h hx => h.does hx
  exact @Run.invariant _ _ _ (fun _ d => d.Orderly) keep _ _ _ run [] (orderly_start k)

theorem Orderly.endTransaction (h : d.Orderly) (t : Nat) : (d.setTransaction t none).Orderly := by
  exact ⟨h.healthy.setTransaction t none (by simp), h.filed,
    fun n r hr => h.unsent n r (mem_staged_of_ended hr)⟩

/-- A record that is published after an operation was published before, or it is the one that the
operation marks. -/
theorem Orderly.published_backward (h : d.Orderly) (hd : d.Does (op, a) d')
    (hr : r ∈ d'.records n) (hpub : r.status = .published) :
    (∃ r₀ ∈ d.records n, r₀.id = r.id ∧ r₀.status = .published) ∨
      ∃ now, op = .markPublished n r.id now := by
  have effect := h.healthy.effect hd
  rcases effect.backward h.filed hr with ⟨r₀, hr₀, hc⟩ | henter
  · cases hc with
    | kept => exact .inl ⟨r, hr₀, rfl, hpub⟩
    | claimed | claimedOne | rescheduled | released => cases hpub
    | marked hid =>
      subst hid
      exact .inr ⟨_, rfl⟩
  · cases henter with
    | enqueued => cases hpub
    | committed htx hn hin =>
      have := h.unsent n r (mem_staged.2 ⟨_, _, htx, hn, hin⟩)
      rw [hpub] at this
      cases this

/-- A record that an operation takes out of the store was published. -/
theorem Orderly.published_of_removed (h : d.Orderly) (hd : d.Does (op, a) d')
    (hr : r ∈ d.records n) (gone : ¬ d'.Holds n r) : r.status = .published := by
  rcases (h.healthy.effect hd).forward h.filed hr with ⟨r', hr', hc⟩ | ⟨retention, now, -, hexp⟩
  · exact absurd ⟨r', hr', hc.origin_eq⟩ gone
  · exact (Record.expired_iff.1 hexp).1

/-- A record that a client hears of in answer to its event is stored. -/
theorem Effect.mem_of_enqueued {id : Uuid} {e : Event} {now : Instant}
    (hd : Effect d (.enqueue n id e now) (.record (some r)) d') : r ∈ d'.records n := by
  cases hd with
  | entered hc hins =>
    unfold records
    rw [rows_put hc, if_pos rfl, (Contents.insert?_rows hins).1]
    simp

end
end Depot

/-! ## Runs -/

namespace Relay

/-- A publication of the record with the id was confirmed: a message with this id was delivered. -/
def Confirmed (history : List Moment) (id : Uuid) : Prop :=
  ∃ x ∈ history, ∃ i m, x.event = .publishes i m (.ok ()) ∧
    m.options.messageId = String.ofList id.text

/-- Only rounds mark records as published. -/
def OnlyRoundsMark (history : List Moment) : Prop :=
  ∀ x ∈ history, ∀ n id now a, x.event ≠ .client (.markPublished n id now) a

/-- A client has a record taken in by the store `n`: it enqueues the event, or it commits a
transaction and finds the staged record in the store. -/
inductive TakesIn (n : Nat) (r : Record) (x : Moment) : Prop where
  | enqueued {id e now} (h : x.event = .client (.enqueue n id e now) (.record (some r)))
  | committed {t k tx} (h : x.event = .client (.commit n t) (.count k))
    (htx : x.before.depot.open? t = some tx) (hr : r ∈ tx.staged)
    (stored : r ∈ x.after.depot.records n)

/-- The record has disappeared from the store `n`, and a publication of it was confirmed before. -/
def GoneAfterConfirmation (history : List Moment) (n : Nat) (r : Record) : Prop :=
  ∃ past y later, history = past ++ y :: later ∧ y.before.depot.Holds n r ∧
    ¬ y.after.depot.Holds n r ∧ Confirmed past r.id

section
variable {r r' : Relay} {history : List Moment} {x : Moment} {n : Nat} {s : Record} {id : Uuid}

theorem Confirmed.later (h : Confirmed history id) : Confirmed (history ++ [x]) id := by
  obtain ⟨y, hy, h⟩ := h
  exact ⟨y, List.mem_append_left _ hy, h⟩

/-- A record that has gone after its confirmation has done so for good. -/
theorem GoneAfterConfirmation.later (h : GoneAfterConfirmation history n s) :
    GoneAfterConfirmation (history ++ [x]) n s := by
  obtain ⟨past, y, rest, rfl, h⟩ := h
  exact ⟨past, y, rest ++ [x], by simp, h⟩

/-- What holds of a relay after a history in which only rounds mark records. -/
structure Safe (history : List Moment) (r : Relay) : Prop where
  orderly : r.depot.Orderly
  careful : ∀ round ∈ r.rounds, round.rest.Careful (Confirmed history)
  published : ∀ n, ∀ s ∈ r.depot.records n, s.status = .published → Confirmed history s.id
  kept : ∀ x ∈ history, ∀ n s, TakesIn n s x →
    r.depot.Holds n s ∨ GoneAfterConfirmation history n s

theorem safe_start (k : Nat) : Safe [] (start k) where
  orderly := Depot.orderly_start k
  careful := by simp [start]
  published := by simp [start, Depot.records]
  kept := by simp

/-- A step that leaves the records as they are, and in which no client does anything. -/
theorem Safe.still (h : Safe history x.before) (orderly : x.after.depot.Orderly)
    (same : ∀ n, x.after.depot.records n = x.before.depot.records n)
    (quiet : ∀ op a, x.event ≠ .client op a)
    (careful : ∀ round ∈ x.after.rounds, round.rest.Careful (Confirmed (history ++ [x]))) :
    Safe (history ++ [x]) x.after where
  orderly := orderly
  careful := careful
  published n s hs hpub := (h.published n s (same n ▸ hs) hpub).later
  kept y hy n s hin := by
    rcases List.mem_append.1 hy with hy | hy
    · rcases h.kept y hy n s hin with hold | gone
      · exact .inl (by rwa [Depot.Holds, same n])
      · exact .inr gone.later
    · cases List.mem_singleton.1 hy
      cases hin with
      | enqueued hev => exact absurd hev (quiet _ _)
      | committed hev => exact absurd hev (quiet _ _)

/-- A step that does an operation on the depot; it marks only what is confirmed. -/
theorem Safe.does {op : Operation} {a : Answer} (h : Safe history x.before)
    (hd : x.before.depot.Does (op, a) x.after.depot)
    (client : ∀ op' a', x.event = .client op' a' → op' = op ∧ a' = a)
    (marks : ∀ m id now, op = .markPublished m id now → Confirmed history id)
    (careful : ∀ round ∈ x.after.rounds, round.rest.Careful (Confirmed (history ++ [x]))) :
    Safe (history ++ [x]) x.after where
  orderly := h.orderly.does hd
  careful := careful
  published n s hs hpub := by
    rcases h.orderly.published_backward hd hs hpub with ⟨s₀, hs₀, hid, hpub₀⟩ | ⟨now, hop⟩
    · exact (hid ▸ h.published n s₀ hs₀ hpub₀).later
    · exact (marks n s.id now hop).later
  kept y hy n s hin := by
    rcases List.mem_append.1 hy with hy | hy
    · rcases h.kept y hy n s hin with hold | gone
      · -- Only a purge takes a record out, and what it takes out is published, so it was confirmed.
        by_cases still : x.after.depot.Holds n s
        · exact .inl still
        · refine .inr ⟨history, x, [], rfl, hold, still, ?_⟩
          obtain ⟨s', hs', horigin⟩ := hold
          rw [← Record.id_eq_of_origin horigin]
          refine h.published n s' hs' (h.orderly.published_of_removed hd hs' ?_)
          rwa [Depot.Holds, horigin]
      · exact .inr gone.later
    · cases List.mem_singleton.1 hy
      cases hin with
      | enqueued hev =>
        obtain ⟨rfl, rfl⟩ := client _ _ hev
        exact .inl ⟨s, (h.orderly.healthy.effect hd).mem_of_enqueued, rfl⟩
      | committed hev htx hr stored => exact .inl ⟨s, stored, rfl⟩

/-- A round that goes on with careful calls leaves all rounds careful. -/
theorem goOn_careful (i : Nat) (round : Round) {rest : Action Unit} {confirmed : Uuid → Prop}
    (h : ∀ round ∈ r.rounds, round.rest.Careful confirmed) (hrest : rest.Careful confirmed) :
    ∀ round' ∈ (r.goOn i round rest).rounds, round'.rest.Careful confirmed := by
  intro round' hround
  rcases List.mem_or_eq_of_mem_set hround with hround | heq
  · exact h round' hround
  · rw [heq]
    exact hrest

/-- **Every step keeps a relay safe**, if no client marks a record. -/
theorem Safe.step (h : Safe history x.before) (hx : x.before.Does x.event x.after)
    (only : OnlyRoundsMark (history ++ [x])) : Safe (history ++ [x]) x.after := by
  obtain ⟨before, event, after⟩ := x
  change before.Does event after at hx
  have careful : ∀ round ∈ before.rounds,
      round.rest.Careful (Confirmed (history ++ [⟨before, event, after⟩])) :=
    fun round hround => (h.careful round hround).mono fun _ hid => hid.later
  have next : ∀ {i : Nat} {round : Round}, before.rounds[i]? = some round →
      round.rest.Careful (Confirmed (history ++ [⟨before, event, after⟩])) :=
    fun hi => careful _ (List.mem_of_getElem? hi)
  cases hx with
  | client hd =>
    -- A client may settle any record as a failure, but it may not mark one.
    refine h.does hd (by rintro _ _ ⟨⟩; exact ⟨rfl, rfl⟩) ?_ careful
    rintro m id now rfl
    exact absurd rfl (only _ (List.mem_append_right _ (List.mem_singleton.2 rfl)) m id now _)
  | clientFails => exact h.still h.orderly (fun _ => rfl) (by simp) careful
  | loses htx => exact h.still (h.orderly.endTransaction _) (fun _ => rfl) (by simp) careful
  | begins =>
    refine h.still h.orderly (fun _ => rfl) (by simp) fun round hround => ?_
    rcases List.mem_append.1 hround with hround | hround
    · exact careful round hround
    · cases List.mem_singleton.1 hround
      exact work_careful _ _ _
  | notes hi hr =>
    rename_i i round entry rest
    refine h.still h.orderly (fun _ => rfl) (by simp) (goOn_careful i round careful ?_)
    have := next hi
    rwa [hr] at this
  | calls hi hr hd =>
    rename_i i round op a d rest
    refine h.does hd (by simp) ?_ (goOn_careful i round careful (hr.careful (next hi)))
    rintro m id now rfl
    exact hr.marks_confirmed (h.careful _ (List.mem_of_getElem? hi))
  | callFails hi hr =>
    rename_i i round failure rest
    refine h.still h.orderly (fun _ => rfl) (by simp) (goOn_careful i round careful ?_)
    exact hr.careful (next hi)
  | publishes hi hr =>
    rename_i i round m timeout rest outcome
    refine h.still h.orderly (fun _ => rfl) (by simp) (goOn_careful i round careful ?_)
    have now := next hi
    rw [hr] at now
    cases outcome with
    | error e => exact now.1 e
    | ok =>
      -- The confirmation that the round has just had is part of the history now.
      refine now.2.mono fun id hid => ?_
      rcases hid with hid | hid
      · exact hid
      · exact ⟨_, List.mem_append_right _ (List.mem_singleton.2 rfl), i, m, rfl, hid⟩
  | panics hi hr =>
    rename_i i round m timeout rest
    exact h.still h.orderly (fun _ => rfl) (by simp) (goOn_careful i round careful trivial)

/-- **No event is lost.** In a run of any stores, transactions, clients and dispatchers in which
only dispatchers mark records as published, at any time: a publication of every published record
was confirmed; and every record that a client had taken in, by itself or with a transaction, is
still in its store, or it has disappeared from there after a publication of it was confirmed. -/
theorem no_event_is_lost {k : Nat} (run : Run Does (start k) history r)
    (only : OnlyRoundsMark history) :
    (∀ n, ∀ s ∈ r.depot.records n, s.status = .published → Confirmed history s.id) ∧
    ∀ x ∈ history, ∀ n s, TakesIn n s x →
      r.depot.Holds n s ∨ GoneAfterConfirmation history n s := by
  have keep : ∀ past x, (OnlyRoundsMark past → Safe past x.before) →
      x.before.Does x.event x.after → OnlyRoundsMark (past ++ [x]) →
      Safe (past ++ [x]) x.after := by
    intro past x h hx only
    exact (h fun y hy => only y (List.mem_append_left _ hy)).step hx only
  have base : OnlyRoundsMark [] → Safe [] (start k) := fun _ => safe_start k
  have safe : Safe history r :=
    Run.invariant (P := fun past r => OnlyRoundsMark past → Safe past r) keep run base only
  exact ⟨safe.published, safe.kept⟩

end

def delivery : List Happening :=
  [.client (.enqueue 0 (.ofNat 1) (.brief none) .epoch)
      (.record (some (.ofEvent (.ofNat 1) (.brief none) .epoch))),
    .begins 0 .default .default "w" .tick,
    .calls 0 (.claimBatch 0 .default 200 "w" .epoch)
      (.records [(Record.ofEvent (.ofNat 1) (.brief none) .epoch).claim "w" .epoch]),
    .publishes 0 (Record.ofEvent (.ofNat 1) (.brief none) .epoch).message (.ok ()),
    .calls 0 (.markPublished 0 (.ofNat 1) .epoch) .done,
    .begins 0 .default .default "w" .purge,
    .calls 1 (.purgePublished 0 (.ofSeconds 604800) (Instant.epoch.later (.ofSeconds 604801)))
      (.count 1)]

/-- The event of the delivery is gone in the end, but not before its message was confirmed. -/
theorem no_event_is_lost_in_delivery :
    ∃ history r s, Run Does (start 1) history r ∧ OnlyRoundsMark history ∧
      (∃ x ∈ history, TakesIn 0 s x) ∧ r.depot.records 0 = [] ∧
      GoneAfterConfirmation history 0 s := by
  obtain ⟨x, rest, r, hev, hgone, run⟩ : ∃ x rest r, (x :: rest).map (·.event) = delivery ∧
      r.depot.records 0 = [] ∧ Run Does (start 1) (x :: rest) r := by
    exact ⟨⟨_, _, _⟩, [⟨_, _, _⟩, ⟨_, _, _⟩, ⟨_, _, _⟩, ⟨_, _, _⟩, ⟨_, _, _⟩, ⟨_, _, _⟩], _,
      rfl, rfl, rfl, .client rfl, rfl, .begins, rfl, .calls rfl .claimBatch rfl, rfl,
      .publishes rfl rfl, rfl, .calls rfl .markPublished rfl, rfl, .begins, rfl,
      .calls rfl .purgePublished rfl, rfl⟩
  have only : OnlyRoundsMark (x :: rest) := by
    intro y hy n id now a heq
    have : y.event ∈ delivery := hev ▸ List.mem_map_of_mem hy
    rw [heq] at this
    simp [delivery] at this
  have takes : TakesIn 0 (.ofEvent (.ofNat 1) (.brief none) .epoch) x :=
    .enqueued (List.cons.inj hev).1
  refine ⟨x :: rest, r, _, run, only, ⟨x, List.mem_cons_self, takes⟩, hgone, ?_⟩
  rcases (no_event_is_lost run only).2 x List.mem_cons_self 0 _ takes with ⟨s', hs', -⟩ | gone
  · rw [hgone] at hs'
    cases hs'
  · exact gone

end Relay
end EventRelay
