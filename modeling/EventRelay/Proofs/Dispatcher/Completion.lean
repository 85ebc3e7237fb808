import EventRelay.Proofs.Backoff
import EventRelay.Proofs.Depot.Soundness
import EventRelay.Proofs.Dispatcher.Playing
import EventRelay.Proofs.Uuid
import Mathlib.Data.List.Chain

/-!
# Delivery completes

A dispatcher that works alone against a broker in memory is done after a bounded number of ticks,
if its clock advances by the longest delay from one tick to the next. What counts down is the number
of failures that the broker still has to make, together with the number of records that are still to
be delivered (`openCount`): every delivery in a tick takes one from it (`Afoot.deliver_one`), and a
tick that finds nothing to claim has nothing left to do. `Afoot` is what holds in between.
-/

namespace EventRelay

namespace Dispatcher

/-- Runs one tick after the other, each with its own readings of the clock. -/
def ticks (policy : Policy) (config : DispatcherConfig) (worker : String) :
    List Readings → Store → Broker → Store × Broker
  | [], s, b => (s, b)
  | clock :: rest, s, b =>
    let (_, s, b) := (Relay.work config worker .tick).play policy Broker.publish clock s b
    ticks policy config worker rest s b

end Dispatcher

/-- The messages in the log that belong to the record with the id. -/
def Broker.deliveries (b : Broker) (id : Uuid) : List Message :=
  b.log.filter fun m => m.options.messageId = String.ofList id.text

/-- The record is still to be delivered. -/
def Record.isOpen (maxAttempts : UInt32) (r : Record) : Bool :=
  r.status ≠ .published && r.attempts < maxAttempts

/-- The number of records that are still to be delivered. -/
def Contents.openCount (c : Contents) (maxAttempts : UInt32) : Nat :=
  c.records.countP (·.isOpen maxAttempts)

/-- What may have become of a record, in a tick that has the records `todo` still to deliver: it is
published and in the log once, or it is not in the log. -/
inductive Fate (policy : Policy) (due : Instant → Prop) (todo : List Record) (b : Broker)
    (r : Record) : Prop where
  | published (h : r.status = .published) (once : b.deliveries r.id = [r.message])
  | pending (h : r.status = .pending) (within : r.attempts ≤ policy.maxAttempts)
    (soon : r.attempts < policy.maxAttempts → due r.nextAttemptAt)
    (unsent : b.deliveries r.id = [])
  | publishing (h : r.status = .publishing) (lt : r.attempts < policy.maxAttempts)
    (unsent : b.deliveries r.id = []) (held : r.id ∈ todo.map (·.id))

/-- What holds of a store and a broker while a tick has the records `todo` still to deliver. The
events of the store are the same all the time. -/
structure Afoot (policy : Policy) (base : List Record) (due : Instant → Prop) (todo : List Record)
    (c : Contents) (b : Broker) : Prop where
  same : c.records.map (·.origin) = base
  held : ∀ w ∈ todo, ∃ r ∈ c.records,
    r.origin = w.origin ∧ r.attempts = w.attempts ∧ r.status = .publishing
  distinct : (todo.map (·.id)).Nodup
  fates : ∀ r ∈ c.records, Fate policy due todo b r
  log : ∀ m ∈ b.log, ∃ r ∈ c.records, r.status = .published ∧ r.message = m

section
variable {policy : Policy} {base : List Record} {due due' : Instant → Prop}
  {todo todo' : List Record} {c c' : Contents} {b b' : Broker} {staged : List Record} {w r : Record}
  {worker : String} {now : Instant}

theorem Afoot.mono (h : Afoot policy base due todo c b) (later : ∀ t, due t → due' t) :
    Afoot policy base due' todo c b := by
  refine ⟨h.same, h.held, h.distinct, fun r hr => ?_, h.log⟩
  cases h.fates r hr with
  | published h once => exact .published h once
  | pending h within soon unsent => exact .pending h within (fun hlt => later _ (soon hlt)) unsent
  | publishing h lt unsent held => exact .publishing h lt unsent held

/-! ## One record changes -/

/-- Where the record with one id changes, all others are as they were. -/
theorem Afoot.of_change {id : Uuid} {f : Record → Record} (h : Afoot policy base due todo c b)
    (hrecords : c'.records = c.records.map fun r => if r.id = id then f r else r)
    (origin : ∀ r, (f r).origin = r.origin)
    (unpublished : ∀ r ∈ c.records, r.id = id → r.status ≠ .published)
    (elsewhere : ∀ id', id' ≠ id → b'.deliveries id' = b.deliveries id')
    (others : ∀ w, w.id ≠ id → (w ∈ todo' ↔ w ∈ todo)) (distinct : (todo'.map (·.id)).Nodup)
    (held : ∀ w ∈ todo', w.id = id → ∃ r ∈ c.records,
      r.origin = w.origin ∧ (f r).attempts = w.attempts ∧ (f r).status = .publishing)
    (fate : ∀ r ∈ c.records, r.id = id → Fate policy due todo' b' (f r))
    (log : ∀ m ∈ b'.log, m ∈ b.log ∨
      ∃ r ∈ c.records, r.id = id ∧ (f r).status = .published ∧ r.message = m) :
    Afoot policy base due todo' c' b' := by
  have changed : ∀ r ∈ c.records, r.id = id → f r ∈ c'.records := by
    intro r hr hid
    rw [hrecords]
    exact List.mem_map.2 ⟨r, hr, if_pos hid⟩
  have kept : ∀ r ∈ c.records, r.id ≠ id → r ∈ c'.records := by
    intro r hr hne
    rw [hrecords]
    exact List.mem_map.2 ⟨r, hr, if_neg hne⟩
  refine ⟨?_, fun w hw => ?_, distinct, fun r' hr' => ?_, fun m hm => ?_⟩
  · rw [← h.same, hrecords, List.map_map]
    refine List.map_congr_left fun r _ => ?_
    simp only [Function.comp_apply]
    split
    · exact origin r
    · rfl
  · by_cases hid : w.id = id
    · obtain ⟨r, hr, horigin, hattempts, hstatus⟩ := held w hw hid
      exact ⟨f r, changed r hr ((Record.id_eq_of_origin horigin).trans hid),
        (origin r).trans horigin, hattempts, hstatus⟩
    · obtain ⟨r, hr, horigin, hrest⟩ := h.held w ((others w hid).1 hw)
      exact ⟨r, kept r hr (by rwa [Record.id_eq_of_origin horigin]), horigin, hrest⟩
  · rw [hrecords] at hr'
    obtain ⟨r, hr, rfl⟩ := List.mem_map.1 hr'
    split
    · exact fate r hr ‹_›
    · rename_i hne
      have deliveries := elsewhere r.id hne
      cases h.fates r hr with
      | published h once => exact .published h (deliveries.trans once)
      | pending h within soon unsent => exact .pending h within soon (deliveries.trans unsent)
      | publishing h lt unsent hheld =>
        refine .publishing h lt (deliveries.trans unsent) ?_
        obtain ⟨w, hw, hid⟩ := List.mem_map.1 hheld
        exact List.mem_map.2 ⟨w, (others w (hid ▸ hne)).2 hw, hid⟩
  · rcases log m hm with hm | ⟨r, hr, hid, hpublished, rfl⟩
    · obtain ⟨r, hr, hpublished, hm⟩ := h.log m hm
      exact ⟨r, kept r hr fun hid => unpublished r hr hid hpublished, hpublished, hm⟩
    · exact ⟨f r, changed r hr hid, hpublished, Record.message_eq_of_origin (origin r)⟩

/-- A change that opens no record leaves the count or lowers it. -/
theorem openCount_le {id : Uuid} {f : Record → Record} {maxAttempts : UInt32}
    (hrecords : c'.records = c.records.map fun r => if r.id = id then f r else r)
    (opens : ∀ r ∈ c.records, r.id = id → (f r).isOpen maxAttempts = true →
      r.isOpen maxAttempts = true) :
    c'.openCount maxAttempts ≤ c.openCount maxAttempts := by
  unfold Contents.openCount
  rw [hrecords, List.countP_map]
  refine List.countP_mono_left fun r hr hopen => ?_
  simp only [Function.comp_apply] at hopen
  split at hopen
  · exact opens r hr ‹_› hopen
  · exact hopen

/-- A change that closes a record lowers the count. -/
theorem openCount_lt {f : Record → Record} {maxAttempts : UInt32}
    (hrecords : c'.records = c.records.map fun r' => if r'.id = r.id then f r' else r')
    (closes : ∀ r', (f r').isOpen maxAttempts = false) (hr : r ∈ c.records)
    (hopen : r.isOpen maxAttempts = true) :
    c'.openCount maxAttempts < c.openCount maxAttempts := by
  have le : ∀ rs : List Record,
      (rs.map fun r' => if r'.id = r.id then f r' else r').countP (·.isOpen maxAttempts) ≤
        rs.countP (·.isOpen maxAttempts) := by
    intro rs
    rw [List.countP_map]
    refine List.countP_mono_left fun r' _ hopen' => ?_
    simp only [Function.comp_apply] at hopen'
    split at hopen'
    · rw [closes] at hopen'
      cases hopen'
    · exact hopen'
  obtain ⟨front, back, heq⟩ := List.append_of_mem hr
  have front_le := le front
  have back_le := le back
  simp only [Contents.openCount, hrecords, heq, List.map_append, List.map_cons, if_true,
    List.countP_append, List.countP_cons, hopen, closes, Bool.false_eq_true, if_false]
  omega

/-! ## Claiming -/

/-- A single claim puts one more record on the list of those to be delivered. -/
theorem Afoot.claim_one (h : Afoot policy base due todo c b) (sound : c.Sound staged)
    (hone : c.claimOne? policy worker now = some (w, c')) :
    Afoot policy base due (todo ++ [w]) c' b ∧
      c'.openCount policy.maxAttempts ≤ c.openCount policy.maxAttempts := by
  obtain ⟨r, hr, hclaim, rfl, hrecords⟩ := sound.records_claimOne? hone
  obtain ⟨hpending, -, left⟩ := Record.claimable_iff.1 hclaim
  have unique : ∀ r' ∈ c.records, r'.id = r.id → r' = r := fun r' hr' hid =>
    sound.eq_of_id (List.mem_append_left _ hr') (List.mem_append_left _ hr) hid
  have new : r.id ∉ todo.map (·.id) := by
    intro hin
    obtain ⟨v, hv, hid⟩ := List.mem_map.1 hin
    obtain ⟨r', hr', horigin, -, hpublishing⟩ := h.held v hv
    rw [unique r' hr' ((Record.id_eq_of_origin horigin).trans hid), hpending] at hpublishing
    cases hpublishing
  have unsent : b.deliveries r.id = [] := by
    cases h.fates r hr with
    | published hp => rw [hpending] at hp; cases hp
    | pending _ _ _ unsent => exact unsent
    | publishing _ _ unsent => exact unsent
  constructor
  · refine h.of_change hrecords (fun _ => rfl) ?_ (fun _ _ => rfl) ?_ ?_ ?_ ?_ fun m hm => .inl hm
    · intro r' hr' hid
      rw [unique r' hr' hid, hpending]
      simp
    · intro v hne
      simp only [List.mem_append, List.mem_singleton, or_iff_left_iff_imp]
      rintro rfl
      exact absurd rfl hne
    · rw [List.map_append, List.nodup_append]
      refine ⟨h.distinct, List.nodup_singleton _, fun id hid id' hid' => ?_⟩
      obtain rfl := List.mem_singleton.1 hid'
      rintro rfl
      exact new hid
    · intro v hv hid
      rcases List.mem_append.1 hv with hv | hv
      · exact absurd (hid ▸ List.mem_map_of_mem hv) new
      · obtain rfl := List.mem_singleton.1 hv
        exact ⟨r, hr, rfl, rfl, rfl⟩
    · intro r' hr' hid
      rw [unique r' hr' hid]
      exact .publishing rfl left unsent (by simp)
  · refine openCount_le hrecords fun r' hr' hid _ => ?_
    rw [unique r' hr' hid]
    simp [Record.isOpen, hpending, left]

/-- Where nothing can be claimed although everything is due, nothing is open. -/
theorem Afoot.openCount_eq_zero (h : Afoot policy base due [] c b) (ready : ∀ t, due t → t ≤ now)
    (hnone : c.claimOne? policy worker now = none) : c.openCount policy.maxAttempts = 0 := by
  refine List.countP_eq_zero.2 fun r hr hopen => ?_
  obtain ⟨row, hrow, rfl⟩ := List.mem_map.1 hr
  have hclaim := Contents.claimOne?_eq_none hnone row hrow
  simp only [Record.isOpen, Bool.and_eq_true, decide_eq_true_eq] at hopen
  cases h.fates row.2 hr with
  | published hp => exact absurd hp hopen.1
  | pending hp within soon =>
    simp [← Bool.not_eq_true, Record.claimable_iff, hp, hopen.2, ready _ (soon hopen.2)] at hclaim
  | publishing _ _ _ held => cases held

/-- The claims of a tick. -/
theorem Afoot.claimEach (worker : String) (h : Afoot policy base due todo c b)
    (sound : c.Sound staged) (clock : Readings) (limit : Nat) :
    Afoot policy base due (todo ++ (c.claimEach policy worker clock limit).1)
        (c.claimEach policy worker clock limit).2 b ∧
      (c.claimEach policy worker clock limit).2.Sound staged ∧
      (c.claimEach policy worker clock limit).2.openCount policy.maxAttempts ≤
        c.openCount policy.maxAttempts := by
  induction limit generalizing todo c clock with
  | zero => exact ⟨by rwa [Contents.claimEach, List.append_nil], sound, Nat.le_refl _⟩
  | succ limit ih =>
    rw [Contents.claimEach]
    cases hone : c.claimOne? policy worker (clock 0) with
    | none => exact ⟨by rwa [List.append_nil], sound, Nat.le_refl _⟩
    | some found =>
      obtain ⟨w, c₁⟩ := found
      obtain ⟨h₁, hcount₁⟩ := h.claim_one sound hone
      obtain ⟨h', sound', hcount⟩ := ih h₁ (sound.claimOne? hone) (clock.drop 1)
      rw [List.append_assoc] at h'
      exact ⟨h', sound', Nat.le_trans hcount hcount₁⟩

/-! ## Delivering -/

theorem deliveries_append (b : Broker) (w : Record) (id : Uuid) :
    ({ b with log := b.log ++ [w.message] } : Broker).deliveries id =
      b.deliveries id ++ if w.id = id then [w.message] else [] := by
  unfold Broker.deliveries
  rw [List.filter_append]
  congr 1
  split
  · rename_i hid
    subst hid
    exact List.filter_eq_self.2 (by simp [Record.message, Record.deliveryOptions])
  · rename_i hne
    refine List.filter_eq_nil_iff.2 fun m hm => ?_
    obtain rfl := List.mem_singleton.1 hm
    simp only [decide_eq_true_eq]
    exact fun heq => hne (Uuid.text_injective (String.ofList_injective heq))

/-- The record of the next delivery is in the hands of the worker, has attempts left, and was not
delivered before. -/
theorem Afoot.next (h : Afoot policy base due (w :: todo) c b) (sound : c.Sound staged) :
    ∃ r ∈ c.records, r.origin = w.origin ∧ r.status = .publishing ∧
      r.attempts < policy.maxAttempts ∧ b.deliveries r.id = [] ∧
      ∀ r' ∈ c.records, r'.id = w.id → r' = r := by
  obtain ⟨r, hr, horigin, -, publishing⟩ := h.held w List.mem_cons_self
  have unique : ∀ r' ∈ c.records, r'.id = w.id → r' = r := fun r' hr' hid =>
    sound.eq_of_id (List.mem_append_left _ hr') (List.mem_append_left _ hr)
      (hid.trans (Record.id_eq_of_origin horigin).symm)
  cases h.fates r hr with
  | publishing _ lt unsent => exact ⟨r, hr, horigin, publishing, lt, unsent, unique⟩
  | published hp => rw [publishing] at hp; cases hp
  | pending hp => rw [publishing] at hp; cases hp

/-- Whatever comes of the next delivery, it changes this record and no other. -/
theorem Afoot.conclude (h : Afoot policy base due (w :: todo) c b) (sound : c.Sound staged)
    (timeout : Duration) (outcome : Except Undelivered Unit)
    (elsewhere : ∀ id, id ≠ w.id → b'.deliveries id = b.deliveries id)
    (fate : ∀ r ∈ c.records, r.id = w.id →
      Fate policy due todo b' (r.concluded policy timeout w.attempts now outcome))
    (log : ∀ m ∈ b'.log, m ∈ b.log ∨ ∃ r ∈ c.records, r.id = w.id ∧
      (r.concluded policy timeout w.attempts now outcome).status = .published ∧ r.message = m) :
    Afoot policy base due todo (c.conclude policy timeout w now outcome) b' := by
  obtain ⟨r, -, -, publishing, -, -, unique⟩ := h.next sound
  obtain ⟨new, distinct⟩ := List.nodup_cons.1 h.distinct
  have unpublished : ∀ r' ∈ c.records, r'.id = w.id → r'.status ≠ .published := by
    intro r' hr' hid
    rw [unique r' hr' hid, publishing]
    simp
  have others : ∀ v : Record, v.id ≠ w.id → (v ∈ todo ↔ v ∈ w :: todo) := by
    intro v other
    rw [List.mem_cons, or_iff_right]
    rintro rfl
    exact other rfl
  refine h.of_change (sound.records_update w.id _) (fun r => Record.origin_concluded ..) unpublished
    elsewhere others distinct (fun v hv hid => ?_) fate log
  exact absurd (List.mem_map.2 ⟨v, hv, hid⟩) new

/-- A message that the broker takes publishes its record. -/
theorem Afoot.deliver_taken (h : Afoot policy base due (w :: todo) c b) (sound : c.Sound staged)
    (timeout : Duration) (now : Instant) :
    Afoot policy base due todo (c.conclude policy timeout w now (.ok ()))
        { b with log := b.log ++ [w.message] } ∧
      (c.conclude policy timeout w now (.ok ())).openCount policy.maxAttempts <
        c.openCount policy.maxAttempts := by
  obtain ⟨r, hr, horigin, publishing, lt, unsent, unique⟩ := h.next sound
  have hid : r.id = w.id := Record.id_eq_of_origin horigin
  constructor
  · refine h.conclude sound timeout _ (fun id other => ?_) (fun r' hr' hid' => ?_) fun m hm => ?_
    · rw [deliveries_append, if_neg (Ne.symm other), List.append_nil]
    · rw [unique r' hr' hid']
      refine .published rfl ?_
      rw [deliveries_append]
      change b.deliveries r.id ++ (if w.id = r.id then [w.message] else []) = [r.message]
      rw [unsent, if_pos hid.symm, Record.message_eq_of_origin horigin]
      rfl
    · rcases List.mem_append.1 hm with hm | hm
      · exact .inl hm
      · obtain rfl := List.mem_singleton.1 hm
        exact .inr ⟨r, hr, hid, rfl, Record.message_eq_of_origin horigin⟩
  · refine openCount_lt (by rw [hid]; exact sound.records_update w.id _) (fun r' => ?_) hr ?_
    · simp [Record.isOpen, Record.concluded, Record.markPublished]
    · simp [Record.isOpen, publishing, lt]

/-- A message that the broker refuses puts its record off. -/
theorem Afoot.deliver_refused (h : Afoot policy base due (w :: todo) c b) (sound : c.Sound staged)
    (timeout : Duration) (soon : due (now.later (policy.backoff.delay w.attempts)))
    (failures : Nat) (e : Undelivered) :
    Afoot policy base due todo (c.conclude policy timeout w now (.error e))
        { b with failures := failures } ∧
      (c.conclude policy timeout w now (.error e)).openCount policy.maxAttempts ≤
        c.openCount policy.maxAttempts := by
  obtain ⟨r, hr, -, publishing, lt, unsent, unique⟩ := h.next sound
  constructor
  · refine h.conclude sound timeout _ (fun _ _ => rfl) (fun r' hr' hid => ?_) fun m hm => .inl hm
    rw [unique r' hr' hid]
    refine .pending rfl ?_ (fun _ => soon) unsent
    change countUp r.attempts ≤ policy.maxAttempts
    rw [UInt32.lt_iff_toNat_lt] at lt
    rw [UInt32.le_iff_toNat_le, toNat_countUp]
    omega
  · refine openCount_le (sound.records_update w.id _) fun r' hr' hid _ => ?_
    rw [unique r' hr' hid]
    simp [Record.isOpen, publishing, lt]

/-- **Every delivery counts.** It takes a failure from the broker, or it publishes a record. -/
theorem Afoot.deliver_one (h : Afoot policy base due (w :: todo) c b) (sound : c.Sound staged)
    (timeout : Duration) (soon : due (now.later (policy.backoff.delay w.attempts))) :
    Afoot policy base due todo (c.conclude policy timeout w now (b.publish w.message).1)
        (b.publish w.message).2 ∧
      (b.publish w.message).2.failures +
          (c.conclude policy timeout w now (b.publish w.message).1).openCount policy.maxAttempts <
        b.failures + c.openCount policy.maxAttempts ∧
      (c.conclude policy timeout w now (b.publish w.message).1).openCount policy.maxAttempts ≤
        c.openCount policy.maxAttempts := by
  cases hb : b.failures with
  | zero =>
    obtain ⟨afoot, less⟩ := h.deliver_taken sound timeout now
    rw [Broker.publish_of_ready hb]
    refine ⟨afoot, ?_, Nat.le_of_lt less⟩
    dsimp only
    omega
  | succ n =>
    rw [Broker.publish_of_failing hb]
    obtain ⟨afoot, le⟩ := h.deliver_refused sound timeout soon n (.refused Broker.unavailable)
    refine ⟨afoot, ?_, le⟩
    dsimp only
    omega

/-- The deliveries of a tick. -/
theorem Afoot.deliver (h : Afoot policy base due todo c b) (sound : c.Sound staged)
    (timeout : Duration) (clock : Readings)
    (soon : ∀ i attempts, due ((clock i).later (policy.backoff.delay attempts))) :
    let after := c.deliver policy Broker.publish timeout todo clock b
    Afoot policy base due [] after.1 after.2 ∧ after.1.Sound staged ∧
      after.2.failures + after.1.openCount policy.maxAttempts + todo.length ≤
        b.failures + c.openCount policy.maxAttempts ∧
      after.1.openCount policy.maxAttempts ≤ c.openCount policy.maxAttempts := by
  induction todo generalizing c b clock with
  | nil => exact ⟨h, sound, Nat.le_refl _, Nat.le_refl _⟩
  | cons w todo ih =>
    obtain ⟨h₁, less, le⟩ := h.deliver_one sound timeout (soon 0 w.attempts)
    obtain ⟨h', sound', less', le'⟩ := ih h₁ (sound.conclude w (clock 0) _) (clock.drop 1)
      fun i attempts => soon (i + 1) attempts
    refine ⟨h', sound', ?_, Nat.le_trans le' le⟩
    simp only [Contents.deliver, List.length_cons]
    omega

/-! ## Ticks -/

/-- **A tick gets on.** It leaves nothing open, or it has taken one off what is still to be done. -/
theorem Afoot.tick (worker : String) (h : Afoot policy base due [] c b) (sound : c.Sound staged)
    {config : DispatcherConfig} (batch : 0 < config.batchSize) (clock : Readings)
    (ready : ∀ t, due t → t ≤ clock 0)
    (later : ∀ t, due t → due' t)
    (soon : ∀ i attempts, due' ((clock i).later (policy.backoff.delay attempts))) :
    ∃ c' b', ((Relay.work config worker .tick).play policy Broker.publish clock ⟨c, false⟩ b).2 =
        (⟨c', false⟩, b') ∧
      Afoot policy base due' [] c' b' ∧ c'.Sound staged ∧
      c'.openCount policy.maxAttempts ≤ c.openCount policy.maxAttempts ∧
      (c'.openCount policy.maxAttempts = 0 ∨
        b'.failures + c'.openCount policy.maxAttempts <
          b.failures + c.openCount policy.maxAttempts) := by
  have played := (work_follows config worker .tick).play policy Broker.publish
    (by simp [Stage.first]) clock c b
  obtain ⟨h₁, sound₁, le₁⟩ := h.claimEach worker sound clock config.batchSize
  obtain ⟨h', sound', less, le⟩ := (h₁.mono later).deliver sound₁ config.confirmTimeout
    (clock.drop config.batchSize) fun i attempts => soon (i + config.batchSize) attempts
  refine ⟨_, _, played, h', sound', Nat.le_trans le le₁, ?_⟩
  cases hone : c.claimOne? policy worker (clock 0) with
  | none =>
    -- Nothing is claimed, so nothing was open, and nothing is now.
    have := h.openCount_eq_zero ready hone
    exact .inl (Nat.le_zero.1 (this ▸ Nat.le_trans le le₁))
  | some found =>
    obtain ⟨limit, hlimit⟩ := Nat.exists_eq_succ_of_ne_zero (Nat.ne_of_gt batch)
    have some_claimed :
        0 < ([] ++ (c.claimEach policy worker clock config.batchSize).1).length := by
      rw [hlimit, Contents.claimEach, hone]
      simp
    exact .inr (Nat.lt_of_lt_of_le (Nat.lt_add_of_pos_right some_claimed)
      (Nat.le_trans less (Nat.add_le_add_left le₁ _)))

/-- What is due for the next of the ticks, at each of its readings. -/
def dueAt : List Readings → Instant → Prop
  | [], _ => True
  | clock :: _, t => ∀ i, t ≤ clock i

/-- The clock advances by the longest delay from one tick to the next, and stays below the end of
time. -/
structure Advancing (cap : Duration) (clocks : List Readings) : Prop where
  bounded : ∀ clock ∈ clocks, ∀ i, clock i ≤ Instant.latest
  advance : clocks.IsChain fun clock next => ∀ i j, (clock i).later cap ≤ next j

theorem Advancing.tail {cap : Duration} {clock : Readings} {rest : List Readings}
    (h : Advancing cap (clock :: rest)) : Advancing cap rest :=
  ⟨fun next hnext => h.bounded next (List.mem_cons_of_mem _ hnext), h.advance.tail⟩

/-- What the longest delay brings about is due at the next tick, and so is all that comes before. -/
theorem Advancing.reaches {cap : Duration} {clock : Readings} {rest : List Readings}
    (h : Advancing cap (clock :: rest)) {t : Instant} {i : Nat} (ht : t ≤ (clock i).later cap) :
    dueAt rest t := by
  cases rest with
  | nil => trivial
  | cons next rest =>
    intro j
    exact Instant.le_trans ht ((List.isChain_cons_cons.1 h.advance).1 i j)

/-- **All ticks together.** Where as many ticks are run as there is still to be done, nothing is
open after them. -/
theorem Afoot.ticks (worker : String) {config : DispatcherConfig} (batch : 0 < config.batchSize)
    {clocks : List Readings} (advancing : Advancing policy.backoff.cap clocks)
    (h : Afoot policy base (dueAt clocks) [] c b) (sound : c.Sound staged)
    (enough : c.openCount policy.maxAttempts = 0 ∨
      b.failures + c.openCount policy.maxAttempts ≤ clocks.length) :
    ∃ c' b', Dispatcher.ticks policy config worker clocks ⟨c, false⟩ b = (⟨c', false⟩, b') ∧
      Afoot policy base (fun _ => True) [] c' b' ∧ c'.openCount policy.maxAttempts = 0 := by
  induction clocks generalizing c b with
  | nil =>
    refine ⟨c, b, rfl, h, ?_⟩
    rcases enough with hzero | hle
    · exact hzero
    · exact Nat.le_zero.1 (Nat.le_trans (Nat.le_add_left ..) hle)
  | cons clock rest ih =>
    have bounded := advancing.bounded clock List.mem_cons_self
    have later : ∀ t, dueAt (clock :: rest) t → dueAt rest t := fun t ht =>
      advancing.reaches (Instant.le_trans (ht 0) (Instant.le_later (bounded 0) _))
    have soon : ∀ i attempts, dueAt rest ((clock i).later (policy.backoff.delay attempts)) :=
      fun i attempts => advancing.reaches (Instant.later_le_later (bounded i)
        (policy.backoff.delay_le_cap attempts))
    obtain ⟨c₁, b₁, played, h₁, sound₁, le, done⟩ :=
      h.tick worker sound batch clock (fun t ht => ht 0) later soon
    have enough₁ : c₁.openCount policy.maxAttempts = 0 ∨
        b₁.failures + c₁.openCount policy.maxAttempts ≤ rest.length := by
      rcases enough with hzero | hle
      · exact .inl (Nat.le_zero.1 (hzero ▸ le))
      · refine done.imp_right fun hless => ?_
        rw [List.length_cons] at hle
        omega
    obtain ⟨c', b', hticks, h', hzero⟩ := ih advancing.tail h₁ sound₁ enough₁
    refine ⟨c', b', ?_, h', hzero⟩
    rw [Dispatcher.ticks]
    simp only [played]
    exact hticks

end

/-- **Delivery completes.** In any reachable store in which every record is pending, due and has
attempts left, one dispatcher runs ticks against a broker whose log is empty and that still has to
fail some publications; its clock advances by the longest delay from one tick to the next. After as
many ticks as there are failures and records, the records of the store are the same, each of them is
published with its message in the log once, or it has used up all attempts and has no message in the
log; and there is nothing else in the log. -/
theorem Dispatcher.delivery_completes {k n : Nat} {history : List Depot.Moment} {d : Depot}
    {s : Store} (run : Run Depot.Does (Depot.start k) history d) (fresh : FreshIds history)
    (hs : d.stores[n]? = some s) (policy : Policy) (config : DispatcherConfig)
    (batch : 0 < config.batchSize) (worker : String) (b : Broker) (empty : b.log = [])
    (clocks : List Readings) (advancing : Advancing policy.backoff.cap clocks)
    (pending : ∀ r ∈ s.contents.records,
      r.status = .pending ∧ r.attempts < policy.maxAttempts ∧ dueAt clocks r.nextAttemptAt)
    (enough : b.failures + s.contents.records.length ≤ clocks.length) :
    ∃ c' b', ticks policy config worker clocks s b = (⟨c', false⟩, b') ∧
      c'.records.map (·.origin) = s.contents.records.map (·.origin) ∧
      (∀ r ∈ c'.records,
        (r.status = .published ∧ b'.deliveries r.id = [r.message]) ∨
        (r.status = .pending ∧ r.attempts = policy.maxAttempts ∧ b'.deliveries r.id = [])) ∧
      ∀ m ∈ b'.log, ∃ r ∈ c'.records, r.status = .published ∧ r.message = m := by
  have consistent := Depot.consistent_of_run run fresh
  obtain ⟨hlock, hc⟩ := consistent.healthy.getElem? hs
  have sound := consistent.sound n s.contents hc
  have start : Afoot policy (s.contents.records.map (·.origin)) (dueAt clocks) [] s.contents b := by
    refine ⟨rfl, by simp, List.nodup_nil, fun r hr => ?_, by simp [empty]⟩
    obtain ⟨hpending, hlt, hdue⟩ := pending r hr
    refine .pending hpending (UInt32.le_of_lt hlt) (fun _ => hdue) ?_
    simp [Broker.deliveries, empty]
  have few : b.failures + s.contents.openCount policy.maxAttempts ≤ clocks.length :=
    Nat.le_trans (Nat.add_le_add_left List.countP_le_length _) enough
  obtain ⟨c', b', hticks, h', hzero⟩ :=
    start.ticks worker batch advancing sound (.inr few)
  rw [← hlock] at hticks
  refine ⟨c', b', hticks, h'.same, fun r hr => ?_, h'.log⟩
  have closed : r.isOpen policy.maxAttempts ≠ true := List.countP_eq_zero.1 hzero r hr
  cases h'.fates r hr with
  | published h once => exact .inl ⟨h, once⟩
  | pending h within soon unsent =>
    refine .inr ⟨h, UInt32.le_antisymm within ?_, unsent⟩
    simpa [Record.isOpen, h] using closed
  | publishing _ _ _ held => cases held

def Depot.twoEvents : List Operation :=
  [.enqueue 0 (.ofNat 1) (.brief none) .epoch, .enqueue 0 (.ofNat 2) (.brief (some "a")) .epoch]

/-- The broker refuses the first delivery, and one attempt is all that a record has. -/
theorem Dispatcher.delivery_completes_twoEvents :
    let policy : Policy := ⟨1, .ofSeconds 5, .ofSeconds 300⟩
    let clocks : List Readings := [.frozen .epoch, .frozen (Instant.epoch.later (.ofSeconds 300)),
      .frozen (Instant.epoch.later (.ofSeconds 600))]
    ∃ s, ((Depot.start 1).after Depot.twoEvents).stores[0]? = some s ∧
      s.contents.records.length = 2 ∧
      ∃ c' b', ticks policy { DispatcherConfig.default with batchSize := 1 } "w" clocks s
          (Broker.default.failNext 1) = (⟨c', false⟩, b') ∧
        c'.records.map (·.origin) = s.contents.records.map (·.origin) ∧
        (∀ r ∈ c'.records,
          (r.status = .published ∧ b'.deliveries r.id = [r.message]) ∨
          (r.status = .pending ∧ r.attempts = policy.maxAttempts ∧ b'.deliveries r.id = [])) ∧
        ∀ m ∈ b'.log, ∃ r ∈ c'.records, r.status = .published ∧ r.message = m := by
  intro policy clocks
  have fresh : FreshIds ((Depot.start 1).moments Depot.twoEvents) := by decide +kernel
  obtain ⟨s, hs, hlength, hpending⟩ : ∃ s,
      ((Depot.start 1).after Depot.twoEvents).stores[0]? = some s ∧
      s.contents.records.length = 2 ∧
      ∀ r ∈ s.contents.records, r.status = .pending ∧ r.attempts = 0 ∧ r.nextAttemptAt = .epoch :=
    ⟨_, rfl, rfl, by decide +kernel⟩
  have bounded : ∀ t ∈ [Instant.epoch, Instant.epoch.later (.ofSeconds 300),
      Instant.epoch.later (.ofSeconds 600)], t ≤ Instant.latest := by decide +kernel
  have advance : Instant.epoch.later (.ofSeconds 300) ≤ Instant.epoch.later (.ofSeconds 300) ∧
      (Instant.epoch.later (.ofSeconds 300)).later (.ofSeconds 300) ≤
        Instant.epoch.later (.ofSeconds 600) := by decide +kernel
  have advancing : Advancing policy.backoff.cap clocks := by
    refine ⟨fun clock hclock i => bounded _ ?_, .cons_cons (fun _ _ => advance.1)
      (.cons_cons (fun _ _ => advance.2) (.singleton _))⟩
    simp only [clocks, List.mem_cons, List.not_mem_nil, or_false] at hclock ⊢
    rcases hclock with rfl | rfl | rfl <;> simp [Readings.frozen]
  have pending : ∀ r ∈ s.contents.records,
      r.status = .pending ∧ r.attempts < policy.maxAttempts ∧ dueAt clocks r.nextAttemptAt := by
    intro r hr
    obtain ⟨hstatus, hattempts, hnext⟩ := hpending r hr
    rw [hattempts, hnext]
    exact ⟨hstatus, by decide, fun _ => Instant.le_refl _⟩
  exact ⟨s, hs, hlength, delivery_completes (Depot.run_moments _ _) fresh hs policy _ (by decide)
    "w" (Broker.default.failNext 1) rfl clocks advancing pending (by rw [hlength]; decide)⟩

end EventRelay
