import EventRelay.Proofs.Depot.Soundness

/-!
# How long a record stays published

A record that was marked as published is not claimed, released or listed as exhausted any more, and
it leaves the store only by a purge, as long as nobody reschedules it (`Effect.settled`). Settling
looks a record up by its id alone, whatever its status is: a worker that comes late with a failed
delivery makes a published record pending again. `published_iff_not_rescheduled` says that this is
the only way in which a record ceases to be published.
-/

namespace EventRelay.Depot

/-- The record with an id in the store with a number. -/
def find? (d : Depot) (n : Nat) (id : Uuid) : Option Record := (d.contents? n).bind (·.get? id)

/-- A record of the store `n` is rescheduled, if there is one with the id. -/
def Reschedules (n : Nat) (id : Uuid) (op : Operation) : Prop :=
  ∃ policy error attempts now, op = .reschedule n policy id error attempts now

/-- A worker gets the record with the id, or an operator is told that it is exhausted. -/
inductive Offers (n : Nat) (id : Uuid) : Operation × Answer → Prop where
  | batch {policy limit worker now rs r} (hr : r ∈ rs) (hid : r.id = id) :
    Offers n id (.claimBatch n policy limit worker now, .records rs)
  | one {policy worker now r} (hid : r.id = id) :
    Offers n id (.claimOne n policy worker now, .record (some r))
  | exhausted {policy limit rs r} (hr : r ∈ rs) (hid : r.id = id) :
    Offers n id (.exhausted n policy limit, .records rs)

/-- At this moment the record with the id is published or gone, and only a purge has removed it. -/
def StillPublished (n : Nat) (id : Uuid) (y : Moment) : Prop :=
  (∀ r, y.after.find? n id = some r → r.status = .published) ∧
    (y.after.find? n id = none →
      y.before.find? n id = none ∨ ∃ r, y.before.find? n id = some r ∧ Purges n y.event.1 r)

/-- The moment leaves the record with the id in peace: nobody is offered it, and a recovery does
not touch it. -/
def LeavesAlone (n : Nat) (id : Uuid) (y : Moment) : Prop :=
  ¬ Offers n id y.event ∧
    ∀ threshold now, y.event.1 = .recoverStuck n threshold now →
      y.after.find? n id = y.before.find? n id

section
variable {d d' : Depot} {op : Operation} {a : Answer} {n : Nat} {id : Uuid} {r : Record}

/-- In a sound depot an id leads to its record. -/
theorem Sound.find?_eq_some_iff (h : d.Sound) :
    d.find? n id = some r ↔ r ∈ d.records n ∧ r.id = id := by
  unfold find?
  cases hc : d.contents? n with
  | none => simp [records, rows, hc]
  | some c => rw [Option.bind_some, (h n c hc).get?_eq_some_iff, records_eq hc]

/-- The record with the id, if it is stored, is published, and no transaction has it staged. -/
structure Settled (d : Depot) (n : Nat) (id : Uuid) : Prop where
  published : ∀ r ∈ d.records n, r.id = id → r.status = .published
  unstaged : ∀ r ∈ d.staged n, r.id ≠ id

/-- A published record changes only when it is marked again or rescheduled. -/
theorem Change.of_published {r' : Record} (hc : Change n op r r') (h : r.status = .published) :
    r'.status = .published ∨ Reschedules n r.id op := by
  cases hc with
  | kept => exact .inl h
  | claimed hclaim | claimedOne hclaim => simp [Record.claimable_iff, h] at hclaim
  | marked => exact .inl rfl
  | rescheduled hid =>
    subst hid
    exact .inr ⟨_, _, _, _, rfl⟩
  | released hstale => simp [Record.stale_iff, h] at hstale

/-- A recovery leaves a published record as it is. -/
theorem Change.eq_of_recovery {m : Nat} {threshold : Duration} {now : Instant} {r' : Record}
    (hc : Change n (.recoverStuck m threshold now) r r') (h : r.status = .published) : r' = r := by
  cases hc with
  | kept => rfl
  | released hstale => simp [Record.stale_iff, h] at hstale

/-- **One step leaves a published record published**, unless it reschedules the record. -/
theorem Effect.settled (filed : d.Filed) (hd : Effect d op a d') (old : op.made ≠ some id)
    (h : d.Settled n id)
    (unrescheduled : Reschedules n id op → ∀ r ∈ d.records n, r.id ≠ id) : d'.Settled n id := by
  constructor
  · intro r' hr' hid
    obtain ⟨r, hr, hid₀, hc⟩ := hd.backward_of_old filed old h.unstaged hr' hid
    rcases hc.of_published (h.published r hr hid₀) with hpub | hresch
    · exact hpub
    · exact absurd hid₀ (unrescheduled (hid₀ ▸ hresch) r hr)
  · exact hd.unstaged_of_old old h.unstaged

/-- A published record is offered to nobody. -/
theorem Effect.not_offers (hd : Effect d op a d') (h : d.Settled n id) :
    ¬ Offers n id (op, a) := by
  intro hoffer
  generalize hx : (op, a) = x at hoffer
  cases hoffer with
  | batch hr hid =>
    cases hx
    obtain ⟨r₀, hr₀, hclaim, rfl, -⟩ := hd.exists_of_claimBatch hr
    simp [Record.claimable_iff, h.published r₀ hr₀ hid] at hclaim
  | one hid =>
    cases hx
    obtain ⟨r₀, hr₀, hclaim, rfl, -⟩ := hd.exists_of_claimOne
    simp [Record.claimable_iff, h.published r₀ hr₀ hid] at hclaim
  | exhausted hr hid =>
    cases hx
    cases hd with
    | exhausted hc =>
      obtain ⟨hin, hexh⟩ := List.mem_filter.1 (List.mem_of_mem_take hr)
      simp [Record.exhausted_iff, h.published _ (records_eq hc ▸ hin) hid] at hexh

/-- A recovery does not touch a published record. -/
theorem Effect.find?_eq_of_recovery {m : Nat} {threshold : Duration} {now : Instant}
    (sound : d.Sound) (sound' : d'.Sound) (hd : Effect d (.recoverStuck m threshold now) a d')
    (h : d.Settled n id) : d'.find? n id = d.find? n id := by
  refine Option.ext fun r => ?_
  rw [sound.find?_eq_some_iff, sound'.find?_eq_some_iff]
  constructor
  · rintro ⟨hr, hid⟩
    rcases hd.backward sound.filed hr with ⟨r₀, hr₀, hc⟩ | henter
    · have hid₀ : r₀.id = id := (Record.id_eq_of_origin hc.origin_eq).symm.trans hid
      rw [hc.eq_of_recovery (h.published r₀ hr₀ hid₀)]
      exact ⟨hr₀, hid₀⟩
    · cases henter
  · rintro ⟨hr, hid⟩
    rcases hd.forward sound.filed hr with ⟨r', hr', hc⟩ | ⟨_, _, hop, -⟩
    · rw [hc.eq_of_recovery (h.published r hr hid)] at hr'
      exact ⟨hr', hid⟩
    · cases hop

/-- Where the record with the id is published or gone, every step leaves it in peace. -/
theorem Effect.leavesAlone (sound : d.Sound) (sound' : d'.Sound) (hd : Effect d op a d')
    (h : d.Settled n id) : LeavesAlone n id ⟨d, (op, a), d'⟩ := by
  refine ⟨hd.not_offers h, ?_⟩
  rintro threshold now rfl
  exact hd.find?_eq_of_recovery sound sound' h

/-- Where the record with the id is published or gone after a step as before, a purge is all that
can have removed it. -/
theorem Effect.stillPublished (sound : d.Sound) (sound' : d'.Sound) (hd : Effect d op a d')
    (h' : d'.Settled n id) : StillPublished n id ⟨d, (op, a), d'⟩ := by
  constructor
  · intro r hr
    obtain ⟨hin, hid⟩ := sound'.find?_eq_some_iff.1 hr
    exact h'.published r hin hid
  · intro hgone
    cases hbefore : d.find? n id with
    | none => exact .inl rfl
    | some r =>
      obtain ⟨hr, hid⟩ := sound.find?_eq_some_iff.1 hbefore
      rcases hd.forward sound.filed hr with ⟨r', hr', hc⟩ | hpurge
      · have hid' : r'.id = id := (Record.id_eq_of_origin hc.origin_eq).trans hid
        have := sound'.find?_eq_some_iff.2 ⟨hr', hid'⟩
        exact absurd (hgone.symm.trans this) (by simp)
      · exact .inr ⟨r, rfl, hpurge⟩

theorem find?_put_update {c : Contents} (hc : d.contents? n = some c) (f : Record → Record) :
    (d.put n (c.update id f)).find? n id = (d.find? n id).map f := by
  unfold find?
  rw [contents?_put hc, if_pos rfl, hc, Option.bind_some, Option.bind_some, Contents.get?_update]

/-- A reschedule makes any record pending, whatever its status is: it looks at the id alone. -/
theorem Effect.pending_of_reschedules (hd : Effect d op a d') (hop : Reschedules n id op)
    (hr : d.find? n id = some r) : ∃ r', d'.find? n id = some r' ∧ r'.status = .pending := by
  obtain ⟨policy, error, attempts, now, rfl⟩ := hop
  cases hd with
  | rescheduled hc =>
    rw [find?_put_update hc, hr]
    exact ⟨_, rfl, rfl⟩

/-- A record that is marked is settled, unless it is gone. -/
theorem Effect.settled_of_marks (sound : d.Sound) (sound' : d'.Sound) {now : Instant}
    (hd : Effect d (.markPublished n id now) a d') (hr : d.find? n id = some r) :
    d'.Settled n id := by
  cases hd with
  | marked hc =>
    obtain ⟨hin, hid⟩ := sound.find?_eq_some_iff.1 hr
    constructor
    · intro r' hr' hid'
      have hfind := sound'.find?_eq_some_iff.2 ⟨hr', hid'⟩
      rw [find?_put_update hc, hr] at hfind
      cases hfind
      rfl
    · intro r' hr' hid'
      exact sound.unstaged hin hr' (hid.trans hid'.symm)

end

/-! ## Runs -/

section
variable {past later : List Moment} {d d' : Depot} {n : Nat} {id : Uuid}

/-- No reschedule finds the record with the id. -/
def NotRescheduled (n : Nat) (id : Uuid) (later : List Moment) : Prop :=
  ∀ y ∈ later, Reschedules n id y.event.1 → y.before.find? n id = none

/-- Since the record was settled it has stayed so, and every moment was as it should. -/
structure Undisturbed (n : Nat) (id : Uuid) (done : List Moment) (d : Depot) : Prop where
  settled : d.Settled n id
  moments : ∀ y ∈ done, StillPublished n id y ∧ LeavesAlone n id y

/-- One step leaves the record undisturbed, unless it is a reschedule that finds the record. -/
theorem Undisturbed.step {done : List Moment} {y : Moment} (sound : y.before.Sound)
    (sound' : y.after.Sound) (hd : Effect y.before y.event.1 y.event.2 y.after)
    (old : y.event.1.made ≠ some id) (unfound : Reschedules n id y.event.1 →
      y.before.find? n id = none) (h : Undisturbed n id done y.before) :
    Undisturbed n id (done ++ [y]) y.after := by
  have settled : y.after.Settled n id := by
    refine hd.settled sound.filed old h.settled fun hop r hr hid => ?_
    have hsome := sound.find?_eq_some_iff.2 ⟨hr, hid⟩
    rw [unfound hop] at hsome
    cases hsome
  refine ⟨settled, fun z hz => ?_⟩
  rcases List.mem_append.1 hz with hz | hz
  · exact h.moments z hz
  · cases List.mem_singleton.1 hz
    exact ⟨hd.stillPublished sound sound' settled, hd.leavesAlone sound sound' h.settled⟩

/-- From a depot in which the record is settled on, every moment is as it should, as long as no
reschedule finds the record. -/
theorem settled_along (h : Consistent past d) (run : Run Does d later d')
    (fresh : FreshIds (past ++ later)) (made : id ∈ madeIds past) (settled : d.Settled n id)
    (unfound : NotRescheduled n id later) :
    ∀ y ∈ later, StillPublished n id y ∧ LeavesAlone n id y := by
  have step : ∀ done y, Consistent (past ++ done) y.before →
      Consistent ((past ++ done) ++ [y]) y.after → FreshIds ((past ++ done) ++ [y]) →
      Effect y.before y.event.1 y.event.2 y.after →
      (NotRescheduled n id done → Undisturbed n id done y.before) →
      NotRescheduled n id (done ++ [y]) → Undisturbed n id (done ++ [y]) y.after := by
    intro done y old new fresh effect hdone unfound
    have before := hdone fun z hz => unfound z (List.mem_append_left _ hz)
    have unmade : y.event.1.made ≠ some id :=
      fun hmade => FreshIds.new fresh hmade (mem_madeIds_append made)
    exact before.step old.sound new.sound effect unmade (unfound y (by simp))
  have start : NotRescheduled n id [] → Undisturbed n id [] d := fun _ => ⟨settled, by simp⟩
  exact (h.along (P := fun done d => NotRescheduled n id done → Undisturbed n id done d)
    run fresh step start unfound).moments

/-- Where every moment of a run leaves the record published, no reschedule has found it. -/
theorem unfound_of_stillPublished {k : Nat} (run : Run Does (start k) (past ++ later) d)
    (fresh : FreshIds (past ++ later)) (still : ∀ y ∈ later, StillPublished n id y) :
    NotRescheduled n id later := by
  intro y hy hop
  obtain ⟨front, back, rfl⟩ := List.append_of_mem hy
  rw [← List.append_assoc] at run fresh
  obtain ⟨-, effect, -, -⟩ := cut_run run fresh
  cases hfind : y.before.find? n id with
  | none => rfl
  | some r =>
    obtain ⟨r', hr', hpending⟩ := effect.pending_of_reschedules hop hfind
    have hpublished := (still y hy).1 r' hr'
    rw [hpending] at hpublished
    cases hpublished

end

/-- **A record stays published exactly until it is rescheduled.** From the moment on at which a
stored record is marked as published, it is published at every moment until it is purged, if and
only if no reschedule finds it; and then nobody is offered it, and no recovery touches it. -/
theorem published_iff_not_rescheduled {k : Nat} {past later : List Moment} {x : Moment} {d : Depot}
    {n : Nat} {id : Uuid} {now : Instant} {r : Record}
    (run : Run Does (start k) (past ++ x :: later) d) (fresh : FreshIds (past ++ x :: later))
    (mark : x.event.1 = .markPublished n id now) (found : x.before.find? n id = some r) :
    ((∀ y ∈ later, StillPublished n id y) ↔ NotRescheduled n id later) ∧
    (NotRescheduled n id later → ∀ y ∈ later, LeavesAlone n id y) := by
  obtain ⟨before, hx, after, rest⟩ := cut_run run fresh
  have cut : past ++ x :: later = (past ++ [x]) ++ later := List.append_cons ..
  obtain ⟨hin, hid⟩ := before.sound.find?_eq_some_iff.1 found
  have made : id ∈ madeIds (past ++ [x]) :=
    mem_madeIds_append (hid ▸ before.known n r (List.mem_append_left _ hin))
  rw [mark] at hx
  have settled := hx.settled_of_marks before.sound after.sound found
  have good := settled_along after rest (cut ▸ fresh) made settled
  refine ⟨⟨fun still => ?_, fun unfound y hy => (good unfound y hy).1⟩,
    fun unfound y hy => (good unfound y hy).2⟩
  rw [cut] at run fresh
  exact unfound_of_stillPublished run fresh still

def quietEnd : List Operation :=
  [.enqueue 0 (.ofNat 1) (.brief none) .epoch, .claimOne 0 .default "w" .epoch,
    .markPublished 0 (.ofNat 1) .epoch, .recoverStuck 0 .zero (Instant.epoch.later (.ofSeconds 9)),
    .claimBatch 0 .default 10 "v" (Instant.epoch.later (.ofSeconds 9)),
    .purgePublished 0 .zero (Instant.epoch.later (.ofSeconds 9))]

/-- The quiet end leaves the published record alone until it is purged. -/
theorem published_iff_not_rescheduled_quietEnd :
    ∃ past x later r, (start 1).moments quietEnd = past ++ x :: later ∧
      FreshIds (past ++ x :: later) ∧ x.event.1 = .markPublished 0 (.ofNat 1) .epoch ∧
      x.before.find? 0 (.ofNat 1) = some r ∧ r.status = .publishing ∧
      later.length = 3 ∧
      ∀ y ∈ later, StillPublished 0 (.ofNat 1) y ∧ LeavesAlone 0 (.ofNat 1) y := by
  have fresh : FreshIds ((start 1).moments quietEnd) := by decide +kernel
  have run := run_moments (start 1) quietEnd
  obtain ⟨past, x, later, r, heq, mark, found, claimed, hops⟩ : ∃ past x later r,
      (start 1).moments quietEnd = past ++ x :: later ∧
      x.event.1 = .markPublished 0 (.ofNat 1) .epoch ∧
      x.before.find? 0 (.ofNat 1) = some r ∧ r.status = .publishing ∧
      later.map (·.event.1) = quietEnd.drop 3 :=
    ⟨[_, _], _, [_, _, _], _, rfl, rfl, rfl, rfl, rfl⟩
  rw [heq] at fresh run
  have result := published_iff_not_rescheduled run fresh mark found
  have unfound : NotRescheduled 0 (.ofNat 1) later := by
    rintro y hy ⟨policy, error, attempts, now, hop⟩
    have : y.event.1 ∈ quietEnd.drop 3 := hops ▸ List.mem_map_of_mem hy
    rw [hop] at this
    simp [quietEnd] at this
  have length : later.length = 3 := by rw [← List.length_map, hops]; rfl
  exact ⟨past, x, later, r, heq, fresh, mark, found, claimed, length,
    fun y hy => ⟨result.1.2 unfound y hy, result.2 unfound y hy⟩⟩

/-! ## Late settlements -/

/-- The ids that a worker has claimed in an operation, with the number of the store. -/
def claimedIn : Operation × Answer → List (Nat × Uuid)
  | (.claimBatch n _ _ _ _, .records rs) => rs.map fun r => (n, r.id)
  | (.claimOne n _ _ _, .record (some r)) => [(n, r.id)]
  | _ => []

/-- The id that a worker settles in an operation, with the number of the store. -/
def settledIn : Operation → Option (Nat × Uuid)
  | .markPublished n id _ | .reschedule n _ id _ _ _ => some (n, id)
  | _ => none

/-- Every settlement is one of a record that a worker has claimed before. -/
def SettlesClaimed : List (Nat × Uuid) → List Moment → Prop
  | _, [] => True
  | claimed, y :: rest =>
    (∀ p ∈ settledIn y.event.1, p ∈ claimed) ∧ SettlesClaimed (claimedIn y.event ++ claimed) rest

instance decidableSettlesClaimed (claimed : List (Nat × Uuid)) (history : List Moment) :
    Decidable (SettlesClaimed claimed history) :=
  match history with
  | [] => isTrue trivial
  | y :: rest =>
    have := decidableSettlesClaimed (claimedIn y.event ++ claimed) rest
    inferInstanceAs (Decidable (_ ∧ _))

/-- The worker `w` takes too long, so that its record is recovered, claimed and published by the
worker `v`; then `w` reschedules the record that it has claimed at first. -/
def lateSettlement : List Operation :=
  [.enqueue 0 (.ofNat 1) (.brief none) .epoch, .claimBatch 0 .default 1 "w" .epoch,
    .recoverStuck 0 (.ofSeconds 300) (Instant.epoch.later (.ofSeconds 301)),
    .claimBatch 0 .default 1 "v" (Instant.epoch.later (.ofSeconds 302)),
    .markPublished 0 (.ofNat 1) (Instant.epoch.later (.ofSeconds 303)),
    .reschedule 0 .default (.ofNat 1) "timed out" 0 (Instant.epoch.later (.ofSeconds 304))]

/-- A published record does not stay published, even if workers settle only what they have
claimed. -/
theorem late_settlement_unpublishes :
    ¬ ∀ (k : Nat) (past later : List Moment) (x : Moment) (d : Depot) (n : Nat) (id : Uuid)
      (now : Instant) (r : Record),
      Run Does (start k) (past ++ x :: later) d → FreshIds (past ++ x :: later) →
      SettlesClaimed [] (past ++ x :: later) →
      x.event.1 = .markPublished n id now → x.before.find? n id = some r →
      ∀ y ∈ later, ∀ r', y.after.find? n id = some r' → r'.status = .published := by
  intro claim
  have fresh : FreshIds ((start 1).moments lateSettlement) := by decide +kernel
  have run := run_moments (start 1) lateSettlement
  obtain ⟨past, x, y, r, r', heq, mark, found, hr', hpending⟩ : ∃ past x y r r',
      (start 1).moments lateSettlement = past ++ x :: [y] ∧
      x.event.1 = .markPublished 0 (.ofNat 1) (Instant.epoch.later (.ofSeconds 303)) ∧
      x.before.find? 0 (.ofNat 1) = some r ∧ y.after.find? 0 (.ofNat 1) = some r' ∧
      r'.status = .pending :=
    ⟨[_, _, _, _], _, _, _, _, rfl, rfl, rfl, rfl, rfl⟩
  have claimed : SettlesClaimed [] ((start 1).moments lateSettlement) := by decide +kernel
  rw [heq] at fresh run claimed
  have := claim 1 past [y] x _ 0 (.ofNat 1) _ r run fresh claimed mark found y (by simp) r' hr'
  rw [hpending] at this
  cases this

end EventRelay.Depot
