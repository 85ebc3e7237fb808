import EventRelay.Proofs.Backoff
import EventRelay.Proofs.Depot.Soundness

/-!
# The oldest first

A store hands its records out in the order in which they came in. For events that are enqueued this
is the order of their age, as long as the clock does not go back. An event in a transaction is as
old as its staging, but it comes in when the transaction is committed, behind all that others have
enqueued since then.

`oldest_first_iff_none_overtaken` says that nothing else disturbs the order: batches hand out the
oldest claimable records first, and in the order of their age, exactly if no claimable record was
overtaken in this way by a younger claimable one. A transaction that stays open for a second is
enough to disturb it (`long_transaction_is_overtaken`).
-/

namespace EventRelay

/-- None of the answered records is younger than a later one, or than one that is left. -/
def OldestFirst (answered left : List Record) : Prop :=
  answered.Pairwise (·.createdAt ≤ ·.createdAt) ∧
    ∀ r ∈ answered, ∀ s ∈ left, r.createdAt ≤ s.createdAt

instance (answered left : List Record) : Decidable (OldestFirst answered left) :=
  inferInstanceAs (Decidable (List.Pairwise _ _ ∧ ∀ r ∈ answered, ∀ s ∈ left, _))

/-- A list can be cut anywhere into what is answered and what is left if it is in order of age. -/
theorem oldestFirst_take_drop_iff {rs : List Record} (worker : String) (now : Instant) :
    (∀ limit, OldestFirst ((rs.take limit).map (·.claim worker now)) (rs.drop limit)) ↔
      rs.Pairwise (·.createdAt ≤ ·.createdAt) := by
  constructor
  · intro h
    have whole := (h rs.length).1
    rw [List.take_length, List.pairwise_map] at whole
    exact whole
  · intro h limit
    rw [← List.take_append_drop limit rs, List.pairwise_append] at h
    obtain ⟨first, -, across⟩ := h
    exact ⟨List.pairwise_map.2 first, List.forall_mem_map.2 across⟩

namespace Depot

/-! ## Clocks and arrivals -/

/-- The times that the clock has shown in the course of a history. -/
def readings (history : List Moment) : List Instant := history.filterMap (·.event.1.reading)

/-- The clock has never gone back. -/
def ClockForward (history : List Moment) : Prop := (readings history).Pairwise (· ≤ ·)

instance (history : List Moment) : Decidable (ClockForward history) :=
  inferInstanceAs (Decidable (List.Pairwise _ _))

/-- The ids of the records that a transaction brings into the store `n` at this moment. -/
def committedIds (n : Nat) (x : Moment) : List Uuid :=
  match x.event with
  | (.commit m t, .count _) =>
    if m = n then (((x.before.open? t).map (·.staged)).getD []).map (·.id) else []
  | _ => []

/-- A transaction has brought `r` into the store `n` when `s` stood there already. -/
def Ahead (n : Nat) (history : List Moment) (s r : Record) : Prop :=
  ∃ x ∈ history, r.id ∈ committedIds n x ∧ s.id ∈ (x.before.records n).map (·.id)

/-- The younger record `s` came into the store `n` ahead of the older one, which was kept by a
transaction. -/
def Overtook (n : Nat) (history : List Moment) (s r : Record) : Prop :=
  r.createdAt < s.createdAt ∧ Ahead n history s r

instance (n : Nat) (history : List Moment) (s r : Record) : Decidable (Overtook n history s r) :=
  inferInstanceAs (Decidable (_ ∧ ∃ x ∈ history, _ ∧ _))

/-- The records that an operation brings into the store `n`, in their order. -/
inductive Arrival (d : Depot) (n : Nat) : Operation → Answer → List Record → Prop where
  | enqueued {id e now} :
    Arrival d n (.enqueue n id e now) (.record (some (.ofEvent id e now))) [.ofEvent id e now]
  | committed {t tx} (htx : d.open? t = some tx) (hn : tx.store = n) :
    Arrival d n (.commit n t) (.count tx.staged.length) tx.staged

section
variable {d d' : Depot} {op : Operation} {a : Answer} {n : Nat} {history : List Moment} {x : Moment}
  {r s : Record}

theorem readings_append (history : List Moment) (x : Moment) :
    readings (history ++ [x]) = readings history ++ x.event.1.reading.toList := by
  cases h : x.event.1.reading with
  | none => simp [readings, h]
  | some now => simp [readings, h]

theorem ClockForward.init (h : ClockForward (history ++ [x])) : ClockForward history :=
  h.sublist ((List.sublist_append_left history [x]).filterMap _)

/-- In a history with a clock that goes forward, no earlier reading is later than a new one. -/
theorem ClockForward.le (h : ClockForward (history ++ [x])) {t now : Instant}
    (ht : t ∈ readings history) (reading : x.event.1.reading = some now) : t ≤ now := by
  unfold ClockForward at h
  rw [readings_append, reading, List.pairwise_append] at h
  exact h.2.2 t ht now (List.mem_singleton_self now)

theorem ahead_append :
    Ahead n (history ++ [x]) s r ↔
      Ahead n history s r ∨ r.id ∈ committedIds n x ∧ s.id ∈ (x.before.records n).map (·.id) := by
  simp only [Ahead, List.mem_append, List.mem_singleton, or_and_right, exists_or, exists_eq_left]

/-- What is committed was staged until then. -/
theorem Effect.staged_of_committedIds (hd : Effect d op a d') {id : Uuid}
    (hid : id ∈ committedIds n ⟨d, (op, a), d'⟩) : ∃ r ∈ d.staged n, r.id = id := by
  cases hd with
  | committed htx hn hc =>
    rename_i m t tx c
    simp only [committedIds, htx, Option.map_some, Option.getD_some] at hid
    split at hid
    · rename_i heq
      obtain ⟨r, hr, hid⟩ := List.mem_map.1 hid
      exact ⟨r, mem_staged.2 ⟨t, tx, htx, hn.trans heq, hr⟩, hid⟩
    · cases hid
  | _ => cases hid

/-- A record comes in alone or with all that its transaction has staged, behind the records that are
there. -/
theorem Effect.arrival_of_enters (sound : d.Sound) (hd : Effect d op a d')
    (henter : Enters d n op a r) :
    ∃ new, d'.records n = d.records n ++ new ∧ Arrival d n op a new := by
  cases henter with
  | enqueued =>
    cases hd with
    | entered hc hins =>
      refine ⟨_, ?_, .enqueued⟩
      rw [records, rows_put hc, if_pos rfl, (Contents.insert?_rows hins).1, records, rows_eq hc]
      simp
  | committed htx hn hr =>
    cases hd with
    | committed htx' hn' hc =>
      cases htx.symm.trans htx'
      subst hn
      obtain ⟨length, -, committed⟩ := (sound.beside htx hc).insertAll
      rw [length]
      refine ⟨_, ?_, .committed htx rfl⟩
      rw [records_eq hc, ← committed]
      exact records_eq (by rw [contents?_setTransaction, contents?_put hc, if_pos rfl])

/-- **How the order of the records changes.** They keep their order, and some may be missing, or new
ones come behind all others. -/
theorem Effect.order (sound : d.Sound) (hd : Effect d op a d') (n : Nat) :
    ((d'.records n).map Record.origin).Sublist ((d.records n).map Record.origin) ∨
      ∃ new, d'.records n = d.records n ++ new ∧ Arrival d n op a new := by
  have arrival {r : Record} (henter : Enters d n op a r) := hd.arrival_of_enters sound henter
  have rows := hd.rows sound.filed n
  simp only [records] at arrival ⊢
  generalize d.rows n = front, d'.rows n = back at *
  cases rows with
  | changed h =>
    have same := h.map_eq Record.origin fun _ _ hc => hc.origin_eq
    have origins := congrArg (List.map (·.2)) same
    simp only [List.map_map, Function.comp_def] at origins ⊢
    exact .inl (origins ▸ List.Sublist.refl _)
  | purged => exact .inl ((List.filter_sublist.map _).map _)
  | added h =>
    rename_i new
    cases new with
    | nil => exact .inl (by rw [List.append_nil])
    | cons row rest => exact .inr (arrival (h row List.mem_cons_self))

/-! ## What a history keeps -/

/-- A record with the id was in the store `n` at the beginning of some moment. -/
def WasStored (n : Nat) (history : List Moment) (id : Uuid) : Prop :=
  ∃ y ∈ history, ∃ r ∈ y.before.records n, r.id = id

theorem Ahead.wasStored (h : Ahead n history s r) : WasStored n history s.id := by
  obtain ⟨x, hx, -, stored⟩ := h
  exact ⟨x, hx, List.mem_map.1 stored⟩

/-- The record `r` stands rightly behind `s`: it is not older, or it came in behind it. -/
def InLine (n : Nat) (history : List Moment) (s r : Record) : Prop :=
  (s.createdAt ≤ r.createdAt ∨ Ahead n history s r) ∧ ¬ Ahead n history r s

/-- How records and staged records stand to what has happened, if the clock has never gone back. -/
structure Aligned (history : List Moment) (d : Depot) : Prop where
  /-- A record is as old as some reading of the clock. -/
  dated : ∀ n, ∀ r ∈ d.records n ++ d.staged n, r.createdAt ∈ readings history
  /-- A transaction has staged its records in the order of their age. -/
  staged : ∀ t tx, d.open? t = some tx → tx.staged.Pairwise (·.createdAt ≤ ·.createdAt)
  made : ∀ n id, WasStored n history id → id ∈ madeIds history
  /-- What was stored once is not staged. -/
  unstaged : ∀ n id, WasStored n history id → ∀ r ∈ d.staged n, r.id ≠ id
  order : ∀ n, (d.records n).Pairwise (InLine n history)

theorem aligned_start (k : Nat) : Aligned [] (start k) where
  dated n r hr := by simp [records] at hr
  staged t tx htx := by simp [start, open?] at htx
  made n id h := by simp [WasStored] at h
  unstaged n id h := by simp [WasStored] at h
  order n := by simp [records]

theorem wasStored_append {id : Uuid} :
    WasStored n (history ++ [x]) id ↔
      WasStored n history id ∨ ∃ r ∈ x.before.records n, r.id = id := by
  simp [WasStored, or_and_right, exists_or]

/-- A record that comes in was created by this operation, or it was staged before. -/
theorem Enters.dated (henter : Enters d n op a r) :
    op.reading = some r.createdAt ∨ r ∈ d.staged n := by
  cases henter with
  | enqueued => exact .inl rfl
  | committed htx hn hr => exact .inr (mem_staged.2 ⟨_, _, htx, hn, hr⟩)

section
variable (h : Aligned history x.before) (before : Consistent history x.before)
include h before

/-- What was stored until now has an id that was made before. -/
theorem Aligned.made_before {id : Uuid} (stored : WasStored n (history ++ [x]) id) :
    id ∈ madeIds history := by
  rcases wasStored_append.1 stored with past | ⟨r, hr, rfl⟩
  · exact h.made n id past
  · exact before.known n r (List.mem_append_left _ hr)

/-- What is staged has never been stored. -/
theorem Aligned.staged_unstored (hr : r ∈ x.before.staged n) :
    ¬ WasStored n (history ++ [x]) r.id := by
  intro stored
  rcases wasStored_append.1 stored with past | ⟨r', hr', hid⟩
  · exact h.unstaged n r.id past r hr rfl
  · exact before.sound.unstaged hr' hr hid

omit before in
/-- What comes in together is in order of age. -/
theorem Aligned.arrival_order {new : List Record}
    (arrival : Arrival x.before n x.event.1 x.event.2 new) :
    new.Pairwise (·.createdAt ≤ ·.createdAt) := by
  generalize x.event.1 = op, x.event.2 = a at arrival
  cases arrival with
  | enqueued => exact List.pairwise_singleton _ _
  | committed htx hn => exact h.staged _ _ htx

/-- What comes in has never been stored. -/
theorem Aligned.arrival_unstored (fresh : FreshIds (history ++ [x])) {new : List Record}
    (arrival : Arrival x.before n x.event.1 x.event.2 new) (hr : r ∈ new) :
    ¬ WasStored n (history ++ [x]) r.id := by
  generalize hop : x.event.1 = op, x.event.2 = a at arrival
  cases arrival with
  | enqueued =>
    cases List.mem_singleton.1 hr
    intro stored
    exact FreshIds.new fresh (by rw [hop]; rfl) (h.made_before before stored)
  | committed htx hn =>
    exact h.staged_unstored before (mem_staged.2 ⟨_, _, htx, hn, hr⟩)

end

section
variable (h : Aligned history x.before) (clock : ClockForward (history ++ [x]))
include h clock

/-- A record that comes in is not older than those that are stored, unless a transaction has kept
it. -/
theorem Aligned.behind (hs : s ∈ x.before.records n) {new : List Record}
    (arrival : Arrival x.before n x.event.1 x.event.2 new) (hr : r ∈ new) :
    s.createdAt ≤ r.createdAt ∨ Ahead n (history ++ [x]) s r := by
  generalize hop : x.event.1 = op, ha : x.event.2 = a at arrival
  cases arrival with
  | enqueued =>
    cases List.mem_singleton.1 hr
    exact .inl (clock.le (h.dated n s (List.mem_append_left _ hs)) (by rw [hop]; rfl))
  | committed htx hn =>
    rename_i t tx
    have event : x.event = (.commit n t, .count tx.staged.length) := Prod.ext hop ha
    have committed : r.id ∈ committedIds n x := by
      simpa [committedIds, event, htx] using ⟨r, hr, rfl⟩
    exact .inr (ahead_append.2 (.inr ⟨committed, List.mem_map_of_mem hs⟩))

/-- The records of a transaction stay in the order of their age. -/
theorem Aligned.staged_step (effect : Effect x.before x.event.1 x.event.2 x.after) :
    ∀ t tx, x.after.open? t = some tx → tx.staged.Pairwise (·.createdAt ≤ ·.createdAt) := by
  intro t tx' htx'
  rcases effect.open?_backward htx' with htx | ⟨-, -, -, hnil⟩ | ⟨tx, id, e, now, htx, hop, -, rfl⟩
  · exact h.staged t tx' htx
  · rw [hnil]
    exact .nil
  · refine List.pairwise_append.2 ⟨h.staged t tx htx, List.pairwise_singleton _ _, ?_⟩
    intro s hs r hr
    cases List.mem_singleton.1 hr
    have hs : s ∈ x.before.staged tx.store := mem_staged.2 ⟨t, tx, htx, rfl, hs⟩
    exact clock.le (h.dated _ s (List.mem_append_right _ hs)) (by rw [hop]; rfl)

end

section
variable (h : Aligned history x.before) (before : Consistent history x.before)
  (effect : Effect x.before x.event.1 x.event.2 x.after)
include h before effect

/-- Every record was created at a time that the clock has shown. -/
theorem Aligned.dated_step : ∀ n, ∀ r ∈ x.after.records n ++ x.after.staged n,
    r.createdAt ∈ readings (history ++ [x]) := by
  have old {n r} (hr : r ∈ x.before.records n ++ x.before.staged n) :
      r.createdAt ∈ readings (history ++ [x]) := by
    rw [readings_append]
    exact List.mem_append_left _ (h.dated n r hr)
  have new {t : Instant} (reading : x.event.1.reading = some t) :
      t ∈ readings (history ++ [x]) := by
    rw [readings_append, reading]
    simp
  intro n r hr
  rcases List.mem_append.1 hr with hr | hr
  · rcases effect.backward before.sound.filed hr with ⟨r₀, hr₀, hc⟩ | henter
    · rw [Record.createdAt_eq_of_origin hc.origin_eq]
      exact old (List.mem_append_left _ hr₀)
    · rcases henter.dated with reading | hr
      · exact new reading
      · exact old (List.mem_append_right _ hr)
  · rcases effect.staged_backward hr with hr | ⟨t, id, e, now, hop, -, rfl⟩
    · exact old (List.mem_append_right _ hr)
    · exact new (by rw [hop]; rfl)

variable (fresh : FreshIds (history ++ [x]))
include fresh

/-- A record that was stored is not staged any more, and is not staged again. -/
theorem Aligned.unstaged_step (n : Nat) (id : Uuid) (stored : WasStored n (history ++ [x]) id) :
    ∀ r ∈ x.after.staged n, r.id ≠ id := by
  rintro r hr rfl
  rcases effect.staged_backward hr with hr | ⟨t, id, e, now, hop, -, rfl⟩
  · exact h.staged_unstored before hr stored
  · exact FreshIds.new fresh (by rw [hop]; rfl) (h.made_before before stored)

/-- **One step keeps the order.** Old records stand as they did, and a new one comes behind them. -/
theorem Aligned.order_step (clock : ClockForward (history ++ [x])) (n : Nat) :
    (x.after.records n).Pairwise (InLine n (history ++ [x])) := by
  have old : (x.before.records n).Pairwise (InLine n (history ++ [x])) := by
    refine (h.order n).imp_of_mem fun {s r} hs _ hsr => ?_
    refine ⟨hsr.1.imp_right fun ahead => ahead_append.2 (.inl ahead), fun ahead => ?_⟩
    rcases ahead_append.1 ahead with ahead | ⟨committed, -⟩
    · exact hsr.2 ahead
    · obtain ⟨s', hs', hid⟩ := effect.staged_of_committedIds committed
      exact before.sound.unstaged hs hs' hid.symm
  rcases effect.order before.sound n with sublist | ⟨new, hrecords, arrival⟩
  · have origins : ((x.before.records n).map Record.origin).Pairwise (InLine n (history ++ [x])) :=
      List.pairwise_map.2 old
    have inOrder := origins.sublist sublist
    rw [List.pairwise_map] at inOrder
    exact inOrder
  · rw [hrecords]
    have unstored {r} (hr : r ∈ new) (s : Record) : ¬ Ahead n (history ++ [x]) r s := fun ahead =>
      h.arrival_unstored before fresh arrival hr ahead.wasStored
    refine List.pairwise_append.2 ⟨old, ?_, fun s hs r hr => ?_⟩
    · exact (h.arrival_order arrival).imp_of_mem fun {s r} _ hr le => ⟨.inl le, unstored hr s⟩
    · exact ⟨h.behind clock hs arrival hr, unstored hr s⟩

/-- **One operation keeps the line**: two records stand by their age, unless a transaction has
brought the older one in behind the younger. -/
theorem Aligned.step (clock : ClockForward (history ++ [x])) :
    Aligned (history ++ [x]) x.after where
  dated := h.dated_step before effect
  staged := h.staged_step clock effect
  made _ _ stored := mem_madeIds_append (h.made_before before stored)
  unstaged := h.unstaged_step before effect fresh
  order := h.order_step before effect fresh clock

end

/-- At the end of every run in which the clock never went back the records are aligned. -/
theorem aligned_of_run {k : Nat} (run : Run Does (start k) history d) (fresh : FreshIds history)
    (clock : ClockForward history) : Aligned history d := by
  have step : ∀ done y, Consistent ([] ++ done) y.before →
      Consistent (([] ++ done) ++ [y]) y.after → FreshIds (([] ++ done) ++ [y]) →
      Effect y.before y.event.1 y.event.2 y.after →
      (ClockForward done → Aligned done y.before) → ClockForward (done ++ [y]) →
      Aligned (done ++ [y]) y.after :=
    fun done y before _ fresh effect ih clock => (ih clock.init).step before effect fresh clock
  exact (consistent_start k).along (P := fun done d => ClockForward done → Aligned done d)
    run fresh step (fun _ => aligned_start k) clock

/-! ## Batches -/

/-- A batch of claims is answered with the first claimable records, and leaves the others. -/
theorem Healthy.does_claimBatch (h : d.Healthy) (hn : n < d.stores.length) (policy : Policy)
    (limit : Nat) (worker : String) (now : Instant) :
    ∃ rs d', d.Does (.claimBatch n policy limit worker now, .records rs) d' := by
  exact h.change_ok (f := (·.claimBatch policy limit worker now)) hn fun c =>
    ⟨_, _, Store.claimBatch_eq policy limit worker now c⟩

/-- A batch is the beginning of what is claimable, and what is claimable afterwards is the rest. -/
theorem Healthy.of_claimBatch (h : d.Healthy) {policy : Policy} {limit : Nat} {worker : String}
    {now : Instant} {rs : List Record}
    (hd : d.Does (.claimBatch n policy limit worker now, .records rs) d') :
    rs = (((d.records n).filter (·.claimable now policy.maxAttempts)).take limit).map
        (·.claim worker now) ∧
      (d'.records n).filter (·.claimable now policy.maxAttempts) =
        ((d.records n).filter (·.claimable now policy.maxAttempts)).drop limit := by
  cases h.effect_claimBatch hd with
  | claimed hc =>
    rename_i c
    have after : (d.put n (c.claimUpTo policy worker now limit).2).contents? n =
        some (c.claimUpTo policy worker now limit).2 := by
      rw [contents?_put hc, if_pos rfl]
    rw [records_eq hc, records_eq after, Contents.claimable_claimUpTo, Contents.claimUpTo_eq]
    exact ⟨rfl, rfl⟩

/-- Where the records are aligned, only those that were overtaken are out of order. -/
theorem Aligned.pairwise_iff (h : Aligned history d) {rs : List Record}
    (sublist : rs.Sublist (d.records n)) :
    rs.Pairwise (·.createdAt ≤ ·.createdAt) ↔ ∀ s ∈ rs, ∀ r ∈ rs, ¬ Overtook n history s r := by
  have inLine : rs.Pairwise (InLine n history) := (h.order n).sublist sublist
  constructor
  · intro ordered
    have irrefl : ∀ s ∈ rs, ¬ Overtook n history s s := fun s _ overtook =>
      Instant.not_lt.2 (Instant.le_refl _) overtook.1
    have forward : rs.Pairwise fun s r => ¬ Overtook n history s r := by
      refine ordered.imp fun {s r} le overtook => ?_
      exact Instant.not_lt.2 le overtook.1
    have backward : rs.Pairwise fun s r => ¬ Overtook n history r s := by
      refine inLine.imp fun {s r} hsr overtook => ?_
      exact hsr.2 overtook.2
    intro s hs r hr
    exact forward.forall_of_forall_of_flip irrefl backward hs hr
  · intro none
    refine inLine.imp_of_mem fun {s r} hs hr hsr => ?_
    rcases hsr.1 with le | ahead
    · exact le
    · exact Instant.not_lt.1 fun younger => none s hs r hr ⟨younger, ahead⟩

end

/-- **Who is overtaken is all that is out of order.** After a run in which the clock never went
back, batches of every size hand out claimable records in the order of their age, and none that is
younger than one they leave, if and only if no claimable record was overtaken by a younger
claimable one while a transaction kept it. -/
theorem oldest_first_iff_none_overtaken {k : Nat} {history : List Moment} {d : Depot}
    (run : Run Does (start k) history d) (fresh : FreshIds history) (clock : ClockForward history)
    {n : Nat} (hn : n < d.stores.length) (policy : Policy) (worker : String) (now : Instant) :
    (∀ limit, ∃ rs d', d.Does (.claimBatch n policy limit worker now, .records rs) d' ∧
      OldestFirst rs ((d'.records n).filter (·.claimable now policy.maxAttempts))) ↔
    ∀ s ∈ d.records n, ∀ r ∈ d.records n, s.claimable now policy.maxAttempts = true →
      r.claimable now policy.maxAttempts = true → ¬ Overtook n history s r := by
  have healthy := (consistent_of_run run fresh).healthy
  have aligned := aligned_of_run run fresh clock
  have batch (limit : Nat) :
      (∃ rs d', d.Does (.claimBatch n policy limit worker now, .records rs) d' ∧
        OldestFirst rs ((d'.records n).filter (·.claimable now policy.maxAttempts))) ↔
      OldestFirst ((((d.records n).filter (·.claimable now policy.maxAttempts)).take limit).map
        (·.claim worker now))
        (((d.records n).filter (·.claimable now policy.maxAttempts)).drop limit) := by
    constructor
    · rintro ⟨rs, d', hd, oldest⟩
      obtain ⟨rfl, left⟩ := healthy.of_claimBatch hd
      rwa [left] at oldest
    · intro oldest
      obtain ⟨rs, d', hd⟩ := healthy.does_claimBatch hn policy limit worker now
      obtain ⟨rfl, left⟩ := healthy.of_claimBatch hd
      exact ⟨_, d', hd, left ▸ oldest⟩
  rw [forall_congr' batch, oldestFirst_take_drop_iff, aligned.pairwise_iff List.filter_sublist]
  simp only [List.mem_filter, and_imp]
  exact ⟨fun h s hs r hr hs' hr' => h s hs hs' r hr hr', fun h s hs hs' r hr hr' =>
    h s hs r hr hs' hr'⟩

/-- A transaction is committed before anybody else enqueues, and a record that was tried comes up
again. -/
def promptTransaction : List Operation :=
  [.enqueue 0 (.ofNat 1) (.brief none) .epoch, .begin 0,
    .stage 0 0 (.ofNat 2) (.brief none) (Instant.epoch.later (.ofSeconds 1)),
    .stage 0 0 (.ofNat 3) (.brief none) (Instant.epoch.later (.ofSeconds 2)),
    .claimBatch 0 .default 1 "v" (Instant.epoch.later (.ofSeconds 2)), .commit 0 0,
    .reschedule 0 .default (.ofNat 1) "reset" 0 (Instant.epoch.later (.ofSeconds 3)),
    .enqueue 0 (.ofNat 4) (.brief none) (Instant.epoch.later (.ofSeconds 4))]

/-- Where the transaction is committed promptly, every batch takes the oldest records first. -/
theorem oldest_first_iff_none_overtaken_promptTransaction :
    FreshIds ((start 1).moments promptTransaction) ∧
      ClockForward ((start 1).moments promptTransaction) ∧
      (((((start 1).after promptTransaction).records 0).filter (·.claimable
        (Instant.epoch.later (.ofSeconds 9)) 10)).map (·.id) =
          [.ofNat 1, .ofNat 2, .ofNat 3, .ofNat 4]) ∧
      ∀ limit, ∃ rs d', ((start 1).after promptTransaction).Does
        (.claimBatch 0 .default limit "w" (Instant.epoch.later (.ofSeconds 9)), .records rs) d' ∧
        OldestFirst rs ((d'.records 0).filter (·.claimable
          (Instant.epoch.later (.ofSeconds 9)) 10)) := by
  have fresh : FreshIds ((start 1).moments promptTransaction) := by decide +kernel
  have clock : ClockForward ((start 1).moments promptTransaction) := by decide +kernel
  refine ⟨fresh, clock, by decide +kernel, ?_⟩
  exact (oldest_first_iff_none_overtaken (run_moments (start 1) promptTransaction) fresh clock
    (n := 0) (by decide) .default "w" (Instant.epoch.later (.ofSeconds 9))).2 (by decide +kernel)

/-- A transaction keeps a record for a second, in which a younger one is enqueued. -/
def longTransaction : List Operation :=
  [.begin 0, .stage 0 0 (.ofNat 1) (.brief none) .epoch,
    .enqueue 0 (.ofNat 2) (.brief none) (Instant.epoch.later (.ofSeconds 1)), .commit 0 0]

/-- **The oldest record does not always come first.** After the long transaction a batch of one
hands out the younger record and leaves the older one. -/
theorem long_transaction_is_overtaken :
    ¬ ∀ (k : Nat) (history : List Moment) (d d' : Depot) (n : Nat) (policy : Policy) (limit : Nat)
      (worker : String) (now : Instant) (rs : List Record),
      Run Does (start k) history d → FreshIds history → ClockForward history →
      (∀ t ∈ readings history, t ≤ now) →
      d.Does (.claimBatch n policy limit worker now, .records rs) d' →
      OldestFirst rs ((d'.records n).filter (·.claimable now policy.maxAttempts)) := by
  intro claim
  have oldest := claim 1 ((start 1).moments longTransaction) _ _ 0 .default 1 "w"
    (Instant.epoch.later (.ofSeconds 2)) _ (run_moments (start 1) longTransaction)
    (by decide +kernel) (by decide +kernel) (by decide +kernel) rfl
  revert oldest
  decide +kernel

end Depot
end EventRelay
