import EventRelay.Proofs.Depot.Soundness

/-!
# The course of a transaction

The numbers of transactions are given away once. At any moment of a run a transaction is not begun
yet, or it is open and has staged what its clients have heard of, or it has ended and nothing is
done with it any more (`Course`).

What a transaction has staged is nowhere else until it is committed (`Hidden`), so that nobody is
told of it: no record with the id of a staged one is answered to a reader or to a worker, and none
is among those that are counted (`never_told`).
-/

namespace EventRelay

def Operation.transaction? : Operation → Option Nat
  | .stage _ t _ _ _ | .commit _ t | .rollback t => some t
  | _ => none

theorem Operation.Ends.transaction? {t : Nat} {op : Operation} (h : op.Ends t) :
    op.transaction? = some t := by
  rcases h with rfl | ⟨n, rfl⟩
  · rfl
  · rfl

namespace Depot

/-- The records that were staged in a transaction, as its clients have heard, in this order. -/
def stagedBy (t : Nat) (history : List Moment) : List Record :=
  history.filterMap fun x => stagedIn t x.event

section
variable {d d' : Depot} {op : Operation} {a : Answer} {n t : Nat} {past later history : List Moment}
  {x : Moment}

theorem stagedBy_append (t : Nat) (past more : List Moment) :
    stagedBy t (past ++ more) = stagedBy t past ++ stagedBy t more :=
  List.filterMap_append ..

theorem stagedBy_singleton (t : Nat) (x : Moment) :
    stagedBy t [x] = (stagedIn t x.event).toList := by
  cases h : stagedIn t x.event with
  | none => simp [stagedBy, h]
  | some r => simp [stagedBy, h]

theorem stagedIn_eq_none (h : op.transaction? ≠ some t) : stagedIn t (op, a) = none := by
  unfold stagedIn
  split
  · rename_i n u id e now r heq
    obtain ⟨rfl, -⟩ := Prod.mk.inj heq
    exact if_neg (by rintro rfl; exact h rfl)
  · rfl

theorem stagedBy_eq_nil (h : ∀ z ∈ history, z.event.1.transaction? ≠ some t) :
    stagedBy t history = [] :=
  List.filterMap_eq_nil_iff.2 fun z hz => stagedIn_eq_none (h z hz)

/-! ## Steps -/

/-- Something is done with a transaction only while it is open. -/
theorem Effect.open_of_transaction (hd : Effect d op a d') (h : op.transaction? = some t) :
    ∃ tx, d.open? t = some tx := by
  cases hd with
  | staged htx | notStaged htx | stagedDuplicate htx | committed htx | misdirected htx
  | rolledBack htx =>
    cases h
    exact ⟨_, htx⟩
  | _ => cases h

/-- A transaction that is begun gets the next number, and otherwise no number is given away. -/
theorem Effect.transactions (hd : Effect d op a d') :
    (∃ n, (op, a) = (.begin n, .count d.transactions.length) ∧
      d'.transactions = d.transactions ++ [some (.on n)]) ∨
    ((∀ n, op ≠ .begin n) ∧ d'.transactions.length = d.transactions.length) := by
  cases hd with
  | begun hn => exact .inl ⟨_, rfl, rfl⟩
  | staged | committed | misdirected | rolledBack => exact .inr ⟨nofun, List.length_set ..⟩
  | _ => exact .inr ⟨nofun, rfl⟩

/-- The number that is answered is that of the new transaction, which has staged nothing. -/
theorem Effect.of_begin (hd : Effect d (.begin n) (.count t) d') :
    t = d.transactions.length ∧ d'.open? t = some (.on n) := by
  cases hd
  exact ⟨rfl, by simp [open?]⟩

/-- The numbers of transactions are never given back. -/
theorem Effect.length_transactions_le (hd : Effect d op a d') :
    d.transactions.length ≤ d'.transactions.length := by
  obtain ⟨n, -, heq⟩ | ⟨-, heq⟩ := hd.transactions
  · rw [heq, List.length_append]
    exact Nat.le_add_right ..
  · exact heq ▸ Nat.le_refl _

/-- A transaction that is ended is open no more. -/
theorem Effect.ended (hd : Effect d op a d') (h : op.Ends t) : d'.open? t = none := by
  rcases h with rfl | ⟨n, rfl⟩
  · cases hd with
    | rolledBack htx => rw [open?_put_setTransaction htx, if_pos rfl]
  · cases hd with
    | committed htx | misdirected htx => rw [open?_put_setTransaction htx, if_pos rfl]

/-- A transaction that has ended stays so. -/
theorem Effect.stays_closed (hd : Effect d op a d') (ht : t < d.transactions.length)
    (h : d.open? t = none) : t < d'.transactions.length ∧ d'.open? t = none := by
  refine ⟨Nat.lt_of_lt_of_le ht hd.length_transactions_le, ?_⟩
  cases hopen : d'.open? t with
  | none => rfl
  | some tx =>
    rcases hd.open?_backward hopen with hopen | ⟨-, rfl, rfl, -⟩ | ⟨tx', -, -, -, hopen, -⟩
    · cases h.symm.trans hopen
    · exact absurd ht (hd.of_begin.1 ▸ Nat.lt_irrefl _)
    · cases h.symm.trans hopen

/-! ## The course of a transaction -/

/-- How far a transaction has come in the course of a history. -/
inductive Course (t : Nat) (history : List Moment) (d : Depot) : Prop where
  /-- Its number was not given away yet. -/
  | unborn (ht : d.transactions.length ≤ t)
    (silent : ∀ z ∈ history, z.event.1.transaction? ≠ some t)
    (unbegun : ∀ z ∈ history, ∀ n, z.event ≠ (.begin n, .count t))
  /-- It was begun, and has staged what its clients have heard of. -/
  | live {n : Nat} (htx : d.open? t = some ⟨n, stagedBy t history⟩)
    (unended : ∀ z ∈ history, ¬ z.event.1.Ends t)
    (begun : ∀ z ∈ history, ∀ m, z.event = (.begin m, .count t) → m = n)
  | gone (ht : t < d.transactions.length) (closed : d.open? t = none)
    (ended : ∃ z ∈ history, z.event.1.Ends t)

theorem forall_mem_concat {P : Moment → Prop} (h : ∀ z ∈ past, P z) (hx : P x) :
    ∀ z ∈ past ++ [x], P z :=
  List.forall_mem_append.2 ⟨h, List.forall_mem_singleton.2 hx⟩

/-- A transaction begins its course with nothing staged. -/
theorem Course.of_begin (hd : Effect x.before x.event.1 x.event.2 x.after)
    (hb : x.event = (.begin n, .count t))
    (silent : ∀ z ∈ past ++ [x], z.event.1.transaction? ≠ some t)
    (unbegun : ∀ z ∈ past, ∀ m, z.event ≠ (.begin m, .count t)) :
    Course t (past ++ [x]) x.after := by
  rw [hb] at hd
  have htx : x.after.open? t = some ⟨n, stagedBy t (past ++ [x])⟩ := by
    rw [stagedBy_eq_nil silent]
    exact hd.of_begin.2
  refine .live htx (fun z hz ends => silent z hz ends.transaction?) (forall_mem_concat ?_ ?_)
  · exact fun z hz m heq => absurd heq (unbegun z hz m)
  · intro m heq
    cases hb.symm.trans heq
    rfl

/-- One operation, whichever it is, takes a transaction along its course. -/
theorem Course.step (hd : Effect x.before x.event.1 x.event.2 x.after)
    (h : Course t past x.before) : Course t (past ++ [x]) x.after := by
  cases h with
  | unborn ht silent unbegun =>
    have silent' : x.event.1.transaction? ≠ some t := by
      intro heq
      obtain ⟨tx, htx⟩ := hd.open_of_transaction heq
      simp [open?, List.getElem?_eq_none ht] at htx
    by_cases hb : ∃ n, x.event = (.begin n, .count t)
    · obtain ⟨n, hb⟩ := hb
      exact .of_begin hd hb (forall_mem_concat silent silent') unbegun
    · refine .unborn ?_ (forall_mem_concat silent silent')
        (forall_mem_concat unbegun fun n heq => hb ⟨n, heq⟩)
      obtain ⟨n, heq, htrans⟩ | ⟨-, hlen⟩ := hd.transactions
      · have hne : x.before.transactions.length ≠ t := fun hlen => hb ⟨n, hlen ▸ heq⟩
        rw [htrans, List.length_append, List.length_singleton]
        omega
      · exact hlen ▸ ht
  | live htx unended begun =>
    rename_i n
    have ht := (List.getElem?_eq_some_iff.1 (open?_eq_some.1 htx)).1
    by_cases ends : x.event.1.Ends t
    · exact .gone (Nat.lt_of_lt_of_le ht hd.length_transactions_le) (hd.ended ends)
        ⟨x, by simp, ends⟩
    · have htx' : x.after.open? t = some ⟨n, stagedBy t (past ++ [x])⟩ := by
        rw [stagedBy_append, stagedBy_singleton]
        exact hd.open?_staged htx ends
      refine .live htx' (forall_mem_concat unended ends) (forall_mem_concat begun fun m heq => ?_)
      rw [heq] at hd
      exact absurd ht (hd.of_begin.1 ▸ Nat.lt_irrefl _)
  | gone ht closed ended =>
    obtain ⟨ht', closed'⟩ := hd.stays_closed ht closed
    obtain ⟨z, hz, ends⟩ := ended
    exact .gone ht' closed' ⟨z, List.mem_append_left _ hz, ends⟩

/-- In every run each transaction is on its course: what it holds is what its clients have heard. -/
theorem course_of_run {k : Nat} (run : Run Does (start k) history d) (t : Nat) :
    d.Healthy ∧ Course t history d := by
  have keep : ∀ past x, x.before.Healthy ∧ Course t past x.before →
      x.before.Does x.event x.after → x.after.Healthy ∧ Course t (past ++ [x]) x.after := by
    intro past x h hd
    have effect : Effect x.before x.event.1 x.event.2 x.after := h.1.effect hd
    exact ⟨(effect.healthy h.1).1, h.2.step effect⟩
  have base : (start k).Healthy ∧ Course t [] (start k) :=
    ⟨healthy_start k, .unborn (Nat.zero_le _) (by simp) (by simp)⟩
  exact Run.invariant (P := fun past d => d.Healthy ∧ Course t past d) keep run base

/-- A transaction that was begun and has not ended is open, and has staged what its clients have
heard of. -/
theorem open?_of_begun {k : Nat} (run : Run Does (start k) history d)
    (begun : ∃ b ∈ history, b.event = (.begin n, .count t))
    (unended : ∀ z ∈ history, ¬ z.event.1.Ends t) :
    d.open? t = some ⟨n, stagedBy t history⟩ := by
  obtain ⟨b, hb, hbegin⟩ := begun
  cases (course_of_run run t).2 with
  | unborn _ _ unbegun => exact absurd hbegin (unbegun b hb n)
  | live htx _ begun => rwa [begun b hb n hbegin]
  | gone _ _ ended =>
    obtain ⟨z, hz, ends⟩ := ended
    exact absurd ends (unended z hz)

/-- A transaction that ends was open until then. -/
theorem open?_of_ends {k : Nat} (run : Run Does (start k) past d) (hd : Effect d op a d')
    (begun : ∃ b ∈ past, b.event = (.begin n, .count t)) (ends : op.Ends t) :
    d.open? t = some ⟨n, stagedBy t past⟩ ∧ ∀ z ∈ past, ¬ z.event.1.Ends t := by
  have unended : ∀ z ∈ past, ¬ z.event.1.Ends t := by
    obtain ⟨b, hb, hbegin⟩ := begun
    cases (course_of_run run t).2 with
    | unborn _ _ unbegun => exact absurd hbegin (unbegun b hb n)
    | live _ unended _ => exact unended
    | gone _ closed _ =>
      obtain ⟨tx, htx⟩ := hd.open_of_transaction ends.transaction?
      cases closed.symm.trans htx
  exact ⟨open?_of_begun run begun unended, unended⟩

/-- A transaction that has ended is closed. -/
theorem closed_of_ended {k : Nat} (run : Run Does (start k) history d)
    (ended : ∃ z ∈ history, z.event.1.Ends t) : d.open? t = none := by
  obtain ⟨z, hz, ends⟩ := ended
  cases (course_of_run run t).2 with
  | unborn _ silent _ => exact absurd ends.transaction? (silent z hz)
  | live _ unended _ => exact absurd ends (unended z hz)
  | gone _ closed _ => exact closed

/-- Nothing is done with a transaction that is over. -/
theorem silent_while_closed (healthy : d.Healthy) (run : Run Does d later d')
    (ht : t < d.transactions.length) (closed : d.open? t = none) :
    ∀ z ∈ later, z.event.1.transaction? ≠ some t := by
  induction later generalizing d with
  | nil => simp
  | cons z rest ih =>
    obtain ⟨rfl, hz, rest_run⟩ := run
    have effect : Effect z.before z.event.1 z.event.2 z.after := healthy.effect hz
    obtain ⟨ht', closed'⟩ := effect.stays_closed ht closed
    have rest_silent := ih (effect.healthy healthy).1 rest_run ht' closed'
    refine List.forall_mem_cons.2 ⟨fun heq => ?_, rest_silent⟩
    obtain ⟨tx, htx⟩ := effect.open_of_transaction heq
    cases closed.symm.trans htx

/-- Nothing is done with a transaction after its end. -/
theorem silent_after_end (healthy : d.Healthy) (hd : Effect d op a d') (ends : op.Ends t)
    {d'' : Depot} (run : Run Does d' later d'') :
    ∀ z ∈ later, z.event.1.transaction? ≠ some t := by
  obtain ⟨tx, htx⟩ := hd.open_of_transaction ends.transaction?
  have ht := (List.getElem?_eq_some_iff.1 (open?_eq_some.1 htx)).1
  exact silent_while_closed (hd.healthy healthy).1 run
    (Nat.lt_of_lt_of_le ht hd.length_transactions_le) (hd.ended ends)

end

/-! ## Staged records are hidden -/

/-- No store has a record with the id, and no transaction but one has staged one. -/
structure Hidden (t : Nat) (id : Uuid) (d : Depot) : Prop where
  unstored : ∀ n, ∀ r ∈ d.records n, r.id ≠ id
  unshared : ∀ u tx, d.open? u = some tx → ∀ r ∈ tx.staged, r.id = id → u = t

section
variable {d d' : Depot} {op : Operation} {a : Answer} {t : Nat} {id : Uuid}
  {past history : List Moment} {x : Moment}

/-- A hidden id stays hidden until its transaction is committed to its store. -/
theorem Hidden.step (h : Hidden t id d) (filed : d.Filed) (hd : Effect d op a d')
    (uncommitted : ∀ n k, (op, a) ≠ (.commit n t, .count k)) (unmade : op.made ≠ some id) :
    Hidden t id d' := by
  constructor
  · rintro n r hr rfl
    rcases hd.backward filed hr with ⟨r₀, hr₀, hc⟩ | henter
    · exact h.unstored n r₀ hr₀ (Record.id_eq_of_origin hc.origin_eq).symm
    · cases henter with
      | enqueued => exact unmade rfl
      | committed htx hn hin =>
        obtain rfl := h.unshared _ _ htx r hin rfl
        exact uncommitted _ _ rfl
  · rintro u tx' htx' r hr rfl
    rcases hd.open?_backward htx' with htx | ⟨-, -, -, hnil⟩ | ⟨tx, id, e, now, htx, rfl, -, rfl⟩
    · exact h.unshared u tx' htx r hr rfl
    · rw [hnil] at hr
      cases hr
    · rcases List.mem_append.1 hr with hr | hr
      · exact h.unshared u tx htx r hr rfl
      · cases List.mem_singleton.1 hr
        exact absurd rfl unmade

/-- What is staged has the id that was made for it, and is as its event was taken in. -/
theorem Effect.of_stagedIn (hd : Effect d op a d') {r : Record}
    (hr : stagedIn t (op, a) = some r) :
    op.made = some r.id ∧ ∃ e now, r = .ofEvent r.id e now := by
  cases hd with
  | staged =>
    rename_i n u id e now tx c c' _ _ _ _
    obtain ⟨-, rfl⟩ : u = t ∧ .ofEvent id e now = r := by simpa [stagedIn] using hr
    exact ⟨rfl, e, now, rfl⟩
  | _ => simp [stagedIn] at hr

/-- What is staged just now is hidden if its id is new. -/
theorem hidden_of_stagedIn (filed : d.Filed) (hd : Effect d op a d') {r : Record}
    (unknown : ∀ n, ∀ r' ∈ d.records n ++ d.staged n, r'.id ≠ r.id)
    (hr : stagedIn t (op, a) = some r) : Hidden t r.id d' := by
  constructor
  · intro n r' hr'
    rcases hd.backward filed hr' with ⟨r₀, hr₀, hc⟩ | henter
    · rw [Record.id_eq_of_origin hc.origin_eq]
      exact unknown n r₀ (List.mem_append_left _ hr₀)
    · cases henter with
      | _ => simp [stagedIn] at hr
  · intro u tx' htx' r' hr' hid
    have old : d.open? u ≠ some tx' := fun htx => unknown tx'.store r'
      (List.mem_append_right _ (mem_staged.2 ⟨u, tx', htx, rfl, hr'⟩)) hid
    rcases hd.open?_backward htx' with htx | ⟨-, -, -, hnil⟩ | ⟨tx, id, e, now, -, rfl, rfl, -⟩
    · exact absurd htx old
    · rw [hnil] at hr'
      cases hr'
    · by_contra hne
      simp [stagedIn, hne] at hr

/-- Every moment of a run has the effect of its operation. -/
theorem effect_of_mem {k : Nat} (run : Run Does (start k) history d) (fresh : FreshIds history)
    (hx : x ∈ history) : Effect x.before x.event.1 x.event.2 x.after := by
  obtain ⟨past, later, rfl⟩ := List.append_of_mem hx
  exact (cut_run run fresh).2.1

/-- What a transaction has staged is hidden until it is committed to its store. -/
theorem hidden_of_run {k : Nat} (run : Run Does (start k) history d) (fresh : FreshIds history)
    (uncommitted : ∀ z ∈ history, ∀ n k, z.event ≠ (.commit n t, .count k)) {r : Record}
    (hr : r ∈ stagedBy t history) : Hidden t r.id d := by
  obtain ⟨z, hz, hst⟩ := List.mem_filterMap.1 hr
  obtain ⟨past, later, rfl⟩ := List.append_of_mem hz
  obtain ⟨before, effect, after, rest⟩ := cut_run run fresh
  have fresh' : FreshIds ((past ++ [z]) ++ later) := by rwa [List.append_cons] at fresh
  have hmade := (effect.of_stagedIn hst).1
  have new : r.id ∉ madeIds past :=
    FreshIds.new (fresh'.sublist ((List.sublist_append_left _ later).filterMap _)) hmade
  have start : Hidden t r.id z.after := by
    refine hidden_of_stagedIn before.sound.filed effect (fun n r' hr' heq => ?_) hst
    exact new (heq ▸ before.known n r' hr')
  have step : ∀ done y, Consistent ((past ++ [z]) ++ done) y.before →
      Consistent (((past ++ [z]) ++ done) ++ [y]) y.after →
      FreshIds (((past ++ [z]) ++ done) ++ [y]) → Effect y.before y.event.1 y.event.2 y.after →
      ((∀ x ∈ done, ∀ n k, x.event ≠ (.commit n t, .count k)) → Hidden t r.id y.before) →
      (∀ x ∈ done ++ [y], ∀ n k, x.event ≠ (.commit n t, .count k)) → Hidden t r.id y.after := by
    intro done y before _ fresh effect ih uncommitted
    refine (ih fun x hx => uncommitted x (List.mem_append_left _ hx)).step before.sound.filed effect
      (uncommitted y (by simp)) fun heq => ?_
    refine FreshIds.new fresh heq (mem_madeIds_append ?_)
    rw [madeIds_append, hmade]
    simp
  exact after.along
    (P := fun done d => (∀ x ∈ done, ∀ n k, x.event ≠ (.commit n t, .count k)) → Hidden t r.id d)
    rest fresh' step (fun _ => start) fun x hx => uncommitted x (by simp [hx])

/-! ## Who is told of a record -/

/-- The records that an operation tells its client of: it answers them, or it counts them. -/
def told (z : Moment) : List Record :=
  match z.event with
  | (.get _ _, .record r) | (.claimOne _ _ _ _, .record r) => r.toList
  | (.claimBatch _ _ _ _ _, .records rs) | (.exhausted _ _ _, .records rs)
  | (.snapshot _, .records rs) => rs
  | (.recoverStuck n threshold now, _) =>
    (z.before.records n).filter (·.stale (now.earlier threshold))
  | (.purgePublished n retention now, _) =>
    (z.before.records n).filter (·.expired (now.earlier retention))
  | (.size n, _) => z.before.records n
  | _ => []

/-- The operation answers how many records there are of some kind. -/
def Counts : Operation → Prop
  | .recoverStuck _ _ _ | .purgePublished _ _ _ | .size _ => True
  | _ => False

/-- A number that is answered is the number of the records that it tells of. -/
theorem Effect.counts (hd : Effect d op a d') (h : Counts op) :
    a = .count (told ⟨d, (op, a), d'⟩).length := by
  cases hd with
  | recovered hc => simp [told, Contents.recover, records_eq hc]
  | purged hc =>
    simp [told, Contents.purge, records_eq hc, Contents.records, List.filter_map,
      Function.comp_def]
  | sized hc => simp [told, records_eq hc, Contents.records]
  | _ => cases h

/-- Everybody is told of stored records only, as they are or as the operation has changed them. -/
theorem Effect.told_stored (filed : d.Filed) (hd : Effect d op a d') {r : Record}
    (hr : r ∈ told ⟨d, (op, a), d'⟩) : ∃ n, ∃ r₀ ∈ d.records n, r₀.id = r.id := by
  cases hd with
  | claimed hc =>
    rename_i n policy limit worker now c
    obtain ⟨r₀, hr₀, -, rfl, -⟩ := (Effect.claimed hc).exists_of_claimBatch hr
    exact ⟨n, r₀, hr₀, rfl⟩
  | claimedOne hc hone =>
    rename_i n policy worker now c r' c'
    cases List.mem_singleton.1 hr
    obtain ⟨r₀, hr₀, -, rfl, -⟩ := (Effect.claimedOne hc hone).exists_of_claimOne
    exact ⟨n, r₀, hr₀, rfl⟩
  | got hc =>
    rename_i n id c
    obtain ⟨seq, -, hrow⟩ := (filed n c hc).get?_eq_some_iff.1 (Option.mem_toList.1 hr)
    exact ⟨n, r, records_eq hc ▸ List.mem_map_of_mem hrow, rfl⟩
  | exhausted hc =>
    rename_i n policy limit c
    have hr := (List.mem_filter.1 (List.mem_of_mem_take hr)).1
    exact ⟨n, r, records_eq hc ▸ hr, rfl⟩
  | seen hc =>
    rename_i n c
    exact ⟨n, r, records_eq hc ▸ hr, rfl⟩
  | recovered hc => exact ⟨_, r, (List.mem_filter.1 hr).1, rfl⟩
  | purged hc => exact ⟨_, r, (List.mem_filter.1 hr).1, rfl⟩
  | sized hc => exact ⟨_, r, hr, rfl⟩
  | _ => cases hr

/-- **Nobody is told of what is staged.** Until a transaction is committed to its store, none of its
records is answered to anybody who reads or claims, and none is counted. -/
theorem never_told {k : Nat} (run : Run Does (start k) history d) (fresh : FreshIds history)
    (uncommitted : ∀ z ∈ history, ∀ n k, z.event ≠ (.commit n t, .count k)) :
    ∀ z ∈ history, ∀ r ∈ told z, ∀ s ∈ stagedBy t history, r.id ≠ s.id := by
  intro z hz r hr s hs
  obtain ⟨past, later, rfl⟩ := List.append_of_mem hz
  obtain ⟨before, effect, -, rest⟩ := cut_run run fresh
  obtain ⟨_, run_past, rfl, -⟩ := run_append.1 run
  obtain ⟨n, r₀, hr₀, hid⟩ := effect.told_stored before.sound.filed hr
  rw [stagedBy_append, List.mem_append] at hs
  rcases hs with hs | hs
  · have fresh_past := fresh.sublist ((List.sublist_append_left past (z :: later)).filterMap _)
    have hidden := hidden_of_run run_past fresh_past
      (fun x hx => uncommitted x (List.mem_append_left _ hx)) hs
    exact hid ▸ hidden.unstored n r₀ hr₀
  · -- The record is not even staged yet, and its id is made later.
    obtain ⟨w, hw, hst⟩ := List.mem_filterMap.1 hs
    have hmade := ((effect_of_mem run fresh (List.mem_append_right past hw)).of_stagedIn hst).1
    have later_id : s.id ∈ madeIds (z :: later) := List.mem_filterMap.2 ⟨w, hw, hmade⟩
    have nodup : (madeIds past ++ madeIds (z :: later)).Nodup := by
      rw [madeIds, madeIds, ← List.filterMap_append]
      exact fresh
    have earlier_id : r.id ∈ madeIds past :=
      hid ▸ before.known n r₀ (List.mem_append_left _ hr₀)
    exact fun heq => (List.nodup_append.1 nodup).2.2 r.id earlier_id s.id later_id heq

end
end Depot
end EventRelay
