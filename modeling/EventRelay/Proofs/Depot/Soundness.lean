import EventRelay.Proofs.Depot.Records
import EventRelay.Proofs.Store.Claiming

/-!
# The tables of the stores agree with their records

In a depot that began empty and whose clients never make an id twice, every store is sound beside
what the open transactions have staged for it (`Depot.Sound`). One step keeps this if the id made
for it is new (`Effect.sound`), and it is new because all stored and staged records have ids that
were made before (`Known`). `tables_agree` is what follows for the index, the ids, the numbers, the
owners and the views of a store at the end of every run.
-/

namespace EventRelay.Depot

/-! ## Staged records by transactions -/

section
variable {d d' : Depot} {n m t : Nat} {tx : Transaction}

@[simp] theorem staged_put (c : Contents) : (d.put m c).staged n = d.staged n := rfl

@[simp] theorem staged_start (k n : Nat) : (start k).staged n = [] := rfl

/-- What is staged is what one transaction has staged and what the others have. -/
theorem staged_perm (ht : t < d.transactions.length) (b : Option Transaction) :
    ((d.setTransaction t b).staged n).Perm
      (stagedFor n b ++ (d.setTransaction t none).staged n) := by
  unfold staged
  simp only [transactions_setTransaction, List.set_eq_take_append_cons_drop, if_pos ht,
    List.flatMap_append, List.flatMap_cons]
  simp only [stagedFor, List.nil_append]
  exact List.perm_append_comm_assoc ..

/-- What is staged is what one open transaction has staged and what all others have. -/
theorem staged_perm_open (htx : d.open? t = some tx) :
    (d.staged n).Perm (stagedFor n (some tx) ++ (d.setTransaction t none).staged n) := by
  obtain ⟨ht, hget⟩ := List.getElem?_eq_some_iff.1 (open?_eq_some.1 htx)
  have same : d.setTransaction t (some tx) = d := by
    unfold setTransaction
    rw [← hget, List.set_getElem_self ht]
  have := staged_perm (n := n) ht (some tx)
  rwa [same] at this

theorem staged_perm_cons (htx : d.open? t = some tx) (r : Record) :
    (r :: d.staged tx.store).Perm
      ((d.setTransaction t (some ⟨tx.store, tx.staged ++ [r]⟩)).staged tx.store) := by
  have ht := (List.getElem?_eq_some_iff.1 (open?_eq_some.1 htx)).1
  have h₁ := staged_perm_open (n := tx.store) htx
  have h₂ := staged_perm (n := tx.store) ht (some ⟨tx.store, tx.staged ++ [r]⟩)
  rw [show stagedFor tx.store (some tx) = tx.staged from if_pos rfl] at h₁
  rw [show stagedFor tx.store (some ⟨tx.store, tx.staged ++ [r]⟩) = tx.staged ++ [r] from
    if_pos rfl, List.append_assoc, List.singleton_append] at h₂
  exact (h₁.cons r).trans (List.perm_middle.symm.trans h₂.symm)

theorem staged_begun (d : Depot) (n m : Nat) :
    ({ d with transactions := d.transactions ++ [some (.on m)] } : Depot).staged n =
      d.staged n := by
  simp [staged, stagedFor, Transaction.on]

/-- What happens to a transaction does not matter for another store. -/
theorem staged_perm_of_ne (htx : d.open? t = some tx) (hn : n ≠ tx.store) (b : Option Transaction)
    (hb : ∀ tx', b = some tx' → tx'.store = tx.store) :
    (d.staged n).Perm ((d.setTransaction t b).staged n) := by
  have ht := (List.getElem?_eq_some_iff.1 (open?_eq_some.1 htx)).1
  have h₁ := staged_perm_open (n := n) htx
  have h₂ := staged_perm (n := n) ht b
  have e₁ : stagedFor n (some tx) = [] := if_neg (Ne.symm hn)
  have e₂ : stagedFor n b = [] := by
    cases b with
    | none => rfl
    | some tx' => exact if_neg (by rw [hb tx' rfl]; exact Ne.symm hn)
  rw [e₁] at h₁
  rw [e₂] at h₂
  exact h₁.trans h₂.symm

/-! ## Sound depots -/

/-- Every store is sound beside what is staged for it. -/
def Sound (d : Depot) : Prop := ∀ n c, d.contents? n = some c → c.Sound (d.staged n)

theorem sound_start (k : Nat) : (start k).Sound := by
  intro n c hc
  rw [contents?_start hc, staged_start]
  exact Contents.sound_empty

theorem Sound.filed (h : d.Sound) : d.Filed := fun n c hc => (h n c hc).toFiled

/-- Contents that are sound beside what is staged keep the depot sound. -/
theorem Sound.put {c c' : Contents} (h : d.Sound) (hc : d.contents? m = some c)
    (h' : c'.Sound (d.staged m)) : (d.put m c').Sound := by
  intro n c₁ hc₁
  rw [contents?_put hc] at hc₁
  rw [staged_put]
  split at hc₁
  · rename_i heq
    cases hc₁
    exact heq ▸ h'
  · exact h n c₁ hc₁

theorem exists_contents {r : Record} (hr : r ∈ d.records n) : ∃ c, d.contents? n = some c := by
  cases hc : d.contents? n with
  | none => simp [records, rows, hc] at hr
  | some c => exact ⟨c, rfl⟩

/-- No two stored records have the same id. -/
theorem Sound.eq_of_id (h : d.Sound) {r r' : Record} (hr : r ∈ d.records n)
    (hr' : r' ∈ d.records n) (hid : r.id = r'.id) : r = r' := by
  obtain ⟨c, hc⟩ := exists_contents hr
  rw [records_eq hc] at hr hr'
  exact (h n c hc).eq_of_id (List.mem_append_left _ hr) (List.mem_append_left _ hr') hid

/-- A stored record does not share its id with a staged one. -/
theorem Sound.unstaged (h : d.Sound) {r r' : Record} (hr : r ∈ d.records n)
    (hr' : r' ∈ d.staged n) : r.id ≠ r'.id := by
  obtain ⟨c, hc⟩ := exists_contents hr
  have distinct := (h n c hc).distinct
  rw [List.map_append, List.nodup_append] at distinct
  rw [records_eq hc] at hr
  exact distinct.2.2 _ (List.mem_map_of_mem hr) _ (List.mem_map_of_mem hr')

/-- One store and one of its transactions change together. -/
theorem Sound.setTransaction {c c' : Contents} (h : d.Sound) (htx : d.open? t = some tx)
    (hc : d.contents? tx.store = some c) {b : Option Transaction}
    (hb : ∀ tx', b = some tx' → tx'.store = tx.store)
    (h' : c'.Sound ((d.setTransaction t b).staged tx.store)) :
    ((d.put tx.store c').setTransaction t b).Sound := by
  intro n c₁ hc₁
  rw [contents?_setTransaction, contents?_put hc] at hc₁
  split at hc₁
  · rename_i heq
    cases hc₁
    exact heq ▸ h'
  · rename_i hne
    exact (h n c₁ hc₁).perm (staged_perm_of_ne htx hne b hb)

/-- The records of an open transaction stand beside those of the others. -/
theorem Sound.beside {c : Contents} (h : d.Sound) (htx : d.open? t = some tx)
    (hc : d.contents? tx.store = some c) :
    c.Sound (tx.staged ++ (d.setTransaction t none).staged tx.store) := by
  have := staged_perm_open (n := tx.store) htx
  rw [show stagedFor tx.store (some tx) = tx.staged from if_pos rfl] at this
  exact (h _ c hc).perm this

/-- Settling changes the record with the id and no other. -/
theorem Sound.records_settled (h : d.Sound) {c : Contents} (hc : d.contents? n = some c) (id : Uuid)
    (f : Record → Record) :
    (d.put n (c.update id f)).records n =
      (d.records n).map fun r => if r.id = id then f r else r := by
  rw [records, rows_put hc, if_pos rfl, records_eq hc]
  exact (h n c hc).records_update id f

/-- A change in place touches no id and no key, so that the tables stay as true as they were. -/
theorem InPlace.sound {op : Operation} {c c' : Contents} {staged : List Record}
    (h : InPlace n op c c') (hc : c.Sound staged) : c'.Sound staged := by
  obtain ⟨rows, rfl, hrows⟩ := h
  refine hc.of_rowsChange hrows fun r r' hr => ?_
  exact ⟨Record.id_eq_of_origin hr.origin_eq, Record.dedupeKey_eq_of_origin hr.origin_eq⟩

/-- An id that is new is none of those that are stored or staged. -/
theorem not_mem_ids {c : Contents} (hc : d.contents? n = some c) {id : Uuid}
    (new : ∀ r ∈ d.records n ++ d.staged n, r.id ≠ id) :
    id ∉ (c.records ++ d.staged n).map (·.id) := by
  intro hin
  obtain ⟨r, hr, heq⟩ := List.mem_map.1 hin
  exact new r (by rwa [records_eq hc]) heq

/-- **One step keeps a depot sound**, if the id that is made for it is not in use. -/
theorem Effect.sound {op : Operation} {a : Answer} (h : d.Sound) (hd : Effect d op a d')
    (new : ∀ id, op.made = some id → ∀ n r, r ∈ d.records n ++ d.staged n → r.id ≠ id) :
    d'.Sound := by
  have unused : ∀ id, op.made = some id → ∀ n c, d.contents? n = some c →
      id ∉ (c.records ++ d.staged n).map (·.id) := fun id hid n c hc =>
    not_mem_ids hc (new id hid n)
  cases hd with
  | invalid | notStaged | duplicate | stagedDuplicate | claimedNone | got | exhausted | seen
  | sized => exact h
  | begun hn =>
    intro n c hc
    rw [staged_begun]
    exact h n c hc
  | entered hc hins => exact h.put hc ((h _ _ hc).insert?_new (unused _ rfl _ _ hc) hins).1
  | staged htx hn hc hres =>
    rename_i t id e now tx c c'
    subst hn
    refine h.setTransaction htx hc (by rintro _ ⟨⟩; rfl) ?_
    exact ((h _ _ hc).reserveFor? (unused _ rfl _ _ hc) hres).perm (staged_perm_cons htx _)
  -- At the end of a transaction its records leave the staged ones, with their keys or without.
  | committed htx hn hc =>
    subst hn
    exact h.setTransaction htx hc (by simp) (h.beside htx hc).insertAll.2.1
  | misdirected htx hn hc => exact h.setTransaction htx hc (by simp) (h.beside htx hc).releaseKeys
  | rolledBack htx hc => exact h.setTransaction htx hc (by simp) (h.beside htx hc).releaseKeys
  | claimed hc => exact h.put hc ((inPlace_claimBatch 0 ..).sound (h _ _ hc))
  | claimedOne hc hone => exact h.put hc ((inPlace_claimOne 0 hone).sound (h _ _ hc))
  | marked hc =>
    have old := h _ _ hc
    exact h.put hc ((inPlace_update old.toFiled fun _ => Change.marked (n := 0)).sound old)
  | rescheduled hc =>
    have old := h _ _ hc
    exact h.put hc ((inPlace_update old.toFiled fun _ => Change.rescheduled (n := 0)).sound old)
  | recovered hc => exact h.put hc ((inPlace_recover 0 ..).sound (h _ _ hc))
  | purged hc => exact h.put hc ((h _ _ hc).purge _)

end

/-! ## Ids -/

/-- The ids that were made in the course of a history. -/
def madeIds (history : List Moment) : List Uuid := history.filterMap (·.event.1.made)

theorem madeIds_append (past : List Moment) (x : Moment) :
    madeIds (past ++ [x]) = madeIds past ++ x.event.1.made.toList := by
  cases h : x.event.1.made with
  | none => simp [madeIds, h]
  | some id => simp [madeIds, h]

theorem mem_madeIds_append {past more : List Moment} {id : Uuid} (h : id ∈ madeIds past) :
    id ∈ madeIds (past ++ more) := by
  unfold madeIds at h ⊢
  rw [List.filterMap_append]
  exact List.mem_append_left _ h

/-- All records that are stored or staged have ids that were made before. -/
def Known (history : List Moment) (d : Depot) : Prop :=
  ∀ n r, r ∈ d.records n ++ d.staged n → r.id ∈ madeIds history

section
variable {past history : List Moment} {x : Moment} {d d' : Depot} {op : Operation} {a : Answer}

/-- Every record that is in the depot after a step was in it before, up to its delivery, or has the
id that was made for the step. -/
theorem Effect.known_or_made (filed : d.Filed) (hd : Effect d op a d') {n : Nat} {r : Record}
    (hr : r ∈ d'.records n ++ d'.staged n) :
    (∃ r₀ ∈ d.records n ++ d.staged n, r₀.id = r.id) ∨ op.made = some r.id := by
  rcases List.mem_append.1 hr with hr | hr
  · rcases hd.backward filed hr with ⟨r₀, hr₀, hc⟩ | henter
    · exact .inl ⟨r₀, List.mem_append_left _ hr₀, (Record.id_eq_of_origin hc.origin_eq).symm⟩
    · cases henter with
      | enqueued => exact .inr rfl
      | committed htx hn hin =>
        exact .inl ⟨r, List.mem_append_right _ (mem_staged.2 ⟨_, _, htx, hn, hin⟩), rfl⟩
  · rcases hd.staged_backward hr with hr | ⟨t, id, e, now, rfl, -, rfl⟩
    · exact .inl ⟨r, List.mem_append_right _ hr, rfl⟩
    · exact .inr rfl

/-! ## Runs -/

/-- What holds of a depot after a history in which no id was made twice. -/
structure Consistent (history : List Moment) (d : Depot) : Prop where
  healthy : d.Healthy
  sound : d.Sound
  known : Known history d

theorem consistent_start (k : Nat) : Consistent [] (start k) := by
  refine ⟨healthy_start k, sound_start k, fun n r hr => ?_⟩
  simp [records] at hr

/-- Where no id is made twice, the last one made is new. -/
theorem FreshIds.new (fresh : FreshIds (past ++ [x])) {id : Uuid}
    (hid : x.event.1.made = some id) : id ∉ madeIds past := by
  intro hin
  have nodup : (madeIds (past ++ [x])).Nodup := fresh
  rw [madeIds_append, hid] at nodup
  exact (List.nodup_append.1 nodup).2.2 id hin id (by simp) rfl

/-- **One operation keeps a depot consistent** with the history that has led to it. -/
theorem Consistent.does (h : Consistent past d) (hd : d.Does x.event d')
    (fresh : FreshIds (past ++ [x])) : Consistent (past ++ [x]) d' := by
  have effect : Effect d x.event.1 x.event.2 d' := h.healthy.effect hd
  refine ⟨(effect.healthy h.healthy).1, effect.sound h.sound ?_, fun n r hr => ?_⟩
  · rintro id hid n r hr rfl
    exact FreshIds.new fresh hid (h.known n r hr)
  · rw [madeIds_append, List.mem_append]
    rcases effect.known_or_made h.sound.filed hr with ⟨r₀, hr₀, heq⟩ | hmade
    · exact .inl (heq ▸ h.known n r₀ hr₀)
    · exact .inr (by simp [hmade])

/-- A depot is consistent with its history, from the empty depot on. -/
theorem consistent_of_run {k : Nat} (run : Run Does (start k) history d)
    (fresh : FreshIds history) : Consistent history d := by
  have keep : ∀ past x, (FreshIds past → Consistent past x.before) →
      x.before.Does x.event x.after → FreshIds (past ++ [x]) →
      Consistent (past ++ [x]) x.after := by
    intro past x h hd fresh
    refine (h ?_).does hd fresh
    exact fresh.sublist ((List.sublist_append_left past [x]).filterMap _)
  have base : FreshIds [] → Consistent [] (start k) := fun _ => consistent_start k
  exact Run.invariant (P := fun past d => FreshIds past → Consistent past d) keep run base fresh

/-- What every step keeps from some moment on holds at the end of the steps since then. -/
theorem Consistent.along {P : List Moment → Depot → Prop} {later : List Moment}
    (h : Consistent past d) (run : Run Does d later d') (fresh : FreshIds (past ++ later))
    (step : ∀ done y, Consistent (past ++ done) y.before →
      Consistent ((past ++ done) ++ [y]) y.after → FreshIds ((past ++ done) ++ [y]) →
      Effect y.before y.event.1 y.event.2 y.after → P done y.before → P (done ++ [y]) y.after)
    (start : P [] d) : P later d' := by
  have keep : ∀ done y,
      (FreshIds (past ++ done) → Consistent (past ++ done) y.before ∧ P done y.before) →
      y.before.Does y.event y.after → FreshIds (past ++ (done ++ [y])) →
      Consistent (past ++ (done ++ [y])) y.after ∧ P (done ++ [y]) y.after := by
    intro done y hdone hy fresh
    rw [← List.append_assoc] at fresh ⊢
    obtain ⟨consistent, hp⟩ := hdone (fresh.sublist ((List.sublist_append_left _ [y]).filterMap _))
    have after := consistent.does hy fresh
    exact ⟨after, step done y consistent after fresh (consistent.healthy.effect hy) hp⟩
  have base : FreshIds (past ++ []) → Consistent (past ++ []) d ∧ P [] d := by
    intro _
    rw [List.append_nil]
    exact ⟨h, start⟩
  exact (Run.invariant
    (P := fun done d => FreshIds (past ++ done) → Consistent (past ++ done) d ∧ P done d)
    keep run base fresh).2

/-- A run cut at a moment: the depot is consistent before it, the operation of the moment has its
effect, and the run goes on from there. -/
theorem cut_run {k : Nat} {later : List Moment}
    (run : Run Does (start k) (past ++ x :: later) d) (fresh : FreshIds (past ++ x :: later)) :
    Consistent past x.before ∧ Effect x.before x.event.1 x.event.2 x.after ∧
      Consistent (past ++ [x]) x.after ∧ Run Does x.after later d := by
  obtain ⟨m, before, hm, hx, rest⟩ := run_append.1 run
  subst hm
  have fresh_past := fresh.sublist ((List.sublist_append_left past (x :: later)).filterMap _)
  have consistent := consistent_of_run before fresh_past
  rw [List.append_cons] at fresh
  have fresh_x := fresh.sublist ((List.sublist_append_left _ later).filterMap _)
  exact ⟨consistent, consistent.healthy.effect hx, consistent.does hx fresh_x, rest⟩

end

/-! ## What a store shows -/

end Depot

/-- What agrees in a store, given the records that open transactions have staged for it. -/
structure Store.TablesAgree (s : Store) (staged : List Record) : Prop where
  /-- The index knows the stored ids, and leads each to the number of its record. -/
  index : ∀ id seq, s.contents.index.get? id = some seq ↔
    ∃ r, (seq, r) ∈ s.contents.rows ∧ r.id = id
  /-- No two records have the same id. -/
  ids : (s.contents.records.map (·.id)).Nodup
  /-- The numbers ascend, and the next one is above them. -/
  numbers : s.contents.rows.Pairwise (·.1 < ·.1)
  bounded : ∀ row ∈ s.contents.rows, row.1 < s.contents.nextSeq
  /-- A key is owned by an id if and only if a stored or staged record has this key and this id. -/
  owners : ∀ key id, s.contents.owners.get? key = some id ↔
    ∃ r ∈ s.contents.records ++ staged, r.dedupeKey = some key ∧ r.id = id
  /-- No two stored or staged records have the same key. -/
  keys : ((s.contents.records ++ staged).filterMap (·.dedupeKey)).Nodup
  /-- Looking an id up, listing the records and counting them show the same. -/
  views : ∃ rs, s.snapshot = .ok rs ∧ s.size = .ok rs.length ∧
    ∀ id, s.get? id = .ok (rs.find? (·.id = id))

/-- Soundness says what a client of the tables can see of it. -/
theorem Contents.Sound.tablesAgree {c : Contents} {staged : List Record} (h : c.Sound staged) :
    Store.TablesAgree ⟨c, false⟩ staged where
  index id seq := by
    constructor
    · exact h.found id seq
    · rintro ⟨r, hrow, rfl⟩
      exact h.indexed _ hrow
  ids := by
    have := h.distinct
    rw [List.map_append] at this
    exact (List.nodup_append.1 this).1
  numbers := h.ascending
  bounded := h.bounded
  owners := h.owned
  keys := h.keys_nodup
  views := by
    refine ⟨c.records, rfl, ?_, fun id => ?_⟩
    · simp [Store.size, Store.look, Contents.records]
    · simp [Store.get?, Store.look, h.get?_eq_find? id]

/-- **The tables of every store agree with its records.** At the end of any run of any operations
on any stores and transactions in which no id was made twice, the index, the ids, the numbers, the
owners of the keys and the views of a store are as `Store.TablesAgree` has it. -/
theorem Depot.tables_agree {k : Nat} {history : List Depot.Moment} {d : Depot}
    (run : Run Depot.Does (Depot.start k) history d) (fresh : FreshIds history)
    {n : Nat} {s : Store} (hs : d.stores[n]? = some s) : s.TablesAgree (d.staged n) := by
  have consistent := Depot.consistent_of_run run fresh
  obtain ⟨hlock, hc⟩ := consistent.healthy.getElem? hs
  have := (consistent.sound n s.contents hc).tablesAgree
  rwa [← hlock] at this

/-- A purge, a refused duplicate, a commit to the wrong store and a transaction that stays open. -/
def Depot.busyHour : List Operation :=
  [.begin 0, .stage 0 0 (.ofNat 1) (.brief (some "a")) .epoch,
    .enqueue 0 (.ofNat 2) (.brief (some "a")) .epoch, .commit 0 0,
    .begin 0, .stage 0 1 (.ofNat 3) (.brief (some "b")) .epoch, .commit 1 1,
    .claimBatch 0 .default 10 "w" .epoch, .markPublished 0 (.ofNat 1) .epoch,
    .purgePublished 0 .zero (Instant.epoch.later (.ofSeconds 1)),
    .enqueue 0 (.ofNat 4) (.brief (some "a")) .epoch,
    .begin 0, .stage 0 2 (.ofNat 5) (.brief (some "b")) .epoch]

/-- After the busy hour one record is stored, one is staged, and the tables agree with both. -/
theorem Depot.tables_agree_after_busyHour :
    FreshIds ((start 2).moments busyHour) ∧
      (((start 2).after busyHour).records 0).map (·.id) = [.ofNat 4] ∧
      (((start 2).after busyHour).staged 0).map (·.id) = [.ofNat 5] ∧
      ∃ s, ((start 2).after busyHour).stores[0]? = some s ∧
        s.TablesAgree (((start 2).after busyHour).staged 0) := by
  have fresh : FreshIds ((start 2).moments busyHour) := by decide +kernel
  refine ⟨fresh, by decide +kernel, by decide +kernel, ?_⟩
  obtain ⟨s, hs⟩ : ∃ s, ((start 2).after busyHour).stores[0]? = some s := ⟨_, rfl⟩
  exact ⟨s, hs, tables_agree (run_moments (start 2) busyHour) fresh hs⟩

end EventRelay
