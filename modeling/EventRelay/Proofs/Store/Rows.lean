import EventRelay.Store.Contents
import Mathlib.Data.List.Forall2
import Mathlib.Data.List.Nodup

/-!
# The rows of a store

What the operations on contents do to the rows, one lemma for each operation. There are three kinds:
claiming, settling and recovering change records and leave every row in its place
(`RowsChange`), taking events in adds rows at the end, and purging takes rows out.

The rows, the index and the next sequence number belong together (`Filed`): numbers ascend below the
next one, and the index leads to a row with the id that was looked up. All operations keep this, for
any ids, also if an id should come in twice; what distinct ids give beyond it is in
`EventRelay.Proofs.Store.Keys`.
-/

namespace EventRelay.Contents

/-! ## Changes in place -/

/-- Rows with the same numbers in the same order, whose records have changed as `change` has it. -/
def RowsChange (change : Record → Record → Prop) (rows rows' : List (Nat × Record)) : Prop :=
  List.Forall₂ (fun row row' => row'.1 = row.1 ∧ change row.2 row'.2) rows rows'

section
variable {change : Record → Record → Prop} {rows rows' : List (Nat × Record)}

theorem RowsChange.refl (same : ∀ r, change r r) (rows : List (Nat × Record)) :
    RowsChange change rows rows :=
  List.forall₂_same.2 fun row _ => ⟨rfl, same row.2⟩

theorem RowsChange.imp {weaker : Record → Record → Prop} (h : RowsChange change rows rows')
    (imp : ∀ a b, change a b → weaker a b) : RowsChange weaker rows rows' :=
  List.Forall₂.imp (fun _ _ h => ⟨h.1, imp _ _ h.2⟩) h

/-- What stood in a row stands there changed. -/
theorem RowsChange.forward (h : RowsChange change rows rows') {seq : Nat} {r : Record}
    (hr : (seq, r) ∈ rows) : ∃ r', (seq, r') ∈ rows' ∧ change r r' := by
  induction h with
  | nil => simp at hr
  | @cons row row' rest rest' head _ ih =>
    rcases List.mem_cons.1 hr with rfl | hr
    · exact ⟨row'.2, by rw [show seq = row'.1 from head.1.symm]; exact List.mem_cons_self, head.2⟩
    · obtain ⟨r', hr', hc⟩ := ih hr
      exact ⟨r', List.mem_cons_of_mem _ hr', hc⟩

/-- What stands in a row stood there before the change. -/
theorem RowsChange.backward (h : RowsChange change rows rows') {seq : Nat} {r' : Record}
    (hr' : (seq, r') ∈ rows') : ∃ r, (seq, r) ∈ rows ∧ change r r' := by
  induction h with
  | nil => simp at hr'
  | @cons row row' rest rest' head _ ih =>
    rcases List.mem_cons.1 hr' with rfl | hr'
    · exact ⟨row.2, by rw [show seq = row.1 from head.1]; exact List.mem_cons_self, head.2⟩
    · obtain ⟨r, hr, hc⟩ := ih hr'
      exact ⟨r, List.mem_cons_of_mem _ hr, hc⟩

/-- What no change touches reads the same in all rows, with their numbers. -/
theorem RowsChange.map_eq {α : Type} (h : RowsChange change rows rows') (f : Record → α)
    (same : ∀ a b, change a b → f b = f a) :
    rows'.map (fun row => (row.1, f row.2)) = rows.map (fun row => (row.1, f row.2)) := by
  induction h with
  | nil => rfl
  | cons head _ ih => simp only [List.map_cons, ih, head.1, same _ _ head.2]

theorem RowsChange.trans {next both : Record → Record → Prop} {rows'' : List (Nat × Record)}
    (h : RowsChange change rows rows') (h' : RowsChange next rows' rows'')
    (comp : ∀ a b c, change a b → next b c → both a c) : RowsChange both rows rows'' := by
  induction h generalizing rows'' with
  | nil =>
    cases h'
    exact .nil
  | cons head _ ih =>
    cases h' with
    | cons head' rest' =>
      exact .cons ⟨head'.1.trans head.1, comp _ _ _ head.2 head'.2⟩ (ih rest')

end

/-! ## Claiming -/

/-- The first record that satisfies a condition is changed, and everything else stays. -/
theorem changeFirst?_eq_some {p : Record → Bool} {f : Record → Record}
    {rows rows' : List (Nat × Record)} {r' : Record}
    (h : changeFirst? p f rows = some (r', rows')) :
    ∃ front seq r back, rows = front ++ (seq, r) :: back ∧ (∀ row ∈ front, p row.2 = false) ∧
      p r = true ∧ r' = f r ∧ rows' = front ++ (seq, f r) :: back := by
  induction rows generalizing rows' with
  | nil => simp [changeFirst?] at h
  | cons row rest ih =>
    obtain ⟨seq, r⟩ := row
    rw [changeFirst?] at h
    split at h
    · rename_i hp
      obtain ⟨rfl, rfl⟩ : f r = r' ∧ (seq, f r) :: rest = rows' := by simpa using h
      exact ⟨[], seq, r, rest, rfl, by simp, hp, rfl, rfl⟩
    · rename_i hp
      obtain ⟨⟨r₁, rows₁⟩, h₁, h₂⟩ := Option.map_eq_some_iff.1 h
      obtain ⟨rfl, rfl⟩ : r₁ = r' ∧ (seq, r) :: rows₁ = rows' := by simpa using h₂
      obtain ⟨front, seq', r₀, back, rfl, hfront, hr₀, rfl, rfl⟩ := ih h₁
      refine ⟨(seq, r) :: front, seq', r₀, back, rfl, ?_, hr₀, rfl, rfl⟩
      intro row hrow
      rcases List.mem_cons.1 hrow with rfl | hrow
      · simpa using hp
      · exact hfront row hrow

/-- What a claim may do to a record: nothing, or put it into the worker's hands if it was
claimable. -/
def Claims (policy : Policy) (worker : String) (now : Instant) (r r' : Record) : Prop :=
  r' = r ∨ (r.claimable now policy.maxAttempts = true ∧ r' = r.claim worker now)

variable {policy : Policy} {worker : String} {now : Instant}

/-- A claimed record is not claimable, so that claims one after the other change it once. -/
theorem Claims.trans {a b c : Record} (h : Claims policy worker now a b)
    (h' : Claims policy worker now b c) : Claims policy worker now a c := by
  rcases h with rfl | ⟨ha, rfl⟩
  · exact h'
  · rcases h' with rfl | ⟨hb, -⟩
    · exact .inr ⟨ha, rfl⟩
    · simp [Record.claimable, Record.claim] at hb

/-- One claim takes one claimable record, whose claimed copy it answers. -/
theorem claimOne?_rows {c c' : Contents} {r' : Record}
    (h : c.claimOne? policy worker now = some (r', c')) :
    ∃ rows', c' = { c with rows := rows' } ∧
      RowsChange (Claims policy worker now) c.rows rows' ∧
      ∃ seq r, (seq, r) ∈ c.rows ∧ r.claimable now policy.maxAttempts = true ∧
        r' = r.claim worker now ∧ (seq, r') ∈ rows' := by
  unfold claimOne? at h
  obtain ⟨⟨r₁, rows'⟩, h₁, h₂⟩ := Option.map_eq_some_iff.1 h
  obtain ⟨rfl, rfl⟩ : r₁ = r' ∧ { c with rows := rows' } = c' := by simpa using h₂
  obtain ⟨front, seq, r, back, hrows, -, hr, rfl, rfl⟩ := changeFirst?_eq_some h₁
  refine ⟨_, rfl, ?_, seq, r, by rw [hrows]; simp, hr, rfl, by simp⟩
  rw [hrows]
  have same (rows : List (Nat × Record)) : RowsChange (Claims policy worker now) rows rows :=
    RowsChange.refl (fun _ => .inl rfl) rows
  exact List.rel_append (same front) (.cons ⟨rfl, .inr ⟨hr, rfl⟩⟩ (same back))

/-- A batch of claims changes records as one claim does, and every record in the answer was
claimable before and stands in the store as answered. -/
theorem claimUpTo_rows (limit : Nat) (c : Contents) :
    ∃ rows', (claimUpTo policy worker now limit c).2 = { c with rows := rows' } ∧
      RowsChange (Claims policy worker now) c.rows rows' ∧
      ∀ r' ∈ (claimUpTo policy worker now limit c).1,
        ∃ seq r, (seq, r) ∈ c.rows ∧ r.claimable now policy.maxAttempts = true ∧
          r' = r.claim worker now ∧ (seq, r') ∈ rows' := by
  induction limit generalizing c with
  | zero => exact ⟨c.rows, rfl, RowsChange.refl (fun _ => .inl rfl) _, by simp [claimUpTo]⟩
  | succ limit ih =>
    rw [claimUpTo]
    split
    · exact ⟨c.rows, rfl, RowsChange.refl (fun _ => .inl rfl) _, by simp⟩
    · rename_i r₁ c₁ h₁
      obtain ⟨rows₁, rfl, step, seq₁, r₀, hr₀, hc₀, rfl, hin₁⟩ := claimOne?_rows h₁
      obtain ⟨rows', heq, steps, answered⟩ := ih { c with rows := rows₁ }
      refine ⟨rows', heq, step.trans steps fun _ _ _ => Claims.trans, ?_⟩
      intro r' hr'
      rcases List.mem_cons.1 hr' with rfl | hr'
      · -- The record that was claimed first is not claimable for the rest of the batch.
        obtain ⟨r₂, hin₂, hch⟩ := steps.forward hin₁
        rcases hch with rfl | ⟨hb, -⟩
        · exact ⟨seq₁, r₀, hr₀, hc₀, rfl, hin₂⟩
        · simp [Record.claimable, Record.claim] at hb
      · -- A record of the rest was there before the first claim, which has not changed it.
        obtain ⟨seq, r, hr, hc, rfl, hin⟩ := answered r' hr'
        obtain ⟨r₂, hin₂, hch⟩ := step.backward hr
        rcases hch with rfl | ⟨-, rfl⟩
        · exact ⟨seq, r, hin₂, hc, rfl, hin⟩
        · simp [Record.claimable, Record.claim] at hc

/-! ## Numbers and index -/

/-- The sequence numbers ascend, the next one is above them, and the index leads from an id to a
row of a record with this id. -/
structure Filed (c : Contents) : Prop where
  ascending : c.rows.Pairwise (·.1 < ·.1)
  bounded : ∀ row ∈ c.rows, row.1 < c.nextSeq
  found : ∀ id seq, c.index.get? id = some seq → ∃ r, (seq, r) ∈ c.rows ∧ r.id = id

theorem filed_empty : Filed .empty :=
  ⟨.nil, by simp [empty], by simp [empty]⟩

theorem Filed.eq_of_seq {c : Contents} (h : c.Filed) {seq : Nat} {r r' : Record}
    (hr : (seq, r) ∈ c.rows) (hr' : (seq, r') ∈ c.rows) : r = r' := by
  have nodup : (c.rows.map (·.1)).Nodup := (List.pairwise_map.2 h.ascending).imp Nat.ne_of_lt
  have := List.inj_on_of_nodup_map nodup hr hr' rfl
  exact congrArg (·.2) this

/-- Where the numbers of the rows ascend, a row is found by its number. -/
theorem lookup_of_mem {rows : List (Nat × Record)} (h : rows.Pairwise (·.1 < ·.1)) {seq : Nat}
    {r : Record} (hr : (seq, r) ∈ rows) : rows.lookup seq = some r := by
  induction rows with
  | nil => simp at hr
  | cons row rest ih =>
    obtain ⟨seq', r'⟩ := row
    obtain ⟨hhead, hrest⟩ := List.pairwise_cons.1 h
    rw [List.lookup_cons]
    rcases List.mem_cons.1 hr with heq | hr
    · obtain ⟨rfl, rfl⟩ : seq = seq' ∧ r = r' := by simpa using heq
      simp
    · have hlt : seq' < seq := hhead _ hr
      have hne : (seq == seq') = false := by simpa using (show seq ≠ seq' by omega)
      rw [hne]
      exact ih hrest hr

/-- A record is found by id exactly if the index names its row. -/
theorem Filed.get?_eq_some_iff {c : Contents} (h : c.Filed) {id : Uuid} {r : Record} :
    c.get? id = some r ↔ ∃ seq, c.index.get? id = some seq ∧ (seq, r) ∈ c.rows := by
  unfold get?
  constructor
  · intro hget
    obtain ⟨seq, hseq, hrow⟩ := Option.bind_eq_some_iff.1 hget
    obtain ⟨r', hr', -⟩ := h.found id seq hseq
    rw [lookup_of_mem h.ascending hr'] at hrow
    cases hrow
    exact ⟨seq, hseq, hr'⟩
  · rintro ⟨seq, hseq, hrow⟩
    rw [hseq]
    exact lookup_of_mem h.ascending hrow

/-- Changes in place that leave the ids keep the rows filed. -/
theorem Filed.of_rowsChange {c : Contents} (h : c.Filed) {change : Record → Record → Prop}
    {rows' : List (Nat × Record)} (rows : RowsChange change c.rows rows')
    (ids : ∀ a b, change a b → b.id = a.id) : Filed { c with rows := rows' } := by
  have seqs : rows'.map (·.1) = c.rows.map (·.1) := by
    have := congrArg (List.map (·.1)) (rows.map_eq (fun _ => ()) fun _ _ _ => rfl)
    simpa [List.map_map, Function.comp_def] using this
  refine ⟨?_, ?_, ?_⟩
  · have := List.pairwise_map.2 h.ascending
    rw [← seqs] at this
    exact List.pairwise_map.1 this
  · intro row hrow
    have : row.1 ∈ c.rows.map (·.1) := seqs ▸ List.mem_map_of_mem hrow
    obtain ⟨row₀, hrow₀, heq⟩ := List.mem_map.1 this
    exact heq ▸ h.bounded row₀ hrow₀
  · intro id seq hid
    obtain ⟨r, hr, rfl⟩ := h.found id seq hid
    obtain ⟨r', hr', hc⟩ := rows.forward hr
    exact ⟨r', hr', ids _ _ hc⟩

/-! ## Settling and recovering -/

/-- Changing the record with an id changes one record with this id, if any. -/
theorem Filed.update_rows {c : Contents} (h : c.Filed) (id : Uuid) (f : Record → Record) :
    ∃ rows', c.update id f = { c with rows := rows' } ∧
      RowsChange (fun r r' => r' = r ∨ (r.id = id ∧ r' = f r)) c.rows rows' := by
  unfold update
  split
  · rename_i seq hseq
    refine ⟨_, rfl, ?_⟩
    obtain ⟨r₀, hr₀, hid⟩ := h.found id seq hseq
    refine List.forall₂_map_right_iff.2 (List.forall₂_same.2 fun row hrow => ?_)
    split
    · rename_i heq
      subst heq
      have := h.eq_of_seq hr₀ hrow
      subst this
      exact ⟨rfl, .inr ⟨hid, rfl⟩⟩
    · exact ⟨rfl, .inl rfl⟩
  · exact ⟨c.rows, rfl, RowsChange.refl (fun _ => .inl rfl) _⟩

theorem lookup_updateAt (c : Contents) (seq : Nat) (f : Record → Record) :
    (c.updateAt seq f).rows.lookup seq = (c.rows.lookup seq).map f := by
  unfold updateAt
  induction c.rows with
  | nil => rfl
  | cons row rest ih =>
    obtain ⟨seq', r⟩ := row
    by_cases heq : seq' = seq
    · simp [heq]
    · have hne : (seq == seq') = false := by simpa using fun e => heq e.symm
      simp only [List.map_cons, if_neg heq, List.lookup_cons, hne]
      exact ih

theorem get?_update (c : Contents) (id : Uuid) (f : Record → Record) :
    (c.update id f).get? id = (c.get? id).map f := by
  unfold update
  cases hseq : c.index.get? id with
  | none => simp [get?, hseq]
  | some seq =>
    have hindex : (c.updateAt seq f).index = c.index := rfl
    simp only [get?, hindex, hseq, Option.bind_some]
    exact lookup_updateAt c seq f

/-- A recovery touches nothing but the rows. -/
theorem recover_rows (c : Contents) (cutoff : Instant) :
    ∃ rows', (c.recover cutoff).2 = { c with rows := rows' } ∧
      RowsChange (fun r r' => if r.stale cutoff then r' = r.release else r' = r) c.rows rows' := by
  refine ⟨_, rfl, List.forall₂_map_right_iff.2 (List.forall₂_same.2 fun row _ => ?_)⟩
  split <;> simp_all

/-! ## Taking in -/

/-- A reservation touches nothing but the owners. -/
theorem reserveFor?_eq_some {c c' : Contents} {r : Record} (h : c.reserveFor? r = some c') :
    ∃ owners', c' = { c with owners := owners' } := by
  unfold reserveFor? at h
  split at h
  · unfold reserve? at h
    split at h
    · split at h
      · exact ⟨c.owners, (Option.some.inj h).symm⟩
      · cases h
    · exact ⟨_, (Option.some.inj h).symm⟩
  · exact ⟨c.owners, (Option.some.inj h).symm⟩

/-- A record that is taken in stands behind all others, under the next number. -/
theorem insert?_rows {c c' : Contents} {r : Record} (h : c.insert? r = some c') :
    c'.rows = c.rows ++ [(c.nextSeq, r)] ∧ c'.index = c.index.insert r.id c.nextSeq ∧
      c'.nextSeq = c.nextSeq + 1 := by
  unfold insert? at h
  obtain ⟨c₁, h₁, rfl⟩ := Option.map_eq_some_iff.1 h
  obtain ⟨owners', rfl⟩ := reserveFor?_eq_some h₁
  exact ⟨rfl, rfl, rfl⟩

theorem Filed.insert? {c c' : Contents} {r : Record} (h : c.Filed) (hr : c.insert? r = some c') :
    c'.Filed := by
  obtain ⟨hrows, hindex, hnext⟩ := insert?_rows hr
  refine ⟨?_, ?_, ?_⟩
  · rw [hrows, List.pairwise_append]
    refine ⟨h.ascending, List.pairwise_singleton _ _, ?_⟩
    intro row hrow row' hrow'
    obtain rfl : row' = (c.nextSeq, r) := by simpa using hrow'
    exact h.bounded row hrow
  · intro row hrow
    rw [hrows, List.mem_append, List.mem_singleton] at hrow
    rw [hnext]
    rcases hrow with hrow | rfl
    · exact Nat.lt_succ_of_lt (h.bounded row hrow)
    · exact Nat.lt_succ_self _
  · intro id seq hid
    rw [hindex, Table.get?_insert] at hid
    rw [hrows]
    split at hid
    · rename_i heq
      cases hid
      exact ⟨r, by simp, heq.symm⟩
    · obtain ⟨r', hr', rfl⟩ := h.found id seq hid
      exact ⟨r', by simp [hr'], rfl⟩

/-- Insertions append rows, and only of records that they were given. -/
theorem Filed.insertAll {c : Contents} (h : c.Filed) (rs : List Record) :
    (c.insertAll rs).2.Filed ∧
      ∃ new, (c.insertAll rs).2.rows = c.rows ++ new ∧ ∀ row ∈ new, row.2 ∈ rs := by
  induction rs generalizing c with
  | nil => exact ⟨h, [], by simp [Contents.insertAll], by simp⟩
  | cons r rest ih =>
    rw [Contents.insertAll]
    split
    · rename_i c₁ h₁
      obtain ⟨filed, new, hnew, hmem⟩ := ih (h.insert? h₁)
      refine ⟨filed, (c.nextSeq, r) :: new, ?_, ?_⟩
      · simp only [hnew, (insert?_rows h₁).1, List.append_assoc, List.singleton_append]
      · intro row hrow
        rcases List.mem_cons.1 hrow with rfl | hrow
        · exact List.mem_cons_self
        · exact List.mem_cons_of_mem _ (hmem row hrow)
    · obtain ⟨filed, new, hnew, hmem⟩ := ih h
      exact ⟨filed, new, hnew, fun row hrow => List.mem_cons_of_mem _ (hmem row hrow)⟩

theorem releaseKey_eq (c : Contents) (key : String) (id : Uuid) :
    ∃ owners', c.releaseKey key id = { c with owners := owners' } := by
  unfold releaseKey
  split
  · exact ⟨_, rfl⟩
  · exact ⟨c.owners, rfl⟩

/-- A release touches nothing but the owners. -/
theorem releaseKeys_eq (c : Contents) (rs : List Record) :
    ∃ owners', c.releaseKeys rs = { c with owners := owners' } := by
  unfold releaseKeys
  induction rs generalizing c with
  | nil => exact ⟨c.owners, rfl⟩
  | cons r rest ih =>
    rw [List.foldl_cons]
    split
    · rename_i key _
      obtain ⟨owners₁, h₁⟩ := releaseKey_eq c key r.id
      obtain ⟨owners', h⟩ := ih (c.releaseKey key r.id)
      exact ⟨owners', by rw [h, h₁]⟩
    · exact ih c

theorem Filed.releaseKeys {c : Contents} (h : c.Filed) (rs : List Record) :
    (c.releaseKeys rs).Filed ∧ (c.releaseKeys rs).rows = c.rows := by
  obtain ⟨owners', heq⟩ := releaseKeys_eq c rs
  rw [heq]
  exact ⟨⟨h.ascending, h.bounded, h.found⟩, rfl⟩

/-! ## Purging -/

/-- Rows that are removed one after the other are all gone at the end. -/
theorem rows_foldl_remove (gone : List (Nat × Record)) (c : Contents) :
    (gone.foldl remove c).rows = c.rows.filter fun row => gone.all (·.1 ≠ row.1) := by
  induction gone generalizing c with
  | nil => exact (List.filter_eq_self.2 fun _ _ => rfl).symm
  | cons row rest ih =>
    rw [List.foldl_cons, ih]
    simp only [remove, List.filter_filter, List.all_cons]
    refine List.filter_congr fun row' _ => ?_
    rw [Bool.and_comm]
    congr 1
    simp [eq_comm]

theorem Filed.remove {c : Contents} (h : c.Filed) {row : Nat × Record} (hrow : row ∈ c.rows) :
    (c.remove row).Filed := by
  refine ⟨h.ascending.filter _, fun row' hrow' => h.bounded row' (List.mem_filter.1 hrow').1, ?_⟩
  intro id seq hid
  simp only [Contents.remove, Table.get?_erase] at hid
  split at hid
  · cases hid
  · rename_i hne
    obtain ⟨r, hr, rfl⟩ := h.found id seq hid
    refine ⟨r, List.mem_filter.2 ⟨hr, ?_⟩, rfl⟩
    simp only [ne_eq, decide_not, Bool.not_eq_true', decide_eq_false_iff_not]
    rintro rfl
    exact hne (congrArg Record.id (h.eq_of_seq hr hrow))

theorem Filed.foldl_remove {c : Contents} (h : c.Filed) {gone : List (Nat × Record)}
    (sub : ∀ row ∈ gone, row ∈ c.rows) (distinct : gone.Pairwise (·.1 ≠ ·.1)) :
    (gone.foldl Contents.remove c).Filed := by
  induction gone generalizing c with
  | nil => exact h
  | cons row rest ih =>
    obtain ⟨hhead, hrest⟩ := List.pairwise_cons.1 distinct
    refine ih (h.remove (sub row List.mem_cons_self)) (fun row' hrow' => ?_) hrest
    refine List.mem_filter.2 ⟨sub row' (List.mem_cons_of_mem _ hrow'), ?_⟩
    simpa using (hhead row' hrow').symm

/-- A purge takes out exactly the rows whose records have expired. -/
theorem rows_purge {c : Contents} (ascending : c.rows.Pairwise (·.1 < ·.1)) (cutoff : Instant) :
    (c.purge cutoff).2.rows = c.rows.filter fun row => !row.2.expired cutoff := by
  simp only [Contents.purge, rows_foldl_remove]
  refine List.filter_congr fun row hrow => ?_
  obtain ⟨seq, r⟩ := row
  cases hexp : r.expired cutoff with
  | true =>
    have : (c.rows.filter (·.2.expired cutoff)).all (·.1 ≠ seq) = false :=
      List.all_eq_false.2 ⟨(seq, r), List.mem_filter.2 ⟨hrow, hexp⟩, by simp⟩
    simpa using this
  | false =>
    have : (c.rows.filter (·.2.expired cutoff)).all (·.1 ≠ seq) = true := by
      refine List.all_eq_true.2 fun row' hrow' => ?_
      obtain ⟨seq', r'⟩ := row'
      obtain ⟨hin, hexp'⟩ := List.mem_filter.1 hrow'
      simp only [ne_eq, decide_not, Bool.not_eq_true', decide_eq_false_iff_not]
      -- Rows are taken out by their numbers, and no other row has the number of one that expired.
      rintro rfl
      obtain rfl : r' = r :=
        Option.some.inj ((lookup_of_mem ascending hin).symm.trans (lookup_of_mem ascending hrow))
      rw [hexp] at hexp'
      cases hexp'
    simpa using this

/-- A purge keeps the rows that are not expired, in their order. -/
theorem Filed.purge {c : Contents} (h : c.Filed) (cutoff : Instant) :
    (c.purge cutoff).2.Filed ∧
      (c.purge cutoff).2.rows = c.rows.filter fun row => !row.2.expired cutoff := by
  have numbers : c.rows.Pairwise (·.1 ≠ ·.1) := h.ascending.imp Nat.ne_of_lt
  exact ⟨h.foldl_remove (fun row hrow => (List.mem_filter.1 hrow).1) (numbers.filter _),
    rows_purge h.ascending cutoff⟩

end EventRelay.Contents
