import EventRelay.Proofs.Store.Rows
import Mathlib.Data.List.Perm.Basic

/-!
# Ids and dedupe keys

A store holds its records, and beside them the open transactions hold the records that they have
staged for it. Contents are *sound* beside a list of staged records if the index knows exactly the
ids of the stored records, if a dedupe key is owned by an id exactly if a record that is stored or
staged has this key and this id (`Owned`), and if no two of these records have the same id.

The operations that move records in and out of this union keep it sound: a reservation adds a
record to the staged ones, a commit moves staged records into the store and leaves none behind
(`Sound.insertAll`), and a rollback and a purge take records out together with exactly their keys.
All of them rest on two facts about the table of owners alone, `Owned.insert` and `Owned.erase`.
-/

namespace EventRelay.Contents

/-! ## The table of owners -/

/-- A key is owned by an id exactly if one of the records has this key and this id. -/
def Owned (owners : Table String Uuid) (held : List Record) : Prop :=
  ∀ key id, owners.get? key = some id ↔ ∃ r ∈ held, r.dedupeKey = some key ∧ r.id = id

/-- Who owns a key depends on the ids and the keys of the records alone. -/
theorem Owned.congr {owners : Table String Uuid} {held held' : List Record} (h : Owned owners held)
    (same : ∀ p, p ∈ held.map (fun r => (r.id, r.dedupeKey)) ↔
      p ∈ held'.map fun r => (r.id, r.dedupeKey)) : Owned owners held' := by
  intro key id
  have as_mem : ∀ rs : List Record, (∃ r ∈ rs, r.dedupeKey = some key ∧ r.id = id) ↔
      (id, some key) ∈ rs.map fun r => (r.id, r.dedupeKey) := by
    intro rs
    simp only [List.mem_map, Prod.mk.injEq]
    exact ⟨fun ⟨r, hr, hk, hi⟩ => ⟨r, hr, hi, hk⟩, fun ⟨r, hr, hi, hk⟩ => ⟨r, hr, hk, hi⟩⟩
  rw [h key id, as_mem, as_mem]
  exact same _

/-- A free key that is given to the id of one more record. -/
theorem Owned.insert {owners : Table String Uuid} {held : List Record} (h : Owned owners held)
    {r : Record} {key : String} (hkey : r.dedupeKey = some key) (free : owners.get? key = none) :
    Owned (owners.insert key r.id) (r :: held) := by
  intro key' id
  rw [Table.get?_insert]
  split
  · rename_i heq
    subst heq
    constructor
    · intro hid
      exact ⟨r, List.mem_cons_self, hkey, Option.some.inj hid⟩
    · rintro ⟨r', hr', hkey', rfl⟩
      rcases List.mem_cons.1 hr' with rfl | hr'
      · rfl
      · have := (h key' r'.id).2 ⟨r', hr', hkey', rfl⟩
        rw [free] at this
        cases this
  · rename_i hne
    rw [h key' id]
    constructor
    · rintro ⟨r', hr', hkey', hid⟩
      exact ⟨r', List.mem_cons_of_mem _ hr', hkey', hid⟩
    · rintro ⟨r', hr', hkey', hid⟩
      rcases List.mem_cons.1 hr' with rfl | hr'
      · exact absurd (Option.some.inj (hkey'.symm.trans hkey)) hne
      · exact ⟨r', hr', hkey', hid⟩

theorem Owned.cons_keyless {owners : Table String Uuid} {held : List Record}
    (h : Owned owners held) {r : Record} (hkey : r.dedupeKey = none) :
    Owned owners (r :: held) := by
  intro key id
  simp [h key id, hkey]

def withoutKeyOf (owners : Table String Uuid) (r : Record) : Table String Uuid :=
  match r.dedupeKey with
  | some key => owners.erase key
  | none => owners

/-- One record less takes its own key with it and no other. -/
theorem Owned.erase {owners : Table String Uuid} {held : List Record} {r : Record}
    (h : Owned owners (r :: held)) (distinct : ((r :: held).map (·.id)).Nodup) :
    Owned (withoutKeyOf owners r) held := by
  have others : ∀ r' ∈ held, r'.id ≠ r.id := by
    intro r' hr' heq
    have := (List.nodup_cons.1 (List.map_cons ▸ distinct)).1
    exact this (heq ▸ List.mem_map_of_mem hr')
  intro key id
  unfold withoutKeyOf
  cases hkey : r.dedupeKey with
  | none => simp [h key id, hkey]
  | some key₀ =>
    simp only [Table.get?_erase]
    split
    · rename_i heq
      subst heq
      simp only [reduceCtorEq, false_iff]
      rintro ⟨r', hr', hkey', rfl⟩
      have h₁ := (h key r.id).2 ⟨r, List.mem_cons_self, hkey, rfl⟩
      have h₂ := (h key r'.id).2 ⟨r', List.mem_cons_of_mem _ hr', hkey', rfl⟩
      -- Erasing does not ask for the owner: that it was `r` alone is what the table said before.
      exact others r' hr' (Option.some.inj (h₂.symm.trans h₁))
    · rename_i hne
      rw [h key id]
      constructor
      · rintro ⟨r', hr', hkey', hid⟩
        rcases List.mem_cons.1 hr' with rfl | hr'
        · exact absurd (Option.some.inj (hkey'.symm.trans hkey)) hne
        · exact ⟨r', hr', hkey', hid⟩
      · rintro ⟨r', hr', hkey', hid⟩
        exact ⟨r', List.mem_cons_of_mem _ hr', hkey', hid⟩

/-! ## Sound contents -/

/-- The tables of the contents agree with the records that are stored, and with those that
transactions have staged. -/
structure Sound (c : Contents) (staged : List Record) : Prop extends Filed c where
  indexed : ∀ row ∈ c.rows, c.index.get? row.2.id = some row.1
  owned : Owned c.owners (c.records ++ staged)
  distinct : ((c.records ++ staged).map (·.id)).Nodup

theorem sound_empty : Sound .empty [] :=
  ⟨filed_empty, by simp [empty], by intro key id; simp [empty, records],
    by simp [empty, records]⟩

section
variable {c c' : Contents} {staged : List Record} {r : Record}

theorem Sound.perm (h : c.Sound staged) {staged' : List Record} (p : staged.Perm staged') :
    c.Sound staged' := by
  have p' : (c.records ++ staged).Perm (c.records ++ staged') := p.append_left _
  exact ⟨h.toFiled, h.indexed, h.owned.congr fun _ => (p'.map _).mem_iff,
    (p'.map _).nodup_iff.1 h.distinct⟩

/-- In a sound table an id belongs to one record, stored or staged. -/
theorem Sound.eq_of_id (h : c.Sound staged) {r r' : Record} (hr : r ∈ c.records ++ staged)
    (hr' : r' ∈ c.records ++ staged) (hid : r.id = r'.id) : r = r' :=
  List.inj_on_of_nodup_map h.distinct hr hr' hid

/-- A key belongs to the id of the record that has it. -/
theorem Sound.owner (h : c.Sound staged) (hr : r ∈ c.records ++ staged) {key : String}
    (hkey : r.dedupeKey = some key) : c.owners.get? key = some r.id :=
  (h.owned key r.id).2 ⟨r, hr, hkey, rfl⟩

/-- A sound table finds by its id exactly what it holds. -/
theorem Sound.get?_eq_some_iff (h : c.Sound staged) {id : Uuid} :
    c.get? id = some r ↔ r ∈ c.records ∧ r.id = id := by
  rw [h.toFiled.get?_eq_some_iff]
  constructor
  · rintro ⟨seq, hseq, hrow⟩
    obtain ⟨r', hr', rfl⟩ := h.found id seq hseq
    obtain rfl := h.eq_of_seq hrow hr'
    exact ⟨List.mem_map_of_mem hrow, rfl⟩
  · rintro ⟨hr, rfl⟩
    obtain ⟨⟨seq, r'⟩, hrow, rfl⟩ := List.mem_map.1 hr
    exact ⟨seq, h.indexed _ hrow, hrow⟩

/-- Looking an id up finds the first record with this id, which is the only one. -/
theorem Sound.get?_eq_find? (h : c.Sound staged) (id : Uuid) :
    c.get? id = c.records.find? (·.id = id) := by
  refine Option.ext fun r => ?_
  rw [h.get?_eq_some_iff]
  constructor
  · rintro ⟨hr, hid⟩
    cases hfind : c.records.find? (·.id = id) with
    | none => exact absurd hid (by simpa using List.find?_eq_none.1 hfind r hr)
    | some r' =>
      have hr' := List.mem_of_find?_eq_some hfind
      have hid' : r'.id = id := by simpa using List.find?_some hfind
      rw [h.eq_of_id (List.mem_append_left _ hr') (List.mem_append_left _ hr) (hid'.trans hid.symm)]
  · intro hfind
    exact ⟨List.mem_of_find?_eq_some hfind, by simpa using List.find?_some hfind⟩

/-- No key is held twice, not even once in the table and once in a transaction. -/
theorem Sound.keys_nodup (h : c.Sound staged) :
    ((c.records ++ staged).filterMap (·.dedupeKey)).Nodup := by
  have ids : (c.records ++ staged).Pairwise fun r r' => r.id ≠ r'.id :=
    List.pairwise_map.1 h.distinct
  refine List.pairwise_filterMap.2 (ids.imp_of_mem fun {r r'} hr hr' hne => ?_)
  rintro key hkey key' hkey' rfl
  have h₁ := h.owner hr hkey
  have h₂ := h.owner hr' hkey'
  exact hne (Option.some.inj (h₁.symm.trans h₂))

/-- Changes in place that leave ids and keys keep the contents sound. -/
theorem Sound.of_rowsChange (h : c.Sound staged) {change : Record → Record → Prop}
    {rows' : List (Nat × Record)} (rows : RowsChange change c.rows rows')
    (same : ∀ a b, change a b → b.id = a.id ∧ b.dedupeKey = a.dedupeKey) :
    Sound { c with rows := rows' } staged := by
  have cards : rows'.map (fun row => (row.2.id, row.2.dedupeKey)) =
      c.rows.map fun row => (row.2.id, row.2.dedupeKey) := by
    have := rows.map_eq (fun r => (r.id, r.dedupeKey)) fun a b hab => by
      rw [(same a b hab).1, (same a b hab).2]
    simpa [List.map_map, Function.comp_def] using congrArg (List.map (·.2)) this
  have ids : rows'.map (·.2.id) = c.rows.map (·.2.id) := by
    simpa [List.map_map, Function.comp_def] using congrArg (List.map (·.1)) cards
  refine ⟨h.toFiled.of_rowsChange rows fun a b hab => (same a b hab).1, ?_, ?_, ?_⟩
  · rintro ⟨seq, r'⟩ hrow
    obtain ⟨r, hr, hc⟩ := rows.backward hrow
    simpa [(same _ _ hc).1] using h.indexed _ hr
  · refine h.owned.congr fun p => ?_
    simp only [records, List.map_append, List.map_map, Function.comp_def, List.mem_append]
    rw [cards]
  · have hd := h.distinct
    simp only [records, List.map_append, List.map_map, Function.comp_def] at hd ⊢
    rwa [ids]

/-! ## Staging -/

/-- A record that comes to the staged ones, with the owners as they are then. -/
theorem Sound.cons (h : c.Sound staged) (new : r.id ∉ (c.records ++ staged).map (·.id))
    {owners' : Table String Uuid} (owned : Owned owners' (r :: (c.records ++ staged))) :
    Sound { c with owners := owners' } (r :: staged) := by
  have p : (c.records ++ r :: staged).Perm (r :: (c.records ++ staged)) := List.perm_middle
  refine ⟨⟨h.ascending, h.bounded, h.found⟩, h.indexed, ?_, ?_⟩
  · exact owned.congr fun _ => (p.map _).mem_iff.symm
  · exact (p.map _).nodup_iff.2 (List.nodup_cons.2 ⟨new, h.distinct⟩)

theorem Sound.stage_keyless (h : c.Sound staged) (new : r.id ∉ (c.records ++ staged).map (·.id))
    (hkey : r.dedupeKey = none) : c.Sound (r :: staged) :=
  h.cons new (h.owned.cons_keyless hkey)

/-- A key is refused to an id exactly because a record with another id has it. -/
theorem Sound.reserve?_eq_none (h : c.Sound staged) {key : String} {id : Uuid}
    (hr : c.reserve? key id = none) : ∃ r ∈ c.records ++ staged, r.dedupeKey = some key := by
  unfold reserve? at hr
  split at hr
  · rename_i owner howner
    obtain ⟨r, hr, hkey, -⟩ := (h.owned key owner).1 howner
    exact ⟨r, hr, hkey⟩
  · cases hr

/-- A key that could be reserved for a new record was free. -/
theorem Sound.free_of_reserve? (h : c.Sound staged)
    (new : r.id ∉ (c.records ++ staged).map (·.id)) {key : String}
    (hr : c.reserve? key r.id = some c') :
    c.owners.get? key = none ∧ c' = { c with owners := c.owners.insert key r.id } := by
  unfold Contents.reserve? at hr
  split at hr
  · rename_i owner howner
    split at hr
    · rename_i heq
      obtain ⟨r', hr', -, hid⟩ := (h.owned key owner).1 howner
      exact absurd (List.mem_map.2 ⟨r', hr', hid.trans heq⟩) new
    · cases hr
  · rename_i free
    cases hr
    exact ⟨free, rfl⟩

/-- A new record whose key could be reserved may be staged. -/
theorem Sound.reserve? (h : c.Sound staged) (new : r.id ∉ (c.records ++ staged).map (·.id))
    {key : String} (hkey : r.dedupeKey = some key) (hr : c.reserve? key r.id = some c') :
    c'.Sound (r :: staged) := by
  obtain ⟨free, rfl⟩ := h.free_of_reserve? new hr
  exact h.cons new (h.owned.insert hkey free)

/-- A reservation that succeeds makes room for its record among the staged ones. -/
theorem Sound.reserveFor? (h : c.Sound staged) (new : r.id ∉ (c.records ++ staged).map (·.id))
    (hr : c.reserveFor? r = some c') : c'.Sound (r :: staged) := by
  unfold Contents.reserveFor? at hr
  split at hr
  · rename_i key hkey
    exact h.reserve? new hkey hr
  · rename_i hkey
    cases hr
    exact h.stage_keyless new hkey

/-! ## Moving staged records into the store -/

@[simp] theorem records_append (c : Contents) (r : Record) :
    (c.append r).records = c.records ++ [r] := by
  simp [append, records]

/-- The insertion of a staged record never fails: its key is its own, if it has one. -/
theorem Sound.insert?_staged (h : c.Sound (r :: staged)) : c.insert? r = some (c.append r) := by
  unfold insert? Contents.reserveFor?
  cases hkey : r.dedupeKey with
  | none => rfl
  | some key => simp [Contents.reserve?, h.owner (by simp) hkey]

/-- A staged record moves to the end of the stored ones. -/
theorem Sound.append (h : c.Sound (r :: staged)) : (c.append r).Sound staged := by
  have p : (c.records ++ r :: staged).Perm (r :: (c.records ++ staged)) := List.perm_middle
  have new : r.id ∉ (c.records ++ staged).map (·.id) :=
    (List.nodup_cons.1 ((p.map _).nodup_iff.1 h.distinct)).1
  have q : c.records ++ r :: staged = (c.append r).records ++ staged := by simp
  refine ⟨h.toFiled.insert? h.insert?_staged, ?_, q ▸ h.owned, q ▸ h.distinct⟩
  intro row hrow
  simp only [Contents.append, Table.get?_insert, List.mem_append, List.mem_singleton] at hrow ⊢
  rcases hrow with hrow | rfl
  · have hne : row.2.id ≠ r.id := by
      intro heq
      refine new (heq ▸ List.mem_map_of_mem (List.mem_append_left _ ?_))
      exact List.mem_map_of_mem (f := (·.2)) hrow
    rw [if_neg hne]
    exact h.indexed row hrow
  · simp

/-- A record that is new and not refused is appended, and the table stays sound. -/
theorem Sound.insert?_new (h : c.Sound staged) (new : r.id ∉ (c.records ++ staged).map (·.id))
    (hr : c.insert? r = some c') : c'.Sound staged ∧ c'.records = c.records ++ [r] := by
  unfold insert? at hr
  obtain ⟨c₁, h₁, rfl⟩ := Option.map_eq_some_iff.1 hr
  obtain ⟨owners', rfl⟩ := reserveFor?_eq_some h₁
  exact ⟨(h.reserveFor? new h₁).append, records_append _ r⟩

/-- Adds records behind all others, whoever owns their keys. -/
def appendAll (c : Contents) (rs : List Record) : Contents := rs.foldl Contents.append c

/-- No staged record is skipped when all are inserted. -/
theorem Sound.insertAll_eq {rs : List Record} (h : c.Sound (rs ++ staged)) :
    c.insertAll rs = (rs.length, c.appendAll rs) := by
  induction rs generalizing c with
  | nil => rfl
  | cons r rest ih =>
    have rest_eq : (c.append r).insertAll rest = _ := ih (c := c.append r) h.append
    rw [Contents.insertAll, Sound.insert?_staged h]
    simp only [rest_eq]
    rfl

/-- **A commit is complete.** All staged records come into the store, in their order, behind those
that are stored already. -/
theorem Sound.insertAll {rs : List Record} (h : c.Sound (rs ++ staged)) :
    (c.insertAll rs).1 = rs.length ∧ (c.insertAll rs).2.Sound staged ∧
      (c.insertAll rs).2.records = c.records ++ rs := by
  rw [h.insertAll_eq]
  refine ⟨rfl, ?_⟩
  dsimp only
  induction rs generalizing c with
  | nil => exact ⟨h, (List.append_nil _).symm⟩
  | cons r rest ih =>
    obtain ⟨hsound, hrecords⟩ := ih (c := c.append r) h.append
    refine ⟨hsound, ?_⟩
    rw [show c.appendAll (r :: rest) = (c.append r).appendAll rest from rfl, hrecords,
      records_append, List.append_assoc, List.singleton_append]

/-! ## Rolling back and purging -/

/-- A staged record that is given up takes its key with it. -/
theorem Sound.tail (h : c.Sound (r :: staged)) :
    Sound { c with owners := withoutKeyOf c.owners r } staged := by
  have p : (c.records ++ r :: staged).Perm (r :: (c.records ++ staged)) := List.perm_middle
  have distinct := (p.map (·.id)).nodup_iff.1 h.distinct
  have owned : Owned c.owners (r :: (c.records ++ staged)) :=
    h.owned.congr fun _ => (p.map _).mem_iff
  exact ⟨⟨h.ascending, h.bounded, h.found⟩, h.indexed, owned.erase distinct,
    (List.nodup_cons.1 (List.map_cons ▸ distinct)).2⟩

/-- A rollback gives up the keys of staged records one after the other. -/
theorem Sound.releaseKeys_cons {rest : List Record} (h : c.Sound (r :: (rest ++ staged))) :
    c.releaseKeys (r :: rest) =
      Contents.releaseKeys { c with owners := withoutKeyOf c.owners r } rest := by
  unfold Contents.releaseKeys withoutKeyOf
  rw [List.foldl_cons]
  cases hkey : r.dedupeKey with
  | none => rfl
  | some key => simp [Contents.releaseKey, h.owner (by simp) hkey]

/-- **A rollback is exact.** Giving up the keys of staged records leaves the tables as they belong
to the others. -/
theorem Sound.releaseKeys {rs : List Record} (h : c.Sound (rs ++ staged)) :
    (c.releaseKeys rs).Sound staged := by
  induction rs generalizing c with
  | nil => exact h
  | cons r rest ih =>
    rw [Sound.releaseKeys_cons h]
    exact ih (c := { c with owners := withoutKeyOf c.owners r }) (Sound.tail h)

/-- The rows are one of them and those that stay when it is taken out. -/
theorem Filed.perm_remove (h : c.Filed) {row : Nat × Record} (hrow : row ∈ c.rows) :
    c.records.Perm (row.2 :: (c.remove row).records) := by
  obtain ⟨front, back, hsplit⟩ := List.append_of_mem hrow
  have ascending := h.ascending
  rw [hsplit, List.pairwise_append] at ascending
  obtain ⟨-, hback, hfront⟩ := ascending
  have keep_front : front.filter (·.1 ≠ row.1) = front := by
    refine List.filter_eq_self.2 fun row' hrow' => ?_
    have := hfront row' hrow' row List.mem_cons_self
    simp only [ne_eq, decide_not, Bool.not_eq_true', decide_eq_false_iff_not]
    omega
  have keep_back : back.filter (·.1 ≠ row.1) = back := by
    refine List.filter_eq_self.2 fun row' hrow' => ?_
    have := (List.pairwise_cons.1 hback).1 row' hrow'
    simp only [ne_eq, decide_not, Bool.not_eq_true', decide_eq_false_iff_not]
    omega
  have rows : (c.remove row).rows = front ++ back := by
    simp only [Contents.remove, hsplit, List.filter_append, keep_front]
    rw [List.filter_cons_of_neg (by simp), keep_back]
  simp only [records, rows, hsplit, List.map_append, List.map_cons]
  exact List.perm_middle

theorem Sound.remove (h : c.Sound staged) {row : Nat × Record} (hrow : row ∈ c.rows) :
    (c.remove row).Sound staged := by
  have p : (c.records ++ staged).Perm (row.2 :: ((c.remove row).records ++ staged)) :=
    (h.toFiled.perm_remove hrow).append_right staged
  have distinct := (p.map (·.id)).nodup_iff.1 h.distinct
  have owned : Owned c.owners (row.2 :: ((c.remove row).records ++ staged)) :=
    h.owned.congr fun _ => (p.map _).mem_iff
  have others := (List.nodup_cons.1 (List.map_cons ▸ distinct)).1
  refine ⟨h.toFiled.remove hrow, ?_, owned.erase distinct,
    (List.nodup_cons.1 (List.map_cons ▸ distinct)).2⟩
  intro row' hrow'
  have hne : row'.2.id ≠ row.2.id := by
    intro heq
    refine others (heq ▸ List.mem_map_of_mem (List.mem_append_left _ ?_))
    exact List.mem_map_of_mem (f := (·.2)) hrow'
  simp only [Contents.remove, Table.get?_erase, if_neg hne]
  exact h.indexed row' (List.mem_filter.1 hrow').1

/-- A purge frees the keys of what it removes. -/
theorem Sound.purge (h : c.Sound staged) (cutoff : Instant) :
    (c.purge cutoff).2.Sound staged := by
  have removes : ∀ (gone : List (Nat × Record)) (c : Contents), c.Sound staged →
      (∀ row ∈ gone, row ∈ c.rows) → gone.Pairwise (·.1 ≠ ·.1) →
      (gone.foldl Contents.remove c).Sound staged := by
    intro gone
    induction gone with
    | nil => exact fun c h _ _ => h
    | cons row rest ih =>
      intro c h sub distinct
      obtain ⟨hhead, hrest⟩ := List.pairwise_cons.1 distinct
      refine ih (c.remove row) (h.remove (sub row List.mem_cons_self)) (fun row' hrow' => ?_) hrest
      refine List.mem_filter.2 ⟨sub row' (List.mem_cons_of_mem _ hrow'), ?_⟩
      simpa using (hhead row' hrow').symm
  have numbers : c.rows.Pairwise (·.1 ≠ ·.1) := h.ascending.imp Nat.ne_of_lt
  exact removes _ c h (fun row hrow => (List.mem_filter.1 hrow).1) (numbers.filter _)

end
end EventRelay.Contents
