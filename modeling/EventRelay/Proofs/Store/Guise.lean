import EventRelay.Store.Contents
import Mathlib.Logic.Function.Basic

/-!
# Records in another guise

Of a record's id a store asks only whether it is another's, and some fields of a record it does not
look at at all. So what it does is the same for records in another guise, under other ids and with
other such fields: each operation on contents commutes with putting all records and tables into the
guise. The other ids reach the keys of the index and the values of the table of owners.
-/

namespace EventRelay

/-! ## Tables -/

/-- The value of a key in a list of pairs with other values. -/
theorem lookup_mapValues {κ ν ν' : Type} [BEq κ] (f : ν → ν') (l : List (κ × ν)) (k : κ) :
    (l.map fun x => (x.1, f x.2)).lookup k = (l.lookup k).map f := by
  induction l with
  | nil => rfl
  | cons x rest ih =>
    obtain ⟨k', v⟩ := x
    simp only [List.map_cons, List.lookup_cons]
    cases k == k' with
    | true => rfl
    | false => exact ih

namespace Table

variable {κ κ' ν ν' : Type}

def mapKeys (f : κ → κ') (t : Table κ ν) : Table κ' ν := ⟨t.entries.map fun e => (f e.1, e.2)⟩

def mapValues (g : ν → ν') (t : Table κ ν) : Table κ ν' := ⟨t.entries.map fun e => (e.1, g e.2)⟩

section
variable [DecidableEq κ] (t : Table κ ν) (g : ν → ν') (k : κ)

theorem get?_mapValues : (t.mapValues g).get? k = (t.get? k).map g := by
  simp only [get?, mapValues, List.find?_map, Function.comp_def, Option.map_map]

theorem erase_mapValues : (t.mapValues g).erase k = (t.erase k).mapValues g := by
  simp only [erase, mapValues, List.filter_map, Function.comp_def]

theorem insert_mapValues (v : ν) : (t.mapValues g).insert k (g v) = (t.insert k v).mapValues g := by
  simp only [insert, erase_mapValues]
  rfl

end

section
variable [DecidableEq κ] [DecidableEq κ'] (t : Table κ ν) {f : κ → κ'} (hf : f.Injective) (k : κ)
include hf

theorem get?_mapKeys : (t.mapKeys f).get? (f k) = t.get? k := by
  simp only [get?, mapKeys, List.find?_map, Function.comp_def, hf.eq_iff, Option.map_map]

theorem erase_mapKeys : (t.mapKeys f).erase (f k) = (t.erase k).mapKeys f := by
  simp only [erase, mapKeys, List.filter_map, Function.comp_def, ne_eq, hf.eq_iff]

theorem insert_mapKeys (v : ν) : (t.mapKeys f).insert (f k) v = (t.insert k v).mapKeys f := by
  simp only [insert, erase_mapKeys t hf]
  rfl

end
end Table

/-! ## Guises -/

/-- Records in another guise, in which a store does the same with them. -/
structure Guise where
  id : Uuid → Uuid
  record : Record → Record
  id_record : ∀ r, (record r).id = id r.id
  dedupeKey_record : ∀ r, (record r).dedupeKey = r.dedupeKey
  claimable_record : ∀ r now limit, (record r).claimable now limit = r.claimable now limit
  stale_record : ∀ r cutoff, (record r).stale cutoff = r.stale cutoff
  expired_record : ∀ r cutoff, (record r).expired cutoff = r.expired cutoff
  exhausted_record : ∀ r limit, (record r).exhausted limit = r.exhausted limit
  claim_record : ∀ r worker now, (record r).claim worker now = record (r.claim worker now)
  release_record : ∀ r, (record r).release = record r.release
  markPublished_record : ∀ r now, (record r).markPublished now = record (r.markPublished now)
  reschedule_record : ∀ r error next,
    (record r).reschedule error next = record (r.reschedule error next)

/-! ## Contents -/

namespace Contents

/-- The contents in another guise. -/
def disguise (g : Guise) (c : Contents) : Contents where
  rows := c.rows.map fun row => (row.1, g.record row.2)
  index := c.index.mapKeys g.id
  owners := c.owners.mapValues g.id
  nextSeq := c.nextSeq

section
variable (g : Guise) (c : Contents)

@[simp] theorem disguise_empty : Contents.empty.disguise g = .empty := rfl

@[simp] theorem rows_disguise :
    (c.disguise g).rows = c.rows.map fun row => (row.1, g.record row.2) := rfl

@[simp] theorem records_disguise : (c.disguise g).records = c.records.map g.record := by
  simp [records, Function.comp_def]

theorem disguise_rows (rows : List (Nat × Record)) :
    ({ c with rows := rows } : Contents).disguise g =
      { c.disguise g with rows := rows.map fun row => (row.1, g.record row.2) } := rfl

/-- Changing the first record that satisfies a condition, where the guise hides neither. -/
theorem changeFirst?_disguise {p : Record → Bool} {f : Record → Record}
    (hp : ∀ r, p (g.record r) = p r) (hf : ∀ r, f (g.record r) = g.record (f r))
    (rows : List (Nat × Record)) :
    changeFirst? p f (rows.map fun row => (row.1, g.record row.2)) =
      (changeFirst? p f rows).map fun x =>
        (g.record x.1, x.2.map fun row => (row.1, g.record row.2)) := by
  induction rows with
  | nil => rfl
  | cons row rest ih =>
    simp only [List.map_cons, changeFirst?, hp]
    split
    · simp [hf]
    · rw [ih]
      cases changeFirst? p f rest with
      | none => rfl
      | some x => rfl

/-- A claim looks at nothing that a guise may change. -/
theorem claimOne?_disguise (policy : Policy) (worker : String) (now : Instant) :
    (c.disguise g).claimOne? policy worker now =
      (c.claimOne? policy worker now).map fun x => (g.record x.1, x.2.disguise g) := by
  unfold claimOne?
  rw [rows_disguise, changeFirst?_disguise g
    (p := (·.claimable now policy.maxAttempts)) (f := (·.claim worker now))
    (fun r => g.claimable_record r now policy.maxAttempts) fun r => g.claim_record r worker now]
  cases changeFirst? (·.claimable now policy.maxAttempts) (·.claim worker now) c.rows with
  | none => rfl
  | some x => rfl

theorem claimUpTo_disguise (policy : Policy) (worker : String) (now : Instant) (limit : Nat) :
    claimUpTo policy worker now limit (c.disguise g) =
      ((claimUpTo policy worker now limit c).1.map g.record,
        (claimUpTo policy worker now limit c).2.disguise g) := by
  induction limit generalizing c with
  | zero => rfl
  | succ limit ih =>
    simp only [claimUpTo, claimOne?_disguise]
    cases c.claimOne? policy worker now with
    | none => rfl
    | some x => simp only [Option.map_some, ih, List.map_cons]

/-- A guise keeps what makes a lock stale. -/
theorem recover_disguise (cutoff : Instant) :
    (c.disguise g).recover cutoff = ((c.recover cutoff).1, (c.recover cutoff).2.disguise g) := by
  simp only [recover, records_disguise, List.filter_map, Function.comp_def, g.stale_record,
    List.length_map, disguise_rows, rows_disguise, List.map_map]
  congr 3
  funext row
  split
  · rw [g.release_record]
  · rfl

end

section
variable {g : Guise} (hg : g.id.Injective) (c : Contents)
include hg

/-- A key is reserved in disguise exactly if it is reserved without. -/
theorem reserve?_disguise (key : String) (id : Uuid) :
    (c.disguise g).reserve? key (g.id id) = (c.reserve? key id).map (·.disguise g) := by
  have owner : (c.disguise g).owners.get? key = (c.owners.get? key).map g.id :=
    Table.get?_mapValues c.owners g.id key
  unfold reserve?
  rw [owner]
  cases c.owners.get? key with
  | none =>
    simp only [Option.map_none, Option.map_some, disguise, Table.insert_mapValues]
  | some owner =>
    simp only [Option.map_some, hg.eq_iff]
    split
    · rfl
    · rfl

theorem reserveFor?_disguise (r : Record) :
    (c.disguise g).reserveFor? (g.record r) = (c.reserveFor? r).map (·.disguise g) := by
  unfold reserveFor?
  rw [g.dedupeKey_record]
  cases r.dedupeKey with
  | none => rfl
  | some key =>
    have own := reserve?_disguise hg c key r.id
    rwa [← g.id_record] at own

theorem append_disguise (r : Record) :
    (c.disguise g).append (g.record r) = (c.append r).disguise g := by
  simp only [append, disguise, List.map_append, List.map_cons, List.map_nil, g.id_record,
    Table.insert_mapKeys _ hg]

theorem insert?_disguise (r : Record) :
    (c.disguise g).insert? (g.record r) = (c.insert? r).map (·.disguise g) := by
  unfold insert?
  rw [reserveFor?_disguise hg]
  simp only [Option.map_map, Function.comp_def, append_disguise hg]

/-- As many records are taken in under a guise as without. -/
theorem insertAll_disguise (rs : List Record) :
    (c.disguise g).insertAll (rs.map g.record) =
      ((c.insertAll rs).1, (c.insertAll rs).2.disguise g) := by
  induction rs generalizing c with
  | nil => rfl
  | cons r rest ih =>
    simp only [List.map_cons, insertAll, insert?_disguise hg]
    cases c.insert? r with
    | none => exact ih c
    | some c' => simp only [Option.map_some, ih]

theorem releaseKey_disguise (key : String) (id : Uuid) :
    (c.disguise g).releaseKey key (g.id id) = (c.releaseKey key id).disguise g := by
  have owner : ((c.disguise g).owners.get? key = some (g.id id)) ↔ c.owners.get? key = some id := by
    rw [show (c.disguise g).owners.get? key = _ from Table.get?_mapValues c.owners g.id key]
    exact (Option.map_injective hg).eq_iff (a := c.owners.get? key) (b := some id)
  unfold releaseKey
  simp only [owner]
  split
  · simp only [disguise, Table.erase_mapValues]
  · rfl

theorem releaseKeys_disguise (rs : List Record) :
    (c.disguise g).releaseKeys (rs.map g.record) = (c.releaseKeys rs).disguise g := by
  unfold releaseKeys
  induction rs generalizing c with
  | nil => rfl
  | cons r rest ih =>
    simp only [List.map_cons, List.foldl_cons, g.dedupeKey_record]
    cases r.dedupeKey with
    | none => exact ih c
    | some key =>
      simp only [g.id_record, releaseKey_disguise hg]
      exact ih (c.releaseKey key r.id)

theorem index_disguise (id : Uuid) : (c.disguise g).index.get? (g.id id) = c.index.get? id :=
  Table.get?_mapKeys c.index hg id

/-- A record is found under the id that its guise gives it. -/
theorem get?_disguise (id : Uuid) :
    (c.disguise g).get? (g.id id) = (c.get? id).map g.record := by
  unfold get?
  rw [index_disguise hg]
  cases c.index.get? id with
  | none => rfl
  | some seq => exact lookup_mapValues g.record c.rows seq

/-- Settling, where the guise does not hide what is noted. -/
theorem update_disguise (id : Uuid) {f : Record → Record}
    (hf : ∀ r, f (g.record r) = g.record (f r)) :
    (c.disguise g).update (g.id id) f = (c.update id f).disguise g := by
  unfold update
  rw [index_disguise hg]
  cases c.index.get? id with
  | none => rfl
  | some seq =>
    simp only [updateAt, disguise_rows, rows_disguise, List.map_map]
    congr 2
    funext row
    simp only [Function.comp_apply]
    split
    · rw [hf]
    · rfl

theorem remove_disguise (row : Nat × Record) :
    (c.disguise g).remove (row.1, g.record row.2) = (c.remove row).disguise g := by
  unfold remove
  simp only [disguise, g.id_record, g.dedupeKey_record, Table.erase_mapKeys _ hg,
    List.filter_map, Function.comp_def]
  cases row.2.dedupeKey with
  | none => rfl
  | some key => simp only [Table.erase_mapValues]

/-- A guise keeps what makes a record expire. -/
theorem purge_disguise (cutoff : Instant) :
    (c.disguise g).purge cutoff = ((c.purge cutoff).1, (c.purge cutoff).2.disguise g) := by
  have removes : ∀ (gone : List (Nat × Record)) (c : Contents),
      (gone.map fun row => (row.1, g.record row.2)).foldl remove (c.disguise g) =
        (gone.foldl remove c).disguise g := by
    intro gone
    induction gone with
    | nil => exact fun _ => rfl
    | cons row rest ih =>
      intro c
      simp only [List.map_cons, List.foldl_cons, remove_disguise hg, ih]
  simp only [purge, rows_disguise, List.filter_map, Function.comp_def, g.expired_record,
    List.length_map, removes]

end
end Contents
end EventRelay
