import EventRelay.Proofs.Store.Guise

/-!
# Other ids

Ids are made at random, and a store does nothing with them but compare them. So what it does is the
same under other ids: each operation on contents commutes with an injective renaming of the ids in
all records and tables.
-/

namespace EventRelay

/-! ## Records -/

namespace Record

def rename (f : Uuid → Uuid) (r : Record) : Record := { r with id := f r.id }

section
variable (f : Uuid → Uuid) (r : Record)

@[simp] theorem id_rename : (r.rename f).id = f r.id := rfl

@[simp] theorem dedupeKey_rename : (r.rename f).dedupeKey = r.dedupeKey := rfl

@[simp] theorem rename_ofEvent (id : Uuid) (e : Event) (now : Instant) :
    (ofEvent id e now).rename f = ofEvent (f id) e now := rfl

end
end Record

def Guise.ofIds (f : Uuid → Uuid) : Guise where
  id := f
  record := Record.rename f
  id_record _ := rfl
  dedupeKey_record _ := rfl
  claimable_record _ _ _ := rfl
  stale_record _ _ := rfl
  expired_record _ _ := rfl
  exhausted_record _ _ := rfl
  claim_record _ _ _ := rfl
  release_record _ := rfl
  markPublished_record _ _ := rfl
  reschedule_record _ _ _ := rfl

/-! ## Contents -/

namespace Contents

def rename (f : Uuid → Uuid) (c : Contents) : Contents where
  rows := c.rows.map fun row => (row.1, row.2.rename f)
  index := c.index.mapKeys f
  owners := c.owners.mapValues f
  nextSeq := c.nextSeq

section
variable (f : Uuid → Uuid) (c : Contents)

@[simp] theorem rename_empty : Contents.empty.rename f = .empty := rfl

@[simp] theorem rows_rename :
    (c.rename f).rows = c.rows.map fun row => (row.1, row.2.rename f) := rfl

@[simp] theorem records_rename : (c.rename f).records = c.records.map (·.rename f) :=
  c.records_disguise (.ofIds f)

/-- Which record a claim takes does not depend on the ids. -/
theorem claimOne?_rename (policy : Policy) (worker : String) (now : Instant) :
    (c.rename f).claimOne? policy worker now =
      (c.claimOne? policy worker now).map fun x => (x.1.rename f, x.2.rename f) :=
  c.claimOne?_disguise (.ofIds f) policy worker now

theorem claimUpTo_rename (policy : Policy) (worker : String) (now : Instant) (limit : Nat) :
    claimUpTo policy worker now limit (c.rename f) =
      ((claimUpTo policy worker now limit c).1.map (·.rename f),
        (claimUpTo policy worker now limit c).2.rename f) :=
  c.claimUpTo_disguise (.ofIds f) policy worker now limit

theorem recover_rename (cutoff : Instant) :
    (c.rename f).recover cutoff = ((c.recover cutoff).1, (c.recover cutoff).2.rename f) :=
  c.recover_disguise (.ofIds f) cutoff

end

section
variable {f : Uuid → Uuid} (hf : f.Injective) (c : Contents)
include hf

theorem reserveFor?_rename (r : Record) :
    (c.rename f).reserveFor? (r.rename f) = (c.reserveFor? r).map (·.rename f) :=
  reserveFor?_disguise (g := .ofIds f) hf c r

theorem insert?_rename (r : Record) :
    (c.rename f).insert? (r.rename f) = (c.insert? r).map (·.rename f) :=
  insert?_disguise (g := .ofIds f) hf c r

/-- How many of several records are taken in does not depend on the ids. -/
theorem insertAll_rename (rs : List Record) :
    (c.rename f).insertAll (rs.map (·.rename f)) =
      ((c.insertAll rs).1, (c.insertAll rs).2.rename f) :=
  insertAll_disguise (g := .ofIds f) hf c rs

theorem releaseKeys_rename (rs : List Record) :
    (c.rename f).releaseKeys (rs.map (·.rename f)) = (c.releaseKeys rs).rename f :=
  releaseKeys_disguise (g := .ofIds f) hf c rs

theorem get?_rename (id : Uuid) :
    (c.rename f).get? (f id) = (c.get? id).map (·.rename f) :=
  get?_disguise (g := .ofIds f) hf c id

/-- Settling, where what is noted does not depend on the id. -/
theorem update_rename (id : Uuid) {g : Record → Record}
    (hg : ∀ r, g (r.rename f) = (g r).rename f) :
    (c.rename f).update (f id) g = (c.update id g).rename f :=
  update_disguise (g := .ofIds f) hf c id hg

theorem purge_rename (cutoff : Instant) :
    (c.rename f).purge cutoff = ((c.purge cutoff).1, (c.purge cutoff).2.rename f) :=
  purge_disguise (g := .ofIds f) hf c cutoff

end
end Contents
end EventRelay
