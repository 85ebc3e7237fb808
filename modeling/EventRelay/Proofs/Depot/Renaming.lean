import EventRelay.Proofs.Depot.Exactness
import EventRelay.Proofs.Depot.Soundness
import EventRelay.Proofs.Store.Renaming
import Mathlib.Logic.Equiv.Basic

/-!
# Depots under other ids

What clients do under other ids is answered in the same way, under the other ids, and leads to the
same depot under these ids (`rename_run`). A renaming that leaves alone the ids made in a history
leaves alone what the history has led to (`rename_eq_self`), and new ids can be exchanged for any
other new ids by a renaming that leaves alone all that are known (`Uuid.exists_renaming`).
-/

namespace EventRelay

/-- New ids can be exchanged for other new ids, and the known ones stay. -/
theorem Uuid.exists_renaming (known : List Uuid) {ids ids' : List Uuid}
    (len : ids.length = ids'.length) (new : (known ++ ids).Nodup) (new' : (known ++ ids').Nodup) :
    ∃ f : Uuid → Uuid, f.Injective ∧ (∀ id ∈ known, f id = id) ∧ ids.map f = ids' := by
  suffices ∃ f : Equiv.Perm Uuid, (∀ id ∈ known, f id = id) ∧ ids.map f = ids' by
    obtain ⟨f, h⟩ := this
    exact ⟨f, f.injective, h⟩
  induction ids generalizing ids' with
  | nil => exact ⟨Equiv.refl Uuid, fun _ _ => rfl, (List.length_eq_zero_iff.1 len.symm).symm⟩
  | cons id rest ih =>
    obtain ⟨id', rest', rfl⟩ : ∃ id' rest', ids' = id' :: rest' := by
      cases ids' with
      | nil => cases len
      | cons id' rest' => exact ⟨id', rest', rfl⟩
    have shorter : ∀ {x : Uuid} {xs : List Uuid}, (known ++ x :: xs).Nodup → (known ++ xs).Nodup :=
      fun h => h.sublist ((List.sublist_cons_self ..).append_left _)
    obtain ⟨g, fixed, mapped⟩ := ih (Nat.succ.inj len) (shorter new) (shorter new')
    obtain ⟨-, -, id_new⟩ := List.nodup_append.1 new
    obtain ⟨-, rest_new', id_new'⟩ := List.nodup_append.1 new'
    have unequal := (List.nodup_cons.1 (List.nodup_append.1 new).2.1).1
    -- Where the renaming of the rest does not lead to one of the two, the exchange does nothing.
    have same : ∀ x, x ≠ id → g x ≠ id' → Equiv.swap (g id) id' (g x) = g x := fun x hx hx' =>
      Equiv.swap_apply_of_ne_of_ne (fun heq => hx (g.injective heq)) hx'
    refine ⟨g.trans (Equiv.swap (g id) id'), fun x hx => ?_, ?_⟩
    · have hne : g x ≠ id' := by
        rw [fixed x hx]
        exact id_new' x hx id' List.mem_cons_self
      exact (same x (id_new x hx id List.mem_cons_self) hne).trans (fixed x hx)
    · rw [List.map_cons, ← mapped]
      refine congrArg₂ List.cons (Equiv.swap_apply_left ..) (List.map_congr_left fun x hx => ?_)
      refine same x (by rintro rfl; exact unequal hx) fun heq => ?_
      exact (List.nodup_cons.1 rest_new').1 (mapped ▸ heq ▸ List.mem_map_of_mem hx)

def Store.rename (f : Uuid → Uuid) (s : Store) : Store :=
  { s with contents := s.contents.rename f }

def Transaction.rename (f : Uuid → Uuid) (tx : Transaction) : Transaction :=
  { tx with staged := tx.staged.map (·.rename f) }

@[simp] theorem Transaction.staged_rename (f : Uuid → Uuid) (tx : Transaction) :
    (tx.rename f).staged = tx.staged.map (·.rename f) := rfl

/-- The operation on the record with another id, or with another id for a new record. -/
def Operation.rename (f : Uuid → Uuid) : Operation → Operation
  | .enqueue n id e now => .enqueue n (f id) e now
  | .stage n t id e now => .stage n t (f id) e now
  | .markPublished n id now => .markPublished n (f id) now
  | .reschedule n policy id error attempts now => .reschedule n policy (f id) error attempts now
  | .get n id => .get n (f id)
  | op => op

def Answer.rename (f : Uuid → Uuid) : Answer → Answer
  | .record r => .record (r.map (·.rename f))
  | .records rs => .records (rs.map (·.rename f))
  | a => a

namespace Depot

def rename (f : Uuid → Uuid) (d : Depot) : Depot where
  stores := d.stores.map (·.rename f)
  transactions := d.transactions.map (Option.map (·.rename f))

section
variable (f : Uuid → Uuid) (d : Depot) (n t k : Nat) (c : Contents) (b : Option Transaction)

@[simp] theorem rename_start : (start k).rename f = start k := by
  simp [rename, start, Store.empty, Store.rename]

@[simp] theorem length_stores_rename : (d.rename f).stores.length = d.stores.length :=
  List.length_map ..

@[simp] theorem length_transactions_rename :
    (d.rename f).transactions.length = d.transactions.length :=
  List.length_map ..

/-- The contents of a renamed depot are the renamed contents. -/
theorem contents?_rename : (d.rename f).contents? n = (d.contents? n).map (·.rename f) := by
  simp [contents?, rename, Function.comp_def, Store.rename]

theorem open?_rename : (d.rename f).open? t = (d.open? t).map (·.rename f) := by
  unfold open? rename
  rw [List.getElem?_map]
  cases d.transactions[t]? with
  | none => rfl
  | some b => rfl

theorem rename_put : (d.put n c).rename f = (d.rename f).put n (c.rename f) := by
  simp [rename, put, List.map_set, Store.rename]

theorem rename_begun :
    ({ d with transactions := d.transactions ++ [some (.on n)] } : Depot).rename f =
      { d.rename f with transactions := (d.rename f).transactions ++ [some (.on n)] } := by
  simp only [rename, List.map_append]
  rfl

theorem rename_setTransaction :
    (d.setTransaction t b).rename f =
      (d.rename f).setTransaction t (b.map (·.rename f)) := by
  simp [rename, setTransaction, List.map_set]

end

section
variable {f : Uuid → Uuid} {d d' : Depot} {op : Operation} {a : Answer}

/-- Other ids do not poison a lock. -/
theorem Healthy.rename (h : d.Healthy) : (d.rename f).Healthy := by
  constructor
  · intro s hs
    obtain ⟨s₀, hs₀, rfl⟩ := List.mem_map.1 hs
    exact h.unpoisoned s₀ hs₀
  · intro t tx htx
    rw [open?_rename] at htx
    obtain ⟨tx₀, htx₀, rfl⟩ := Option.map_eq_some_iff.1 htx
    rw [length_stores_rename]
    exact h.placed t tx₀ htx₀

/-- **One step under other ids.** -/
theorem Effect.rename (hf : f.Injective) (hd : Effect d op a d') :
    Effect (d.rename f) (op.rename f) (a.rename f) (d'.rename f) := by
  have stored : ∀ {n c}, d.contents? n = some c →
      (d.rename f).contents? n = some (c.rename f) := by
    intro n c hc
    rw [contents?_rename, hc]
    rfl
  have opened : ∀ {t tx}, d.open? t = some tx → (d.rename f).open? t = some (tx.rename f) := by
    intro t tx htx
    rw [open?_rename, htx]
    rfl
  cases hd with
  | invalid h => exact .invalid h
  | entered hc h =>
    rw [rename_put]
    refine .entered (stored hc) ?_
    rw [← Record.rename_ofEvent, Contents.insert?_rename hf, h]
    rfl
  | duplicate hc h =>
    refine .duplicate (stored hc) ?_
    rw [← Record.rename_ofEvent, Contents.insert?_rename hf, h]
    rfl
  | begun hn =>
    have := Effect.begun (d := d.rename f) (length_stores_rename f d ▸ hn)
    rw [length_transactions_rename] at this
    rwa [rename_begun]
  | staged htx hn hc h =>
    rename_i n t id e now tx c c'
    have h' : (c.rename f).reserveFor? (.ofEvent (f id) e now) = some (c'.rename f) := by
      rw [← Record.rename_ofEvent, Contents.reserveFor?_rename hf, h]
      rfl
    have := Effect.staged (opened htx) hn (stored hc) h'
    rw [Transaction.staged_rename] at this
    rw [rename_setTransaction, rename_put, Option.map_some, Transaction.rename, List.map_append]
    exact this
  | notStaged htx h => exact .notStaged (opened htx) h
  | stagedDuplicate htx hn hc h =>
    refine .stagedDuplicate (opened htx) hn (stored hc) ?_
    rw [← Record.rename_ofEvent, Contents.reserveFor?_rename hf, h]
    rfl
  | committed htx hn hc =>
    have := Effect.committed (opened htx) hn (stored hc)
    rw [Transaction.staged_rename, Contents.insertAll_rename hf] at this
    rwa [rename_setTransaction, rename_put]
  | misdirected htx hn hc =>
    have := Effect.misdirected (opened htx) hn (stored hc)
    rw [Transaction.staged_rename, Contents.releaseKeys_rename hf] at this
    rwa [rename_setTransaction, rename_put]
  | rolledBack htx hc =>
    have := Effect.rolledBack (opened htx) (stored hc)
    rw [Transaction.staged_rename, Contents.releaseKeys_rename hf] at this
    rwa [rename_setTransaction, rename_put]
  | claimed hc =>
    rename_i n policy limit worker now c
    have : Effect (d.rename f) (.claimBatch n policy limit worker now) _ _ := .claimed (stored hc)
    rw [Contents.claimUpTo_rename] at this
    rwa [rename_put]
  | claimedOne hc h =>
    rw [rename_put]
    refine .claimedOne (stored hc) ?_
    rw [Contents.claimOne?_rename, h]
    rfl
  | claimedNone hc h =>
    refine .claimedNone (stored hc) ?_
    rw [Contents.claimOne?_rename, h]
    rfl
  | marked hc =>
    rename_i n id now c
    have : Effect (d.rename f) (.markPublished n (f id) now) _ _ := .marked (stored hc)
    rw [Contents.update_rename hf c id (g := (·.markPublished now)) fun _ => rfl] at this
    rwa [rename_put]
  | rescheduled hc =>
    rename_i n policy id error attempts now c
    have : Effect (d.rename f) (.reschedule n policy (f id) error attempts now) _ _ :=
      .rescheduled (stored hc)
    rw [Contents.update_rename hf c id
      (g := (·.reschedule error (now.later (policy.backoff.delay attempts)))) fun _ => rfl] at this
    rwa [rename_put]
  | recovered hc =>
    rename_i n threshold now c
    have : Effect (d.rename f) (.recoverStuck n threshold now) _ _ := .recovered (stored hc)
    rw [Contents.recover_rename] at this
    rwa [rename_put]
  | purged hc =>
    rename_i n retention now c
    have : Effect (d.rename f) (.purgePublished n retention now) _ _ := .purged (stored hc)
    rw [Contents.purge_rename hf] at this
    rwa [rename_put]
  | got hc =>
    rename_i n id c
    have : Effect (d.rename f) (.get n (f id)) _ _ := .got (stored hc)
    rwa [Contents.get?_rename hf] at this
  | exhausted hc =>
    rename_i n policy limit c
    have : Effect (d.rename f) (.exhausted n policy limit) _ _ := .exhausted (stored hc)
    simpa [Answer.rename, Operation.rename, List.filter_map, Function.comp_def, List.map_take,
      show ∀ r : Record, (r.rename f).exhausted policy.maxAttempts =
        r.exhausted policy.maxAttempts from fun _ => rfl] using this
  | seen hc =>
    have := Effect.seen (stored hc)
    rwa [Contents.records_rename] at this
  | sized hc =>
    have := Effect.sized (stored hc)
    rwa [Contents.rows_rename, List.length_map] at this

theorem Admits.rename (h : d.Admits op a) : (d.rename f).Admits (op.rename f) (a.rename f) := by
  cases op with
  | enqueue n id e now =>
    cases a with
    | failed failure =>
      change n < (d.rename f).stores.length
      rwa [length_stores_rename]
    | record r => exact h
    | _ => trivial
  | stage n t id e now =>
    cases a with
    | record r => exact h
    | _ => trivial
  | _ => trivial

/-- **Ids are only names.** What is done under some ids is done in the same way under others, as
long as different ids get different names. -/
theorem Healthy.does_rename (h : d.Healthy) (hf : f.Injective) (hd : d.Does (op, a) d') :
    (d.rename f).Does (op.rename f, a.rename f) (d'.rename f) := by
  obtain ⟨effect, admits⟩ := h.does_iff.1 hd
  exact h.rename.does_iff.2 ⟨effect.rename hf, admits.rename⟩

end

/-! ## Runs -/

def Moment.rename (f : Uuid → Uuid) (x : Moment) : Moment :=
  ⟨x.before.rename f, (x.event.1.rename f, x.event.2.rename f), x.after.rename f⟩

section
variable {f : Uuid → Uuid} {d d' : Depot} {history : List Moment}

/-- **A run under other ids.** -/
theorem rename_run (h : d.Healthy) (hf : f.Injective) (run : Run Does d history d') :
    Run Does (d.rename f) (history.map (Moment.rename f)) (d'.rename f) := by
  induction history generalizing d with
  | nil => exact congrArg (Depot.rename f) run
  | cons x rest ih =>
    obtain ⟨rfl, hx, rest_run⟩ := run
    exact ⟨rfl, h.does_rename hf hx, ih ((h.effect hx).healthy h).1 rest_run⟩

/-- An operation with an id that is not known changes nothing, and every other operation is the same
under a renaming that leaves the known ids alone. -/
theorem Consistent.unknown_or_same {past : List Moment} {op : Operation} {a : Answer}
    (h : Consistent past d) (hd : Effect d op a d') (fixed : ∀ id ∈ madeIds past, f id = id)
    (made : ∀ id, op.made = some id → f id = id) : d' = d ∨ op.rename f = op := by
  have settled : ∀ {n c id} (g : Record → Record), d.contents? n = some c →
      d.put n (c.update id g) = d ∨ f id = id := by
    intro n c id g hc
    cases hindex : c.index.get? id with
    | none =>
      refine .inl ?_
      unfold Contents.update
      rw [hindex]
      exact h.healthy.put_self hc
    | some seq =>
      obtain ⟨r, hrow, rfl⟩ := (h.sound n c hc).found id seq hindex
      refine .inr (fixed _ (h.known n r (List.mem_append_left _ ?_)))
      rw [records_eq hc]
      exact List.mem_map_of_mem hrow
  cases hd with
  | marked hc => exact (settled _ hc).imp_right fun same => by rw [Operation.rename, same]
  | rescheduled hc => exact (settled _ hc).imp_right fun same => by rw [Operation.rename, same]
  | invalid | entered | duplicate | staged | notStaged | stagedDuplicate =>
    exact .inr (by rw [Operation.rename, made _ rfl])
  | got => exact .inl rfl
  | _ => exact .inr rfl

/-- **What has come about does not change by renaming ids that nobody knows.** -/
theorem rename_eq_self {k : Nat} (run : Run Does (start k) history d) (fresh : FreshIds history)
    (hf : f.Injective) (fixed : ∀ id ∈ madeIds history, f id = id) : d.rename f = d := by
  refine Run.along (P := fun _ d => d.rename f = d) ?_ run (rename_start f k)
  rintro past x later rfl same hx
  obtain ⟨consistent, effect, -, -⟩ := cut_run run fresh
  have made : ∀ id, x.event.1.made = some id → f id = id := fun id hid =>
    fixed id (List.mem_filterMap.2 ⟨x, by simp, hid⟩)
  rcases consistent.unknown_or_same effect (fun id hid => fixed id (mem_madeIds_append hid)) made
    with unchanged | same_op
  · rw [unchanged, same]
  · have renamed := consistent.healthy.does_rename hf hx
    rw [same, same_op] at renamed
    have : some (x.event.2.rename f, x.after.rename f) = some (x.event.2, x.after) :=
      renamed.symm.trans hx
    exact congrArg Prod.snd (Option.some.inj this)

end

end Depot
end EventRelay
