import EventRelay.Proofs.Depot.Exactness
import EventRelay.Proofs.Depot.Transactions
import EventRelay.Proofs.Store.Freeing

/-!
# A depot without a transaction

What a depot would be if a transaction had never been begun: the keys that it has reserved are free,
and the numbers of those that were begun after it are one less (`Depot.without`). What is done with
the transaction itself, short of a commit to its own store, does not change this
(`Effect.without_own`). What others do they can do there as well, and they hear the same
(`Effect.without_other`), unless they ask for a key that the transaction has reserved
(`Interferes`).
-/

namespace EventRelay

def Event.validKey? (e : Event) : Option String :=
  match e.validate with
  | .ok () => e.dedupeKey
  | .error _ => none

def Operation.asks? : Operation → Option (Nat × String)
  | .enqueue n _ e _ | .stage n _ _ e _ => e.validKey?.map (n, ·)
  | _ => none

theorem Event.validKey?_eq {e : Event} {key : String} (valid : e.validate = .ok ())
    (h : e.dedupeKey = some key) : e.validKey? = some key := by
  simp [validKey?, valid, h]

/-- Enqueuing a valid event with a key asks the store for this key; staging it does the same. -/
theorem Operation.asks?_enqueue {e : Event} {key : String} (h : e.validKey? = some key) (n : Nat)
    (id : Uuid) (now : Instant) : (enqueue n id e now).asks? = some (n, key) :=
  congrArg (Option.map (n, ·)) h

theorem Operation.asks?_stage {e : Event} {key : String} (h : e.validKey? = some key) (n t : Nat)
    (id : Uuid) (now : Instant) : (stage n t id e now).asks? = some (n, key) :=
  congrArg (Option.map (n, ·)) h

namespace Depot

def reserves (d : Depot) (t n : Nat) : List String :=
  Contents.keysOf (stagedFor n (d.open? t))

/-- The depot as it would be if the transaction had never been begun. -/
def without (d : Depot) (t : Nat) : Depot where
  stores := d.stores.mapIdx fun n s => { s with contents := s.contents.freed (d.reserves t n) }
  transactions := d.transactions.eraseIdx t

def skip (t u : Nat) : Nat := if t < u then u - 1 else u

/-- What a client does and hears concerns the transaction: it is begun, or something is done with
it. -/
def concerns (t : Nat) : Operation × Answer → Bool
  | (.begin _, .count u) | (.stage _ u _ _ _, _) | (.commit _ u, _) | (.rollback u, _) => u = t
  | _ => false

/-- What a client does and hears, with the numbers of transactions as they are where the transaction
`t` was never begun. -/
def renumber (t : Nat) : Operation × Answer → Operation × Answer
  | (.begin n, .count u) => (.begin n, .count (skip t u))
  | (.stage n u id e now, a) => (.stage n (skip t u) id e now, a)
  | (.commit n u, a) => (.commit n (skip t u), a)
  | (.rollback u, a) => (.rollback (skip t u), a)
  | event => event

/-- What the others do and hear where the transaction was never begun. -/
def besides (t : Nat) (history : List Moment) : List (Operation × Answer) :=
  ((history.map (·.event)).filter fun event => !concerns t event).map (renumber t)

/-- At this moment another client asks for a key that the transaction has reserved. -/
def Interferes (t : Nat) (z : Moment) : Prop :=
  concerns t z.event = false ∧ ∃ asked ∈ z.event.1.asks?, asked.2 ∈ z.before.reserves t asked.1

instance (t : Nat) (z : Moment) : Decidable (Interferes t z) :=
  inferInstanceAs (Decidable (_ ∧ _))

section
variable {d d' : Depot} {n m t u : Nat} {c c' : Contents} {tx : Transaction}
  {b : Option Transaction}

/-! ## What is seen in it -/

theorem getElem?_stores_without (d : Depot) (t m : Nat) :
    (d.without t).stores[m]? =
      d.stores[m]?.map fun s => { s with contents := s.contents.freed (d.reserves t m) } :=
  List.getElem?_mapIdx

/-- Without the transaction a store has the same records, and the transaction's keys are free. -/
theorem contents?_without :
    (d.without t).contents? m = (d.contents? m).map (·.freed (d.reserves t m)) := by
  simp [contents?, getElem?_stores_without, Function.comp_def]

/-- A transaction that has ended reserves nothing. -/
theorem reserves_of_closed (h : d.open? t = none) : d.reserves t m = [] := by
  simp [reserves, h, stagedFor, Contents.keysOf]

theorem reserves_eq (h : d.open? t = some tx) :
    d.reserves t m = if tx.store = m then Contents.keysOf tx.staged else [] := by
  unfold reserves
  rw [h, stagedFor]
  split
  · rfl
  · rfl

/-- The other transactions are open as they were, under numbers that close the gap. -/
theorem open?_without (h : u ≠ t) : (d.without t).open? (skip t u) = d.open? u := by
  unfold open? without skip
  rw [List.getElem?_eraseIdx]
  split
  · rename_i hlt
    rw [if_neg (by omega), Nat.sub_add_cancel (by omega)]
  · rw [if_pos (by omega)]

@[simp] theorem length_stores_without : (d.without t).stores.length = d.stores.length :=
  List.length_mapIdx

theorem length_transactions_without :
    (d.without t).transactions.length = skip t d.transactions.length := by
  unfold without skip
  rw [List.length_eraseIdx]

/-- Leaving a transaction out poisons no lock. -/
theorem Healthy.without (h : d.Healthy) : (d.without t).Healthy := by
  constructor
  · intro s hs
    obtain ⟨i, hi, rfl⟩ := List.mem_mapIdx.1 hs
    exact h.unpoisoned d.stores[i] (List.getElem_mem hi)
  · intro u tx htx
    have : some tx ∈ d.transactions :=
      List.mem_of_mem_eraseIdx (List.mem_of_getElem? (open?_eq_some.1 htx))
    obtain ⟨v, hv⟩ := List.getElem?_of_mem this
    rw [length_stores_without]
    exact h.placed v tx (open?_eq_some.2 hv)

/-- Once the transaction is over, the stores are as they would be without it. -/
theorem stores_without_of_closed (h : d.open? t = none) : (d.without t).stores = d.stores := by
  unfold without
  simp only [reserves_of_closed h, Contents.freed_nil]
  exact List.ext_getElem? fun i => by simp

@[simp] theorem without_start (k t : Nat) : (start k).without t = start k :=
  congrArg₂ Depot.mk (stores_without_of_closed rfl) rfl

/-! ## Changes -/

/-- What happens to the contents happens to them without the reserved keys as well. -/
theorem without_put :
    (d.put n c').without t = (d.without t).put n (c'.freed (d.reserves t n)) := by
  have stores : ((d.put n c').without t).stores =
      ((d.without t).put n (c'.freed (d.reserves t n))).stores := by
    refine List.ext_getElem? fun i => ?_
    have same : (d.put n c').reserves t i = d.reserves t i := rfl
    simp only [without, put, List.getElem?_mapIdx, List.getElem?_set, List.length_mapIdx]
    split
    · rename_i heq
      subst heq
      split
      · rfl
      · rfl
    · rfl
  exact congrArg (Depot.mk · (d.transactions.eraseIdx t)) stores

theorem stores_without_congr (stores : d'.stores = d.stores)
    (same : ∀ m, d'.reserves t m = d.reserves t m) :
    (d'.without t).stores = (d.without t).stores := by
  unfold without
  simp only [stores, same]

/-- What becomes of another transaction becomes of it there, too. -/
theorem without_setTransaction (hne : u ≠ t) :
    (d.setTransaction u b).without t = (d.without t).setTransaction (skip t u) b := by
  have same : ∀ m, (d.setTransaction u b).reserves t m = d.reserves t m := by
    intro m
    unfold reserves open? setTransaction
    rw [List.getElem?_set_ne hne]
  have transactions : (d.transactions.set u b).eraseIdx t =
      (d.transactions.eraseIdx t).set (skip t u) b := by
    rw [List.eraseIdx_set, skip]
    split
    · rfl
    · rw [if_neg hne.symm]
  exact congrArg₂ Depot.mk (stores_without_congr rfl same) transactions

theorem without_begun (hne : d.transactions.length ≠ t) (b : Option Transaction) :
    ({ d with transactions := d.transactions ++ [b] } : Depot).without t =
      { d.without t with transactions := (d.without t).transactions ++ [b] } := by
  have same : ∀ m, ({ d with transactions := d.transactions ++ [b] } : Depot).reserves t m =
      d.reserves t m := by
    intro m
    unfold reserves open?
    rw [List.getElem?_append]
    split
    · rfl
    · rw [List.getElem?_eq_none (by simp; omega), List.getElem?_eq_none (by omega)]
  have transactions : (d.transactions ++ [b]).eraseIdx t = d.transactions.eraseIdx t ++ [b] := by
    rcases Nat.lt_or_gt_of_ne hne with hlt | hlt
    · rw [List.eraseIdx_of_length_le (by simp; omega), List.eraseIdx_of_length_le (by omega)]
    · exact List.eraseIdx_append_of_lt_length hlt [b]
  exact congrArg₂ Depot.mk (stores_without_congr rfl same) transactions

/-! ## What is done with the transaction itself -/

/-- The transaction and its store change, and the store without the keys of the transaction is as it
was without them. -/
theorem without_own_change (healthy : d.Healthy) (htx : d.open? t = some tx)
    (hc : d.contents? tx.store = some c) (hb : ∀ tx', b = some tx' → tx'.store = tx.store)
    (same : c'.freed (Contents.keysOf (stagedFor tx.store b)) =
      c.freed (Contents.keysOf tx.staged)) :
    ((d.put tx.store c').setTransaction t b).without t = d.without t := by
  have opened : ((d.put tx.store c').setTransaction t b).open? t = b := by
    rw [open?_put_setTransaction htx, if_pos rfl]
  have elsewhere : ∀ i, i ≠ tx.store → stagedFor i b = [] := by
    intro i hi
    cases b with
    | none => rfl
    | some tx' => exact if_neg (by rw [hb tx' rfl]; exact hi.symm)
  have stores : (((d.put tx.store c').setTransaction t b).without t).stores =
      (d.without t).stores := by
    refine List.ext_getElem? fun i => ?_
    have after : ((d.put tx.store c').setTransaction t b).reserves t i =
        Contents.keysOf (stagedFor i b) := by rw [reserves, opened]
    rw [getElem?_stores_without, getElem?_stores_without, after, reserves, htx]
    change Option.map _ (d.stores.set tx.store ⟨c', false⟩)[i]? = _
    by_cases hi : i = tx.store
    · subst hi
      have hs := healthy.store hc
      rw [List.getElem?_set_self (List.getElem?_eq_some_iff.1 hs).1, hs, Option.map_some, same,
        stagedFor, if_pos rfl]
      rfl
    · rw [List.getElem?_set_ne (Ne.symm hi), elsewhere i hi, stagedFor, if_neg (Ne.symm hi)]
  exact congrArg₂ Depot.mk stores List.eraseIdx_set_eq

/-- What an operation does with the transaction itself, short of a commit to its own store, makes no
difference where the transaction was never begun. -/
theorem Effect.without_own {op : Operation} {a : Answer} (healthy : d.Healthy) (sound : d.Sound)
    (hd : Effect d op a d') (own : concerns t (op, a) = true)
    (uncommitted : ∀ n k, (op, a) ≠ (.commit n t, .count k))
    (new : ∀ id, op.made = some id → ∀ n r, r ∈ d.records n ++ d.staged n → r.id ≠ id) :
    d'.without t = d.without t := by
  cases hd with
  | begun hn =>
    rename_i n
    obtain rfl : d.transactions.length = t := by simpa [concerns] using own
    have closed : d.open? d.transactions.length = none := by simp [open?]
    have opened : ({ d with transactions := d.transactions ++ [some (.on n)] } : Depot).open?
        d.transactions.length = some (.on n) := by simp [open?]
    refine congrArg₂ Depot.mk (stores_without_congr rfl fun m => ?_) ?_
    · rw [reserves_of_closed closed, reserves_eq opened]
      split
      · rfl
      · rfl
    · rw [List.eraseIdx_append_of_length_le (Nat.le_refl _),
        List.eraseIdx_of_length_le (Nat.le_refl _), Nat.sub_self]
      exact List.append_nil _
  | staged htx hn hc hres =>
    rename_i n u id e now tx c c'
    obtain rfl : u = t := by simpa [concerns] using own
    subst hn
    refine without_own_change healthy htx hc (by rintro _ ⟨⟩; rfl) ?_
    rw [stagedFor, if_pos rfl]
    exact (sound _ _ hc).reserveFor?_freed (not_mem_ids hc (new id rfl _)) hres
  | notStaged | stagedDuplicate => rfl
  | committed htx hn hc =>
    rename_i n u tx c
    obtain rfl : u = t := by simpa [concerns] using own
    exact absurd rfl (uncommitted n _)
  | misdirected htx hn hc =>
    rename_i n u tx c
    obtain rfl : u = t := by simpa [concerns] using own
    refine without_own_change healthy htx hc (by simp) ?_
    rw [(sound.beside htx hc).releaseKeys_eq]
    exact Contents.freed_nil _
  | rolledBack htx hc =>
    rename_i u tx c
    obtain rfl : u = t := by simpa [concerns] using own
    refine without_own_change healthy htx hc (by simp) ?_
    rw [(sound.beside htx hc).releaseKeys_eq]
    exact Contents.freed_nil _
  | _ => cases own

/-! ## What is done by others -/

/-- Nobody else has a key that the transaction has reserved. -/
theorem Healthy.unreserved (healthy : d.Healthy) (sound : d.Sound) (hu : d.open? u = some tx)
    (hne : u ≠ t) : ∀ key ∈ Contents.keysOf tx.staged, key ∉ d.reserves t tx.store := by
  intro key hkey hres
  cases ht : d.open? t with
  | none => simp [reserves_of_closed ht] at hres
  | some tx' =>
    rw [reserves_eq ht] at hres
    split at hres
    · rename_i hstore
      obtain ⟨r', hr', hkey'⟩ := List.mem_filterMap.1 hres
      obtain ⟨c, hc, -⟩ := healthy.storeOf hu
      have still : (d.setTransaction u none).open? t = some tx' := by
        rw [open?_eq_some] at ht ⊢
        rwa [transactions_setTransaction, List.getElem?_set_ne hne]
      have nodup := (sound.beside hu hc).keys_nodup
      rw [List.filterMap_append, List.filterMap_append, List.nodup_append] at nodup
      have apart := (List.nodup_append.1 nodup.2.1).2.2
      refine apart key hkey key (List.mem_filterMap.2 ⟨r', ?_, hkey'⟩) rfl
      exact mem_staged.2 ⟨t, tx', still, hstore, hr'⟩
    · cases hres

/-- What others do is done in the same way where the transaction was never begun, unless they ask
for a key that it has reserved. -/
theorem Effect.without_other {op : Operation} {a : Answer} (healthy : d.Healthy) (sound : d.Sound)
    (hd : Effect d op a d') (admits : d.Admits op a) (other : concerns t (op, a) = false)
    (clear : ¬ Interferes t ⟨d, (op, a), d'⟩) :
    Effect (d.without t) (renumber t (op, a)).1 (renumber t (op, a)).2 (d'.without t) := by
  have stored : ∀ {m c}, d.contents? m = some c →
      (d.without t).contents? m = some (c.freed (d.reserves t m)) := by
    intro m c hc
    rw [contents?_without, hc]
    rfl
  have opened : ∀ {u tx}, u ≠ t → d.open? u = some tx →
      (d.without t).open? (skip t u) = some tx := fun hne hu => (open?_without hne).trans hu
  have free : ∀ {m key}, op.asks? = some (m, key) → key ∉ d.reserves t m :=
    fun asked hkey => clear ⟨other, _, asked, hkey⟩
  cases hd with
  | invalid h => exact .invalid h
  | entered hc h =>
    rw [without_put]
    refine .entered (stored hc) ?_
    rw [Contents.insert?_freed fun key hkey =>
      free (Operation.asks?_enqueue (Event.validKey?_eq admits hkey) ..), h]
    rfl
  | duplicate hc h =>
    refine .duplicate (stored hc) ?_
    rw [Contents.insert?_freed fun key hkey =>
      free (Operation.asks?_enqueue (Event.validKey?_eq admits hkey) ..), h]
    rfl
  | begun hn =>
    have hne : d.transactions.length ≠ t := by simpa [concerns] using other
    rw [without_begun hne]
    have := Effect.begun (d := d.without t) (length_stores_without (t := t) ▸ hn)
    rwa [length_transactions_without] at this
  | staged htx hn hc h =>
    rename_i n u id e now tx c c'
    have hne : u ≠ t := by simpa [concerns] using other
    rw [without_setTransaction hne, without_put]
    refine .staged (opened hne htx) hn (stored hc) ?_
    rw [Contents.reserveFor?_freed fun key hkey =>
      free (Operation.asks?_stage (Event.validKey?_eq admits hkey) ..), h]
    rfl
  | notStaged htx h =>
    rename_i n u id e now tx failure
    have hne : u ≠ t := by simpa [concerns] using other
    exact .notStaged (opened hne htx) h
  | stagedDuplicate htx hn hc h =>
    rename_i n u id e now tx c
    have hne : u ≠ t := by simpa [concerns] using other
    refine .stagedDuplicate (opened hne htx) hn (stored hc) ?_
    rw [Contents.reserveFor?_freed fun key hkey =>
      free (Operation.asks?_stage (Event.validKey?_eq admits hkey) ..), h]
    rfl
  | committed htx hn hc =>
    rename_i n u tx c
    have hne : u ≠ t := by simpa [concerns] using other
    subst hn
    have := Effect.committed (opened hne htx) rfl (stored hc)
    rw [Contents.insertAll_freed (healthy.unreserved sound htx hne)] at this
    rwa [without_setTransaction hne, without_put]
  | misdirected htx hn hc =>
    rename_i n u tx c
    have hne : u ≠ t := by simpa [concerns] using other
    have := Effect.misdirected (opened hne htx) hn (stored hc)
    rw [Contents.releaseKeys_freed (healthy.unreserved sound htx hne)] at this
    rwa [without_setTransaction hne, without_put]
  | rolledBack htx hc =>
    rename_i u tx c
    have hne : u ≠ t := by simpa [concerns] using other
    have := Effect.rolledBack (opened hne htx) (stored hc)
    rw [Contents.releaseKeys_freed (healthy.unreserved sound htx hne)] at this
    rwa [without_setTransaction hne, without_put]
  | claimed hc =>
    rename_i n policy limit worker now c
    have : Effect (d.without t) (.claimBatch n policy limit worker now) _ _ := .claimed (stored hc)
    rw [Contents.claimUpTo_freed] at this
    rwa [without_put]
  | claimedOne hc h =>
    rw [without_put]
    refine .claimedOne (stored hc) ?_
    rw [Contents.claimOne?_freed, h]
    rfl
  | claimedNone hc h =>
    refine .claimedNone (stored hc) ?_
    rw [Contents.claimOne?_freed, h]
    rfl
  | marked hc =>
    rw [without_put, ← Contents.update_freed]
    exact .marked (stored hc)
  | rescheduled hc =>
    rw [without_put, ← Contents.update_freed]
    exact .rescheduled (stored hc)
  | recovered hc =>
    rw [without_put]
    exact .recovered (stored hc)
  | purged hc =>
    rename_i n retention now c
    have : Effect (d.without t) (.purgePublished n retention now) _ _ := .purged (stored hc)
    rw [Contents.purge_freed] at this
    rwa [without_put]
  -- Readers do not look at the keys.
  | got hc =>
    rename_i n id c
    have : Effect (d.without t) (.get n id) _ _ := .got (stored hc)
    exact this
  | exhausted hc =>
    rename_i n policy limit c
    have : Effect (d.without t) (.exhausted n policy limit) _ _ := .exhausted (stored hc)
    exact this
  | seen hc =>
    have := Effect.seen (stored hc)
    exact this
  | sized hc =>
    have := Effect.sized (stored hc)
    exact this

/-- An answer that is admitted is admitted without the transaction. -/
theorem Admits.without {op : Operation} {a : Answer} (h : d.Admits op a) :
    (d.without t).Admits (renumber t (op, a)).1 (renumber t (op, a)).2 := by
  cases op with
  | enqueue n id e now =>
    cases a with
    | failed failure =>
      change n < (d.without t).stores.length
      rwa [length_stores_without]
    | _ => exact h
  | stage n u id e now =>
    cases a with
    | record r => exact h
    | _ => trivial
  | begin n =>
    cases a with
    | _ => trivial
  | _ => trivial

end

/-! ## Runs -/

/-- **A run without a transaction.** As long as the transaction is not committed to its own store
and nobody else asks for a key that it has reserved, the others could have done the same without
it, and would have heard the same. -/
theorem run_without {k t : Nat} {history : List Moment} {d : Depot}
    (run : Run Does (start k) history d) (fresh : FreshIds history)
    (uncommitted : ∀ z ∈ history, ∀ n k, z.event ≠ (.commit n t, .count k))
    (clear : ∀ z ∈ history, ¬ Interferes t z) :
    ∃ others, Run Does (start k) others (d.without t) ∧
      others.map (·.event) = besides t history := by
  have keep : ∀ past x later, history = past ++ x :: later →
      (∃ others, Run Does (start k) others (x.before.without t) ∧
        others.map (·.event) = besides t past) → x.before.Does x.event x.after →
      ∃ others, Run Does (start k) others (x.after.without t) ∧
        others.map (·.event) = besides t (past ++ [x]) := by
    rintro past x later rfl ⟨others, run', events⟩ hx
    obtain ⟨before, effect, -, -⟩ := cut_run run fresh
    have hmem : x ∈ past ++ x :: later := by simp
    have grown : besides t (past ++ [x]) =
        besides t past ++ (if concerns t x.event then [] else [renumber t x.event]) := by
      cases hc : concerns t x.event with
      | true => simp [besides, hc]
      | false => simp [besides, hc]
    cases hc : concerns t x.event with
    | true =>
      have fresh' : FreshIds (past ++ [x]) := by
        rw [List.append_cons] at fresh
        exact fresh.sublist ((List.sublist_append_left _ later).filterMap _)
      have new : ∀ id, x.event.1.made = some id →
          ∀ n r, r ∈ x.before.records n ++ x.before.staged n → r.id ≠ id := by
        rintro id hid n r hr rfl
        exact FreshIds.new fresh' hid (before.known n r hr)
      have same := effect.without_own before.healthy before.sound hc (uncommitted x hmem) new
      exact ⟨others, same ▸ run', by rw [grown, hc, if_pos rfl, events, List.append_nil]⟩
    | false =>
      let y : Moment := ⟨x.before.without t, renumber t x.event, x.after.without t⟩
      have hy : y.before.Does y.event y.after :=
        (effect.without_other before.healthy before.sound hx.admits hc (clear x hmem)).does
          before.healthy.without hx.admits.without
      refine ⟨others ++ [y], run_append.2 ⟨_, run', rfl, hy, rfl⟩, ?_⟩
      rw [grown, hc, List.map_append, events]
      rfl
  have base : ∃ others, Run Does (start k) others ((start k).without t) ∧
      others.map (·.event) = besides t [] := ⟨[], (without_start k t).symm, rfl⟩
  exact Run.along (P := fun past d => ∃ others, Run Does (start k) others (d.without t) ∧
    others.map (·.event) = besides t past) keep run base

end Depot
end EventRelay
