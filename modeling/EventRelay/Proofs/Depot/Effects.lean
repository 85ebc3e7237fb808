import EventRelay.Proofs.Depot
import EventRelay.Proofs.Store.Rows

/-!
# What an operation does to a depot

`Effect` says once what each operation can do to a depot and what it answers then, in terms of the
contents of stores; `Healthy.effect` is that nothing else can happen where no lock is poisoned and
every open transaction has its store. Everything that is proved about runs of depots is proved by
cases over `Effect`, and no proof beyond this module looks into `Depot.perform`.
-/

namespace EventRelay.Depot

/-! ## Contents of stores -/

def contents? (d : Depot) (n : Nat) : Option Contents := d.stores[n]?.map (·.contents)

/-- The depot with other contents of a store. -/
def put (d : Depot) (n : Nat) (c : Contents) : Depot :=
  { d with stores := d.stores.set n ⟨c, false⟩ }

/-- The depot in which a transaction has come to something else, or to its end. -/
def setTransaction (d : Depot) (t : Nat) (tx : Option Transaction) : Depot :=
  { d with transactions := d.transactions.set t tx }

section
variable {d : Depot} {n m t : Nat} {c c' : Contents} {tx : Transaction} {b : Option Transaction}

@[simp] theorem contents?_setTransaction : (d.setTransaction t b).contents? m = d.contents? m := rfl

@[simp] theorem transactions_put : (d.put n c').transactions = d.transactions := rfl

@[simp] theorem transactions_setTransaction :
    (d.setTransaction t b).transactions = d.transactions.set t b := rfl

@[simp] theorem length_stores_put : (d.put n c').stores.length = d.stores.length :=
  List.length_set ..

theorem put_put (d : Depot) (n : Nat) (c c' : Contents) : (d.put n c).put n c' = d.put n c' := by
  simp [put]

/-- Other contents of one store are seen there and nowhere else. -/
theorem contents?_put (h : d.contents? n = some c) :
    (d.put n c').contents? m = if m = n then some c' else d.contents? m := by
  have hlt : n < d.stores.length := by
    obtain ⟨s, hs, -⟩ := Option.map_eq_some_iff.1 h
    exact (List.getElem?_eq_some_iff.1 hs).1
  unfold contents? put
  split
  · subst m
    simp [List.getElem?_set_self hlt]
  · rename_i hne
    rw [List.getElem?_set_ne (Ne.symm hne)]

/-- A transaction is open exactly if its place has not been cleared. -/
theorem open?_eq_some : d.open? t = some tx ↔ d.transactions[t]? = some (some tx) := by
  unfold open?
  cases d.transactions[t]? with
  | none => simp
  | some b => simp

/-- What has become of an open transaction is seen there and nowhere else. -/
theorem open?_put_setTransaction (h : d.open? t = some tx) (u : Nat) :
    ((d.put n c').setTransaction t b).open? u = if u = t then b else d.open? u := by
  have ht : t < d.transactions.length := (List.getElem?_eq_some_iff.1 (open?_eq_some.1 h)).1
  unfold open?
  rw [transactions_setTransaction, transactions_put]
  split
  · subst u
    simp [List.getElem?_set_self ht]
  · rename_i hne
    rw [List.getElem?_set_ne (Ne.symm hne)]

end

/-! ## The effects -/

/-- What an operation with its answer does to a depot. -/
inductive Effect (d : Depot) : Operation → Answer → Depot → Prop where
  /-- The event is refused, and everything is as it was. -/
  | invalid {n id e now failure} (h : e.validate = .error failure) :
    Effect d (.enqueue n id e now) (.failed failure) d
  | entered {n id e now c c'} (hc : d.contents? n = some c)
    (h : c.insert? (.ofEvent id e now) = some c') :
    Effect d (.enqueue n id e now) (.record (some (.ofEvent id e now))) (d.put n c')
  /-- Another event owns the key. -/
  | duplicate {n id e now c} (hc : d.contents? n = some c)
    (h : c.insert? (.ofEvent id e now) = none) : Effect d (.enqueue n id e now) (.record none) d
  | begun {n} (hn : n < d.stores.length) :
    Effect d (.begin n) (.count d.transactions.length)
      { d with transactions := d.transactions ++ [some (.on n)] }
  | staged {n t id e now tx c c'} (htx : d.open? t = some tx) (hn : tx.store = n)
    (hc : d.contents? n = some c) (h : c.reserveFor? (.ofEvent id e now) = some c') :
    Effect d (.stage n t id e now) (.record (some (.ofEvent id e now)))
      ((d.put n c').setTransaction t (some ⟨n, tx.staged ++ [.ofEvent id e now]⟩))
  /-- The event is refused, or the transaction is one of another store. -/
  | notStaged {n t id e now tx failure} (htx : d.open? t = some tx)
    (h : tx.accepts n e = .error failure) : Effect d (.stage n t id e now) (.failed failure) d
  /-- Another event owns the key of an event for a transaction. -/
  | stagedDuplicate {n t id e now tx c} (htx : d.open? t = some tx) (hn : tx.store = n)
    (hc : d.contents? n = some c) (h : c.reserveFor? (.ofEvent id e now) = none) :
    Effect d (.stage n t id e now) (.record none) d
  | committed {n t tx c} (htx : d.open? t = some tx) (hn : tx.store = n)
    (hc : d.contents? n = some c) :
    Effect d (.commit n t) (.count (c.insertAll tx.staged).1)
      ((d.put n (c.insertAll tx.staged).2).setTransaction t none)
  /-- A commit to another store is a rollback. -/
  | misdirected {n t tx c} (htx : d.open? t = some tx) (hn : n ≠ tx.store)
    (hc : d.contents? tx.store = some c) :
    Effect d (.commit n t) (.failed Transaction.foreign)
      ((d.put tx.store (c.releaseKeys tx.staged)).setTransaction t none)
  | rolledBack {t tx c} (htx : d.open? t = some tx) (hc : d.contents? tx.store = some c) :
    Effect d (.rollback t) .done
      ((d.put tx.store (c.releaseKeys tx.staged)).setTransaction t none)
  | claimed {n policy limit worker now c} (hc : d.contents? n = some c) :
    Effect d (.claimBatch n policy limit worker now)
      (.records (c.claimUpTo policy worker now limit).1)
      (d.put n (c.claimUpTo policy worker now limit).2)
  | claimedOne {n policy worker now c r c'} (hc : d.contents? n = some c)
    (h : c.claimOne? policy worker now = some (r, c')) :
    Effect d (.claimOne n policy worker now) (.record (some r)) (d.put n c')
  | claimedNone {n policy worker now c} (hc : d.contents? n = some c)
    (h : c.claimOne? policy worker now = none) :
    Effect d (.claimOne n policy worker now) (.record none) d
  | marked {n id now c} (hc : d.contents? n = some c) :
    Effect d (.markPublished n id now) .done (d.put n (c.update id (·.markPublished now)))
  | rescheduled {n policy id error attempts now c} (hc : d.contents? n = some c) :
    Effect d (.reschedule n policy id error attempts now) .done
      (d.put n (c.update id (·.reschedule error (now.later (policy.backoff.delay attempts)))))
  | recovered {n threshold now c} (hc : d.contents? n = some c) :
    Effect d (.recoverStuck n threshold now) (.count (c.recover (now.earlier threshold)).1)
      (d.put n (c.recover (now.earlier threshold)).2)
  | purged {n retention now c} (hc : d.contents? n = some c) :
    Effect d (.purgePublished n retention now) (.count (c.purge (now.earlier retention)).1)
      (d.put n (c.purge (now.earlier retention)).2)
  | got {n id c} (hc : d.contents? n = some c) : Effect d (.get n id) (.record (c.get? id)) d
  | exhausted {n policy limit c} (hc : d.contents? n = some c) :
    Effect d (.exhausted n policy limit)
      (.records ((c.records.filter (·.exhausted policy.maxAttempts)).take limit)) d
  | seen {n c} (hc : d.contents? n = some c) : Effect d (.snapshot n) (.records c.records) d
  | sized {n c} (hc : d.contents? n = some c) : Effect d (.size n) (.count c.rows.length) d

/-! ## Healthy depots -/

/-- No lock is poisoned, and the open transactions are on stores of the depot. -/
structure Healthy (d : Depot) : Prop where
  unpoisoned : ∀ s ∈ d.stores, s.poisoned = false
  placed : ∀ t tx, d.open? t = some tx → tx.store < d.stores.length

theorem healthy_start (k : Nat) : (start k).Healthy := by
  refine ⟨fun s hs => ?_, by simp [start, open?]⟩
  rw [List.eq_of_mem_replicate hs]
  rfl

section
variable {d d' : Depot} {op : Operation} {a : Answer}

/-- The store with a number is its contents behind a lock that is not poisoned. -/
theorem Healthy.getElem? (h : d.Healthy) {n : Nat} {s : Store} (hs : d.stores[n]? = some s) :
    s = ⟨s.contents, false⟩ ∧ d.contents? n = some s.contents := by
  refine ⟨?_, by simp [contents?, hs]⟩
  rw [← h.unpoisoned s (List.mem_of_getElem? hs)]

/-- The store of an open transaction is there and can be used. -/
theorem Healthy.storeOf (h : d.Healthy) {t : Nat} {tx : Transaction} (htx : d.open? t = some tx) :
    ∃ c, d.contents? tx.store = some c ∧ d.stores[tx.store]? = some ⟨c, false⟩ := by
  obtain ⟨s, hs⟩ : ∃ s, d.stores[tx.store]? = some s :=
    ⟨_, List.getElem?_eq_getElem (h.placed t tx htx)⟩
  obtain ⟨heq, hc⟩ := h.getElem? hs
  exact ⟨s.contents, hc, heq ▸ hs⟩

/-- What an operation does to a store with its lock in order, it does to the contents. -/
theorem Healthy.change_eq (h : d.Healthy) {α : Type} {n : Nat} {answer : α → Answer}
    {f : Store → Except Failure (α × Store)} {g : Contents → α × Contents}
    (hf : ∀ c, f ⟨c, false⟩ = .ok ((g c).1, ⟨(g c).2, false⟩))
    (hd : d.change n answer f = some (a, d')) :
    ∃ c, d.contents? n = some c ∧ a = answer (g c).1 ∧ d' = d.put n (g c).2 := by
  obtain ⟨s, hs, heq⟩ := Option.map_eq_some_iff.1 hd
  obtain ⟨hlock, hc⟩ := h.getElem? hs
  refine ⟨s.contents, hc, ?_⟩
  rw [hlock, hf] at heq
  cases heq
  exact ⟨rfl, rfl⟩

/-- A look at a healthy store answers from its contents and changes nothing. -/
theorem Healthy.look_eq (h : d.Healthy) {α : Type} {n : Nat} {answer : α → Answer}
    {f : Store → Except Failure α} {g : Contents → α} (hf : ∀ c, f ⟨c, false⟩ = .ok (g c))
    (hd : d.look n answer f = some (a, d')) :
    ∃ c, d.contents? n = some c ∧ a = answer (g c) ∧ d' = d := by
  obtain ⟨s, hs, heq⟩ := Option.map_eq_some_iff.1 hd
  obtain ⟨hlock, hc⟩ := h.getElem? hs
  refine ⟨s.contents, hc, ?_⟩
  rw [hlock, hf] at heq
  cases heq
  exact ⟨rfl, rfl⟩

/-- A store with its lock in order answers. -/
theorem Healthy.change_ok (h : d.Healthy) {α : Type} {n : Nat} {answer : α → Answer}
    {f : Store → Except Failure (α × Store)} (hn : n < d.stores.length)
    (hf : ∀ c, ∃ x s, f ⟨c, false⟩ = .ok (x, s)) :
    ∃ x d', d.change n answer f = some (answer x, d') := by
  obtain ⟨lock, -⟩ := h.getElem? (List.getElem?_eq_getElem hn)
  obtain ⟨x, s, hx⟩ := hf d.stores[n].contents
  rw [← lock] at hx
  exact ⟨x, { d with stores := d.stores.set n s }, by simp [change, hn, hx]⟩

theorem Healthy.put_self (h : d.Healthy) {n : Nat} {c : Contents} (hc : d.contents? n = some c) :
    d.put n c = d := by
  obtain ⟨s, hs, rfl⟩ := Option.map_eq_some_iff.1 hc
  have heq : (⟨s.contents, false⟩ : Store) = s := (h.getElem? hs).1.symm
  obtain ⟨hlt, hget⟩ := List.getElem?_eq_some_iff.1 hs
  unfold put
  rw [heq, ← hget, List.set_getElem_self hlt]

/-! ## One inversion for each operation -/

/-- What enqueuing a valid event answers and leaves behind. -/
def taken (c : Contents) (r : Record) : Option Record × Contents :=
  ((c.insert? r).map fun _ => r, (c.insert? r).getD c)

/-- What a usable store does with a valid event. -/
theorem enqueue_store_eq {id : Uuid} {e : Event} {now : Instant} (hv : e.validate = .ok ())
    (c : Contents) : (⟨c, false⟩ : Store).enqueue id e now =
      .ok ((taken c (.ofEvent id e now)).1, ⟨(taken c (.ofEvent id e now)).2, false⟩) := by
  simp only [Store.enqueue, hv, Store.locked, Bool.false_eq_true, if_false, taken]
  cases c.insert? (.ofEvent id e now) with
  | none => rfl
  | some c' => rfl

/-- Enqueuing adds a record whose key is free, or changes nothing. -/
theorem Healthy.effect_enqueue (h : d.Healthy) {n : Nat} {id : Uuid} {e : Event} {now : Instant}
    (hd : d.Does (.enqueue n id e now, a) d') : Effect d (.enqueue n id e now) a d' := by
  change d.change n .record (·.enqueue id e now) = some (a, d') at hd
  cases hv : e.validate with
  | error failure =>
    obtain ⟨s, -, heq⟩ := Option.map_eq_some_iff.1 hd
    simp only [Store.enqueue, hv, Prod.mk.injEq] at heq
    obtain ⟨rfl, rfl⟩ := heq
    exact .invalid hv
  | ok =>
    obtain ⟨c, hc, rfl, rfl⟩ := h.change_eq (enqueue_store_eq hv) hd
    cases hins : c.insert? (.ofEvent id e now) with
    | some c' => simpa [taken, hins] using Effect.entered hc hins
    | none => simpa [taken, hins, h.put_self hc] using Effect.duplicate hc hins

/-- Staging reserves the key of the event, if it has one, and leaves the store as it is if not. -/
theorem enqueue_transaction_eq {tx : Transaction} {stores : Stores} {n : Nat}
    {id : Uuid} {e : Event} {now : Instant} {c : Contents} (hc : stores[n]? = some ⟨c, false⟩)
    (hacc : tx.accepts n e = .ok ()) :
    tx.enqueue stores n id e now =
      match c.reserveFor? (.ofEvent id e now) with
      | none => .ok (none, tx, stores)
      | some c' => .ok (some (.ofEvent id e now), ⟨tx.store, tx.staged ++ [.ofEvent id e now]⟩,
          stores.set n ⟨c', false⟩) := by
  have hkey : (Record.ofEvent id e now).dedupeKey = e.dedupeKey := rfl
  have hid : (Record.ofEvent id e now).id = id := rfl
  have hstore : Transaction.storeAt stores n = ⟨c, false⟩ := by simp [Transaction.storeAt, hc]
  unfold Transaction.enqueue Contents.reserveFor?
  rw [hacc, hkey, hid]
  cases e.dedupeKey with
  | none =>
    obtain ⟨hlt, hget⟩ := List.getElem?_eq_some_iff.1 hc
    simp [← hget, List.set_getElem_self hlt]
  | some key =>
    rw [hstore]
    cases c.reserve? key id with
    | none => rfl
    | some c' => rfl

/-- Staging reserves the key in the store and keeps the record in the transaction. -/
theorem Healthy.effect_stage (h : d.Healthy) {n t : Nat} {id : Uuid} {e : Event} {now : Instant}
    (hd : d.Does (.stage n t id e now, a) d') : Effect d (.stage n t id e now) a d' := by
  obtain ⟨tx, htx, heq⟩ := Option.map_eq_some_iff.1 hd
  cases hacc : tx.accepts n e with
  | error failure =>
    simp only [Transaction.enqueue, hacc, Prod.mk.injEq] at heq
    obtain ⟨rfl, rfl⟩ := heq
    exact .notStaged htx hacc
  | ok =>
    obtain rfl : n = tx.store := by
      unfold Transaction.accepts at hacc
      split at hacc
      · cases hacc
      · split at hacc
        · cases hacc
        · rename_i hn
          exact not_not.1 hn
    obtain ⟨c, hc, hs⟩ := h.storeOf htx
    rw [enqueue_transaction_eq hs hacc] at heq
    cases hres : c.reserveFor? (.ofEvent id e now) with
    | none =>
      simp only [hres, Prod.mk.injEq] at heq
      obtain ⟨rfl, rfl⟩ := heq
      obtain ⟨hlt, hget⟩ := List.getElem?_eq_some_iff.1 (open?_eq_some.1 htx)
      rw [← hget, List.set_getElem_self hlt]
      exact .stagedDuplicate htx rfl hc hres
    | some c' =>
      simp only [hres, Prod.mk.injEq] at heq
      obtain ⟨rfl, rfl⟩ := heq
      exact .staged htx rfl hc hres

/-- Dropping a transaction gives its keys back to its store. -/
theorem Healthy.rollback_eq (h : d.Healthy) {t : Nat} {tx : Transaction}
    (htx : d.open? t = some tx) : ∃ c, d.contents? tx.store = some c ∧
      tx.rollback d.stores = (d.put tx.store (c.releaseKeys tx.staged)).stores := by
  obtain ⟨c, hc, hs⟩ := h.storeOf htx
  exact ⟨c, hc, by simp [Transaction.rollback, Transaction.storeAt, hs, put]⟩

/-- A commit to the own store appends what was staged; one to another store frees the keys. -/
theorem Healthy.effect_commit (h : d.Healthy) {n t : Nat} (hd : d.Does (.commit n t, a) d') :
    Effect d (.commit n t) a d' := by
  obtain ⟨tx, htx, heq⟩ := Option.map_eq_some_iff.1 hd
  by_cases hn : n = tx.store
  · subst n
    obtain ⟨c, hc, hs⟩ := h.storeOf htx
    simp only [Transaction.commit, ne_eq, not_true_eq_false, if_false, Transaction.storeAt, hs,
      Option.getD_some, Store.locked, Bool.false_eq_true, Prod.mk.injEq] at heq
    obtain ⟨rfl, rfl⟩ := heq
    exact .committed htx rfl hc
  · obtain ⟨c, hc, hroll⟩ := h.rollback_eq htx
    simp only [Transaction.commit, ne_eq, hn, not_false_eq_true, if_true, hroll,
      Prod.mk.injEq] at heq
    obtain ⟨rfl, rfl⟩ := heq
    exact .misdirected htx hn hc

/-- A rollback frees the keys and ends the transaction. -/
theorem Healthy.effect_rollback (h : d.Healthy) {t : Nat} (hd : d.Does (.rollback t, a) d') :
    Effect d (.rollback t) a d' := by
  obtain ⟨tx, htx, heq⟩ := Option.map_eq_some_iff.1 hd
  obtain ⟨c, hc, hroll⟩ := h.rollback_eq htx
  simp only [hroll, Prod.mk.injEq] at heq
  obtain ⟨rfl, rfl⟩ := heq
  exact .rolledBack htx hc

/-- A claim of a batch puts the first claimable records into the worker's hands. -/
theorem Healthy.effect_claimBatch (h : d.Healthy) {n limit : Nat} {policy : Policy}
    {worker : String} {now : Instant} (hd : d.Does (.claimBatch n policy limit worker now, a) d') :
    Effect d (.claimBatch n policy limit worker now) a d' := by
  obtain ⟨c, hc, rfl, rfl⟩ := h.change_eq (Store.claimBatch_eq policy limit worker now) hd
  exact .claimed hc

/-- A claim of one record takes the first claimable one, if there is one. -/
theorem Healthy.effect_claimOne (h : d.Healthy) {n : Nat} {policy : Policy} {worker : String}
    {now : Instant} (hd : d.Does (.claimOne n policy worker now, a) d') :
    Effect d (.claimOne n policy worker now) a d' := by
  obtain ⟨c, hc, rfl, rfl⟩ := h.change_eq (fun _ => rfl) hd
  cases hone : c.claimOne? policy worker now with
  | none => simpa [hone, h.put_self hc] using Effect.claimedNone hc hone
  | some found => simpa [hone] using Effect.claimedOne hc hone

def putOff (policy : Policy) (id : Uuid) (error : String) (attempts : UInt32) (now : Instant)
    (c : Contents) : Contents :=
  c.update id (·.reschedule error (now.later (policy.backoff.delay attempts)))

/-- What is noted in the journal where the record with the id may be exhausted. -/
def exhaustion (policy : Policy) (id : Uuid) (c : Contents) : List Journal.Entry :=
  (c.get? id).elim [] fun r =>
    if r.exhausted policy.maxAttempts then [Journal.attemptsExhausted id r.attempts.toNat] else []

/-- What a usable store does when a delivery has failed, and what it notes then. -/
theorem reschedule_store_eq (policy : Policy) (id : Uuid) (error : String) (attempts : UInt32)
    (now : Instant) (c : Contents) :
    (⟨c, false⟩ : Store).reschedule policy id error attempts now =
      .ok (exhaustion policy id (putOff policy id error attempts now c),
        ⟨putOff policy id error attempts now c, false⟩) := by
  simp only [Store.reschedule, Store.locked, Bool.false_eq_true, if_false, exhaustion, putOff]
  cases (c.update id _).get? id with
  | none => rfl
  | some r =>
    by_cases hexh : r.exhausted policy.maxAttempts = true
    · simp [hexh]
    · simp [hexh]

/-- A failed delivery puts the record with the id off, if there is one. -/
theorem Healthy.effect_reschedule (h : d.Healthy) {n : Nat} {policy : Policy} {id : Uuid}
    {error : String} {attempts : UInt32} {now : Instant}
    (hd : d.Does (.reschedule n policy id error attempts now, a) d') :
    Effect d (.reschedule n policy id error attempts now) a d' := by
  have noted := reschedule_store_eq policy id error attempts now
  obtain ⟨c, hc, rfl, rfl⟩ := h.change_eq (g := fun c =>
    (exhaustion policy id (putOff policy id error attempts now c),
      putOff policy id error attempts now c)) noted hd
  exact .rescheduled hc

/-- **Every operation has its effect.** What is done in a healthy depot is one of the effects. -/
theorem Healthy.effect (h : d.Healthy) (hd : d.Does (op, a) d') : Effect d op a d' := by
  cases op with
  | enqueue n id e now => exact h.effect_enqueue hd
  | begin n =>
    simp only [Does, perform, Option.ite_none_right_eq_some, Option.some.injEq,
      Prod.mk.injEq] at hd
    obtain ⟨hn, rfl, rfl⟩ := hd
    exact .begun hn
  | stage n t id e now => exact h.effect_stage hd
  | commit n t => exact h.effect_commit hd
  | rollback t => exact h.effect_rollback hd
  | claimBatch n policy limit worker now => exact h.effect_claimBatch hd
  | claimOne n policy worker now => exact h.effect_claimOne hd
  | markPublished n id now =>
    obtain ⟨c, hc, rfl, rfl⟩ := h.change_eq (g := fun c => ((), c.update id (·.markPublished now)))
      (fun _ => rfl) hd
    exact .marked hc
  | reschedule n policy id error attempts now => exact h.effect_reschedule hd
  | recoverStuck n threshold now =>
    obtain ⟨c, hc, rfl, rfl⟩ := h.change_eq (g := (·.recover (now.earlier threshold)))
      (fun _ => rfl) hd
    exact .recovered hc
  | purgePublished n retention now =>
    obtain ⟨c, hc, rfl, rfl⟩ := h.change_eq (g := (·.purge (now.earlier retention)))
      (fun _ => rfl) hd
    exact .purged hc
  | get n id =>
    obtain ⟨c, hc, rfl, rfl⟩ := h.look_eq (fun _ => rfl) hd
    exact .got hc
  | exhausted n policy limit =>
    obtain ⟨c, hc, rfl, rfl⟩ := h.look_eq (fun _ => rfl) hd
    exact .exhausted hc
  | snapshot n =>
    obtain ⟨c, hc, rfl, rfl⟩ := h.look_eq (fun _ => rfl) hd
    exact .seen hc
  | size n =>
    obtain ⟨c, hc, rfl, rfl⟩ := h.look_eq (fun _ => rfl) hd
    exact .sized hc

/-- A settlement changes the record with its id in the store that it is made in. -/
theorem Effect.of_marked {n : Nat} {id : Uuid} {now : Instant}
    (hd : Effect d (.markPublished n id now) a d') :
    ∃ c, d.contents? n = some c ∧ d' = d.put n (c.update id (·.markPublished now)) := by
  cases hd with
  | marked hc => exact ⟨_, hc, rfl⟩

/-- A failed delivery changes nothing but the record with the id, which is put off by the delay. -/
theorem Effect.of_rescheduled {n : Nat} {policy : Policy} {id : Uuid} {error : String}
    {attempts : UInt32} {now : Instant}
    (hd : Effect d (.reschedule n policy id error attempts now) a d') :
    ∃ c, d.contents? n = some c ∧
      d' = d.put n (c.update id
        (·.reschedule error (now.later (policy.backoff.delay attempts)))) := by
  cases hd with
  | rescheduled hc => exact ⟨_, hc, rfl⟩

/-! ## Healthy depots stay healthy -/

/-- Other contents do not poison a lock. -/
theorem Healthy.put (h : d.Healthy) (n : Nat) (c : Contents) : (d.put n c).Healthy := by
  refine ⟨fun s hs => ?_, fun t tx htx => ?_⟩
  · rcases List.mem_or_eq_of_mem_set hs with hs | rfl
    · exact h.unpoisoned s hs
    · rfl
  · rw [length_stores_put]
    exact h.placed t tx htx

/-- The depot stays healthy if a transaction that stays open belongs to a store that is there. -/
theorem Healthy.setTransaction (h : d.Healthy) (t : Nat) (b : Option Transaction)
    (hb : ∀ tx, b = some tx → tx.store < d.stores.length) : (d.setTransaction t b).Healthy := by
  refine ⟨h.unpoisoned, fun u tx htx => ?_⟩
  rw [open?_eq_some, transactions_setTransaction] at htx
  rcases List.mem_or_eq_of_mem_set (List.mem_of_getElem? htx) with hin | heq
  · obtain ⟨v, hv⟩ := List.getElem?_of_mem hin
    exact h.placed v tx (open?_eq_some.2 hv)
  · exact hb tx heq.symm

/-- No operation poisons a lock, and none moves an open transaction. -/
theorem Effect.healthy (h : d.Healthy) (hd : Effect d op a d') :
    d'.Healthy ∧ d'.stores.length = d.stores.length := by
  cases hd with
  | invalid | notStaged | duplicate | stagedDuplicate | claimedNone | got | exhausted | seen
  | sized =>
    exact ⟨h, rfl⟩
  | entered | claimed | claimedOne | marked | rescheduled | recovered | purged =>
    exact ⟨h.put _ _, length_stores_put⟩
  | committed | misdirected | rolledBack =>
    exact ⟨(h.put _ _).setTransaction _ _ (by simp), length_stores_put⟩
  | staged htx hn hc hres =>
    refine ⟨(h.put _ _).setTransaction _ _ fun tx htx' => ?_, length_stores_put⟩
    cases htx'
    have := h.placed _ _ htx
    rwa [hn, ← length_stores_put] at this
  | begun hn =>
    refine ⟨⟨h.unpoisoned, fun t tx htx => ?_⟩, rfl⟩
    rw [open?_eq_some] at htx
    rcases List.mem_append.1 (List.mem_of_getElem? htx) with hin | hin
    · obtain ⟨v, hv⟩ := List.getElem?_of_mem hin
      exact h.placed v tx (open?_eq_some.2 hv)
    · cases List.mem_singleton.1 hin
      exact hn

end
end EventRelay.Depot
