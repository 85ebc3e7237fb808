import EventRelay.Proofs.Run
import EventRelay.Store.Transaction

/-!
# Depots

The system that producers and dispatchers share: stores side by side, with any number of
transactions open on them. What can be done with it is one operation after the other, from any
client and in any order; every operation reads a clock of its own, so that nothing is assumed about
the times. A client is the number of a store and a policy, so that clones are clients of the same
number. Nobody dies while holding a lock.

A batch is claimed record by record, and others may act in between; `claimOne` is one such claim,
and `Store.claimBatch_succ` says that a batch without such interference consists of them.
-/

namespace EventRelay

/-! ## Single claims -/

/-- Claims one record for a worker, if there is a claimable one. -/
def Store.claimOne (s : Store) (policy : Policy) (worker : String) (now : Instant) :
    Except Failure (Option Record × Store) :=
  s.locked fun c =>
    match c.claimOne? policy worker now with
    | some (r, c) => (some r, c)
    | none => (none, c)

/-- A batch is a single claim, and a batch of the rest if that has found a record. -/
theorem Store.claimBatch_succ (s : Store) (policy : Policy) (limit : Nat) (worker : String)
    (now : Instant) :
    s.claimBatch policy (limit + 1) worker now =
      match s.claimOne policy worker now with
      | .error failure => .error failure
      | .ok (none, s) => .ok ([], s)
      | .ok (some r, s) =>
        match s.claimBatch policy limit worker now with
        | .error failure => .error failure
        | .ok (rs, s) => .ok (r :: rs, s) := by
  unfold claimBatch claimOne locked
  rw [if_neg (Nat.succ_ne_zero limit)]
  cases hp : s.poisoned with
  | true => rfl
  | false =>
    simp only [Bool.false_eq_true, if_false]
    rw [Contents.claimUpTo]
    cases s.contents.claimOne? policy worker now with
    | none => rfl
    | some found =>
      obtain ⟨r, c⟩ := found
      cases limit with
      | zero => rfl
      | succ limit => simp

/-- A batch is what the contents make of it, whatever its limit. -/
theorem Store.claimBatch_eq (policy : Policy) (limit : Nat) (worker : String) (now : Instant)
    (c : Contents) :
    (⟨c, false⟩ : Store).claimBatch policy limit worker now =
      .ok ((c.claimUpTo policy worker now limit).1,
        ⟨(c.claimUpTo policy worker now limit).2, false⟩) := by
  cases limit with
  | zero => rfl
  | succ limit => rfl

/-! ## Depots and operations -/

/-- Stores side by side, and transactions by the order in which they were begun; one that has ended
leaves `none` in its place. -/
structure Depot where
  stores : Stores
  transactions : List (Option Transaction)

/-- What a client can do. Stores and transactions are named by their numbers; an event that is taken
in gets an id that its client has made. -/
inductive Operation where
  | enqueue (store : Nat) (id : Uuid) (event : Event) (now : Instant)
  | begin (store : Nat)
  /-- Takes an event into a transaction, through a store. -/
  | stage (store tx : Nat) (id : Uuid) (event : Event) (now : Instant)
  /-- Commits a transaction to a store, which may be another one than it was begun on. -/
  | commit (store tx : Nat)
  | rollback (tx : Nat)
  | claimBatch (store : Nat) (policy : Policy) (limit : Nat) (worker : String) (now : Instant)
  | claimOne (store : Nat) (policy : Policy) (worker : String) (now : Instant)
  | markPublished (store : Nat) (id : Uuid) (now : Instant)
  | reschedule (store : Nat) (policy : Policy) (id : Uuid) (error : String) (attempts : UInt32)
      (now : Instant)
  | recoverStuck (store : Nat) (threshold : Duration) (now : Instant)
  | purgePublished (store : Nat) (retention : Duration) (now : Instant)
  | get (store : Nat) (id : Uuid)
  | exhausted (store : Nat) (policy : Policy) (limit : Nat)
  | snapshot (store : Nat)
  | size (store : Nat)

/-- What a client hears. -/
inductive Answer where
  | done
  | record (r : Option Record)
  | records (rs : List Record)
  | count (n : Nat)
  | failed (failure : Failure)

def Answer.of {α : Type} (f : α → Answer) : Except Failure α → Answer
  | .ok a => f a
  | .error failure => .failed failure

namespace Depot

/-- So many empty stores, and no transaction. -/
def start (stores : Nat) : Depot := ⟨List.replicate stores .empty, []⟩

/-- The transaction with a number, while it is open. -/
def open? (d : Depot) (t : Nat) : Option Transaction := d.transactions[t]?.join

def stagedFor (n : Nat) : Option Transaction → List Record
  | some tx => if tx.store = n then tx.staged else []
  | none => []

/-- All records that open transactions have staged for the store with a number. -/
def staged (d : Depot) (n : Nat) : List Record := d.transactions.flatMap (stagedFor n)

/-- Has the store with a number do something. After a failure it is as it was. -/
def change {α : Type} (d : Depot) (n : Nat) (answer : α → Answer)
    (f : Store → Except Failure (α × Store)) : Option (Answer × Depot) :=
  d.stores[n]?.map fun s =>
    match f s with
    | .ok (a, s) => (answer a, { d with stores := d.stores.set n s })
    | .error failure => (.failed failure, d)

def look {α : Type} (d : Depot) (n : Nat) (answer : α → Answer) (f : Store → Except Failure α) :
    Option (Answer × Depot) :=
  d.stores[n]?.map fun s => (.of answer (f s), d)

/-- Does an operation. There is no answer if there is no such store, or the transaction is not
open. -/
def perform (d : Depot) : Operation → Option (Answer × Depot)
  | .enqueue n id e now => d.change n .record (·.enqueue id e now)
  | .begin n =>
    if n < d.stores.length then
      some (.count d.transactions.length,
        { d with transactions := d.transactions ++ [some (.on n)] })
    else none
  | .stage n t id e now =>
    (d.open? t).map fun tx =>
      match tx.enqueue d.stores n id e now with
      | .ok (r, tx, stores) => (.record r, ⟨stores, d.transactions.set t (some tx)⟩)
      | .error failure => (.failed failure, d)
  | .commit n t =>
    (d.open? t).map fun tx =>
      let (r, stores) := tx.commit d.stores n
      (.of .count r, ⟨stores, d.transactions.set t none⟩)
  | .rollback t =>
    (d.open? t).map fun tx => (.done, ⟨tx.rollback d.stores, d.transactions.set t none⟩)
  | .claimBatch n policy limit worker now =>
    d.change n .records (·.claimBatch policy limit worker now)
  | .claimOne n policy worker now => d.change n .record (·.claimOne policy worker now)
  | .markPublished n id now => d.change n (fun _ => .done) (·.markPublished id now)
  | .reschedule n policy id error attempts now =>
    d.change n (fun _ => .done) (·.reschedule policy id error attempts now)
  | .recoverStuck n threshold now => d.change n .count (·.recoverStuck threshold now)
  | .purgePublished n retention now => d.change n .count (·.purgePublished retention now)
  | .get n id => d.look n .record (·.get? id)
  | .exhausted n policy limit => d.look n .records (·.exhausted policy limit)
  | .snapshot n => d.look n .records Store.snapshot
  | .size n => d.look n .count Store.size

/-- The operation is done with this answer. -/
def Does (d : Depot) (event : Operation × Answer) (d' : Depot) : Prop :=
  d.perform event.1 = some (event.2, d')

abbrev Moment := Transition Depot (Operation × Answer)

/-! ## Given operations -/

/-- The moments in which operations are done one after the other; one that has no answer is left
out. -/
def moments : Depot → List Operation → List Moment
  | _, [] => []
  | d, op :: rest =>
    match d.perform op with
    | some (a, d') => ⟨d, (op, a), d'⟩ :: moments d' rest
    | none => moments d rest

def after : Depot → List Operation → Depot
  | d, [] => d
  | d, op :: rest =>
    match d.perform op with
    | some (_, d') => after d' rest
    | none => after d rest

/-- Operations that are done one after the other are a run. -/
theorem run_moments (d : Depot) (ops : List Operation) :
    Run Does d (d.moments ops) (d.after ops) := by
  induction ops generalizing d with
  | nil => rfl
  | cons op rest ih =>
    rw [moments, after]
    cases hop : d.perform op with
    | none => exact ih d
    | some result => exact ⟨rfl, hop, ih result.2⟩

/-- A run is determined by its operations. -/
theorem moments_of_run {d d' : Depot} {history : List Moment} (run : Run Does d history d') :
    d.moments (history.map (·.event.1)) = history ∧ d.after (history.map (·.event.1)) = d' := by
  induction history generalizing d with
  | nil => exact ⟨rfl, run⟩
  | cons x rest ih =>
    obtain ⟨rfl, hx, later⟩ := run
    obtain ⟨same, reached⟩ := ih later
    have answered : x.before.perform x.event.1 = some (x.event.2, x.after) := hx
    simp [moments, after, answered, same, reached]

end Depot

def Operation.made : Operation → Option Uuid
  | .enqueue _ id _ _ | .stage _ _ id _ _ => some id
  | _ => none

def Operation.reading : Operation → Option Instant
  | .enqueue _ _ _ now | .stage _ _ _ _ now | .claimBatch _ _ _ _ now | .claimOne _ _ _ now
  | .markPublished _ _ now | .reschedule _ _ _ _ _ now | .recoverStuck _ _ now
  | .purgePublished _ _ now => some now
  | _ => none

/-- No id is made twice. -/
def FreshIds (history : List Depot.Moment) : Prop :=
  (history.filterMap (·.event.1.made)).Nodup

instance (history : List Depot.Moment) : Decidable (FreshIds history) :=
  inferInstanceAs (Decidable (List.Nodup _))

/-! ## Systems with a depot -/

/-- A system with a depot in it: what its steps do to the depot, if they are operations on it. -/
class HasDepot (σ ε : Type) where
  operation? : Transition σ ε → Option Depot.Moment

/-- The operations that are done on the depot of a system, whoever in it does them. -/
def operations {σ ε : Type} [HasDepot σ ε] (history : List (Transition σ ε)) : List Depot.Moment :=
  history.filterMap HasDepot.operation?

theorem operations_append {σ ε : Type} [HasDepot σ ε] (past more : List (Transition σ ε)) :
    operations (past ++ more) = operations past ++ operations more :=
  List.filterMap_append ..

/-! ## Events for examples -/

def Event.brief (key : Option String) : Event where
  aggregateType := "order"
  aggregateId := "1"
  eventType := "created"
  payload := .bool true
  exchange := "orders"
  routingKey := "created"
  occurredAt := none
  dedupeKey := key

end EventRelay
