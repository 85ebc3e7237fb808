import EventRelay.Store.Operations

/-!
# Transactions

A transaction stages records for one of several stores. Its dedupe keys are reserved in the store
at once, so that nobody else can take them, but its records come into the store only when it is
committed. A transaction that is dropped, or that is committed to another store, gives its keys
back and leaves nothing behind.
-/

namespace EventRelay

/-- Records staged for the store with a number. -/
structure Transaction where
  store : Nat
  staged : List Record

/-- The stores side by side, by their numbers. -/
abbrev Stores := List Store

namespace Transaction

/-- A transaction of another store. -/
def foreign : Failure := .validation "transaction belongs to another outbox store"

def on (store : Nat) : Transaction := ⟨store, []⟩

/-- The store with a number. -/
def storeAt (stores : Stores) (n : Nat) : Store := stores[n]?.getD .empty

/-- Whether an event may come into the transaction through the store `here`: it is valid, and the
transaction is one of this store. -/
def accepts (tx : Transaction) (here : Nat) (e : Event) : Except Failure Unit :=
  match e.validate with
  | .error failure => .error failure
  | .ok () => if here ≠ tx.store then .error foreign else .ok ()

/-- Takes an event into the transaction, through the store `here`; no record if another event owns
its key. An event without a key does not need the lock. -/
def enqueue (tx : Transaction) (stores : Stores) (here : Nat) (id : Uuid) (e : Event)
    (now : Instant) : Except Failure (Option Record × Transaction × Stores) :=
  match tx.accepts here e with
  | .error failure => .error failure
  | .ok () =>
    let r := Record.ofEvent id e now
    let staged : Transaction := { tx with staged := tx.staged ++ [r] }
    match e.dedupeKey with
    | none => .ok (some r, staged, stores)
    | some key =>
      let s := storeAt stores here
      if s.poisoned then .error Store.lockPoisoned
      else
        match s.contents.reserve? key id with
        | none => .ok (none, tx, stores)
        | some c => .ok (some r, staged, stores.set here { s with contents := c })

/-- Drops the transaction: its keys are free again, unless the lock is poisoned. -/
def rollback (tx : Transaction) (stores : Stores) : Stores :=
  let s := storeAt stores tx.store
  if s.poisoned then stores
  else stores.set tx.store { s with contents := s.contents.releaseKeys tx.staged }

/-- Moves the staged records into the store `here`, and counts them. The transaction is over in any
case: refused by another store, it is dropped. -/
def commit (tx : Transaction) (stores : Stores) (here : Nat) : Except Failure Nat × Stores :=
  if here ≠ tx.store then (.error foreign, tx.rollback stores)
  else
    match (storeAt stores here).locked (·.insertAll tx.staged) with
    | .ok (n, s) => (.ok n, stores.set here s)
    | .error failure => (.error failure, stores)

end Transaction
end EventRelay
