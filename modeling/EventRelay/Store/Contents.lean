import EventRelay.Policy
import EventRelay.Record
import EventRelay.Table

/-!
# What a store holds

The records of a store stand in the order in which they came in, each with a sequence number. An
index leads from an id to the number, and a second table tells which id owns a dedupe key. A key is
owned by a stored record or reserved for a record that a transaction has staged.
-/

namespace EventRelay

/-- The records of a store and the tables that lead to them. -/
structure Contents where
  /-- The records with their sequence numbers, ascending. -/
  rows : List (Nat × Record)
  /-- The sequence numbers of the ids. -/
  index : Table Uuid Nat
  /-- The owners of the dedupe keys. -/
  owners : Table String Uuid
  /-- The sequence number of the next record. -/
  nextSeq : Nat

namespace Contents

def empty : Contents := ⟨[], .empty, .empty, 0⟩

instance : Inhabited Contents := ⟨empty⟩

/-- The records in the order in which they came in. -/
def records (c : Contents) : List Record := c.rows.map (·.2)

/-! ## Dedupe keys -/

/-- Reserves a key for an id; `none` if another id owns it. -/
def reserve? (c : Contents) (key : String) (id : Uuid) : Option Contents :=
  match c.owners.get? key with
  | some owner => if owner = id then some c else none
  | none => some { c with owners := c.owners.insert key id }

/-- Reserves the key of a record, if it has one. -/
def reserveFor? (c : Contents) (r : Record) : Option Contents :=
  match r.dedupeKey with
  | some key => c.reserve? key r.id
  | none => some c

/-- Gives up a key that the id owns. -/
def releaseKey (c : Contents) (key : String) (id : Uuid) : Contents :=
  if c.owners.get? key = some id then { c with owners := c.owners.erase key } else c

def releaseKeys (c : Contents) (rs : List Record) : Contents :=
  rs.foldl (fun c r =>
    match r.dedupeKey with
    | some key => c.releaseKey key r.id
    | none => c) c

/-! ## Records -/

/-- Adds a record behind all others. -/
def append (c : Contents) (r : Record) : Contents :=
  { c with
    rows := c.rows ++ [(c.nextSeq, r)], index := c.index.insert r.id c.nextSeq,
    nextSeq := c.nextSeq + 1 }

/-- Adds a record; `none` if another id owns its key. -/
def insert? (c : Contents) (r : Record) : Option Contents :=
  (c.reserveFor? r).map (·.append r)

/-- Adds those of the records whose keys are not owned by others, and counts them. -/
def insertAll (c : Contents) : List Record → Nat × Contents
  | [] => (0, c)
  | r :: rest =>
    match c.insert? r with
    | some c =>
      let (n, c) := c.insertAll rest
      (n + 1, c)
    | none => c.insertAll rest

def get? (c : Contents) (id : Uuid) : Option Record :=
  (c.index.get? id).bind fun seq => c.rows.lookup seq

def updateAt (c : Contents) (seq : Nat) (f : Record → Record) : Contents :=
  { c with rows := c.rows.map fun row => if row.1 = seq then (row.1, f row.2) else row }

/-- Changes the record with an id, if there is one. -/
def update (c : Contents) (id : Uuid) (f : Record → Record) : Contents :=
  match c.index.get? id with
  | some seq => c.updateAt seq f
  | none => c

/-- Takes out a row, with its id and its key. -/
def remove (c : Contents) (row : Nat × Record) : Contents :=
  { c with
    rows := c.rows.filter (·.1 ≠ row.1)
    index := c.index.erase row.2.id
    owners :=
      match row.2.dedupeKey with
      | some key => c.owners.erase key
      | none => c.owners }

/-! ## Claiming -/

/-- Changes the first record that satisfies a condition; the changed record and all rows. -/
def changeFirst? (p : Record → Bool) (f : Record → Record) :
    List (Nat × Record) → Option (Record × List (Nat × Record))
  | [] => none
  | (seq, r) :: rest =>
    if p r then some (f r, (seq, f r) :: rest)
    else (changeFirst? p f rest).map fun (r', rows) => (r', (seq, r) :: rows)

/-- Claims the first claimable record for a worker. -/
def claimOne? (c : Contents) (policy : Policy) (worker : String) (now : Instant) :
    Option (Record × Contents) :=
  (changeFirst? (·.claimable now policy.maxAttempts) (·.claim worker now) c.rows).map
    fun (r, rows) => (r, { c with rows := rows })

/-- Claims one record after the other, until there is none left or so many are claimed. -/
def claimUpTo (policy : Policy) (worker : String) (now : Instant) :
    Nat → Contents → List Record × Contents
  | 0, c => ([], c)
  | limit + 1, c =>
    match c.claimOne? policy worker now with
    | none => ([], c)
    | some (r, c) =>
      let (rs, c) := claimUpTo policy worker now limit c
      (r :: rs, c)

/-! ## Upkeep -/

/-- Releases the records that workers have held since before a cutoff, and counts them. -/
def recover (c : Contents) (cutoff : Instant) : Nat × Contents :=
  ((c.records.filter (·.stale cutoff)).length,
    { c with rows := c.rows.map fun row =>
        if row.2.stale cutoff then (row.1, row.2.release) else row })

/-- Takes out the records that were published before a cutoff, and counts them. -/
def purge (c : Contents) (cutoff : Instant) : Nat × Contents :=
  let gone := c.rows.filter (·.2.expired cutoff)
  (gone.length, gone.foldl remove c)

end Contents
end EventRelay
