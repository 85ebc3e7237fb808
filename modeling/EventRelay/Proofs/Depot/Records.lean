import EventRelay.Message
import EventRelay.Proofs.Depot.Effects

/-!
# What happens to records

The records of a store change one by one, come in, or are purged, and nothing else happens to them:
`Effect.forward` follows a record into the next moment, and `Effect.backward` tells where a record
comes from. Whatever happens, a record keeps what it was when its event was taken in, which is its
`origin`.
-/

namespace EventRelay

namespace Record

/-- The record as its event was taken in, without the state of its delivery. -/
def origin (r : Record) : Record :=
  { r with
    status := .pending, attempts := 0, nextAttemptAt := .epoch, lockedBy := none, lockedAt := none,
    error := none, publishedAt := none }

section
variable (r : Record) (now : Instant)

@[simp] theorem id_origin : r.origin.id = r.id := rfl

@[simp] theorem dedupeKey_origin : r.origin.dedupeKey = r.dedupeKey := rfl

@[simp] theorem createdAt_origin : r.origin.createdAt = r.createdAt := rfl

/-- A claim leaves alone what the record was when it came in; so do all other steps of a
delivery. -/
@[simp] theorem origin_claim (worker : String) : (r.claim worker now).origin = r.origin := rfl

@[simp] theorem origin_markPublished : (r.markPublished now).origin = r.origin := rfl

@[simp] theorem origin_reschedule (error : String) : (r.reschedule error now).origin = r.origin :=
  rfl

@[simp] theorem origin_release : r.release.origin = r.origin := rfl

/-- The message of a record follows from what it was when it came in. -/
@[simp] theorem message_origin : r.origin.message = r.message := rfl

/-- Records with the same origin have the same id. -/
theorem id_eq_of_origin {r r' : Record} (h : r'.origin = r.origin) : r'.id = r.id := by
  rw [← id_origin r', h, id_origin]

theorem dedupeKey_eq_of_origin {r r' : Record} (h : r'.origin = r.origin) :
    r'.dedupeKey = r.dedupeKey := by
  rw [← dedupeKey_origin r', h, dedupeKey_origin]

theorem createdAt_eq_of_origin {r r' : Record} (h : r'.origin = r.origin) :
    r'.createdAt = r.createdAt := by
  rw [← createdAt_origin r', h, createdAt_origin]

/-- Records with the same origin are delivered as the same message. -/
theorem message_eq_of_origin {r r' : Record} (h : r'.origin = r.origin) :
    r'.message = r.message := by
  rw [← message_origin r', h, message_origin]

end
end Record

/-- The operation ends a transaction: it is rolled back, or committed, be it to its store or to
another one. -/
def Operation.Ends (t : Nat) (op : Operation) : Prop := op = .rollback t ∨ ∃ n, op = .commit n t

namespace Depot

/-! ## The records of a store -/

/-- The rows of the store with a number; none if there is no such store. -/
def rows (d : Depot) (n : Nat) : List (Nat × Record) :=
  match d.contents? n with
  | some c => c.rows
  | none => []

def records (d : Depot) (n : Nat) : List Record := (d.rows n).map (·.2)

section
variable {d : Depot} {n m t : Nat} {c c' : Contents}

theorem rows_eq (h : d.contents? n = some c) : d.rows n = c.rows := by
  simp [rows, h]

theorem records_eq (h : d.contents? n = some c) : d.records n = c.records := by
  simp [records, rows_eq h, Contents.records]

/-- Other contents of one store leave the rows of the others alone. -/
theorem rows_put (h : d.contents? n = some c) :
    (d.put n c').rows m = if m = n then c'.rows else d.rows m := by
  unfold rows
  rw [contents?_put h]
  by_cases hm : m = n
  · simp [hm]
  · simp [hm]

theorem contents?_start {k : Nat} (h : (start k).contents? n = some c) : c = .empty := by
  obtain ⟨s, hs, rfl⟩ := Option.map_eq_some_iff.1 h
  rw [List.eq_of_mem_replicate (List.mem_of_getElem? hs)]
  rfl

@[simp] theorem rows_start (k n : Nat) : (start k).rows n = [] := by
  unfold rows
  split
  · rename_i c hc
    rw [contents?_start hc]
    rfl
  · rfl

end

/-- The rows of every store are filed. -/
def Filed (d : Depot) : Prop := ∀ n c, d.contents? n = some c → c.Filed

theorem filed_start (k : Nat) : (start k).Filed := by
  intro n c hc
  rw [contents?_start hc]
  exact Contents.filed_empty

/-- Filed contents in the place of others keep the stores filed. -/
theorem Filed.put {d : Depot} (h : d.Filed) {n : Nat} {c c' : Contents}
    (hc : d.contents? n = some c) (h' : c'.Filed) : (d.put n c').Filed := by
  intro m c₁ hc₁
  rw [contents?_put hc] at hc₁
  split at hc₁
  · cases hc₁
    exact h'
  · exact h m c₁ hc₁

/-! ## Changes, arrivals and removals -/

/-- What an operation may do to a record of the store `n`: nothing, or one step of its delivery. -/
inductive Change (n : Nat) : Operation → Record → Record → Prop where
  | kept (op : Operation) (r : Record) : Change n op r r
  | claimed {policy limit worker now r} (h : r.claimable now policy.maxAttempts = true) :
    Change n (.claimBatch n policy limit worker now) r (r.claim worker now)
  | claimedOne {policy worker now r} (h : r.claimable now policy.maxAttempts = true) :
    Change n (.claimOne n policy worker now) r (r.claim worker now)
  | marked {id now r} (h : r.id = id) : Change n (.markPublished n id now) r (r.markPublished now)
  | rescheduled {policy id error attempts now r} (h : r.id = id) :
    Change n (.reschedule n policy id error attempts now) r
      (r.reschedule error (now.later (policy.backoff.delay attempts)))
  | released {threshold now r} (h : r.stale (now.earlier threshold) = true) :
    Change n (.recoverStuck n threshold now) r r.release

/-- **Nothing that is done to a record changes what it was when it came in.** -/
theorem Change.origin_eq {n : Nat} {op : Operation} {r r' : Record} (h : Change n op r r') :
    r'.origin = r.origin := by
  cases h <;> simp

/-- An operation that is answered like this brings a record into the store `n`. -/
inductive Enters (d : Depot) (n : Nat) : Operation → Answer → Record → Prop where
  | enqueued {id e now} :
    Enters d n (.enqueue n id e now) (.record (some (.ofEvent id e now))) (.ofEvent id e now)
  | committed {t tx k r} (htx : d.open? t = some tx) (hn : tx.store = n) (hr : r ∈ tx.staged) :
    Enters d n (.commit n t) (.count k) r

/-- An operation removes a record from the store `n`: it purges, and the record has expired. -/
def Purges (n : Nat) (op : Operation) (r : Record) : Prop :=
  ∃ retention now, op = .purgePublished n retention now ∧ r.expired (now.earlier retention) = true

def stagedIn (t : Nat) : Operation × Answer → Option Record
  | (.stage _ u _ _ _, .record r) => if u = t then r else none
  | _ => none

/-- How the rows of the store `n` may change. -/
inductive RowsEffect (d : Depot) (n : Nat) (op : Operation) (a : Answer) :
    List (Nat × Record) → List (Nat × Record) → Prop where
  | changed {rows rows'} (h : Contents.RowsChange (Change n op) rows rows') :
    RowsEffect d n op a rows rows'
  | added {rows new} (h : ∀ row ∈ new, Enters d n op a row.2) :
    RowsEffect d n op a rows (rows ++ new)
  | purged {rows retention now} (h : op = .purgePublished n retention now) :
    RowsEffect d n op a rows (rows.filter fun row => !row.2.expired (now.earlier retention))

section
variable {d d' : Depot} {n : Nat} {op : Operation} {a : Answer} {front back : List (Nat × Record)}

theorem RowsEffect.refl : RowsEffect d n op a front front :=
  .changed (Contents.RowsChange.refl (.kept op) front)

/-- A row stays, changed as the operation changes records, or it is purged. -/
theorem RowsEffect.forward (h : RowsEffect d n op a front back) {r : Record}
    (hr : r ∈ front.map (·.2)) :
    (∃ r' ∈ back.map (·.2), Change n op r r') ∨ Purges n op r := by
  obtain ⟨⟨seq, r⟩, hrow, rfl⟩ := List.mem_map.1 hr
  cases h with
  | changed h =>
    obtain ⟨r', hr', hc⟩ := h.forward hrow
    exact .inl ⟨r', List.mem_map_of_mem hr', hc⟩
  | added h =>
    exact .inl ⟨r, List.mem_map_of_mem (List.mem_append_left _ hrow), .kept op r⟩
  | purged h =>
    rename_i retention now
    cases hexp : r.expired (now.earlier retention) with
    | true => exact .inr ⟨retention, now, h, hexp⟩
    | false =>
      refine .inl ⟨r, List.mem_map.2 ⟨(seq, r), List.mem_filter.2 ⟨hrow, ?_⟩, rfl⟩, .kept op r⟩
      simp [hexp]

/-- A row was there before, or has entered with this operation. -/
theorem RowsEffect.backward (h : RowsEffect d n op a front back) {r' : Record}
    (hr' : r' ∈ back.map (·.2)) :
    (∃ r ∈ front.map (·.2), Change n op r r') ∨ Enters d n op a r' := by
  obtain ⟨⟨seq, r'⟩, hrow, rfl⟩ := List.mem_map.1 hr'
  cases h with
  | changed h =>
    obtain ⟨r, hr, hc⟩ := h.backward hrow
    exact .inl ⟨r, List.mem_map_of_mem hr, hc⟩
  | added h =>
    rcases List.mem_append.1 hrow with hrow | hrow
    · exact .inl ⟨r', List.mem_map_of_mem hrow, .kept op r'⟩
    · exact .inr (h _ hrow)
  | purged h =>
    exact .inl ⟨r', List.mem_map_of_mem (List.mem_filter.1 hrow).1, .kept op r'⟩

/-- An operation on one store leaves the rows of the others alone. -/
theorem RowsEffect.put {m : Nat} {c c' : Contents} (hc : d.contents? m = some c)
    (h : n = m → RowsEffect d n op a c.rows c'.rows) :
    RowsEffect d n op a (d.rows n) ((d.put m c').rows n) := by
  rw [rows_put hc]
  split
  · rename_i heq
    subst heq
    rw [rows_eq hc]
    exact h rfl
  · exact .refl

/-! ## Changes in place -/

/-- An operation changes records of the store `n` and nothing else. -/
def InPlace (n : Nat) (op : Operation) (c c' : Contents) : Prop :=
  ∃ rows, c' = { c with rows := rows } ∧ Contents.RowsChange (Change n op) c.rows rows

theorem RowsEffect.inPlace {c c' : Contents} (h : InPlace n op c c') :
    RowsEffect d n op a c.rows c'.rows := by
  obtain ⟨rows, rfl, hrows⟩ := h
  exact .changed hrows

/-- A change in place keeps numbers and ids, so that the rows stay filed. -/
theorem InPlace.filed {c c' : Contents} (h : InPlace n op c c') (hc : c.Filed) : c'.Filed := by
  obtain ⟨rows, rfl, hrows⟩ := h
  exact hc.of_rowsChange hrows fun r r' hr => Record.id_eq_of_origin hr.origin_eq

/-- A claim of a batch changes records in their places. -/
theorem inPlace_claimBatch (n : Nat) (policy : Policy) (limit : Nat) (worker : String)
    (now : Instant) (c : Contents) :
    InPlace n (.claimBatch n policy limit worker now) c
      (c.claimUpTo policy worker now limit).2 := by
  obtain ⟨rows, heq, hrows, -⟩ := @Contents.claimUpTo_rows policy worker now limit c
  refine ⟨rows, heq, hrows.imp fun r r' hr => ?_⟩
  rcases hr with rfl | ⟨hclaim, rfl⟩
  · exact .kept _ _
  · exact .claimed hclaim

theorem inPlace_claimOne (n : Nat) {policy : Policy} {worker : String} {now : Instant}
    {c c' : Contents} {r : Record} (h : c.claimOne? policy worker now = some (r, c')) :
    InPlace n (.claimOne n policy worker now) c c' := by
  obtain ⟨rows, rfl, hrows, -⟩ := Contents.claimOne?_rows h
  refine ⟨rows, rfl, hrows.imp fun r r' hr => ?_⟩
  rcases hr with rfl | ⟨hclaim, rfl⟩
  · exact .kept _ _
  · exact .claimedOne hclaim

/-- Settling the record with an id changes no other record. -/
theorem inPlace_update {c : Contents} (hc : c.Filed) {id : Uuid} {f : Record → Record}
    (h : ∀ r, r.id = id → Change n op r (f r)) : InPlace n op c (c.update id f) := by
  obtain ⟨rows, heq, hrows⟩ := hc.update_rows id f
  refine ⟨rows, heq, hrows.imp fun r r' hr => ?_⟩
  rcases hr with rfl | ⟨hid, rfl⟩
  · exact .kept _ _
  · exact h r hid

/-- A recovery changes records in their places. -/
theorem inPlace_recover (n : Nat) (threshold : Duration) (now : Instant) (c : Contents) :
    InPlace n (.recoverStuck n threshold now) c (c.recover (now.earlier threshold)).2 := by
  obtain ⟨rows, heq, hrows⟩ := Contents.recover_rows c (now.earlier threshold)
  refine ⟨rows, heq, hrows.imp fun r r' hr => ?_⟩
  split at hr
  · rename_i hstale
    subst hr
    exact .released hstale
  · subst hr
    exact .kept _ _

/-! ## One inversion for all rows -/

/-- **What can happen to the rows of a store.** They change one by one, or rows are added, or rows
are purged. -/
theorem Effect.rows (filed : d.Filed) (hd : Effect d op a d') (n : Nat) :
    RowsEffect d n op a (d.rows n) (d'.rows n) := by
  cases hd with
  | invalid | notStaged | duplicate | stagedDuplicate | begun | claimedNone | got | exhausted | seen
  | sized =>
    exact .refl
  | entered hc h =>
    refine .put hc fun heq => ?_
    rw [(Contents.insert?_rows h).1]
    refine .added fun row hrow => ?_
    cases List.mem_singleton.1 hrow
    subst heq
    exact .enqueued
  -- A reservation and its release touch the owners of keys only.
  | staged htx hn hc h =>
    obtain ⟨owners', rfl⟩ := Contents.reserveFor?_eq_some h
    exact .put hc fun _ => .refl
  | committed htx hn hc =>
    rename_i m t tx c
    obtain ⟨-, new, hrows, hnew⟩ := (filed m c hc).insertAll tx.staged
    refine .put hc fun heq => ?_
    rw [hrows]
    subst heq
    exact .added fun row hrow => .committed htx hn (hnew row hrow)
  | misdirected htx hn hc =>
    refine .put hc fun _ => ?_
    rw [((filed _ _ hc).releaseKeys _).2]
    exact .refl
  | rolledBack htx hc =>
    refine .put hc fun _ => ?_
    rw [((filed _ _ hc).releaseKeys _).2]
    exact .refl
  | claimed hc => exact .put hc fun heq => .inPlace (heq ▸ inPlace_claimBatch ..)
  | claimedOne hc h => exact .put hc fun heq => .inPlace (heq ▸ inPlace_claimOne _ h)
  | marked hc =>
    exact .put hc fun heq => .inPlace (heq ▸ inPlace_update (filed _ _ hc) fun _ => .marked)
  | rescheduled hc =>
    exact .put hc fun heq => .inPlace (heq ▸ inPlace_update (filed _ _ hc) fun _ => .rescheduled)
  | recovered hc => exact .put hc fun heq => .inPlace (heq ▸ inPlace_recover ..)
  | purged hc =>
    refine .put hc fun heq => ?_
    rw [((filed _ _ hc).purge _).2]
    subst heq
    exact .purged rfl

/-- Every operation keeps the stores filed. -/
theorem Effect.filed (filed : d.Filed) (hd : Effect d op a d') : d'.Filed := by
  cases hd with
  | invalid | notStaged | duplicate | stagedDuplicate | begun | claimedNone | got | exhausted | seen
  | sized =>
    exact filed
  | entered hc h => exact filed.put hc ((filed _ _ hc).insert? h)
  | staged htx hn hc h =>
    obtain ⟨owners', rfl⟩ := Contents.reserveFor?_eq_some h
    have old := filed _ _ hc
    exact filed.put hc ⟨old.ascending, old.bounded, old.found⟩
  | committed htx hn hc => exact filed.put hc ((filed _ _ hc).insertAll _).1
  | misdirected htx hn hc => exact filed.put hc ((filed _ _ hc).releaseKeys _).1
  | rolledBack htx hc => exact filed.put hc ((filed _ _ hc).releaseKeys _).1
  | claimed hc => exact filed.put hc ((inPlace_claimBatch 0 ..).filed (filed _ _ hc))
  | claimedOne hc h => exact filed.put hc ((inPlace_claimOne 0 h).filed (filed _ _ hc))
  | marked hc =>
    have old := filed _ _ hc
    exact filed.put hc ((inPlace_update old fun _ => Change.marked (n := 0)).filed old)
  | rescheduled hc =>
    have old := filed _ _ hc
    exact filed.put hc ((inPlace_update old fun _ => Change.rescheduled (n := 0)).filed old)
  | recovered hc => exact filed.put hc ((inPlace_recover 0 ..).filed (filed _ _ hc))
  | purged hc => exact filed.put hc ((filed _ _ hc).purge _).1

/-- **Where a record goes.** A stored record is stored at the next moment, as the operation has
changed it, or it is purged. -/
theorem Effect.forward (filed : d.Filed) (hd : Effect d op a d') {n : Nat} {r : Record}
    (hr : r ∈ d.records n) : (∃ r' ∈ d'.records n, Change n op r r') ∨ Purges n op r :=
  (hd.rows filed n).forward hr

/-- **Where a record comes from.** A record that is stored was stored a moment before, as it was
before the operation, or the operation has brought it in. -/
theorem Effect.backward (filed : d.Filed) (hd : Effect d op a d') {n : Nat} {r' : Record}
    (hr' : r' ∈ d'.records n) : (∃ r ∈ d.records n, Change n op r r') ∨ Enters d n op a r' :=
  (hd.rows filed n).backward hr'

/-! ## What a claim answers -/

/-- What a batch answers was claimable, and it is stored as it is answered. -/
theorem Effect.exists_of_claimBatch {n : Nat} {policy : Policy} {limit : Nat} {worker : String}
    {now : Instant} {ws : List Record} {w : Record}
    (hd : Effect d (.claimBatch n policy limit worker now) (.records ws) d') (hw : w ∈ ws) :
    ∃ r ∈ d.records n, r.claimable now policy.maxAttempts = true ∧ w = r.claim worker now ∧
      w ∈ d'.records n := by
  cases hd with
  | claimed hc =>
    rename_i c
    obtain ⟨rows', hput, -, answered⟩ := @Contents.claimUpTo_rows policy worker now limit c
    obtain ⟨seq, r, hrow, claimable, eq_claim, hrow'⟩ := answered w hw
    refine ⟨r, ?_, claimable, eq_claim, ?_⟩
    · rw [records_eq hc]
      exact List.mem_map_of_mem hrow
    · rw [records, rows_put hc, if_pos rfl, hput]
      exact List.mem_map_of_mem hrow'

/-- The record that a single claim answers was claimable, and it is stored as it is answered. -/
theorem Effect.exists_of_claimOne {n : Nat} {policy : Policy} {worker : String} {now : Instant}
    {w : Record} (hd : Effect d (.claimOne n policy worker now) (.record (some w)) d') :
    ∃ r ∈ d.records n, r.claimable now policy.maxAttempts = true ∧ w = r.claim worker now ∧
      w ∈ d'.records n := by
  cases hd with
  | claimedOne hc hone =>
    obtain ⟨rows', rfl, -, seq, r, hrow, claimable, eq_claim, hrow'⟩ := Contents.claimOne?_rows hone
    refine ⟨r, ?_, claimable, eq_claim, ?_⟩
    · rw [records_eq hc]
      exact List.mem_map_of_mem hrow
    · rw [records, rows_put hc, if_pos rfl]
      exact List.mem_map_of_mem hrow'

/-! ## Staged records -/

/-- What is staged for a store is in some open transaction of it. -/
theorem mem_staged {n : Nat} {r : Record} :
    r ∈ d.staged n ↔ ∃ t tx, d.open? t = some tx ∧ tx.store = n ∧ r ∈ tx.staged := by
  unfold staged
  rw [List.mem_flatMap]
  constructor
  · rintro ⟨b, hb, hr⟩
    obtain ⟨t, ht⟩ := List.getElem?_of_mem hb
    cases b with
    | none => simp [stagedFor] at hr
    | some tx =>
      simp only [stagedFor] at hr
      split at hr
      · exact ⟨t, tx, open?_eq_some.2 ht, ‹_›, hr⟩
      · simp at hr
  · rintro ⟨t, tx, htx, hn, hr⟩
    refine ⟨some tx, List.mem_of_getElem? (open?_eq_some.1 htx), ?_⟩
    simpa [stagedFor, hn] using hr

/-- What is staged when a transaction has ended was staged before. -/
theorem mem_staged_of_ended {n t : Nat} {r : Record}
    (hr : r ∈ (d.setTransaction t none).staged n) : r ∈ d.staged n := by
  obtain ⟨u, tx, htx, hn, hin⟩ := mem_staged.1 hr
  rw [open?_eq_some, transactions_setTransaction] at htx
  rcases List.mem_or_eq_of_mem_set (List.mem_of_getElem? htx) with hmem | heq
  · obtain ⟨v, hv⟩ := List.getElem?_of_mem hmem
    exact mem_staged.2 ⟨v, tx, open?_eq_some.2 hv, hn, hin⟩
  · cases heq

/-- An open transaction was open before, or it was just begun and is empty, or an event was just
staged in it. -/
theorem Effect.open?_backward (hd : Effect d op a d') {t : Nat} {tx' : Transaction}
    (htx' : d'.open? t = some tx') :
    d.open? t = some tx' ∨
    (d.open? t = none ∧ op = .begin tx'.store ∧ a = .count t ∧ tx'.staged = []) ∨
    ∃ tx id e now, d.open? t = some tx ∧ op = .stage tx.store t id e now ∧
      a = .record (some (.ofEvent id e now)) ∧
      tx' = ⟨tx.store, tx.staged ++ [.ofEvent id e now]⟩ := by
  cases hd with
  | invalid | notStaged | duplicate | stagedDuplicate | claimedNone | got | exhausted | seen | sized
  | entered | claimed | claimedOne | marked | rescheduled | recovered | purged => exact .inl htx'
  | begun hn =>
    -- A number below the length was given away before, so the new one is the length itself.
    by_cases hlt : t < d.transactions.length
    · refine .inl ?_
      rwa [open?_eq_some, List.getElem?_append_left hlt, ← open?_eq_some] at htx'
    · have hge := Nat.le_of_not_lt hlt
      have hnone : d.open? t = none := by simp [open?, List.getElem?_eq_none hge]
      rw [open?_eq_some, List.getElem?_append_right hge, List.getElem?_singleton] at htx'
      split at htx'
      · rename_i hzero
        obtain rfl : t = d.transactions.length := by omega
        cases htx'
        exact .inr (.inl ⟨hnone, rfl, rfl, rfl⟩)
      · cases htx'
  | staged htx hn hc h =>
    rw [open?_put_setTransaction htx] at htx'
    split at htx'
    · rename_i heq
      subst heq
      cases htx'
      subst hn
      exact .inr (.inr ⟨_, _, _, _, htx, rfl, rfl, rfl⟩)
    · exact .inl htx'
  | committed htx | misdirected htx | rolledBack htx =>
    rw [open?_put_setTransaction htx] at htx'
    split at htx'
    · cases htx'
    · exact .inl htx'

/-- What is staged was staged before, or it was made just now. -/
theorem Effect.staged_backward (hd : Effect d op a d') {n : Nat} {r : Record}
    (hr : r ∈ d'.staged n) :
    r ∈ d.staged n ∨
      ∃ t id e now, op = .stage n t id e now ∧ a = .record (some r) ∧ r = .ofEvent id e now := by
  obtain ⟨t, tx', htx', rfl, hin⟩ := mem_staged.1 hr
  rcases hd.open?_backward htx' with htx | ⟨-, -, -, hnil⟩ | ⟨tx, id, e, now, htx, hop, ha, rfl⟩
  · exact .inl (mem_staged.2 ⟨t, tx', htx, rfl, hin⟩)
  · rw [hnil] at hin
    cases hin
  · rcases List.mem_append.1 hin with hin | hin
    · exact .inl (mem_staged.2 ⟨t, tx, htx, rfl, hin⟩)
    · cases List.mem_singleton.1 hin
      exact .inr ⟨t, id, e, now, hop, ha, rfl⟩

/-- **Where a record with an old id comes from.** If no transaction has one staged, it was stored a
moment before. -/
theorem Effect.backward_of_old (filed : d.Filed) (hd : Effect d op a d') {n : Nat} {id : Uuid}
    (old : op.made ≠ some id) (unstaged : ∀ r ∈ d.staged n, r.id ≠ id) {r' : Record}
    (hr' : r' ∈ d'.records n) (hid : r'.id = id) :
    ∃ r ∈ d.records n, r.id = id ∧ Change n op r r' := by
  rcases hd.backward filed hr' with ⟨r, hr, hc⟩ | henter
  · exact ⟨r, hr, (Record.id_eq_of_origin hc.origin_eq).symm.trans hid, hc⟩
  · -- A record with the id can enter only where the id is made again, or where it was staged.
    cases henter with
    | enqueued => exact absurd (congrArg some hid) old
    | committed htx hn hin =>
      exact absurd hid (unstaged r' (mem_staged.2 ⟨_, _, htx, hn, hin⟩))

/-- No id is staged but by the operation that it was made for. -/
theorem Effect.unstaged_of_old (hd : Effect d op a d') {n : Nat} {id : Uuid}
    (old : op.made ≠ some id) (unstaged : ∀ r ∈ d.staged n, r.id ≠ id) :
    ∀ r ∈ d'.staged n, r.id ≠ id := by
  intro r hr hid
  rcases hd.staged_backward hr with hr | ⟨t, id', e, now, rfl, -, rfl⟩
  · exact unstaged r hr hid
  · exact old (congrArg some hid)

/-- What becomes of an open transaction that the operation does not end: what was staged in it just
now comes behind what it has. -/
theorem Effect.open?_staged (hd : Effect d op a d') {t : Nat} {tx : Transaction}
    (htx : d.open? t = some tx) (h : ¬ op.Ends t) :
    d'.open? t = some ⟨tx.store, tx.staged ++ (stagedIn t (op, a)).toList⟩ := by
  have same : d.open? t = some ⟨tx.store, tx.staged ++ []⟩ := by rwa [List.append_nil]
  cases hd with
  | begun hn =>
    have hlt := (List.getElem?_eq_some_iff.1 (open?_eq_some.1 htx)).1
    refine Eq.trans ?_ same
    unfold open?
    rw [List.getElem?_append_left hlt]
  | staged htx' hn hc hres =>
    rename_i n u id e now tx' c c'
    rw [open?_put_setTransaction htx']
    by_cases heq : t = u
    · subst heq
      cases htx.symm.trans htx'
      simp [stagedIn, hn]
    · rw [if_neg heq]
      simpa [stagedIn, Ne.symm heq] using same
  | stagedDuplicate htx' hn hc hres => simpa [stagedIn] using same
  | committed htx' hn hc =>
    rw [open?_put_setTransaction htx', if_neg (by rintro rfl; exact h (.inr ⟨_, rfl⟩))]
    exact same
  | misdirected htx' hn hc =>
    rw [open?_put_setTransaction htx', if_neg (by rintro rfl; exact h (.inr ⟨_, rfl⟩))]
    exact same
  | rolledBack htx' hc =>
    rw [open?_put_setTransaction htx', if_neg (by rintro rfl; exact h (.inl rfl))]
    exact same
  | invalid | notStaged | duplicate | claimedNone | got | exhausted | seen | sized | entered
  | claimed | claimedOne | marked | rescheduled | recovered | purged => exact same

/-- An open transaction stays open and keeps what it has staged, or it is committed to its store, or
it is given up. -/
theorem Effect.open?_forward (hd : Effect d op a d') {t : Nat} {tx : Transaction}
    (htx : d.open? t = some tx) :
    (∃ more, d'.open? t = some ⟨tx.store, tx.staged ++ more⟩) ∨
    (∃ c, d.contents? tx.store = some c ∧
      d' = (d.put tx.store (c.insertAll tx.staged).2).setTransaction t none) ∨
    op = .rollback t ∨ ∃ m, m ≠ tx.store ∧ op = .commit m t := by
  by_cases ends : op.Ends t
  · refine .inr ?_
    rcases ends with rfl | ⟨m, rfl⟩
    · exact .inr (.inl rfl)
    · cases hd with
      | committed htx' hn hc =>
        cases htx.symm.trans htx'
        subst hn
        exact .inl ⟨_, hc, rfl⟩
      | misdirected htx' hn hc =>
        cases htx.symm.trans htx'
        exact .inr (.inr ⟨m, hn, rfl⟩)
  · exact .inl ⟨_, hd.open?_staged htx ends⟩

end
end Depot
end EventRelay
