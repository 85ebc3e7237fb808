import EventRelay.Broker
import EventRelay.Proofs.Store.Guise
import EventRelay.Store.Transaction

/-!
# Payloads behind a veil

A store asks of a payload only whether it is null, and a broker asks nothing of it. So each
operation of a store, of a transaction and of a broker is the same when all payloads are behind a
veil that shows no more than that: it commutes with veiling what is stored, staged and published.
-/

namespace EventRelay

/-! ## Payloads -/

/-- What a veil shows of a payload: whether it is null. -/
def Json.veil : Json → Json
  | .null => .null
  | _ => .bool true

@[simp] theorem Json.isNull_veil (payload : Json) : payload.veil.isNull = payload.isNull := by
  cases payload <;> rfl

/-- Behind a veil all payloads are the same that are not null. -/
theorem Json.veil_of_isNull {payload : Json} (h : payload.isNull = false) :
    payload.veil = .bool true := by
  cases payload with
  | null => cases h
  | _ => rfl

def Event.veil (e : Event) : Event := { e with payload := e.payload.veil }

/-- Two payloads look the same behind the veil if neither is null. -/
theorem Event.veil_of_payload (e : Event) {p q : Json} (hp : p.isNull = false)
    (hq : q.isNull = false) : { e with payload := p }.veil = { e with payload := q }.veil := by
  simp only [veil, Json.veil_of_isNull hp, Json.veil_of_isNull hq]

@[simp] theorem Event.dedupeKey_veil (e : Event) : e.veil.dedupeKey = e.dedupeKey := rfl

@[simp] theorem Event.validate_veil (e : Event) : e.veil.validate = e.validate := by
  simp only [validate, veil, Json.isNull_veil]
  rfl

def Record.veil (r : Record) : Record := { r with payload := r.payload.veil }

def Guise.veiled : Guise where
  id id := id
  record := Record.veil
  id_record _ := rfl
  dedupeKey_record _ := rfl
  claimable_record _ _ _ := rfl
  stale_record _ _ := rfl
  expired_record _ _ := rfl
  exhausted_record _ _ := rfl
  claim_record _ _ _ := rfl
  release_record _ := rfl
  markPublished_record _ _ := rfl
  reschedule_record _ _ _ := rfl

theorem Guise.veiled_injective : Guise.veiled.id.Injective := fun _ _ same => same

/-! ## Stores -/

def Contents.veil (c : Contents) : Contents := c.disguise .veiled

def Store.veil (s : Store) : Store := { s with contents := s.contents.veil }

namespace Store
variable (s : Store)

@[simp] theorem veil_empty : Store.empty.veil = .empty := rfl

@[simp] theorem poisoned_veil : s.veil.poisoned = s.poisoned := rfl

@[simp] theorem poison_veil : s.veil.poison = s.poison.veil := rfl

section
variable {α : Type} {f f' : Contents → α × Contents} {g : α → α}

/-- A change under the lock, by what it does to the contents. -/
theorem locked_veil (h : ∀ c, f' c.veil = (g (f c).1, (f c).2.veil)) :
    s.veil.locked f' = (s.locked f).map fun x => (g x.1, x.2.veil) := by
  unfold locked
  rw [poisoned_veil, veil, h]
  split
  · rfl
  · rfl

variable {f f' : Contents → α}

theorem look_veil (h : ∀ c, f' c.veil = g (f c)) : s.veil.look f' = (s.look f).map g := by
  unfold look
  rw [poisoned_veil, veil, h]
  split
  · rfl
  · rfl

end

theorem enqueue_veil (id : Uuid) (e : Event) (now : Instant) :
    s.veil.enqueue id e.veil now =
      (s.enqueue id e now).map fun x => (x.1.map Record.veil, x.2.veil) := by
  unfold enqueue
  rw [Event.validate_veil]
  cases e.validate with
  | error failure => rfl
  | ok =>
    refine s.locked_veil fun c => ?_
    have inserted : c.veil.insert? (.ofEvent id e.veil now) = (c.insert? _).map Contents.veil :=
      Contents.insert?_disguise Guise.veiled_injective c (.ofEvent id e now)
    rw [inserted]
    cases c.insert? (.ofEvent id e now) <;> rfl

theorem claimBatch_veil (policy : Policy) (limit : Nat) (worker : String) (now : Instant) :
    s.veil.claimBatch policy limit worker now =
      (s.claimBatch policy limit worker now).map fun x => (x.1.map Record.veil, x.2.veil) := by
  unfold claimBatch
  split
  · rfl
  · exact s.locked_veil fun c => c.claimUpTo_disguise .veiled policy worker now limit

theorem update_veil (c : Contents) (id : Uuid) (f : Record → Record)
    (hf : ∀ r : Record, f r.veil = (f r).veil) : c.veil.update id f = (c.update id f).veil :=
  Contents.update_disguise Guise.veiled_injective c id hf

theorem markPublished_veil (id : Uuid) (now : Instant) :
    s.veil.markPublished id now = (s.markPublished id now).map fun x => (x.1, x.2.veil) :=
  s.locked_veil (g := fun x => x) fun c =>
    congrArg (Prod.mk ()) (update_veil c id (·.markPublished now) fun _ => rfl)

theorem reschedule_veil (policy : Policy) (id : Uuid) (error : String) (attempts : UInt32)
    (now : Instant) :
    s.veil.reschedule policy id error attempts now =
      (s.reschedule policy id error attempts now).map fun x => (x.1, x.2.veil) := by
  unfold reschedule
  refine s.locked_veil (g := fun entries => entries) fun c => ?_
  have got (c : Contents) : c.veil.get? id = (c.get? id).map Record.veil :=
    Contents.get?_disguise Guise.veiled_injective c id
  dsimp only
  rw [update_veil c id (·.reschedule error (now.later (policy.backoff.delay attempts)))
    fun _ => rfl, got]
  generalize c.update id (·.reschedule error (now.later (policy.backoff.delay attempts))) = c'
  cases c'.get? id with
  | none => rfl
  | some r =>
    have same : r.veil.exhausted policy.maxAttempts = r.exhausted policy.maxAttempts := rfl
    simp only [Option.map_some, same]
    split
    · rfl
    · rfl

theorem recoverStuck_veil (threshold : Duration) (now : Instant) :
    s.veil.recoverStuck threshold now =
      (s.recoverStuck threshold now).map fun x => (x.1, x.2.veil) :=
  s.locked_veil (g := fun n => n) fun c => c.recover_disguise .veiled (now.earlier threshold)

theorem purgePublished_veil (retention : Duration) (now : Instant) :
    s.veil.purgePublished retention now =
      (s.purgePublished retention now).map fun x => (x.1, x.2.veil) :=
  s.locked_veil (g := fun n => n) fun c =>
    Contents.purge_disguise Guise.veiled_injective c (now.earlier retention)

theorem get?_veil (id : Uuid) : s.veil.get? id = (s.get? id).map (Option.map Record.veil) :=
  s.look_veil fun c => Contents.get?_disguise Guise.veiled_injective c id

theorem exhausted_veil (policy : Policy) (limit : Nat) :
    s.veil.exhausted policy limit = (s.exhausted policy limit).map (List.map Record.veil) := by
  refine s.look_veil fun c => ?_
  rw [Contents.veil, Contents.records_disguise, List.filter_map, List.map_take]
  rfl

theorem snapshot_veil : s.veil.snapshot = s.snapshot.map (List.map Record.veil) :=
  s.look_veil fun c => c.records_disguise .veiled

theorem size_veil : s.veil.size = s.size := by
  have counted (c : Contents) : c.veil.rows.length = c.rows.length := List.length_map ..
  unfold size look
  dsimp only
  rw [poisoned_veil, veil, counted]

end Store

/-! ## Transactions -/

namespace Transaction

def veil (tx : Transaction) : Transaction := { tx with staged := tx.staged.map Record.veil }

theorem storeAt_veil (stores : Stores) (n : Nat) :
    storeAt (stores.map Store.veil) n = (storeAt stores n).veil := by
  unfold storeAt
  rw [List.getElem?_map]
  cases stores[n]? <;> rfl

variable (tx : Transaction) (stores : Stores) (here : Nat)

theorem accepts_veil (e : Event) : tx.veil.accepts here e.veil = tx.accepts here e := by
  unfold accepts
  rw [Event.validate_veil]
  rfl

theorem enqueue_veil (id : Uuid) (e : Event) (now : Instant) :
    tx.veil.enqueue (stores.map Store.veil) here id e.veil now =
      (tx.enqueue stores here id e now).map fun x =>
        (x.1.map Record.veil, x.2.1.veil, x.2.2.map Store.veil) := by
  have staged : tx.veil.staged ++ [Record.ofEvent id e.veil now] =
      (tx.staged ++ [Record.ofEvent id e now]).map Record.veil := by
    rw [List.map_append]
    rfl
  unfold enqueue
  dsimp only
  rw [accepts_veil, storeAt_veil, Event.dedupeKey_veil, staged]
  cases tx.accepts here e with
  | error failure => rfl
  | ok =>
    cases e.dedupeKey with
    | none => rfl
    | some key =>
      have reserved (c : Contents) :
          c.veil.reserve? key id = (c.reserve? key id).map Contents.veil :=
        Contents.reserve?_disguise Guise.veiled_injective c key id
      dsimp only
      rw [Store.poisoned_veil, Store.veil, reserved]
      split
      · rfl
      · cases (storeAt stores here).contents.reserve? key id with
        | none => rfl
        | some c =>
          simp only [Option.map_some, Except.map, List.map_set]
          rfl

theorem rollback_veil : tx.veil.rollback (stores.map Store.veil) =
    (tx.rollback stores).map Store.veil := by
  have released (c : Contents) : c.veil.releaseKeys (tx.staged.map Record.veil) =
      (c.releaseKeys tx.staged).veil :=
    Contents.releaseKeys_disguise Guise.veiled_injective c tx.staged
  have same : tx.veil.store = tx.store := rfl
  unfold rollback
  rw [same, storeAt_veil]
  dsimp only
  rw [Store.poisoned_veil]
  split
  · rfl
  · rw [List.map_set]
    exact congrArg _ (congrArg (Store.mk · _) (released _))

/-- A commit answers the same behind the veil. -/
theorem commit_veil : tx.veil.commit (stores.map Store.veil) here =
    ((tx.commit stores here).1, (tx.commit stores here).2.map Store.veil) := by
  have same : tx.veil.store = tx.store := rfl
  unfold commit
  rw [same, storeAt_veil, rollback_veil]
  split
  · rfl
  · have inserted : (storeAt stores here).veil.locked (·.insertAll tx.veil.staged) =
        ((storeAt stores here).locked (·.insertAll tx.staged)).map fun x => (x.1, x.2.veil) :=
      Store.locked_veil _ (g := fun n => n) fun c =>
        Contents.insertAll_disguise Guise.veiled_injective c tx.staged
    rw [inserted]
    cases (storeAt stores here).locked (·.insertAll tx.staged) with
    | error failure => rfl
    | ok x =>
      simp only [Except.map, List.map_set]

end Transaction

/-! ## Messages -/

def Message.veil (m : Message) : Message :=
  { m with envelope := { m.envelope with payload := m.envelope.payload.veil } }

namespace Broker
variable (b : Broker)

def veil (b : Broker) : Broker := { b with log := b.log.map Message.veil }

@[simp] theorem veil_default : Broker.default.veil = .default := rfl

/-- A new broker has nothing to hide. -/
theorem veil_of_ofCapacity {capacity : Nat} {b : Broker} (h : ofCapacity capacity = .ok b) :
    b.veil = b := by
  unfold ofCapacity at h
  split at h
  · cases h
  · split at h
    · cases h
    · split at h
      · cases h
      · cases h
        rfl

theorem publish_veil (m : Message) :
    b.veil.publish m.veil = ((b.publish m).1, (b.publish m).2.veil) := by
  have same : b.veil.failures = b.failures := rfl
  unfold publish
  rw [same]
  split
  · rfl
  · simp [veil]

theorem receive_veil (place : Nat) :
    b.veil.receive place = (b.receive place).map (Except.map Message.veil) := by
  have seen (n : Nat) :
      ((b.log.map Message.veil).drop n).map (.ok : Message → Except Failure Message) =
        ((b.log.drop n).map .ok).map (Except.map Message.veil) := by
    rw [← List.map_drop, List.map_map, List.map_map]
    rfl
  unfold receive
  simp only [veil, List.length_map, seen]
  split
  · rfl
  · rfl

end Broker
end EventRelay
