import EventRelay.Proofs.Depot.Effects

/-!
# The effects are what is done

That nothing but its effects can come of an operation is `Healthy.effect`. The other direction is
here: whatever is an effect of an operation comes of it, so that its client gets the answer
(`Healthy.does_iff`). Two things the effects do not tell, and `Admits` adds them: that an event
which was taken in or refused as a duplicate is a valid one, and that a store which refuses an event
is there.
-/

namespace EventRelay.Depot

/-- Only a valid event is answered by its record, or by none, and only a store that is there refuses
an event. -/
def Admits (d : Depot) : Operation → Answer → Prop
  | .enqueue _ _ e _, .record _ | .stage _ _ _ e _, .record _ => e.validate = .ok ()
  | .enqueue n _ _ _, .failed _ => n < d.stores.length
  | _, _ => True

section
variable {d d' : Depot} {op : Operation} {a : Answer} {n : Nat} {c : Contents}

/-- Only what is admitted is ever answered. -/
theorem Does.admits (hd : d.Does (op, a) d') : d.Admits op a := by
  cases op with
  | enqueue n id e now =>
    obtain ⟨s, hs, heq⟩ := Option.map_eq_some_iff.1 hd
    cases hv : e.validate with
    | error failure =>
      simp only [Store.enqueue, hv, Prod.mk.injEq] at heq
      obtain ⟨rfl, -⟩ := heq
      exact (List.getElem?_eq_some_iff.1 hs).1
    | ok =>
      cases a
      case record => exact hv
      case failed => exact (List.getElem?_eq_some_iff.1 hs).1
      all_goals trivial
  | stage n t id e now =>
    obtain ⟨tx, -, heq⟩ := Option.map_eq_some_iff.1 hd
    cases hv : e.validate with
    | error failure =>
      simp only [Transaction.enqueue, Transaction.accepts, hv, Prod.mk.injEq] at heq
      obtain ⟨rfl, -⟩ := heq
      trivial
    | ok =>
      cases a
      case record => exact hv
      all_goals trivial
  | _ => trivial

/-- A valid event may come into a transaction through its own store. -/
theorem accepts_own {tx : Transaction} {e : Event} (hn : tx.store = n) (hv : e.validate = .ok ()) :
    tx.accepts n e = .ok () := by
  simp [Transaction.accepts, hv, hn]

/-- A store with contents has not been poisoned. -/
theorem Healthy.store (h : d.Healthy) (hc : d.contents? n = some c) :
    d.stores[n]? = some ⟨c, false⟩ := by
  obtain ⟨s, hs, rfl⟩ := Option.map_eq_some_iff.1 hc
  rw [hs, ← (h.getElem? hs).1]

theorem set_open {t : Nat} {tx : Transaction} (htx : d.open? t = some tx) :
    d.transactions.set t (some tx) = d.transactions := by
  obtain ⟨hlt, hget⟩ := List.getElem?_eq_some_iff.1 (open?_eq_some.1 htx)
  rw [← hget, List.set_getElem_self hlt]

/-- What a store does under its lock is done. -/
theorem Healthy.change_some (h : d.Healthy) {α : Type} {answer : α → Answer}
    {f : Store → Except Failure (α × Store)} {x : α} {c' : Contents} (hc : d.contents? n = some c)
    (hf : f ⟨c, false⟩ = .ok (x, ⟨c', false⟩)) :
    d.change n answer f = some (answer x, d.put n c') := by
  simp [change, h.store hc, hf, Depot.put]

/-- Where the store stays as it is, so does the depot. -/
theorem Healthy.change_self (h : d.Healthy) {α : Type} {answer : α → Answer}
    {f : Store → Except Failure (α × Store)} {x : α} (hc : d.contents? n = some c)
    (hf : f ⟨c, false⟩ = .ok (x, ⟨c, false⟩)) : d.change n answer f = some (answer x, d) := by
  rw [h.change_some hc hf, h.put_self hc]

/-- A look at a store that can be used is answered. -/
theorem Healthy.look_some (h : d.Healthy) {α : Type} {answer : α → Answer}
    {f : Store → Except Failure α} {x : α} (hc : d.contents? n = some c)
    (hf : f ⟨c, false⟩ = .ok x) : d.look n answer f = some (answer x, d) := by
  simp [look, h.store hc, hf, Answer.of]

/-- Every effect is done, if it takes in valid events only. -/
theorem Effect.does (h : d.Healthy) (hd : Effect d op a d') (admits : d.Admits op a) :
    d.Does (op, a) d' := by
  cases hd with
  | invalid hv =>
    obtain ⟨s, hs⟩ : ∃ s, d.stores[_]? = some s := ⟨_, List.getElem?_eq_getElem admits⟩
    simp [Does, perform, change, hs, Store.enqueue, hv]
  | entered hc hins =>
    rename_i n id e now c c'
    refine h.change_some hc ?_
    simp [enqueue_store_eq admits, taken, hins]
  | duplicate hc hins =>
    refine h.change_self hc ?_
    simp [enqueue_store_eq admits, taken, hins]
  | begun hn => exact if_pos hn
  | staged htx hn hc hres =>
    simp [Does, perform, htx, enqueue_transaction_eq (h.store hc) (accepts_own hn admits), hres,
      put, setTransaction, hn]
  | notStaged htx hacc => simp [Does, perform, htx, Transaction.enqueue, hacc]
  | stagedDuplicate htx hn hc hres =>
    simp [Does, perform, htx, enqueue_transaction_eq (h.store hc) (accepts_own hn admits), hres,
      set_open htx]
  | committed htx hn hc =>
    subst hn
    simp [Does, perform, htx, Transaction.commit, Transaction.storeAt, h.store hc, Store.locked,
      Answer.of, put, setTransaction]
  | misdirected htx hn hc =>
    simp [Does, perform, htx, Transaction.commit, Transaction.rollback, hn, Transaction.storeAt,
      h.store hc, Answer.of, put, setTransaction]
  | rolledBack htx hc =>
    simp [Does, perform, htx, Transaction.rollback, Transaction.storeAt, h.store hc, put,
      setTransaction]
  | claimed hc =>
    rename_i n policy limit worker now c
    cases limit with
    | zero =>
      change d.change n .records (·.claimBatch policy 0 worker now) = some (.records [], d.put n c)
      exact h.change_some hc rfl
    | succ limit => exact h.change_some hc rfl
  | claimedOne hc hone =>
    refine h.change_some hc ?_
    simp [Store.claimOne, Store.locked, hone]
  | claimedNone hc hone =>
    refine h.change_self hc ?_
    simp [Store.claimOne, Store.locked, hone]
  | marked hc => exact h.change_some hc rfl
  | rescheduled hc => exact h.change_some hc (reschedule_store_eq ..)
  | recovered hc => exact h.change_some hc rfl
  | purged hc => exact h.change_some hc rfl
  | got hc => exact h.look_some hc rfl
  | exhausted hc => exact h.look_some hc rfl
  | seen hc => exact h.look_some hc rfl
  | sized hc => exact h.look_some hc rfl

/-- **What is done is exactly the effects.** -/
theorem Healthy.does_iff (h : d.Healthy) :
    d.Does (op, a) d' ↔ Effect d op a d' ∧ d.Admits op a :=
  ⟨fun hd => ⟨h.effect hd, hd.admits⟩, fun hd => hd.1.does h hd.2⟩

end
end EventRelay.Depot
