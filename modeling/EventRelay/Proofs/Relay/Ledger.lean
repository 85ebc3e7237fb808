import EventRelay.Proofs.Depot.Exclusion
import EventRelay.Proofs.Dispatcher.Stages
import EventRelay.Proofs.Uuid

/-!
# Publications and attempts

How many publications a record has had, against the attempts that it shows. A record between two
deliveries shows as many as it has had (`Record.tries`); the copies that a round holds are as the
records stand in the store, up to who holds them; and the record that the round has published and
not yet settled is one behind. `Ledger` is this balance for one store and one round, and there is
one lemma for each thing that can happen: an operation that settles nothing (`Ledger.does`), a
claim, a publication, and a settlement. A recovery in the middle of a delivery is of the first kind:
it takes the record from the round but leaves its attempts, and the settlement finds it by its id.
-/

namespace EventRelay

namespace Record

/-- The publications that a record answers for. -/
def tries (t : Record) : Nat := t.attempts.toNat + if t.status = .published then 1 else 0

/-- What the number of publications depends on. -/
def tally (t : Record) : Uuid × UInt32 × Bool := (t.id, t.attempts, t.status = .published)

theorem tries_eq_of_tally {t t' : Record} (h : t'.tally = t.tally) : t'.tries = t.tries := by
  simp only [tally, Prod.mk.injEq, decide_eq_decide] at h
  simp only [tries, h.2.1, h.2.2]

end Record

/-- The operation settles the delivery of the record with the id. -/
inductive Operation.Settles (n : Nat) (id : Uuid) : Operation → Prop where
  | published {now} : Settles n id (.markPublished n id now)
  | putOff {policy error attempts now} : Settles n id (.reschedule n policy id error attempts now)

namespace Depot

/-- The record of which a round has a copy is stored, has the same attempts and is not published. -/
def Stands (d : Depot) (n : Nat) (w : Record) : Prop :=
  ∃ t ∈ d.records n, t.tally = (w.id, w.attempts, false)

section
variable {d d' : Depot} {op : Operation} {a : Answer} {n : Nat} {t t' w : Record}

/-- Nothing but a settlement changes what the number of publications depends on. -/
theorem Change.tally_eq (h : Change n op t t') (unsettled : ¬ op.Settles n t.id) :
    t'.tally = t.tally := by
  cases h with
  | kept => rfl
  | claimed hclaim | claimedOne hclaim =>
    simp [Record.tally, Record.claim, pending_of_claimable hclaim]
  | marked hid =>
    subst hid
    exact absurd .published unsettled
  | rescheduled hid =>
    subst hid
    exact absurd .putOff unsettled
  | released hstale =>
    simp [Record.tally, Record.release, (Record.stale_iff.1 hstale).1]

/-- Only a settlement of its record makes a copy out of date. -/
theorem Stands.does (h : d.Stands n w) (filed : d.Filed) (hd : Effect d op a d')
    (unsettled : ∀ id, ¬ op.Settles n id) : d'.Stands n w := by
  obtain ⟨t, ht, htally⟩ := h
  rcases hd.forward filed ht with ⟨t', ht', hc⟩ | ⟨retention, now, -, hexp⟩
  · exact ⟨t', ht', (hc.tally_eq (unsettled _)).trans htally⟩
  · simp [Record.tally, (Record.expired_iff.1 hexp).1] at htally

end
end Depot

open Depot

/-- The publications so far balance with the attempts that the records of the store `n` show, while
one round is at the stage `s`. -/
structure Ledger (n : Nat) (maxAttempts : UInt32) (count : Uuid → Nat) (made : List Uuid)
    (d : Depot) (s : Stage) : Prop where
  bounded : ∀ id, count id ≤ maxAttempts.toNat
  known : ∀ id, count id ≠ 0 → id ∈ made
  unsent : ∀ t ∈ d.staged n, t.tries = 0 ∧ count t.id = 0
  counted : ∀ t ∈ d.records n, (∀ w, s.sent = some w → w.id ≠ t.id) → count t.id = t.tries
  waiting : ∀ w ∈ s.waiting,
    w.attempts < maxAttempts ∧ count w.id = w.attempts.toNat ∧ d.Stands n w
  sent : ∀ w, s.sent = some w →
    w.attempts < maxAttempts ∧ count w.id = w.attempts.toNat + 1 ∧ d.Stands n w
  distinct : (s.held.map (·.id)).Nodup

namespace Ledger

variable {n : Nat} {maxAttempts : UInt32} {count count' : Uuid → Nat} {made : List Uuid}
  {d d' : Depot} {s : Stage} {op : Operation} {a : Answer} {w : Record} {todo : List Record}

/-- No record shows more attempts than the policy allows. -/
theorem attempts_le (h : Ledger n maxAttempts count made d s) (sound : d.Sound) {t : Record}
    (ht : t ∈ d.records n) : t.attempts ≤ maxAttempts := by
  by_cases hs : ∀ w, s.sent = some w → w.id ≠ t.id
  · have hcount := h.counted t ht hs
    have := h.bounded t.id
    rw [UInt32.le_iff_toNat_le]
    unfold Record.tries at hcount
    omega
  · obtain ⟨w, hw, hid⟩ : ∃ w, s.sent = some w ∧ w.id = t.id := by
      simpa only [not_forall, not_not, exists_prop] using hs
    obtain ⟨hlt, -, t₀, ht₀, htally⟩ := h.sent w hw
    simp only [Record.tally, Prod.mk.injEq] at htally
    have hfind := sound.find?_eq_some_iff.2 ⟨ht₀, htally.1.trans hid⟩
    obtain rfl : t₀ = t :=
      Option.some.inj (hfind.symm.trans (sound.find?_eq_some_iff.2 ⟨ht, rfl⟩))
    rw [htally.2.1]
    exact UInt32.le_of_lt hlt

/-- An operation that settles nothing in the store `n`, whoever does it. -/
theorem does (h : Ledger n maxAttempts count made d s) (sound : d.Sound) (hd : Effect d op a d')
    (unsettled : ∀ id, ¬ op.Settles n id) (new : ∀ id, op.made = some id → id ∉ made) :
    Ledger n maxAttempts count (made ++ op.made.toList) d' s where
  bounded := h.bounded
  known id hid := List.mem_append_left _ (h.known id hid)
  unsent t ht := by
    rcases hd.staged_backward ht with ht | ⟨u, id, e, now, rfl, -, rfl⟩
    · exact h.unsent t ht
    · exact ⟨rfl, not_not.1 fun hne => new id rfl (h.known id hne)⟩
  counted t' ht' hs := by
    rcases hd.backward sound.filed ht' with ⟨t, ht, hc⟩ | henter
    · have hid : t'.id = t.id := Record.id_eq_of_origin hc.origin_eq
      rw [Record.tries_eq_of_tally (hc.tally_eq (unsettled _)), hid]
      exact h.counted t ht (hid ▸ hs)
    · cases henter with
      | enqueued => exact not_not.1 fun hne => new _ rfl (h.known _ hne)
      | committed htx hn hin =>
        obtain ⟨htries, hcount⟩ := h.unsent t' (mem_staged.2 ⟨_, _, htx, hn, hin⟩)
        rw [htries, hcount]
  waiting w hw :=
    have ⟨hlt, hcount, stands⟩ := h.waiting w hw
    ⟨hlt, hcount, stands.does sound.filed hd unsettled⟩
  sent w hw :=
    have ⟨hlt, hcount, stands⟩ := h.sent w hw
    ⟨hlt, hcount, stands.does sound.filed hd unsettled⟩
  distinct := h.distinct

/-- The round claims a batch: the copies are as the records stand then. -/
theorem claims {policy : Policy} {limit : Nat} {worker : String} {now : Instant} {rs : List Record}
    (h : Ledger n policy.maxAttempts count made d (.claiming limit [])) (sound : d.Sound)
    (hd : Effect d (.claimBatch n policy limit worker now) (.records rs) d') :
    Ledger n policy.maxAttempts count made d' (.delivering rs) := by
  have after := h.does sound hd (by rintro id ⟨⟩) (by simp [Operation.made])
  rw [show made ++ (Operation.claimBatch n policy limit worker now).made.toList = made by
    simp [Operation.made]] at after
  have distinct : ((Stage.delivering rs).held.map (·.id)).Nodup := by
    have := hd.claimedFrom_nodup (n := n) sound
    rwa [claimedFrom_batch, if_pos rfl] at this
  refine ⟨h.bounded, h.known, after.unsent, after.counted, fun w hw => ?_, by simp [Stage.sent],
    distinct⟩
  obtain ⟨r, hr, hclaim, rfl, stored⟩ := hd.exists_of_claimBatch hw
  obtain ⟨hpending, -, left⟩ := Record.claimable_iff.1 hclaim
  refine ⟨left, ?_, r.claim worker now, stored, rfl⟩
  rw [show (r.claim worker now).id = r.id from rfl, h.counted r hr (by simp [Stage.sent])]
  simp [Record.tries, Record.claim, hpending]

/-- The round publishes the next record. -/
theorem publishes (h : Ledger n maxAttempts count made d (.delivering (w :: todo)))
    (sound : d.Sound) (made_of : ∀ t ∈ d.records n, t.id ∈ made)
    (one : ∀ id, count' id = count id + if w.id = id then 1 else 0) (timeout : Duration)
    (outcome : Except Undelivered Unit) :
    Ledger n maxAttempts count' made d (.after timeout w todo outcome) := by
  obtain ⟨hlt, hcount, t₀, ht₀, htally⟩ := h.waiting w List.mem_cons_self
  have hid : t₀.id = w.id := congrArg (·.1) htally
  have other : ∀ id, w.id ≠ id → count' id = count id := by
    intro id hne
    rw [one, if_neg hne, Nat.add_zero]
  have this : count' w.id = w.attempts.toNat + 1 := by rw [one, if_pos rfl, hcount]
  have distinct : (w.id :: todo.map (·.id)).Nodup := h.distinct
  constructor
  case bounded =>
    intro id
    by_cases heq : w.id = id
    · rw [← heq, this]
      exact UInt32.lt_iff_toNat_lt.1 hlt
    · rw [other id heq]
      exact h.bounded id
  case known =>
    intro id hne
    by_cases heq : w.id = id
    · rw [← heq, ← hid]
      exact made_of t₀ ht₀
    · exact h.known id (other id heq ▸ hne)
  case unsent =>
    intro t ht
    rw [other t.id (hid ▸ sound.unstaged ht₀ ht)]
    exact h.unsent t ht
  case counted =>
    intro t ht hs
    rw [other t.id (hs w (Stage.sent_after ..))]
    exact h.counted t ht (by simp [Stage.sent])
  case waiting =>
    intro v hv
    rw [Stage.waiting_after] at hv
    have hne : w.id ≠ v.id := by
      intro heq
      exact (List.nodup_cons.1 distinct).1 (List.mem_map.2 ⟨v, hv, heq.symm⟩)
    rw [other v.id hne]
    exact h.waiting v (List.mem_cons_of_mem _ hv)
  case sent =>
    intro v hv
    rw [Stage.sent_after] at hv
    cases hv
    exact ⟨hlt, this, t₀, ht₀, htally⟩
  case distinct =>
    rw [Stage.held, Stage.sent_after, Stage.waiting_after]
    exact distinct

/-- The round settles the record that it has published: the record with this id has one attempt more
than the copy, or it is published. -/
theorem settles (h : Ledger n maxAttempts count made d s) (sound : d.Sound) (hs : s.sent = some w)
    {c : Contents} (hc : d.contents? n = some c) {f : Record → Record}
    (same : ∀ t, (f t).id = t.id)
    (more : ∀ t, t.attempts < maxAttempts → (f t).tries = t.attempts.toNat + 1) :
    Ledger n maxAttempts count made (d.put n (c.update w.id f)) (.delivering s.waiting) := by
  have hrecords := sound.records_settled hc w.id f
  have distinct : (w.id :: s.waiting.map (·.id)).Nodup := by
    have := h.distinct
    rwa [Stage.held, hs] at this
  refine ⟨h.bounded, h.known, h.unsent, ?_, fun v hv => ?_, by simp [Stage.sent],
    (List.nodup_cons.1 distinct).2⟩
  · intro t' ht' _
    rw [hrecords] at ht'
    obtain ⟨t, ht, rfl⟩ := List.mem_map.1 ht'
    split
    · rename_i hid
      -- The stored record shows the attempts of the copy, also if it was taken from the round.
      obtain ⟨hlt, hcount, t₀, ht₀, htally⟩ := h.sent w hs
      simp only [Record.tally, Prod.mk.injEq] at htally
      have hfind := sound.find?_eq_some_iff.2 ⟨ht₀, htally.1⟩
      obtain rfl : t₀ = t :=
        Option.some.inj (hfind.symm.trans (sound.find?_eq_some_iff.2 ⟨ht, hid⟩))
      rw [same, hid, hcount, more t₀ (htally.2.1 ▸ hlt), htally.2.1]
    · rename_i hne
      refine h.counted t ht fun v hv => ?_
      rw [hs] at hv
      cases hv
      exact Ne.symm hne
  · obtain ⟨hlt, hcount, t, ht, htally⟩ := h.waiting v hv
    refine ⟨hlt, hcount, t, ?_, htally⟩
    have hne : t.id ≠ w.id := by
      rw [show t.id = v.id from congrArg (·.1) htally]
      intro heq
      exact (List.nodup_cons.1 distinct).1 (List.mem_map.2 ⟨v, hv, heq⟩)
    rw [hrecords]
    exact List.mem_map.2 ⟨t, ht, if_neg hne⟩

/-- A confirmed record answers for one publication more than its attempts count. -/
theorem tries_markPublished (now : Instant) (t : Record) :
    (t.markPublished now).tries = t.attempts.toNat + 1 := by
  simp [Record.tries, Record.markPublished]

/-- A failed record answers for one publication more than its attempts counted before. -/
theorem tries_reschedule (error : String) (next : Instant) {t : Record}
    (hlt : t.attempts < maxAttempts) :
    (t.reschedule error next).tries = t.attempts.toNat + 1 := by
  have := maxAttempts.toNat_lt
  rw [UInt32.lt_iff_toNat_lt] at hlt
  simp only [Record.tries, Record.reschedule, toNat_countUp, reduceCtorEq, if_false]
  omega

/-- **A call of the round that is at work keeps the balance**, if it claims its batch at once. It
delivers what it holds then. -/
theorem calls {policy : Policy} {worker : String} {s' : Stage}
    (h : Ledger n policy.maxAttempts count made d s) (sound : d.Sound)
    (hcalls : s.Calls n policy worker op a s') (hd : Effect d op a d') (busy : ¬ s.Idle)
    (atOnce : ∀ limit got, s = .claiming limit got → got = [])
    (whole : ∀ m p worker now, op ≠ .claimOne m p worker now) :
    ∃ todo, s' = .delivering todo ∧
      Ledger n policy.maxAttempts count made d' (.delivering todo) := by
  cases hcalls with
  | claimBatch =>
    obtain rfl := atOnce _ _ rfl
    exact ⟨_, rfl, h.claims sound hd⟩
  | claimOne | claimNone => exact absurd rfl (whole _ _ _ _)
  | markPublished =>
    cases hd with
    | marked hc =>
      exact ⟨_, rfl, h.settles sound rfl hc (fun _ => rfl) fun t _ => tries_markPublished _ t⟩
  | reschedule =>
    cases hd with
    | rescheduled hc =>
      exact ⟨_, rfl, h.settles sound rfl hc (fun _ => rfl) fun t hlt => tries_reschedule _ _ hlt⟩
  | recoverStuck | purgePublished => exact absurd .upkeep busy

/-- The ledger depends on the copies that the round holds, and not on what it will do with them. -/
theorem of_idle (h : Ledger n maxAttempts count made d s) (idle : s.Idle) (limit : Nat) :
    Ledger n maxAttempts count made d (.claiming limit []) := by
  have none_sent : s.sent = none := by cases idle <;> rfl
  refine ⟨h.bounded, h.known, h.unsent, fun t ht _ => h.counted t ht (by simp [none_sent]),
    by simp [Stage.waiting], by simp [Stage.sent], by simp [Stage.held, Stage.sent, Stage.waiting]⟩

end Ledger
end EventRelay
