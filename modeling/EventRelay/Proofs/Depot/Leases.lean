import EventRelay.Proofs.Depot.Exclusion

/-!
# Leases

A claimed record is leased to the worker that has claimed it: it is in the hands of this worker
since the time of the claim. A lease begins by a claim that answers the record and in no other way
(`Effect.locked_backward`), and it ends by a settlement of the id or by a recovery whose cutoff is
after the time of the claim, and in no other way (`Leased.does`).
-/

namespace EventRelay

def Operation.claimant (n : Nat) : Operation → Option String
  | .claimBatch m _ _ worker _ | .claimOne m _ worker _ => if m = n then some worker else none
  | _ => none

namespace Depot

/-- The record with the id is stored in the store `n` and in the hands of a worker since some
time. -/
def Leased (d : Depot) (n : Nat) (worker : String) (since : Instant) (id : Uuid) : Prop :=
  ∃ r ∈ d.records n, r.id = id ∧ r.status = .publishing ∧ r.lockedBy = some worker ∧
    r.lockedAt = some since

section
variable {d d' : Depot} {op : Operation} {a : Answer} {n : Nat} {worker : String} {id : Uuid}
  {r : Record}

/-- An operation that claims settles nothing. -/
theorem unsettled_of_claimant (h : op.claimant n = some worker) (p : Nat × Uuid) :
    settledIn op ≠ some p := by
  cases op with
  | claimBatch | claimOne => simp [settledIn]
  | _ => cases h

/-- **What ends a lease.** A leased record stays leased as long as it is not settled and no recovery
looks for leases as old as this one. -/
theorem Leased.does {since : Instant} (h : d.Leased n worker since id) (filed : d.Filed)
    (hd : Effect d op a d') (unsettled : settledIn op ≠ some (n, id))
    (young : ∀ threshold now, op = .recoverStuck n threshold now →
      ¬ since < now.earlier threshold) : d'.Leased n worker since id := by
  obtain ⟨r, hr, rfl, publishing, by_worker, at_since⟩ := h
  rcases hd.forward filed hr with ⟨r', hr', hc⟩ | ⟨retention, now, -, expired⟩
  · cases hc with
    | kept => exact ⟨r, hr', rfl, publishing, by_worker, at_since⟩
    | claimed claimable | claimedOne claimable =>
      rw [pending_of_claimable claimable] at publishing
      cases publishing
    | marked hid | rescheduled hid =>
      subst hid
      exact absurd rfl unsettled
    | released stale =>
      obtain ⟨-, since', at_since', old⟩ := Record.stale_iff.1 stale
      obtain rfl : since = since' := Option.some.inj (at_since.symm.trans at_since')
      exact absurd old (young _ _ rfl)
  · rw [(Record.expired_iff.1 expired).1] at publishing
    cases publishing

/-- What a claim answers is leased to the worker since the time of the claim. -/
theorem Effect.leased_of_claimed (hd : Effect d op a d') (h : id ∈ claimedFrom n (op, a)) :
    ∃ worker since, op.claimant n = some worker ∧ op.reading = some since ∧
      d'.Leased n worker since id := by
  obtain ⟨policy, worker, now, claims, r, -, rfl, -, stored⟩ := hd.exists_of_claimed h
  refine ⟨worker, now, ?_, ?_, r.claim worker now, stored, rfl, rfl, rfl, rfl⟩
  · rcases claims with ⟨limit, rfl⟩ | rfl
    · exact if_pos rfl
    · exact if_pos rfl
  · rcases claims with ⟨limit, rfl⟩ | rfl
    · rfl
    · rfl

/-- Nobody claims what is leased. -/
theorem Leased.not_claimed {since : Instant} (h : d.Leased n worker since id) (sound : d.Sound)
    (hd : Effect d op a d') : id ∉ claimedFrom n (op, a) := by
  intro claimed
  obtain ⟨r, hr, hid, publishing, -⟩ := h
  obtain ⟨⟨r', hr', hid', pending⟩, -⟩ := hd.of_claimed claimed
  have found := sound.find?_eq_some_iff.2 ⟨hr, hid⟩
  have found' := sound.find?_eq_some_iff.2 ⟨hr', hid'⟩
  obtain rfl : r = r' := Option.some.inj (found.symm.trans found')
  rw [publishing] at pending
  cases pending

/-- A claim answers all records that it changes. -/
theorem Effect.claimedFrom_of_new (hd : Effect d op a d') (claims : op.claimant n = some worker)
    (hr : r ∈ d'.records n) (new : r ∉ d.records n) : r.id ∈ claimedFrom n (op, a) := by
  rw [mem_claimedFrom]
  cases hd with
  | claimed hc =>
    rename_i m policy limit worker' now c
    obtain ⟨rfl, -⟩ : m = n ∧ worker' = worker := by
      simpa [Operation.claimant] using claims
    rw [records, rows_put hc, if_pos rfl] at hr
    rw [records_eq hc] at new
    rcases Contents.mem_claimUpTo hr with old | answered
    · exact absurd old new
    · exact List.mem_map_of_mem (f := fun w : Record => (m, w.id)) answered
  | claimedOne hc hone =>
    rename_i m policy worker' now c w c'
    obtain ⟨rfl, -⟩ : m = n ∧ worker' = worker := by
      simpa [Operation.claimant] using claims
    obtain ⟨front, seq, r₀, back, hrows, -, -, rfl, rfl⟩ := Contents.claimOne?_eq_some hone
    rw [records, rows_put hc, if_pos rfl] at hr
    rw [records_eq hc, Contents.records, hrows] at new
    simp only [List.map_append, List.map_cons, List.mem_append, List.mem_cons] at hr new
    rcases hr with old | rfl | old
    · exact absurd (.inl old) new
    · simp [claimedIn]
    · exact absurd (.inr (.inr old)) new
  | claimedNone => exact absurd hr new
  | _ => cases claims

/-- After its settlement a record is in nobody's hands. -/
theorem Effect.not_settled (sound : d.Sound) (hd : Effect d op a d') (hr : r ∈ d'.records n)
    (publishing : r.status = .publishing) : settledIn op ≠ some (n, r.id) := by
  intro settled
  have free : ∀ {c f}, d.contents? n = some c → d' = d.put n (c.update r.id f) →
      (∀ t : Record, (f t).status ≠ .publishing) → False := by
    rintro c f hc rfl idle
    rw [sound.records_settled hc] at hr
    obtain ⟨t, -, heq⟩ := List.mem_map.1 hr
    split at heq
    · exact idle t (heq ▸ publishing)
    · rename_i other
      exact other (congrArg Record.id heq)
  cases hd with
  | marked hc =>
    obtain ⟨rfl, rfl⟩ : _ ∧ _ := by simpa [settledIn] using settled
    exact free hc rfl fun t => by simp [Record.markPublished]
  | rescheduled hc =>
    obtain ⟨rfl, rfl⟩ : _ ∧ _ := by simpa [settledIn] using settled
    exact free hc rfl fun t => by simp [Record.reschedule]
  | _ => cases settled

/-- **How a lease begins.** A record in the hands of a worker was there before and is not settled
just now, or a claim for this worker has answered it. -/
theorem Effect.locked_backward (sound : d.Sound) (unsent : ∀ r ∈ d.staged n, r.status = .pending)
    (hd : Effect d op a d') (hr : r ∈ d'.records n) (publishing : r.status = .publishing) :
    (r ∈ d.records n ∧ settledIn op ≠ some (n, r.id)) ∨
      (r.id ∈ claimedFrom n (op, a) ∧ op.claimant n = r.lockedBy) := by
  by_cases old : r ∈ d.records n
  · exact .inl ⟨old, hd.not_settled sound hr publishing⟩
  · rcases hd.backward sound.filed hr with ⟨r₀, hr₀, hc⟩ | henter
    · cases hc with
      | kept => exact absurd hr₀ old
      | claimed | claimedOne =>
        exact .inr ⟨hd.claimedFrom_of_new (if_pos rfl) hr old, if_pos rfl⟩
      | marked | rescheduled | released => cases publishing
    · cases henter with
      | enqueued => cases publishing
      | committed htx hn hin =>
        rw [unsent r (mem_staged.2 ⟨_, _, htx, hn, hin⟩)] at publishing
        cases publishing

end
end Depot
end EventRelay
