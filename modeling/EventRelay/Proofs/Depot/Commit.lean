import EventRelay.Proofs.Depot.Exactness
import EventRelay.Proofs.Depot.Transactions

/-!
# A commit is all or nothing

A commit skips a record whose key another id owns. It never comes to that: the key of a staged
record is reserved for it from its staging on, whatever others enqueue, stage, purge or give up in
the meantime, so that the commit of a transaction to its own store brings in all that it has staged
(`commit_is_all_or_nothing`). A commit to another store brings in nothing, and as the transaction is
over then, nothing of it will ever be in a store.
-/

namespace EventRelay.Depot

section
variable {d : Depot} {n m t : Nat} {c c' : Contents} {tx : Transaction}

/-- Other contents of one store leave the records of the others alone. -/
theorem records_put (h : d.contents? n = some c) :
    (d.put n c').records m = if m = n then c'.records else d.records m := by
  unfold records
  rw [rows_put h]
  split
  · rfl
  · rfl

theorem getElem?_stores_put (h : m ≠ n) : (d.put n c').stores[m]? = d.stores[m]? :=
  List.getElem?_set_ne h.symm

/-- The commit of a transaction to its own store adds all that it has staged. -/
theorem Healthy.does_commit_own (h : d.Healthy) (sound : d.Sound) (htx : d.open? t = some tx)
    (hc : d.contents? tx.store = some c) :
    d.Does (.commit tx.store t, .count tx.staged.length)
      ((d.put tx.store (c.appendAll tx.staged)).setTransaction t none) := by
  have : Effect d (.commit tx.store t) _ _ := .committed htx rfl hc
  rw [(sound.beside htx hc).insertAll_eq] at this
  exact this.does h trivial

/-- A commit to the transaction's own store counts what was staged and puts it behind all other
records. -/
theorem Healthy.commit_own (h : d.Healthy) (sound : d.Sound) (htx : d.open? t = some tx) :
    ∃ d', d.perform (.commit tx.store t) = some (.count tx.staged.length, d') ∧
      d'.records tx.store = d.records tx.store ++ tx.staged ∧
      ∀ m, m ≠ tx.store → d'.stores[m]? = d.stores[m]? := by
  obtain ⟨c, hc, -⟩ := h.storeOf htx
  obtain ⟨-, -, appended⟩ := (sound.beside htx hc).insertAll
  rw [(sound.beside htx hc).insertAll_eq] at appended
  refine ⟨_, h.does_commit_own sound htx hc, ?_, fun m hm => getElem?_stores_put hm⟩
  calc (d.put tx.store (c.appendAll tx.staged)).records tx.store
      = (c.appendAll tx.staged).records := by rw [records_put hc, if_pos rfl]
    _ = d.records tx.store ++ tx.staged := by rw [appended, records_eq hc]

/-- The commit of a transaction to another store brings in nothing, and touches only the keys that
the transaction had reserved in its own. -/
theorem Healthy.commit_other (h : d.Healthy) (sound : d.Sound) (htx : d.open? t = some tx)
    (hm : m ≠ tx.store) :
    ∃ d', d.perform (.commit m t) = some (.failed Transaction.foreign, d') ∧
      d'.stores[m]? = d.stores[m]? ∧ ∀ l, d'.records l = d.records l := by
  obtain ⟨c, hc, -⟩ := h.storeOf htx
  refine ⟨_, (Effect.misdirected htx hm hc).does h trivial, getElem?_stores_put hm, fun l => ?_⟩
  change (d.put tx.store (c.releaseKeys tx.staged)).records l = d.records l
  rw [records_put hc]
  split
  · rename_i heq
    rw [heq, records_eq hc, Contents.records, ((sound.filed _ c hc).releaseKeys _).2]
    rfl
  · rfl

end

/-- **A commit is all or nothing.** In every run of any clients on any stores, for a transaction
that was begun on the store `n` and has not ended: a commit to this store answers the number of the
records that were staged in it, and brings in exactly these, in this order, behind all others and
with their delivery not begun, while nothing else changes in any store. Until then nobody is told of
any of them. A commit to another store is refused, leaves that store as it is, and brings in none of
them anywhere, then or later. -/
theorem commit_is_all_or_nothing {k n t : Nat} {history : List Moment} {d : Depot}
    (run : Run Does (start k) history d) (fresh : FreshIds history)
    (begun : ∃ b ∈ history, b.event = (.begin n, .count t))
    (unended : ∀ z ∈ history, ¬ z.event.1.Ends t) :
    (∃ d', d.perform (.commit n t) = some (.count (stagedBy t history).length, d') ∧
      d'.records n = d.records n ++ stagedBy t history ∧
      ∀ m, m ≠ n → d'.stores[m]? = d.stores[m]?) ∧
    (∀ s ∈ stagedBy t history,
      s.status = .pending ∧ s.attempts = 0 ∧ s.lockedBy = none ∧ s.lockedAt = none) ∧
    (∀ z ∈ history, (Counts z.event.1 → z.event.2 = .count (told z).length) ∧
      ∀ r ∈ told z, ∀ s ∈ stagedBy t history, r.id ≠ s.id) ∧
    ∀ m, m ≠ n → ∃ d', d.perform (.commit m t) =
        some (.failed (.validation "transaction belongs to another outbox store"), d') ∧
      d'.stores[m]? = d.stores[m]? ∧ (∀ l, d'.records l = d.records l) ∧
      ∀ later d'', Run Does d' later d'' → FreshIds (history ++ later) →
        ∀ l, ∀ r ∈ d''.records l, ∀ s ∈ stagedBy t history, r.id ≠ s.id := by
  have htx := open?_of_begun run begun unended
  obtain ⟨healthy, sound, -⟩ := consistent_of_run run fresh
  have uncommitted : ∀ z ∈ history, ∀ n k, z.event ≠ (.commit n t, .count k) :=
    fun z hz n k heq => unended z hz (.inr ⟨n, congrArg Prod.fst heq⟩)
  refine ⟨healthy.commit_own sound htx, fun s hs => ?_, fun z hz => ?_, fun m hm => ?_⟩
  · obtain ⟨z, hz, hst⟩ := List.mem_filterMap.1 hs
    obtain ⟨-, e, now, heq⟩ := (effect_of_mem run fresh hz).of_stagedIn hst
    rw [heq]
    exact ⟨rfl, rfl, rfl, rfl⟩
  · exact ⟨(effect_of_mem run fresh hz).counts, never_told run fresh uncommitted z hz⟩
  · obtain ⟨d', refused, same, records⟩ := healthy.commit_other sound htx hm
    refine ⟨d', refused, same, records, fun later d'' rest fresh' l r hr s hs => ?_⟩
    let z : Moment := ⟨d, (.commit m t, .failed Transaction.foreign), d'⟩
    have whole : Run Does (start k) (history ++ z :: later) d'' :=
      run_append.2 ⟨d, run, rfl, refused, rest⟩
    have fresh'' : FreshIds (history ++ z :: later) := by
      simpa [FreshIds, z, Operation.made] using fresh'
    have silent := silent_after_end healthy (healthy.effect refused) (.inr ⟨m, rfl⟩) rest
    have never : ∀ y ∈ history ++ z :: later, ∀ n k, y.event ≠ (.commit n t, .count k) := by
      intro y hy n k heq
      rcases List.mem_append.1 hy with hy | hy
      · exact uncommitted y hy n k heq
      · rcases List.mem_cons.1 hy with rfl | hy
        · cases heq
        · exact silent y hy (by rw [heq]; rfl)
    have staged : s ∈ stagedBy t (history ++ z :: later) := by
      rw [stagedBy_append]
      exact List.mem_append_left _ hs
    exact (hidden_of_run whole fresh'' never staged).unstored l r hr

/-- Another client wants a key that is reserved, a dispatcher claims what there is, and somebody
looks, before the transaction is committed. -/
def crowdedStaging : List Operation :=
  [.begin 0, .stage 0 0 (.ofNat 1) (.brief (some "a")) .epoch,
    .enqueue 0 (.ofNat 2) (.brief (some "a")) .epoch,
    .enqueue 0 (.ofNat 3) (.brief (some "b")) .epoch,
    .claimBatch 0 .default 10 "w" .epoch, .markPublished 0 (.ofNat 3) .epoch,
    .purgePublished 0 .zero (Instant.epoch.later (.ofSeconds 1)),
    .stage 0 0 (.ofNat 4) (.brief (some "b")) .epoch,
    .enqueue 0 (.ofNat 5) (.brief none) .epoch, .size 0]

/-- Both staged records come in, in order, behind the one that others have enqueued meanwhile. -/
theorem commit_is_all_or_nothing_crowdedStaging :
    ∃ d', ((start 2).after crowdedStaging).perform (.commit 0 0) = some (.count 2, d') ∧
      (d'.records 0).map (·.id) = [.ofNat 5, .ofNat 1, .ofNat 4] := by
  have fresh : FreshIds ((start 2).moments crowdedStaging) := by decide +kernel
  have ops : ((start 2).moments crowdedStaging).map (·.event.1) = crowdedStaging := rfl
  have staged : (stagedBy 0 ((start 2).moments crowdedStaging)).map (·.id) =
      [.ofNat 1, .ofNat 4] := rfl
  have unended : ∀ z ∈ (start 2).moments crowdedStaging, ¬ z.event.1.Ends 0 := by
    have : ∀ op ∈ crowdedStaging, ¬ op.Ends 0 := by simp [crowdedStaging, Operation.Ends]
    exact fun z hz => this _ (ops ▸ List.mem_map_of_mem hz)
  obtain ⟨⟨d', committed, records, -⟩, -⟩ :=
    commit_is_all_or_nothing (n := 0) (t := 0) (run_moments (start 2) crowdedStaging) fresh
      ⟨_, List.mem_cons_self, rfl⟩ unended
  refine ⟨d', committed, ?_⟩
  rw [records, List.map_append, staged]
  rfl

end EventRelay.Depot
