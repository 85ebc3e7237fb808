import EventRelay.Proofs.Depot.Duplicates
import EventRelay.Proofs.Depot.Renaming
import EventRelay.Proofs.Depot.Without

/-!
# A rolled back transaction leaves no trace

A transaction that is rolled back, or committed to another store than its own, has had its keys
reserved for a while, and that is all that others could notice of it. Nobody was told of its
records; when it ends, exactly its keys are free again; and if nobody has asked for one of them
while it was reserved, everything is as it would be without the transaction
(`rollback_leaves_no_trace`).
-/

namespace EventRelay.Depot

def owner? (d : Depot) (n : Nat) (key : String) : Option Uuid :=
  (d.contents? n).bind (·.owners.get? key)

section
variable {d d' : Depot} {op : Operation} {a : Answer} {n m t : Nat} {key : String}

/-- Where the stores are those without the transaction, its reserved keys are free and all others
belong to whom they did. -/
theorem owner?_of_stores (h : d'.stores = (d.without t).stores) :
    d'.owner? m key = if key ∈ d.reserves t m then none else d.owner? m key := by
  have same : d'.contents? m = (d.without t).contents? m := by
    unfold contents?
    rw [h]
  unfold owner?
  rw [same, contents?_without]
  cases d.contents? m with
  | none => simp
  | some c => exact Table.get?_eraseAll c.owners _ key

/-- Where a transaction is given up, the stores are as they would be without it. -/
theorem Effect.givenUp (healthy : d.Healthy) (sound : d.Sound) (hd : Effect d op a d')
    {tx : Transaction} (htx : d.open? t = some tx) (h : GivesUp tx.store t op) :
    (∀ n k, (op, a) ≠ (.commit n t, .count k)) ∧ d'.stores = (d.without t).stores := by
  have own : concerns t (op, a) = true := by
    rcases h with rfl | ⟨m, -, rfl⟩
    · simp [concerns]
    · simp [concerns]
  have uncommitted : ∀ n k, (op, a) ≠ (.commit n t, .count k) := by
    rintro n k heq
    obtain ⟨rfl, rfl⟩ := Prod.mk.inj heq
    rcases h with h | ⟨m, hm, h⟩
    · cases h
    · cases h
      cases hd with
      | committed htx' hn => exact hm (Option.some.inj (htx'.symm.trans htx) ▸ hn.symm)
  have unmade : op.made = none := by
    rcases h with rfl | ⟨m, -, rfl⟩
    · rfl
    · rfl
  refine ⟨uncommitted, ?_⟩
  have same := hd.without_own healthy sound own uncommitted (by simp [unmade])
  rw [← same, stores_without_of_closed (hd.ended h.ends)]

/-- A valid event whose key is free is taken in. -/
theorem Healthy.enqueue_free (healthy : d.Healthy) (hn : n < d.stores.length)
    (free : d.owner? n key = none) {id : Uuid} {e : Event} {now : Instant}
    (valid : e.validate = .ok ()) (hkey : e.dedupeKey = some key) :
    ∃ d', d.perform (.enqueue n id e now) = some (.record (some (.ofEvent id e now)), d') := by
  obtain ⟨-, hc⟩ := healthy.getElem? (List.getElem?_eq_getElem hn)
  have hfree : (d.stores[n].contents).owners.get? key = none := by
    rwa [owner?, hc] at free
  have hkey' : (Record.ofEvent id e now).dedupeKey = some key := hkey
  obtain ⟨c', hins⟩ : ∃ c', d.stores[n].contents.insert? (.ofEvent id e now) = some c' := by
    simp [Contents.insert?, Contents.reserveFor?, hkey', Contents.reserve?, hfree]
  exact ⟨_, (Effect.entered hc hins).does healthy valid⟩

end

/-- **A rolled back transaction leaves no trace.** In every run of any clients on any stores in
which a transaction is begun on the store `n`, and is rolled back or committed to another store, at
some moment `e`: nobody who reads, counts or claims is ever told of a record that it has staged.
After its end every key that it has reserved is free, so that an event with this key is taken in,
and all others are owned as before. And if nobody else has asked for a key that it had reserved,
then the others could have done the same without it, under any other ids, and would have heard the
same, and in the end all stores would be as they are, up to the ids. -/
theorem rollback_leaves_no_trace {k n t : Nat} {past later : List Moment} {e : Moment} {d : Depot}
    (run : Run Does (start k) (past ++ e :: later) d) (fresh : FreshIds (past ++ e :: later))
    (begun : ∃ b ∈ past, b.event = (.begin n, .count t)) (givenUp : GivesUp n t e.event.1) :
    (∀ z ∈ past ++ e :: later, (Counts z.event.1 → z.event.2 = .count (told z).length) ∧
      ∀ r ∈ told z, ∀ s ∈ stagedBy t past, r.id ≠ s.id) ∧
    (∀ key ∈ Contents.keysOf (stagedBy t past), ∀ id event now, event.validate = .ok () →
      event.dedupeKey = some key → ∃ d', e.after.perform (.enqueue n id event now) =
        some (.record (some (.ofEvent id event now)), d')) ∧
    (∀ m key, m ≠ n ∨ key ∉ Contents.keysOf (stagedBy t past) →
      e.after.owner? m key = e.before.owner? m key) ∧
    ((∀ z ∈ past ++ e :: later, ¬ Interferes t z) → ∀ f : Uuid → Uuid, f.Injective →
      ∃ others d', Run Does (start k) others d' ∧
        others.map (·.event) =
          (besides t (past ++ e :: later)).map (fun x => (x.1.rename f, x.2.rename f)) ∧
        d'.stores = d.stores.map (·.rename f)) := by
  obtain ⟨before, effect, after, rest⟩ := cut_run run fresh
  obtain ⟨_, run_past, rfl, -⟩ := run_append.1 run
  obtain ⟨htx, unended⟩ := open?_of_ends run_past effect begun givenUp.ends
  obtain ⟨refused, stores⟩ := effect.givenUp before.healthy before.sound htx givenUp
  have silent := silent_after_end before.healthy effect givenUp.ends rest
  have uncommitted : ∀ z ∈ past ++ e :: later, ∀ n k, z.event ≠ (.commit n t, .count k) := by
    intro z hz n k heq
    rcases List.mem_append.1 hz with hz | hz
    · exact unended z hz (.inr ⟨n, congrArg Prod.fst heq⟩)
    · rcases List.mem_cons.1 hz with rfl | hz
      · exact refused n k heq
      · exact silent z hz (by rw [heq]; rfl)
  have owner : ∀ m key, e.after.owner? m key =
      if key ∈ e.before.reserves t m then none else e.before.owner? m key :=
    fun m key => owner?_of_stores stores
  refine ⟨fun z hz => ⟨(effect_of_mem run fresh hz).counts, fun r hr s hs => ?_⟩, ?_, ?_, ?_⟩
  · refine never_told run fresh uncommitted z hz r hr s ?_
    rw [stagedBy_append]
    exact List.mem_append_left _ hs
  · intro key hkey id event now valid hevent
    have free : e.after.owner? n key = none := by
      rw [owner, reserves_eq htx, if_pos rfl, if_pos hkey]
    have hn : n < e.after.stores.length := by
      rw [(effect.healthy before.healthy).2]
      exact before.healthy.placed t _ htx
    exact after.healthy.enqueue_free hn free valid hevent
  · intro m key hother
    rw [owner, reserves_eq htx, if_neg]
    split
    · rename_i hm
      exact hother.resolve_left fun hne => hne hm.symm
    · exact List.not_mem_nil
  · intro clear f hf
    obtain ⟨others, run', events⟩ := run_without run fresh uncommitted clear
    have closed : d.open? t = none := closed_of_ended run ⟨e, by simp, givenUp.ends⟩
    refine ⟨others.map (Moment.rename f), (d.without t).rename f, ?_, ?_, ?_⟩
    · exact rename_start f k ▸ rename_run (healthy_start k) hf run'
    · rw [← events, List.map_map, List.map_map]
      rfl
    · rw [← stores_without_of_closed closed]
      rfl

/-- A transaction gets one key and is refused another that is held; while it is open a second one is
begun and a dispatcher claims; then it is committed to the wrong store, and another client takes its
key before the second one is committed. -/
def abandonedOrder : List Operation :=
  [.enqueue 0 (.ofNat 1) (.brief (some "c")) .epoch, .begin 0,
    .stage 0 0 (.ofNat 2) (.brief (some "a")) .epoch,
    .stage 0 0 (.ofNat 3) (.brief (some "c")) .epoch, .begin 0,
    .stage 0 1 (.ofNat 4) (.brief (some "b")) .epoch,
    .claimBatch 0 .default 10 "w" .epoch, .snapshot 0, .commit 1 0,
    .enqueue 0 (.ofNat 5) (.brief (some "a")) .epoch, .commit 0 1, .size 0]

/-- After the commit to the wrong store the keys of the abandoned order are free, another client
gets one of them, and the second transaction keeps its own. -/
theorem rollback_leaves_no_trace_abandonedOrder :
    ∃ past e later, (start 2).moments abandonedOrder = past ++ e :: later ∧
      GivesUp 0 0 e.event.1 ∧ e.before.owner? 0 "a" = some (.ofNat 2) ∧
      (∃ r d', e.after.perform (.enqueue 0 (.ofNat 6) (.brief (some "a")) .epoch) =
        some (.record (some r), d')) ∧
      e.after.owner? 0 "c" = some (.ofNat 1) ∧
      ∃ others d', Run Does (start 2) others d' ∧
        others.map (·.event.1) =
          [.enqueue 0 (.ofNat 1) (.brief (some "c")) .epoch, .begin 0,
            .stage 0 0 (.ofNat 4) (.brief (some "b")) .epoch,
            .claimBatch 0 .default 10 "w" .epoch, .snapshot 0,
            .enqueue 0 (.ofNat 5) (.brief (some "a")) .epoch, .commit 0 0, .size 0] ∧
        d'.stores = ((start 2).after abandonedOrder).stores.map (·.rename id) := by
  have fresh : FreshIds ((start 2).moments abandonedOrder) := by decide +kernel
  have clear : ∀ z ∈ (start 2).moments abandonedOrder, ¬ Interferes 0 z := by decide +kernel
  have run := run_moments (start 2) abandonedOrder
  obtain ⟨past, e, later, heq, begun, givenUp, keys, held, held', ops⟩ : ∃ past e later,
      (start 2).moments abandonedOrder = past ++ e :: later ∧
      (∃ b ∈ past, b.event = (.begin 0, .count 0)) ∧ GivesUp 0 0 e.event.1 ∧
      Contents.keysOf (stagedBy 0 past) = ["a"] ∧ e.before.owner? 0 "a" = some (.ofNat 2) ∧
      e.before.owner? 0 "c" = some (.ofNat 1) ∧
      ((besides 0 (past ++ e :: later)).map fun x => (x.1.rename id, x.2.rename id)).map (·.1) =
        [.enqueue 0 (.ofNat 1) (.brief (some "c")) .epoch, .begin 0,
          .stage 0 0 (.ofNat 4) (.brief (some "b")) .epoch,
          .claimBatch 0 .default 10 "w" .epoch, .snapshot 0,
          .enqueue 0 (.ofNat 5) (.brief (some "a")) .epoch, .commit 0 0, .size 0] :=
    ⟨[_, _, _, _, _, _, _, _], _, [_, _, _], rfl,
      ⟨_, List.mem_cons_of_mem _ List.mem_cons_self, rfl⟩, .inr ⟨1, by decide, rfl⟩, rfl, rfl, rfl,
      rfl⟩
  rw [heq] at fresh clear run
  obtain ⟨-, freed, kept, same⟩ := rollback_leaves_no_trace run fresh begun givenUp
  obtain ⟨others, d', run', events, stores⟩ := same clear id Function.injective_id
  refine ⟨past, e, later, heq, givenUp, held, ⟨_, freed "a" (by simp [keys]) _ _ _ rfl rfl⟩,
    (kept 0 "c" (.inr (by simp [keys]))).trans held', others, d', run', ?_, stores⟩
  rw [← ops, ← events, List.map_map]
  rfl

end EventRelay.Depot
