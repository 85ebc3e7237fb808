import EventRelay.Proofs.Depot.Commit
import EventRelay.Proofs.Depot.Renaming

/-!
# Two ways into a store

An event may be handed in directly, or be staged in a transaction that is committed later. The
direct way reserves its key and stores it at once, the other way reserves the key early and stores
the record late. Both answer every event in the same way and end in the same stores
(`paths_agree`): reserving a key and adding records do not get in each other's way
(`reserveFor?_appendAll`), so that at every moment the store of the direct way is the store of the
other way with the staged records added to it (`staging_follows`), and the commit adds just these.
-/

namespace EventRelay

namespace Contents

theorem reserveFor?_append (c : Contents) (s r : Record) :
    (c.append s).reserveFor? r = (c.reserveFor? r).map (·.append s) := by
  unfold reserveFor?
  cases r.dedupeKey with
  | none => rfl
  | some key =>
    simp only [reserve?, show (c.append s).owners = c.owners from rfl]
    cases c.owners.get? key with
    | none => rfl
    | some owner =>
      dsimp only
      split
      · rfl
      · rfl

/-- A key may be reserved before records are added, or afterwards. -/
theorem reserveFor?_appendAll (c : Contents) (rs : List Record) (r : Record) :
    (c.appendAll rs).reserveFor? r = (c.reserveFor? r).map (·.appendAll rs) := by
  induction rs generalizing c with
  | nil => simp [appendAll]
  | cons s rest ih =>
    calc ((c.append s).appendAll rest).reserveFor? r
        = ((c.append s).reserveFor? r).map (·.appendAll rest) := ih (c.append s)
      _ = ((c.reserveFor? r).map (·.append s)).map (·.appendAll rest) := by rw [reserveFor?_append]
      _ = (c.reserveFor? r).map (·.appendAll (s :: rest)) := Option.map_map ..

theorem appendAll_concat (c : Contents) (rs : List Record) (r : Record) :
    c.appendAll (rs ++ [r]) = (c.appendAll rs).append r := by
  simp [appendAll]

/-- A record goes in behind others that are added if its key may be reserved without them. -/
theorem insert?_appendAll (c : Contents) (rs : List Record) (r : Record) :
    (c.appendAll rs).insert? r = (c.reserveFor? r).map (·.appendAll (rs ++ [r])) := by
  unfold insert?
  rw [reserveFor?_appendAll, Option.map_map]
  congr 1
  funext c'
  exact (appendAll_concat c' rs r).symm

end Contents

def Operation.within (t : Nat) : Operation → Operation
  | .enqueue n id e now => .stage n t id e now
  | op => op

/-- An event that is handed in at some time, under one id directly and under another one in a
transaction. -/
structure Offer where
  direct : Uuid
  staged : Uuid
  event : Event
  now : Instant

/-- The event is handed in directly. -/
def Offer.directly (n : Nat) (o : Offer) : Operation := .enqueue n o.direct o.event o.now

/-- The event is staged in a transaction. -/
def Offer.within (n t : Nat) (o : Offer) : Operation := .stage n t o.staged o.event o.now

/-- An event is refused: it is not valid, or another one owns its key. -/
def Answer.Refusal : Answer → Prop
  | .failed _ | .record none => True
  | _ => False

namespace Depot

/-! ## A transaction beside the direct way -/

/-- The depot with other contents of the store `n`, and with one more transaction on it. -/
def withStaged (d : Depot) (n : Nat) (c : Contents) (rs : List Record) : Depot :=
  ⟨(d.put n c).stores, d.transactions ++ [some ⟨n, rs⟩]⟩

section
variable {d d' : Depot} {op : Operation} {a : Answer} {n : Nat} {c c' : Contents}
  {rs rs' : List Record}

theorem contents?_put_self (hn : n < d.stores.length) : (d.put n c).contents? n = some c := by
  simp [contents?, put, hn]

theorem contents?_withStaged (hn : n < d.stores.length) :
    (d.withStaged n c rs).contents? n = some c :=
  contents?_put_self hn

/-- The transaction that was added is open and has the last number. -/
theorem open?_withStaged : (d.withStaged n c rs).open? d.transactions.length = some ⟨n, rs⟩ := by
  simp [open?, withStaged]

/-- Staging one more record leads from one of these depots to another. -/
theorem withStaged_staged :
    ((d.withStaged n c rs).put n c').setTransaction d.transactions.length (some ⟨n, rs'⟩) =
      d.withStaged n c' rs' := by
  simp [withStaged, put, setTransaction]

/-- When the added transaction ends, the depot is the one without it, but for a number that is used
up. -/
theorem withStaged_ended :
    ((d.withStaged n c rs).put n c').setTransaction d.transactions.length none =
      ⟨(d.put n c').stores, d.transactions ++ [none]⟩ := by
  simp [withStaged, put, setTransaction]

theorem Healthy.withStaged (h : d.Healthy) (hn : n < d.stores.length) (c : Contents)
    (rs : List Record) : (d.withStaged n c rs).Healthy := by
  refine ⟨(h.put n c).unpoisoned, fun t tx htx => ?_⟩
  change tx.store < (d.put n c).stores.length
  rw [length_stores_put]
  rcases List.mem_append.1 (List.mem_of_getElem? (open?_eq_some.1 htx)) with old | new
  · obtain ⟨u, hu⟩ := List.getElem?_of_mem old
    exact h.placed u tx (open?_eq_some.2 hu)
  · cases List.mem_singleton.1 new
    exact hn

/-- A transaction that is begun has staged nothing. -/
theorem Healthy.does_begin (h : d.Healthy) (hn : n < d.stores.length)
    (hc : d.contents? n = some c) :
    d.Does (.begin n, .count d.transactions.length) (d.withStaged n c []) := by
  have : Effect d (.begin n) _ _ := .begun hn
  unfold Depot.withStaged
  rw [h.put_self hc]
  exact this.does h trivial

/-- **One event in a transaction.** Where the store of the direct way has the staged records added
to it, an event is answered on the other way as it is directly, and then it is so again. -/
theorem Healthy.does_within (h : d.Healthy) (hn : n < d.stores.length) {id : Uuid} {e : Event}
    {now : Instant} (hd : (d.put n (c.appendAll rs)).Does (.enqueue n id e now, a) d') :
    ∃ c' new, stagedIn d.transactions.length (.stage n d.transactions.length id e now, a) = new ∧
      (d.withStaged n c rs).Does (.stage n d.transactions.length id e now, a)
        (d.withStaged n c' (rs ++ new.toList)) ∧
      d' = d.put n (c'.appendAll (rs ++ new.toList)) := by
  have healthy := h.withStaged hn c rs
  have stored : (d.put n (c.appendAll rs)).contents? n = some (c.appendAll rs) :=
    contents?_put_self hn
  have admits := hd.admits
  have effect : Effect _ (.enqueue n id e now) a d' := (h.put n _).effect hd
  cases effect with
  | invalid invalid =>
    rename_i failure
    have refused : Transaction.accepts ⟨n, rs⟩ n e = .error failure := by
      rw [Transaction.accepts, invalid]
    have : Effect (d.withStaged n c rs) (.stage n d.transactions.length id e now) _ _ :=
      .notStaged open?_withStaged refused
    refine ⟨c, none, rfl, ?_, by simp⟩
    rw [Option.toList_none, List.append_nil]
    exact this.does healthy trivial
  | entered hc hins =>
    cases Option.some.inj (stored.symm.trans hc)
    rw [Contents.insert?_appendAll, Option.map_eq_some_iff] at hins
    obtain ⟨c', reserved, rfl⟩ := hins
    have : Effect (d.withStaged n c rs) _ _ _ :=
      .staged open?_withStaged rfl (contents?_withStaged hn) reserved
    rw [withStaged_staged] at this
    exact ⟨c', some (.ofEvent id e now), if_pos rfl, this.does healthy admits, put_put ..⟩
  | duplicate hc hins =>
    cases Option.some.inj (stored.symm.trans hc)
    rw [Contents.insert?_appendAll, Option.map_eq_none_iff] at hins
    have : Effect (d.withStaged n c rs) _ _ _ :=
      .stagedDuplicate open?_withStaged rfl (contents?_withStaged hn) hins
    refine ⟨c, none, if_pos rfl, ?_, by simp⟩
    rw [Option.toList_none, List.append_nil]
    exact this.does healthy admits

/-- **Events in a transaction.** A run of direct ones is followed by a run of staged ones, with the
same answers. -/
theorem staging_follows (h : d.Healthy) (hn : n < d.stores.length) {direct : List Moment}
    (run : Run Does (d.put n (c.appendAll rs)) direct d')
    (enqueues : ∀ z ∈ direct, ∃ id e now, z.event.1 = .enqueue n id e now) :
    ∃ staging c', Run Does (d.withStaged n c rs) staging
        (d.withStaged n c' (rs ++ stagedBy d.transactions.length staging)) ∧
      staging.map (·.event) =
        direct.map (fun z => (z.event.1.within d.transactions.length, z.event.2)) ∧
      d' = d.put n (c'.appendAll (rs ++ stagedBy d.transactions.length staging)) := by
  induction direct generalizing c rs with
  | nil =>
    obtain rfl : _ = d' := run
    exact ⟨[], c, by simp [stagedBy], rfl, by simp [stagedBy]⟩
  | cons z rest ih =>
    obtain ⟨before, ⟨op, a⟩, after⟩ := z
    obtain ⟨rfl, hz, later⟩ := run
    obtain ⟨id, e, now, rfl⟩ := enqueues _ List.mem_cons_self
    obtain ⟨c₁, new, hnew, does, rfl⟩ := h.does_within hn hz
    obtain ⟨staging, c', run', events, heq⟩ :=
      ih later fun z hz => enqueues z (List.mem_cons_of_mem _ hz)
    let y : Moment := ⟨d.withStaged n c rs, (.stage n d.transactions.length id e now, a),
      d.withStaged n c₁ (rs ++ new.toList)⟩
    have staged : rs ++ stagedBy d.transactions.length (y :: staging) =
        rs ++ new.toList ++ stagedBy d.transactions.length staging := by
      rw [List.append_assoc, ← hnew, ← stagedBy_singleton _ y, ← stagedBy_append]
      rfl
    refine ⟨y :: staging, c', staged ▸ ⟨rfl, does, run'⟩, ?_, staged ▸ heq⟩
    rw [List.map_cons, List.map_cons, events]
    rfl

/-- Every event is answered by a store that is there, and the transactions stay as they are. -/
theorem Healthy.run_directly (h : d.Healthy) (hn : n < d.stores.length) (offers : List Offer) :
    ∃ direct d', Run Does d direct d' ∧ direct.map (·.event.1) = offers.map (·.directly n) ∧
      d'.transactions = d.transactions := by
  induction offers generalizing d with
  | nil => exact ⟨[], d, rfl, rfl, rfl⟩
  | cons o rest ih =>
    obtain ⟨⟨a, d₁⟩, answered⟩ : ∃ answer, d.perform (o.directly n) = some answer :=
      ⟨_, Option.map_eq_some_iff.2 ⟨_, List.getElem?_eq_getElem hn, rfl⟩⟩
    have effect : Effect d (.enqueue n o.direct o.event o.now) a d₁ := h.effect answered
    obtain ⟨healthy, same⟩ := effect.healthy h
    have untouched : d₁.transactions = d.transactions := by
      cases effect with
      | invalid | entered | duplicate => rfl
    obtain ⟨direct, d', run, ops, kept⟩ := ih healthy (same ▸ hn)
    exact ⟨⟨d, (o.directly n, a), d₁⟩ :: direct, d', ⟨rfl, answered, run⟩, by simp [ops],
      kept.trans untouched⟩

/-- An event that is refused leaves nothing behind. -/
theorem Effect.unchanged_of_refusal (hd : Effect d op a d') {id : Uuid} (made : op.made = some id)
    (h : a.Refusal) : d' = d := by
  cases hd with
  | invalid | duplicate | notStaged | stagedDuplicate => rfl
  | entered | staged => cases h
  | _ => cases made

/-- What has been staged since a transaction was begun is added to its store at its commit. -/
theorem run_committed {k : Nat} {history staging : List Moment}
    (run : Run Does (start k) history d) (fresh : FreshIds (history ++ staging))
    (hc : d.contents? n = some c) (hn : n < d.stores.length)
    (staged : Run Does (d.withStaged n c []) staging (d.withStaged n c' rs)) :
    ∃ begun committed,
      Run Does d (begun :: (staging ++ [committed]))
        ⟨(d.put n (c'.appendAll rs)).stores, d.transactions ++ [none]⟩ ∧
      begun.event = (.begin n, .count d.transactions.length) ∧
      committed.event = (.commit n d.transactions.length, .count rs.length) := by
  have fresh_history : FreshIds history := by
    unfold FreshIds at fresh ⊢
    rw [List.filterMap_append] at fresh
    exact (List.nodup_append.1 fresh).1
  have begins := (consistent_of_run run fresh_history).healthy.does_begin hn hc
  let begun : Moment := ⟨d, (.begin n, .count d.transactions.length), d.withStaged n c []⟩
  have whole : Run Does (start k) (history ++ begun :: staging) (d.withStaged n c' rs) :=
    run_append.2 ⟨d, run, rfl, begins, staged⟩
  have fresh' : FreshIds (history ++ begun :: staging) := by
    simpa [FreshIds, begun, Operation.made] using fresh
  obtain ⟨healthy, sound, -⟩ := consistent_of_run whole fresh'
  have commits := healthy.does_commit_own sound open?_withStaged (contents?_withStaged hn)
  rw [withStaged_ended] at commits
  exact ⟨begun, ⟨_, _, _⟩, ⟨rfl, begins, run_append.2 ⟨_, staged, rfl, commits, rfl⟩⟩, rfl, rfl⟩

/-- A direct run under other new ids is followed by a run of staged events under these ids, which
starts with a transaction on the same depot. -/
theorem staged_under {k : Nat} {f : Uuid → Uuid} {history direct : List Moment}
    {offers : List Offer} (run : Run Does (start k) history d) (fresh : FreshIds history)
    (hn : n < d.stores.length) (hc : d.contents? n = some c) (hf : f.Injective)
    (fixed : ∀ id ∈ madeIds history, f id = id) (mapped : ∀ o ∈ offers, f o.direct = o.staged)
    (handed : Run Does d direct d') (ops : direct.map (·.event.1) = offers.map (·.directly n)) :
    ∃ staging c', Run Does (d.withStaged n c []) staging
        (d.withStaged n c' (stagedBy d.transactions.length staging)) ∧
      staging.map (·.event.1) = offers.map (·.within n d.transactions.length) ∧
      staging.map (·.event.2) = direct.map (·.event.2.rename f) ∧
      d'.rename f = d.put n (c'.appendAll (stagedBy d.transactions.length staging)) := by
  have healthy := (consistent_of_run run fresh).healthy
  have renamed := rename_run healthy hf handed
  rw [rename_eq_self run fresh hf fixed] at renamed
  have enqueues : ∀ z ∈ direct.map (Moment.rename f), ∃ id e now,
      z.event.1 = .enqueue n id e now := by
    intro z hz
    obtain ⟨y, hy, rfl⟩ := List.mem_map.1 hz
    obtain ⟨o, -, ho⟩ := List.mem_map.1 (ops ▸ List.mem_map_of_mem hy)
    exact ⟨f o.direct, o.event, o.now, by rw [Moment.rename, ← ho]; rfl⟩
  have same : d.put n (c.appendAll []) = d := healthy.put_self hc
  obtain ⟨staging, c', staged, events, reached⟩ :=
    staging_follows healthy hn (same.symm ▸ renamed) enqueues
  refine ⟨staging, c', staged, ?_, ?_, reached⟩
  · have : staging.map (·.event.1) = (direct.map (·.event.1)).map fun op =>
        (op.rename f).within d.transactions.length := by
      simpa [Function.comp_def, Moment.rename] using congrArg (List.map Prod.fst) events
    rw [this, ops, List.map_map]
    refine List.map_congr_left fun o ho => ?_
    rw [Offer.within, ← mapped o ho]
    rfl
  · simpa [Function.comp_def, Moment.rename] using congrArg (List.map Prod.snd) events

/-- For every event that is handed in an id is made. -/
theorem made_of_offers {offers : List Offer} {moments : List Moment} {g : Offer → Operation}
    {ids : Offer → Uuid} (ops : moments.map (·.event.1) = offers.map g)
    (h : ∀ o, (g o).made = some (ids o)) :
    madeIds moments = offers.map ids ∧ ∀ z ∈ moments, ∃ id, z.event.1.made = some id := by
  constructor
  · calc madeIds moments = (moments.map (·.event.1)).filterMap Operation.made := by
          rw [List.filterMap_map]
          rfl
      _ = offers.filterMap fun o => (g o).made := by
          rw [ops, List.filterMap_map]
          rfl
      _ = offers.map ids := by simp only [h, List.filterMap_eq_map']
  · intro z hz
    obtain ⟨o, -, ho⟩ := List.mem_map.1 (ops ▸ List.mem_map_of_mem hz)
    exact ⟨ids o, ho ▸ h o⟩

/-- Where something is handed in and refused, all is as it was. -/
theorem unchanged_of_refusal {k : Nat} {history : List Moment} {z : Moment}
    (run : Run Does (start k) history d) (fresh : FreshIds history) (hz : z ∈ history)
    (made : ∃ id, z.event.1.made = some id) (h : z.event.2.Refusal) : z.after = z.before := by
  obtain ⟨id, made⟩ := made
  exact (effect_of_mem run fresh hz).unchanged_of_refusal made h

end

/-! ## Both ways -/

/-- **The two ways agree.** In a depot that any clients have come to, events are handed in to the
store `n` one after the other, each at its time: directly, or staged in a transaction that is begun
for them and committed then. Up to the ids, every event is answered in the same way, and all stores
are the same in the end, with their records, numbers and keys; the transactions of others are as
they were. An event that is refused changes nothing, neither here nor there. -/
theorem paths_agree {k n : Nat} {history : List Moment} {d : Depot}
    (run : Run Does (start k) history d) (hn : n < d.stores.length) (offers : List Offer)
    (fresh : (madeIds history ++ offers.map (·.direct)).Nodup)
    (fresh' : (madeIds history ++ offers.map (·.staged)).Nodup) :
    ∃ f : Uuid → Uuid, f.Injective ∧ (∀ id ∈ madeIds history, f id = id) ∧
      (∀ o ∈ offers, f o.direct = o.staged) ∧
      ∃ direct d₁ begun staging committed d₂,
        Run Does d direct d₁ ∧ direct.map (·.event.1) = offers.map (·.directly n) ∧
        Run Does d (begun :: (staging ++ [committed])) d₂ ∧
        begun.event = (.begin n, .count d.transactions.length) ∧
        staging.map (·.event.1) = offers.map (·.within n d.transactions.length) ∧
        committed.event = (.commit n d.transactions.length,
          .count (stagedBy d.transactions.length staging).length) ∧
        staging.map (·.event.2) = direct.map (·.event.2.rename f) ∧
        d₂.stores = d₁.stores.map (·.rename f) ∧
        d₁.transactions = d.transactions ∧ d₂.transactions = d.transactions ++ [none] ∧
        ∀ z ∈ direct ++ staging, z.event.2.Refusal → z.after = z.before := by
  have fresh_history : FreshIds history := (List.nodup_append.1 fresh).1
  have healthy := (consistent_of_run run fresh_history).healthy
  obtain ⟨f, hf, fixed, renamed⟩ := Uuid.exists_renaming (madeIds history) (by simp) fresh fresh'
  have mapped : ∀ o ∈ offers, f o.direct = o.staged := by
    rw [List.map_map] at renamed
    exact List.map_inj_left.1 renamed
  obtain ⟨direct, d₁, run₁, ops₁, kept⟩ := healthy.run_directly hn offers
  obtain ⟨c, hc⟩ : ∃ c, d.contents? n = some c :=
    ⟨_, (healthy.getElem? (List.getElem?_eq_getElem hn)).2⟩
  obtain ⟨staging, c', run₂, ops₂, answers, end₁⟩ :=
    staged_under run fresh_history hn hc hf fixed mapped run₁ ops₁
  obtain ⟨ids₁, made₁⟩ := made_of_offers ops₁ fun _ => rfl
  obtain ⟨ids₂, made₂⟩ := made_of_offers ops₂ fun _ => rfl
  have fresh₁ : FreshIds (history ++ direct) := by
    rwa [FreshIds, List.filterMap_append, ← madeIds, ← madeIds, ids₁]
  have fresh₂ : FreshIds (history ++ staging) := by
    rwa [FreshIds, List.filterMap_append, ← madeIds, ← madeIds, ids₂]
  obtain ⟨begun, committed, run₃, begins, commits⟩ := run_committed run fresh₂ hc hn run₂
  refine ⟨f, hf, fixed, mapped, direct, d₁, begun, staging, committed, _, run₁, ops₁, run₃, begins,
    ops₂, commits, answers, (congrArg Depot.stores end₁).symm, kept, rfl, fun z hz refused => ?_⟩
  rcases List.mem_append.1 hz with hz | hz
  · exact unchanged_of_refusal (run_append.2 ⟨d, run, run₁⟩) fresh₁ (List.mem_append_right _ hz)
      (made₁ z hz) refused
  · have fresh₃ : FreshIds (history ++ begun :: (staging ++ [committed])) := by
      simpa [FreshIds, begins, commits, Operation.made] using fresh₂
    exact unchanged_of_refusal (run_append.2 ⟨d, run, run₃⟩) fresh₃ (by simp [hz]) (made₂ z hz)
      refused

/-- One key is taken by a stored record, and another one by a staged one. -/
def takenKeys : List Operation :=
  [.enqueue 0 (.ofNat 1) (.brief (some "c")) .epoch, .begin 0,
    .stage 0 0 (.ofNat 2) (.brief (some "b")) .epoch]

/-- Events with a free key, with the two taken keys, with a blank field, with the first key again,
and without a key. One id comes up on both ways. -/
def mixedOffers : List Offer :=
  [⟨.ofNat 3, .ofNat 13, .brief (some "a"), .epoch⟩,
    ⟨.ofNat 4, .ofNat 14, .brief (some "c"), .epoch⟩,
    ⟨.ofNat 5, .ofNat 15, .brief (some "b"), .epoch⟩,
    ⟨.ofNat 6, .ofNat 16, { Event.brief (some "d") with routingKey := " " }, .epoch⟩,
    ⟨.ofNat 7, .ofNat 17, .brief (some "a"), .epoch⟩, ⟨.ofNat 8, .ofNat 3, .brief none, .epoch⟩]

/-- Handed in directly or staged and committed, the offers are accepted and refused alike, with
their ids renamed. -/
theorem paths_agree_mixedOffers :
    ∃ f : Uuid → Uuid, f (.ofNat 1) = .ofNat 1 ∧
      mixedOffers.map (fun o => f o.direct) = mixedOffers.map (·.staged) ∧
      ∃ (direct staging : List Moment) (begun committed : Moment) (d₁ d₂ : Depot),
        Run Does ((start 1).after takenKeys) direct d₁ ∧
        Run Does ((start 1).after takenKeys) (begun :: (staging ++ [committed])) d₂ ∧
        direct.map (·.event.2) =
          [.record (some (.ofEvent (.ofNat 3) (.brief (some "a")) .epoch)), .record none,
            .record none, .failed (.validation "routing_key is required"), .record none,
            .record (some (.ofEvent (.ofNat 8) (.brief none) .epoch))] ∧
        staging.map (·.event.2) = direct.map (·.event.2.rename f) ∧
        d₂.stores = d₁.stores.map (·.rename f) := by
  have run := run_moments (start 1) takenKeys
  obtain ⟨f, -, fixed, mapped, direct, d₁, begun, staging, committed, d₂, run₁, ops, run₂, -,
    -, -, answers, stores, -⟩ := paths_agree (n := 0) run (by decide) mixedOffers
      (by decide +kernel) (by decide +kernel)
  refine ⟨f, fixed _ List.mem_cons_self, List.map_congr_left mapped, direct, staging, begun,
    committed, d₁, d₂, run₁, run₂, ?_, answers, stores⟩
  rw [← (moments_of_run run₁).1, ops]
  rfl

end Depot
end EventRelay
