import EventRelay.Proofs.Depot.Soundness
import EventRelay.Proofs.Relay.Courses
import EventRelay.Proofs.Relay.Safety
import EventRelay.Proofs.Uuid

/-!
# Redeliveries are identical

A round publishes copies of records. A copy was made when the record was claimed, and since then the
record may have been taken back, rescheduled, claimed again or published, by anybody. What is
published does not depend on any of this: every copy goes back to the record that a client heard of
when its event was taken in (`Faithful`), and the message of a record is a matter of its origin. So
all publications of a record have the message of that record, and since its id is in the message,
publications of different records differ in their message ids (`redeliveries_are_identical`).

Which record a publication is for is not read off its message: a round publishes the records that it
has claimed in the order in which it has got them (`turn?`), and `InOrder` is that it does.
-/

namespace EventRelay

namespace Depot

/-- A client hears of the record because its event is taken in, by itself or into a transaction. -/
inductive Acknowledges (s : Record) : Operation × Answer → Prop where
  | enqueued {n id e now} : Acknowledges s (.enqueue n id e now, .record (some s))
  | staged {n t id e now} : Acknowledges s (.stage n t id e now, .record (some s))

section
variable {d d' : Depot} {op : Operation} {a : Answer} {n : Nat} {s t : Record}

/-- What is acknowledged is the record of the event under the id that was made for it. -/
theorem Effect.of_acknowledges (hd : Effect d op a d') (h : Acknowledges s (op, a)) :
    op.made = some s.id ∧ s.origin = s := by
  generalize hx : (op, a) = x at h
  cases h with
  | enqueued =>
    cases hx
    cases hd
    exact ⟨rfl, rfl⟩
  | staged =>
    cases hx
    cases hd
    exact ⟨rfl, rfl⟩

/-- Where all records go back to records that `P` holds of, they still do after an operation, if `P`
holds of what it acknowledges. -/
theorem Orderly.origins {P : Record → Prop} (h : d.Orderly) (hd : d.Does (op, a) d')
    (old : ∀ n, ∀ t ∈ d.records n ++ d.staged n, P t.origin)
    (new : ∀ s, Acknowledges s (op, a) → P s) :
    ∀ n, ∀ t ∈ d'.records n ++ d'.staged n, P t.origin := by
  have effect := h.healthy.effect hd
  intro n t ht
  rcases List.mem_append.1 ht with ht | ht
  · rcases effect.backward h.filed ht with ⟨t₀, ht₀, hc⟩ | henter
    · rw [hc.origin_eq]
      exact old n t₀ (List.mem_append_left _ ht₀)
    · cases henter with
      | enqueued => exact new _ .enqueued
      | committed htx hn hin =>
        exact old n t (List.mem_append_right _ (mem_staged.2 ⟨_, _, htx, hn, hin⟩))
  · rcases effect.staged_backward ht with ht | ⟨u, id, e, now, rfl, rfl, rfl⟩
    · exact old n t (List.mem_append_right _ ht)
    · exact new _ .staged

/-- A record that a claim answers is a copy of a stored record. -/
theorem Effect.origin_of_claimBatch {policy : Policy} {limit : Nat} {worker : String}
    {now : Instant} {rs : List Record}
    (hd : Effect d (.claimBatch n policy limit worker now) (.records rs) d') (ht : t ∈ rs) :
    ∃ t₀ ∈ d.records n, t.origin = t₀.origin := by
  obtain ⟨t₀, ht₀, -, rfl, -⟩ := hd.exists_of_claimBatch ht
  exact ⟨t₀, ht₀, rfl⟩

/-- A claim returns a record with the origin of one that is stored. -/
theorem Effect.origin_of_claimOne {policy : Policy} {worker : String} {now : Instant}
    (hd : Effect d (.claimOne n policy worker now) (.record (some t)) d') :
    ∃ t₀ ∈ d.records n, t.origin = t₀.origin := by
  obtain ⟨t₀, ht₀, -, rfl, -⟩ := hd.exists_of_claimOne
  exact ⟨t₀, ht₀, rfl⟩

end
end Depot

namespace Relay

/-! ## Whose turn it is -/

/-- A client has heard of the record when its event was taken in. -/
def Acknowledged (history : List Moment) (s : Record) : Prop :=
  ∃ x ∈ history, ∃ op a, x.event = .client op a ∧ Depot.Acknowledges s (op, a)

/-- The round `i` is in a call to the publisher, with the message. -/
def Publishing (r : Relay) (i : Nat) (m : Message) : Prop :=
  ∃ round timeout next, r.rounds[i]? = some round ∧ round.rest = .publish m timeout next

def given (i : Nat) : Happening → List Record
  | .calls j (.claimBatch ..) (.records rs) => if j = i then rs else []
  | .calls j (.claimOne ..) (.record (some t)) => if j = i then [t] else []
  | _ => []

/-- All records that the round `i` was given, in the order in which it has got them. -/
def claimed (i : Nat) (history : List Moment) : List Record :=
  history.flatMap fun x => given i x.event

def publishesBy (i : Nat) : Happening → Bool
  | .publishes j _ _ => j = i
  | _ => false

def publishedBy (i : Nat) (history : List Moment) : Nat :=
  history.countP fun x => publishesBy i x.event

/-- The record that the round `i` publishes next, of those that it was given. -/
def turn? (i : Nat) (history : List Moment) : Option Record :=
  (claimed i history)[publishedBy i history]?

/-- In the course of the history a round hands the message to the publisher, for the record `t` of
which it holds this copy. -/
def HandsOver (history : List Moment) (m : Message) (t : Record) : Prop :=
  ∃ past x later i, history = past ++ x :: later ∧ x.before.Publishing i m ∧
    turn? i past = some t

section
variable {history : List Moment} {x : Moment} {r r' : Relay} {i j : Nat} {s t : Record}
  {op : Operation} {a : Answer} {courses : List Course} {m : Message}

theorem Acknowledged.later (h : Acknowledged history s) : Acknowledged (history ++ [x]) s := by
  obtain ⟨y, hy, h⟩ := h
  exact ⟨y, List.mem_append_left _ hy, h⟩

/-- A client hears of a record in the answer to its own operation. -/
theorem acknowledged_append (h : Acknowledged (history ++ [x]) s) :
    Acknowledged history s ∨ ∃ op a, x.event = .client op a ∧ Depot.Acknowledges s (op, a) := by
  obtain ⟨y, hy, h⟩ := h
  rcases List.mem_append.1 hy with hy | hy
  · exact .inl ⟨y, hy, h⟩
  · exact .inr (List.mem_singleton.1 hy ▸ h)

theorem claimed_append (i : Nat) (history : List Moment) (x : Moment) :
    claimed i (history ++ [x]) = claimed i history ++ given i x.event := by
  simp [claimed]

/-- A call of one round gives nothing to the others. -/
theorem given_other (hne : j ≠ i) (op : Operation) (a : Answer) : given j (.calls i op a) = [] := by
  unfold given
  split
  · rename_i heq
    cases heq
    exact if_neg (Ne.symm hne)
  · rename_i heq
    cases heq
    exact if_neg (Ne.symm hne)
  · rfl

theorem publishedBy_append (i : Nat) (history : List Moment) (x : Moment) :
    publishedBy i (history ++ [x]) =
      publishedBy i history + if publishesBy i x.event then 1 else 0 := by
  simp [publishedBy, List.countP_append, List.countP_singleton]

/-! ## Every copy goes back to an acknowledged record -/

/-- What holds of a relay after its history: whatever is stored, staged or was given to a round has
come from a record that a client heard of, and no two of these have the same id. -/
structure Faithful (history : List Moment) (r : Relay) : Prop where
  orderly : r.depot.Orderly
  made : ∀ s, Acknowledged history s → s.id ∈ Depot.madeIds (operations history)
  unique : ∀ s s', Acknowledged history s → Acknowledged history s' → s.id = s'.id → s = s'
  stored : ∀ n, ∀ t ∈ r.depot.records n ++ r.depot.staged n, Acknowledged history t.origin
  copies : ∀ i, ∀ t ∈ claimed i history, Acknowledged history t.origin

theorem faithful_start (k : Nat) : Faithful [] (start k) where
  orderly := Depot.orderly_start k
  made := by simp [Acknowledged]
  unique := by simp [Acknowledged]
  stored := by simp [start, Depot.records]
  copies := by simp [claimed]

/-- A step that is no operation on the depot, and leaves nothing there that was not there before. -/
theorem Faithful.still (h : Faithful history x.before) (orderly : x.after.depot.Orderly)
    (kept : ∀ n, ∀ t ∈ x.after.depot.records n ++ x.after.depot.staged n,
      t ∈ x.before.depot.records n ++ x.before.depot.staged n)
    (quiet : ∀ op a, x.event ≠ .client op a) (uncalled : ∀ i op a, x.event ≠ .calls i op a) :
    Faithful (history ++ [x]) x.after := by
  have acknowledged : ∀ s, Acknowledged (history ++ [x]) s → Acknowledged history s := by
    intro s hs
    rcases acknowledged_append hs with hs | ⟨op, a, hev, -⟩
    · exact hs
    · exact absurd hev (quiet op a)
  have nothing : ∀ i, given i x.event = [] := by
    intro i
    unfold given
    split
    · exact absurd ‹_› (uncalled _ _ _)
    · exact absurd ‹_› (uncalled _ _ _)
    · rfl
  refine ⟨orderly, fun s hs => ?_, fun s s' hs hs' => ?_, fun n t ht => ?_, fun i t ht => ?_⟩
  · rw [operations_append]
    exact Depot.mem_madeIds_append (h.made s (acknowledged s hs))
  · exact h.unique s s' (acknowledged s hs) (acknowledged s' hs')
  · exact (h.stored n t (kept n t ht)).later
  · rw [claimed_append, nothing, List.append_nil] at ht
    exact (h.copies i t ht).later

/-- A step that does an operation on the depot. -/
theorem Faithful.does (h : Faithful history x.before)
    (hd : x.before.depot.Does (op, a) x.after.depot)
    (ops : operations [x] = [⟨x.before.depot, (op, a), x.after.depot⟩])
    (fresh : FreshIds (operations (history ++ [x])))
    (heard : ∀ s, Depot.Acknowledges s (op, a) ↔
      ∃ op a, x.event = .client op a ∧ Depot.Acknowledges s (op, a))
    (copies : ∀ i, ∀ t ∈ given i x.event,
      ∃ n, ∃ t₀ ∈ x.before.depot.records n, t.origin = t₀.origin) :
    Faithful (history ++ [x]) x.after := by
  have effect := h.orderly.healthy.effect hd
  rw [operations_append, ops] at fresh
  have new : ∀ s, Depot.Acknowledges s (op, a) → s.id ∉ Depot.madeIds (operations history) :=
    fun s hs => Depot.FreshIds.new fresh (effect.of_acknowledges hs).1
  refine ⟨h.orderly.does hd, fun s hs => ?_, fun s s' hs hs' hid => ?_, ?_, fun i t ht => ?_⟩
  · rw [operations_append, ops, Depot.madeIds_append, List.mem_append]
    rcases acknowledged_append hs with hs | hs
    · exact .inl (h.made s hs)
    · exact .inr (by simp [(effect.of_acknowledges ((heard s).2 hs)).1])
  · -- What is acknowledged now has the id that was made for it, and nothing before has this id.
    rcases acknowledged_append hs with hs | hs <;> rcases acknowledged_append hs' with hs' | hs'
    · exact h.unique s s' hs hs' hid
    · exact absurd (hid ▸ h.made s hs) (new s' ((heard s').2 hs'))
    · exact absurd (hid ▸ h.made s' hs') (new s ((heard s).2 hs))
    · have e₁ := (heard s).2 hs
      have e₂ := (heard s').2 hs'
      cases e₁ with
      | enqueued => cases e₂; rfl
      | staged => cases e₂; rfl
  · refine h.orderly.origins hd (fun n t ht => (h.stored n t ht).later) fun s hs => ?_
    exact ⟨x, by simp, (heard s).1 hs⟩
  · rw [claimed_append, List.mem_append] at ht
    rcases ht with ht | ht
    · exact (h.copies i t ht).later
    · obtain ⟨n, t₀, ht₀, heq⟩ := copies i t ht
      rw [heq]
      exact (h.stored n t₀ (List.mem_append_left _ ht₀)).later

/-- What a call of a round gives to rounds are copies of stored records, and no client hears of
it. -/
theorem Answered.copies {n : Nat} {policy : Policy} {rest rest' : Action Unit} {d d' : Depot}
    (h : Answered n policy rest op a rest') (hd : Depot.Effect d op a d') :
    (∀ s, ¬ Depot.Acknowledges s (op, a)) ∧
      ∀ j, ∀ t ∈ given j (.calls i op a), ∃ n, ∃ t₀ ∈ d.records n, t.origin = t₀.origin := by
  cases h with
  | claimBatch =>
    refine ⟨by rintro s ⟨⟩, fun j t ht => ?_⟩
    simp only [given] at ht
    split at ht
    · exact ⟨n, hd.origin_of_claimBatch ht⟩
    · cases ht
  | claimOne =>
    refine ⟨by rintro s ⟨⟩, fun j t ht => ?_⟩
    simp only [given] at ht
    split at ht
    · obtain rfl := List.mem_singleton.1 ht
      exact ⟨n, hd.origin_of_claimOne⟩
    · cases ht
  | claimNone | markPublished | reschedule | recoverStuck | purgePublished =>
    exact ⟨by rintro s ⟨⟩, by rintro j t ⟨⟩⟩

/-- **Every step keeps all copies faithful.** -/
theorem Faithful.step (h : Faithful history x.before) (hx : x.before.Does x.event x.after)
    (fresh : FreshIds (operations (history ++ [x]))) : Faithful (history ++ [x]) x.after := by
  obtain ⟨before, event, after⟩ := x
  change before.Does event after at hx
  cases hx with
  | client hd =>
    refine h.does hd rfl fresh (fun s => ⟨fun hs => ⟨_, _, rfl, hs⟩, ?_⟩) (by rintro i t ⟨⟩)
    rintro ⟨_, _, ⟨⟩, hs⟩
    exact hs
  | calls hi hr hd =>
    obtain ⟨silent, copies⟩ := hr.copies (h.orderly.healthy.effect hd)
    refine h.does hd rfl fresh (fun s => ⟨fun hs => absurd hs (silent s), ?_⟩) copies
    rintro ⟨_, _, ⟨⟩, -⟩
  | loses htx =>
    refine h.still (h.orderly.endTransaction _) (fun n t ht => ?_) (by simp) (by simp)
    rcases List.mem_append.1 ht with ht | ht
    · exact List.mem_append_left _ ht
    · exact List.mem_append_right _ (Depot.mem_staged_of_ended ht)
  | clientFails | begins | notes | callFails | publishes | panics =>
    exact h.still h.orderly (fun _ _ ht => ht) (by simp) (by simp)

/-- **In the course of a run** every copy that a round was given is that of a record which a client
has heard of. -/
theorem faithful_of_run {k : Nat} (run : Run Does (start k) history r)
    (fresh : FreshIds (operations history)) : Faithful history r := by
  have keep : ∀ past x, (FreshIds (operations past) → Faithful past x.before) →
      x.before.Does x.event x.after → FreshIds (operations (past ++ [x])) →
      Faithful (past ++ [x]) x.after :=
    fun past x h hx fresh => (h (fresh_past fresh)).step hx fresh
  have base : FreshIds (operations ([] : List Moment)) → Faithful [] (start k) :=
    fun _ => faithful_start k
  exact Run.invariant (P := fun past r => FreshIds (operations past) → Faithful past r) keep run
    base fresh

/-! ## Every round publishes in order -/

/-- What a round at a stage has still to publish is what is left of the records that it was given,
after so many of them. A round that has died or whose claim has failed has nothing left to do. -/
def InTurn (records : List Record) (count : Nat) : Stage → Prop
  | .claiming _ got => got = records ∧ count = 0
  | .delivering todo | .confirmed _ todo | .failed _ _ todo =>
    todo ≠ [] → records.drop count = todo
  | .upkeep => True

section
variable {records todo : List Record} {count : Nat} {c c' : Stage}

/-- A claim gives a round its records, and a settlement takes none of them away. -/
theorem InTurn.calls {n : Nat} {policy : Policy} {worker : String}
    (hc : c.Calls n policy worker op a c') (h : InTurn records count c) (i : Nat) :
    InTurn (records ++ given i (.calls i op a)) count c' := by
  cases hc with
  | claimBatch =>
    obtain ⟨rfl, rfl⟩ := h
    simp [InTurn, given]
  | claimOne =>
    obtain ⟨rfl, rfl⟩ := h
    simp [InTurn, given]
  | claimNone =>
    obtain ⟨rfl, rfl⟩ := h
    simp [InTurn, given]
  | markPublished | reschedule => simpa [InTurn, given] using h
  | recoverStuck | purgePublished => trivial

theorem InTurn.falters {failure : Failure} (hc : Falters failure c c')
    (h : InTurn records count c) : InTurn records count c' := by
  cases hc with
  | claiming => exact fun hne => absurd rfl hne
  | confirmed | failed => exact h
  | upkeep => trivial

/-- A publication takes the first of the records that are left. -/
theorem InTurn.publishes (h : InTurn records count (.delivering (t :: todo)))
    (timeout : Duration) (outcome : Except Undelivered Unit) :
    InTurn records (count + 1) (.after timeout t todo outcome) := by
  have rest : records.drop (count + 1) = todo := by
    rw [← List.drop_drop, h (List.cons_ne_nil t todo)]
    rfl
  cases outcome with
  | ok => exact fun _ => rest
  | error => exact fun _ => rest

end

/-- Beside the courses of the rounds: each of them is in turn with what its round was given. -/
structure InOrder (history : List Moment) (r : Relay) (courses : List Course) : Prop where
  onCourse : r.OnCourse courses
  turns : ∀ i c, courses[i]? = some c →
    InTurn (claimed i history) (publishedBy i history) c.stage
  unbegun : ∀ i, courses.length ≤ i → claimed i history = [] ∧ publishedBy i history = 0

theorem inOrder_start (k : Nat) : InOrder [] (start k) [] :=
  ⟨.nil, by simp, fun _ _ => ⟨rfl, rfl⟩⟩

/-- A step that gives nothing to a round and ends no publication of it. -/
theorem claimed_still (h : given i x.event = [] ∧ publishesBy i x.event = false) :
    claimed i (history ++ [x]) = claimed i history ∧
      publishedBy i (history ++ [x]) = publishedBy i history := by
  simp [claimed_append, publishedBy_append, h.1, h.2]

theorem InOrder.stay (h : InOrder history x.before courses) (onCourse : x.after.OnCourse courses)
    (quiet : ∀ i, given i x.event = [] ∧ publishesBy i x.event = false) :
    InOrder (history ++ [x]) x.after courses := by
  refine ⟨onCourse, fun i c hc => ?_, fun i hi => ?_⟩
  · rw [(claimed_still (quiet i)).1, (claimed_still (quiet i)).2]
    exact h.turns i c hc
  · rw [(claimed_still (quiet i)).1, (claimed_still (quiet i)).2]
    exact h.unbegun i hi

/-- A step that moves one course. -/
theorem InOrder.move (h : InOrder history x.before courses) {c : Course} {stage : Stage}
    (hc : courses[i]? = some c) (onCourse : x.after.OnCourse (courses.set i (c.at stage)))
    (others : ∀ j, j ≠ i → given j x.event = [] ∧ publishesBy j x.event = false)
    (here : InTurn (claimed i (history ++ [x])) (publishedBy i (history ++ [x])) stage) :
    InOrder (history ++ [x]) x.after (courses.set i (c.at stage)) := by
  have hlt := (List.getElem?_eq_some_iff.1 hc).1
  refine ⟨onCourse, fun j c' hc' => ?_, fun j hj => ?_⟩
  · by_cases heq : j = i
    · subst heq
      rw [List.getElem?_set_self hlt] at hc'
      cases hc'
      exact here
    · rw [List.getElem?_set_ne (Ne.symm heq)] at hc'
      rw [(claimed_still (others j heq)).1, (claimed_still (others j heq)).2]
      exact h.turns j c' hc'
  · rw [List.length_set] at hj
    have hne : j ≠ i := by omega
    rw [(claimed_still (others j hne)).1, (claimed_still (others j hne)).2]
    exact h.unbegun j hj

/-- A round begins with nothing claimed and nothing published. -/
theorem InOrder.begins (h : InOrder history x.before courses) {config : DispatcherConfig}
    {worker : String} {loop : Simulation.Loop}
    (onCourse : x.after.OnCourse (courses ++ [⟨config, worker, .first config loop⟩]))
    (quiet : ∀ i, given i x.event = [] ∧ publishesBy i x.event = false) :
    InOrder (history ++ [x]) x.after (courses ++ [⟨config, worker, .first config loop⟩]) := by
  refine ⟨onCourse, fun i c hc => ?_, fun i hi => ?_⟩
  · rw [(claimed_still (quiet i)).1, (claimed_still (quiet i)).2]
    by_cases hlt : i < courses.length
    · rw [List.getElem?_append_left hlt] at hc
      exact h.turns i c hc
    · rw [List.getElem?_append_right (Nat.le_of_not_lt hlt)] at hc
      obtain rfl := List.mem_singleton.1 (List.mem_of_getElem? hc)
      obtain ⟨hclaimed, hpublished⟩ := h.unbegun i (Nat.le_of_not_lt hlt)
      rw [hclaimed, hpublished]
      cases loop with
      | tick => exact ⟨rfl, rfl⟩
      | reap | purge => trivial
  · rw [(claimed_still (quiet i)).1, (claimed_still (quiet i)).2]
    rw [List.length_append] at hi
    exact h.unbegun i (by omega)

/-- **Every step keeps all rounds in order.** -/
theorem InOrder.step (h : InOrder history x.before courses) (hx : x.before.Does x.event x.after) :
    ∃ courses', InOrder (history ++ [x]) x.after courses' := by
  obtain ⟨courses', onCourse, progress⟩ := hx.progress h.onCourse
  obtain ⟨before, event, after⟩ := x
  change Progress before courses event courses' at progress
  refine ⟨courses', ?_⟩
  cases progress with
  | client | clientFails | loses | notes => exact h.stay onCourse fun _ => ⟨rfl, rfl⟩
  | begins => exact h.begins onCourse fun _ => ⟨rfl, rfl⟩
  | calls hc _ hcalls =>
    refine h.move hc onCourse (fun j hne => ⟨given_other hne _ _, rfl⟩) ?_
    rw [claimed_append, publishedBy_append]
    exact (h.turns _ _ hc).calls hcalls _
  | callFails hc hfalters =>
    refine h.move hc onCourse (fun _ _ => ⟨rfl, rfl⟩) ?_
    rw [(claimed_still ⟨rfl, rfl⟩).1, (claimed_still ⟨rfl, rfl⟩).2]
    exact (h.turns _ _ hc).falters hfalters
  | publishes hc hstage =>
    rename_i i c w todo outcome
    refine h.move hc onCourse (fun j hne => ⟨rfl, by simp [publishesBy, Ne.symm hne]⟩) ?_
    have now := h.turns i c hc
    rw [hstage] at now
    rw [claimed_append, publishedBy_append]
    simpa [given, publishesBy] using now.publishes c.config.confirmTimeout outcome
  | panics hc =>
    exact h.move hc onCourse (fun _ _ => ⟨rfl, rfl⟩) fun hne => absurd rfl hne

/-- In every run the rounds publish what they were given, one after the other. -/
theorem inOrder_of_run {k : Nat} (run : Run Does (start k) history r) :
    ∃ courses, InOrder history r courses := by
  have keep : ∀ past x, (∃ courses, InOrder past x.before courses) →
      x.before.Does x.event x.after → ∃ courses, InOrder (past ++ [x]) x.after courses :=
    fun past x ⟨_, h⟩ hx => h.step hx
  have base : ∃ courses, InOrder [] (start k) courses := ⟨[], inOrder_start k⟩
  exact Run.invariant (P := fun past r => ∃ courses, InOrder past r courses) keep run base

/-- What a round hands over is the message of the record whose turn it is. -/
theorem InOrder.turn (h : InOrder history r courses) (hp : r.Publishing i m) :
    ∃ t, turn? i history = some t ∧ t ∈ claimed i history ∧ m = t.message := by
  obtain ⟨round, timeout, next, hi, hr⟩ := hp
  obtain ⟨c, hc, hf⟩ := h.onCourse.get hi
  rw [hr] at hf
  obtain ⟨t, todo, hstage, rfl, -, -⟩ := hf
  have now := h.turns i c hc
  rw [hstage] at now
  have hturn : turn? i history = some t := by
    unfold turn?
    rw [← List.head?_drop, now (List.cons_ne_nil t todo)]
    rfl
  exact ⟨t, hturn, List.mem_of_getElem? hturn, rfl⟩

/-! ## Runs -/

/-- The message that a round hands over is that of the acknowledged record which its copy goes back
to. -/
theorem handed_over {k : Nat} {past later : List Moment}
    (run : Run Does (start k) (past ++ x :: later) r)
    (fresh : FreshIds (operations (past ++ x :: later))) (hp : x.before.Publishing i m) :
    ∃ t, turn? i past = some t ∧ Acknowledged past t.origin ∧ m = t.origin.message := by
  obtain ⟨_, before, rfl, -, -⟩ := run_append.1 run
  have faithful := faithful_of_run before (fresh_past fresh)
  obtain ⟨courses, inOrder⟩ := inOrder_of_run before
  obtain ⟨t, hturn, hclaimed, rfl⟩ := inOrder.turn hp
  exact ⟨t, hturn, faithful.copies i t hclaimed, rfl⟩

/-- **Redeliveries are identical, and ids tell events apart.** In every run of any clients and
dispatchers on any stores, whatever fails, times out, dies or is taken back: a call to the publisher
is made for a record which its round has claimed, a client has heard of a record with this id when
its event was taken in, and the message, with its exchange, routing key, content and options, is
that of the record which the client heard of, whatever has become of it since. So all calls for one
record pass the same message, and calls for different records pass different message ids. -/
theorem redeliveries_are_identical {k : Nat} (run : Run Does (start k) history r)
    (fresh : FreshIds (operations history)) :
    (∀ past x later i m, history = past ++ x :: later → x.before.Publishing i m →
      ∃ t, turn? i past = some t ∧ (∃ s, Acknowledged past s ∧ s.id = t.id) ∧
        ∀ s, Acknowledged history s → s.id = t.id → m = s.message) ∧
    ∀ m m' t t', HandsOver history m t → HandsOver history m' t' →
      (t.id = t'.id → m = m') ∧
      (t.id ≠ t'.id → m.options.messageId ≠ m'.options.messageId) := by
  have unique := (faithful_of_run run fresh).unique
  have whole : ∀ {past x later s}, history = past ++ x :: later → Acknowledged past s →
      Acknowledged history s := by
    rintro past x later s rfl ⟨y, hy, h⟩
    exact ⟨y, List.mem_append_left _ hy, h⟩
  have known : ∀ {m t}, HandsOver history m t →
      Acknowledged history t.origin ∧ m = t.origin.message := by
    rintro m t ⟨past, x, later, i, cut, hp, hturn⟩
    obtain ⟨t₀, hturn₀, hack, rfl⟩ := handed_over (cut ▸ run) (cut ▸ fresh) hp
    cases hturn.symm.trans hturn₀
    exact ⟨whole cut hack, rfl⟩
  refine ⟨fun past x later i m cut hp => ?_, fun m m' t t' h h' => ?_⟩
  · obtain ⟨t, hturn, hack, rfl⟩ := handed_over (cut ▸ run) (cut ▸ fresh) hp
    refine ⟨t, hturn, ⟨t.origin, hack, rfl⟩, fun s hs hid => ?_⟩
    rw [unique s t.origin hs (whole cut hack) hid]
  · obtain ⟨hack, rfl⟩ := known h
    obtain ⟨hack', rfl⟩ := known h'
    constructor
    · intro hid
      rw [unique _ _ hack hack' hid]
    · intro hne heq
      exact hne ((Record.messageId_message_eq_iff t.origin t'.origin).1 heq)

end

/-- A slow dispatcher claims two records, of which a client has enqueued one and committed the
other. They are taken back from it, its delivery of the first one fails, and while it goes on to
the second one, another dispatcher claims and publishes that. -/
def takenBack : List Happening :=
  let r₁ := Record.ofEvent (.ofNat 1) (.brief none) .epoch
  let r₂ := Record.ofEvent (.ofNat 2) (.brief none) .epoch
  let later := Instant.epoch.later (.ofSeconds 600)
  [.client (.enqueue 0 (.ofNat 1) (.brief none) .epoch) (.record (some r₁)),
    .client (.begin 0) (.count 0),
    .client (.stage 0 0 (.ofNat 2) (.brief none) .epoch) (.record (some r₂)),
    .client (.commit 0 0) (.count 1),
    .begins 0 .default .default "slow" .tick,
    .calls 0 (.claimBatch 0 .default 200 "slow" .epoch)
      (.records [r₁.claim "slow" .epoch, r₂.claim "slow" .epoch]),
    .begins 0 .default .default "quick" .reap,
    .calls 1 (.recoverStuck 0 (.ofSeconds 300) later) (.count 2), .notes 1,
    .publishes 0 r₁.message (.error (.refused ["reset"])), .notes 0,
    .calls 0 (.reschedule 0 .default (.ofNat 1) "reset" 0 later) .done,
    .begins 0 .default .default "quick" .tick,
    .calls 2 (.claimBatch 0 .default 200 "quick" later) (.records [r₂.claim "quick" later]),
    .publishes 2 r₂.message (.ok ()), .publishes 0 r₂.message (.ok ())]

/-- The slow and the quick dispatcher hand over the same message for the second record, and another
one for the first. -/
theorem redeliveries_are_identical_takenBack :
    ∃ history r m₁ m₂ m₃ t₁ t₂ t₃, Run Does (start 1) history r ∧ FreshIds (operations history) ∧
      HandsOver history m₁ t₁ ∧ HandsOver history m₂ t₂ ∧ HandsOver history m₃ t₃ ∧
      t₂.lockedBy = some "quick" ∧ t₃.lockedBy = some "slow" ∧
      m₂ = m₃ ∧ m₁.options.messageId ≠ m₂.options.messageId := by
  let r₁ := Record.ofEvent (.ofNat 1) (.brief none) .epoch
  let r₂ := Record.ofEvent (.ofNat 2) (.brief none) .epoch
  let later := Instant.epoch.later (.ofSeconds 600)
  obtain ⟨history, r, -, made, run, h₁, h₂, h₃⟩ : ∃ history r,
      history.map (·.event) = takenBack ∧
      Depot.madeIds (operations history) = [.ofNat 1, .ofNat 2] ∧
      Run Does (start 1) history r ∧ HandsOver history r₁.message (r₁.claim "slow" .epoch) ∧
      HandsOver history r₂.message (r₂.claim "quick" later) ∧
      HandsOver history r₂.message (r₂.claim "slow" .epoch) := by
    exact ⟨[⟨_, _, _⟩, ⟨_, _, _⟩, ⟨_, _, _⟩, ⟨_, _, _⟩, ⟨_, _, _⟩, ⟨_, _, _⟩, ⟨_, _, _⟩, ⟨_, _, _⟩,
      ⟨_, _, _⟩, ⟨_, _, _⟩, ⟨_, _, _⟩, ⟨_, _, _⟩, ⟨_, _, _⟩, ⟨_, _, _⟩, ⟨_, _, _⟩, ⟨_, _, _⟩], _,
      rfl, rfl,
      ⟨rfl, .client rfl, rfl, .client rfl, rfl, .client rfl, rfl, .client rfl, rfl, .begins,
        rfl, .calls rfl .claimBatch rfl, rfl, .begins, rfl, .calls rfl .recoverStuck rfl,
        rfl, .notes rfl rfl, rfl, .publishes rfl rfl, rfl, .notes rfl rfl,
        rfl, .calls rfl .reschedule rfl, rfl, .begins, rfl, .calls rfl .claimBatch rfl,
        rfl, .publishes rfl rfl, rfl, .publishes rfl rfl, rfl⟩,
      ⟨[_, _, _, _, _, _, _, _, _], _, _, 0, rfl, ⟨_, _, _, rfl, rfl⟩, rfl⟩,
      ⟨[_, _, _, _, _, _, _, _, _, _, _, _, _, _], _, _, 2, rfl, ⟨_, _, _, rfl, rfl⟩, rfl⟩,
      ⟨[_, _, _, _, _, _, _, _, _, _, _, _, _, _, _], _, _, 0, rfl, ⟨_, _, _, rfl, rfl⟩, rfl⟩⟩
  have fresh : FreshIds (operations history) := by
    change (Depot.madeIds (operations history)).Nodup
    rw [made]
    decide
  have identical := (redeliveries_are_identical run fresh).2
  exact ⟨history, r, _, _, _, _, _, _, run, fresh, h₁, h₂, h₃, rfl, rfl,
    (identical _ _ _ _ h₂ h₃).1 rfl, (identical _ _ _ _ h₁ h₂).2 (by decide)⟩

end Relay
end EventRelay
