import EventRelay.Proofs.Relay.Courses
import EventRelay.Proofs.Relay.Ledger

/-!
# The retry budget

Where one tick after the other works on a store, and nobody else claims or settles records, every
publication of a record is one attempt of it: a record whose publications have all been settled
shows as many attempts as there were publications, less the one that was noted as successful, and no
record is published more often than the policy allows (`attempts_count_publications`). Recoveries
and purges may come at any time, also in the middle of a tick. At any time at most one round is at
work on records (`Attended`), and the balance between publications and attempts is kept for the
stage of this round (`Watched`, by the steps of `Ledger`).
-/

namespace EventRelay

/-- The operation claims or settles records of the store `n`. -/
inductive Operation.Delivers (n : Nat) : Operation → Prop where
  | claimBatch {policy limit worker now} : Delivers n (.claimBatch n policy limit worker now)
  | claimOne {policy worker now} : Delivers n (.claimOne n policy worker now)
  | settles {op id} (h : op.Settles n id) : Delivers n op

namespace Relay

/-- A publication of the record with the id ends. -/
def publishes (id : Uuid) : Happening → Bool
  | .publishes _ m _ => m.options.messageId = String.ofList id.text
  | _ => false

/-- How often the record with the id was handed to the publisher. -/
def publications (history : List Moment) (id : Uuid) : Nat :=
  history.countP fun x => publishes id x.event

/-- The round `i` settles the record with the id in the store `n`. -/
def SettledBy (n i : Nat) (id : Uuid) (ev : Happening) : Prop :=
  ∃ op a, ev = .calls i op a ∧ op.Settles n id

/-- Every publication of the record with the id was settled by its round later on. -/
def AllSettled (n : Nat) (id : Uuid) : List Happening → Prop
  | [] => True
  | ev :: later =>
    (∀ i m outcome, ev = .publishes i m outcome → m.options.messageId = String.ofList id.text →
      ∃ ev' ∈ later, SettledBy n i id ev') ∧
    AllSettled n id later

def beginsTick : Happening → Bool
  | .begins _ _ _ _ .tick => true
  | _ => false

/-- The records of the store `n` are delivered by one tick after the other and by nobody else, and
no call fails. So it is in every run of one dispatcher that has the store for itself. -/
structure Solo (n : Nat) (policy : Policy) (history : List Moment) : Prop where
  rounds : ∀ x ∈ history, ∀ m p config worker loop,
    x.event = .begins m p config worker loop → m = n ∧ p = policy
  /-- A tick begins only when those before it have come to their ends. -/
  inTurn : (history.filter fun x => beginsTick x.event).Pairwise fun y x =>
    ∃ round, x.before.rounds[y.before.rounds.length]? = some round ∧ round.rest = .done ()
  clients : ∀ x ∈ history, ∀ op a, x.event = .client op a → ¬ op.Delivers n
  /-- A batch is claimed in one step. -/
  whole : ∀ x ∈ history, ∀ i m p worker now a, x.event ≠ .calls i (.claimOne m p worker now) a
  succeeds : ∀ x ∈ history, ∀ i failure, x.event ≠ .callFails i failure
  survives : ∀ x ∈ history, ∀ i, x.event ≠ .panics i
  nothingLost : NothingLost history

/-- The round `i` is at the stage `s`, if it was begun, and no other round is at work. -/
structure Attended (courses : List Course) (i : Nat) (s : Stage) : Prop where
  here : ∀ c, courses[i]? = some c → c.stage = s
  others : ∀ j c, courses[j]? = some c → j ≠ i → c.stage.Idle
  unbegun : courses.length ≤ i → s = .upkeep

section
variable {courses : List Course} {i j : Nat} {s s' : Stage} {c : Course}

/-- Only the attended round can be busy. -/
theorem Attended.busy (h : Attended courses i s) (hc : courses[j]? = some c)
    (busy : ¬ c.stage.Idle) : j = i ∧ c.stage = s := by
  obtain rfl : j = i := by
    by_contra hne
    exact busy (h.others j c hc hne)
  exact ⟨rfl, h.here c hc⟩

theorem Attended.move (h : Attended courses i s) (hc : courses[i]? = some c) :
    Attended (courses.set i (c.at s')) i s' := by
  have hlt := (List.getElem?_eq_some_iff.1 hc).1
  constructor
  · intro c' hc'
    rw [List.getElem?_set_self hlt] at hc'
    cases hc'
    rfl
  · intro j c' hc' hne
    rw [List.getElem?_set_ne (Ne.symm hne)] at hc'
    exact h.others j c' hc' hne
  · intro hle
    rw [List.length_set] at hle
    omega

/-- Upkeep begins beside the round that is at work. -/
theorem Attended.upkeep (h : Attended courses i s) (config : DispatcherConfig) (worker : String) :
    Attended (courses ++ [⟨config, worker, .upkeep⟩]) i s := by
  have new : ∀ {j c}, courses.length ≤ j → (courses ++ [⟨config, worker, .upkeep⟩])[j]? = some c →
      c.stage = .upkeep := by
    intro j c hle hc
    rw [List.getElem?_append_right hle] at hc
    obtain rfl := List.mem_singleton.1 (List.mem_of_getElem? hc)
    rfl
  constructor
  · intro c hc
    by_cases hlt : i < courses.length
    · rw [List.getElem?_append_left hlt] at hc
      exact h.here c hc
    · rw [new (Nat.le_of_not_lt hlt) hc, h.unbegun (Nat.le_of_not_lt hlt)]
  · intro j c hc hne
    by_cases hlt : j < courses.length
    · rw [List.getElem?_append_left hlt] at hc
      exact h.others j c hc hne
    · rw [new (Nat.le_of_not_lt hlt) hc]
      exact .upkeep
  · intro hle
    rw [List.length_append] at hle
    exact h.unbegun (by omega)

/-- The next tick begins when nobody is at work. -/
theorem Attended.tick (h : Attended courses i s) (idle : s.Idle) (config : DispatcherConfig)
    (worker : String) :
    Attended (courses ++ [⟨config, worker, s'⟩]) courses.length s' := by
  constructor
  · intro c hc
    rw [List.getElem?_append_right (Nat.le_refl _)] at hc
    obtain rfl := List.mem_singleton.1 (List.mem_of_getElem? hc)
    rfl
  · intro j c hc hne
    have hlt : j < courses.length := by
      have := (List.getElem?_eq_some_iff.1 hc).1
      rw [List.length_append, List.length_singleton] at this
      omega
    rw [List.getElem?_append_left hlt] at hc
    by_cases heq : j = i
    · subst heq
      rw [h.here c hc]
      exact idle
    · exact h.others j c hc heq
  · intro hle
    rw [List.length_append, List.length_singleton] at hle
    omega

end

/-! ## Histories -/

section
variable {n i : Nat} {policy : Policy} {history : List Moment} {x : Moment} {id : Uuid}
  {r r' : Relay} {op : Operation} {a : Answer}

theorem publications_append (history : List Moment) (x : Moment) (id : Uuid) :
    publications (history ++ [x]) id =
      publications history id + if publishes id x.event then 1 else 0 := by
  simp [publications, List.countP_append, List.countP_singleton]

theorem publications_still (unpublished : ∀ id, publishes id x.event = false) :
    publications (history ++ [x]) = publications history := by
  funext id
  simp [publications_append, unpublished]

/-- A message belongs to the record whose id it bears. -/
theorem publishes_message (w : Record) (id : Uuid) (i : Nat) (outcome : Except Undelivered Unit) :
    publishes id (.publishes i w.message outcome) = true ↔ w.id = id := by
  constructor
  · intro h
    exact Uuid.text_injective (String.ofList_injective (of_decide_eq_true h))
  · rintro rfl
    exact decide_eq_true rfl

theorem Solo.past {later : List Moment} (h : Solo n policy (history ++ later)) :
    Solo n policy history where
  rounds y hy := h.rounds y (List.mem_append_left _ hy)
  inTurn := by
    have := h.inTurn
    rw [List.filter_append] at this
    exact (List.pairwise_append.1 this).1
  clients y hy := h.clients y (List.mem_append_left _ hy)
  whole y hy := h.whole y (List.mem_append_left _ hy)
  succeeds y hy := h.succeeds y (List.mem_append_left _ hy)
  survives y hy := h.survives y (List.mem_append_left _ hy)
  nothingLost y hy := h.nothingLost y (List.mem_append_left _ hy)

/-- The round `i` has published the record with the id and has not settled it since. -/
def Unsettled (n i : Nat) (history : List Moment) (id : Uuid) : Prop :=
  ∃ past x later m outcome, history = past ++ x :: later ∧ x.event = .publishes i m outcome ∧
    m.options.messageId = String.ofList id.text ∧ ∀ y ∈ later, ¬ SettledBy n i id y.event

/-- A publication stays unsettled until its own round settles it. -/
theorem Unsettled.later (h : Unsettled n i history id) (hx : ¬ SettledBy n i id x.event) :
    Unsettled n i (history ++ [x]) id := by
  obtain ⟨past, y, later, m, outcome, rfl, hy, hm, hlater⟩ := h
  refine ⟨past, y, later ++ [x], m, outcome, by simp, hy, hm, fun z hz => ?_⟩
  rcases List.mem_append.1 hz with hz | hz
  · exact hlater z hz
  · cases List.mem_singleton.1 hz
    exact hx

/-- While a publication is unsettled, not all of them are settled. -/
theorem Unsettled.not_allSettled (h : Unsettled n i history id) :
    ¬ AllSettled n id (history.map (·.event)) := by
  obtain ⟨past, x, later, m, outcome, rfl, hx, hm, hlater⟩ := h
  induction past with
  | nil =>
    rintro ⟨hall, -⟩
    obtain ⟨ev, hev, hsettled⟩ := hall i m outcome hx hm
    obtain ⟨y, hy, rfl⟩ := List.mem_map.1 hev
    exact hlater y hy hsettled
  | cons y past ih => exact fun hall => ih hall.2

/-- One more operation on the depot. -/
theorem consistent_append (h : Depot.Consistent (operations history) r.depot)
    (ops : operations [x] = [⟨r.depot, (op, a), r'.depot⟩]) (hd : r.depot.Does (op, a) r'.depot)
    (fresh : FreshIds (operations (history ++ [x]))) :
    Depot.Consistent (operations (history ++ [x])) r'.depot := by
  rw [operations_append, ops] at fresh ⊢
  exact h.does (x := ⟨r.depot, (op, a), r'.depot⟩) hd fresh

theorem madeIds_operations_append {d d' : Depot} (ops : operations [x] = [⟨d, (op, a), d'⟩]) :
    Depot.madeIds (operations (history ++ [x])) =
      Depot.madeIds (operations history) ++ op.made.toList := by
  rw [operations_append, ops, Depot.madeIds_append]

end

/-! ## One step -/

/-- What holds of a relay after a history in which one tick after the other has worked on the store
`n`, and the last of them is the round `i`, at the stage `s`. -/
structure Watched (n : Nat) (policy : Policy) (history : List Moment) (r : Relay)
    (courses : List Course) (i : Nat) (s : Stage) : Prop where
  onCourse : r.OnCourse courses
  placed : ∀ round ∈ r.rounds, round.store = n ∧ round.policy = policy
  consistent : Depot.Consistent (operations history) r.depot
  attended : Attended courses i s
  begun : ¬ s.Idle → ∃ y ∈ history, beginsTick y.event = true ∧ y.before.rounds.length = i
  atOnce : ∀ limit got, s = .claiming limit got → got = []
  ledger : Ledger n policy.maxAttempts (publications history)
    (Depot.madeIds (operations history)) r.depot s
  unsettled : ∀ w, s.sent = some w → Unsettled n i history w.id

/-- What a step is for the round `i` that is at work, at the stage `s`, and where it leads: nothing
that matters for records, an operation that settles nothing, the next call or publication of this
round, or the beginning of the next tick. -/
inductive Moved (n : Nat) (policy : Policy) (history : List Moment) (x : Moment) (i : Nat)
    (s : Stage) : Nat → Stage → Prop where
  | still (depot : x.after.depot = x.before.depot)
    (unpublished : ∀ id, publishes id x.event = false)
    (uncalled : ∀ j op a, x.event ≠ .calls j op a) : Moved n policy history x i s i s
  | does {op a} (hd : x.before.depot.Does (op, a) x.after.depot)
    (unsettling : ∀ id, ¬ op.Settles n id)
    (new : ∀ id, op.made = some id → id ∉ Depot.madeIds (operations history))
    (calls : ∀ j op' a', x.event = .calls j op' a' → op' = op)
    (unpublished : ∀ id, publishes id x.event = false) : Moved n policy history x i s i s
  | calls {worker op a s'} (hev : x.event = .calls i op a)
    (hcalls : s.Calls n policy worker op a s') (busy : ¬ s.Idle)
    (whole : ∀ m p worker now, op ≠ .claimOne m p worker now)
    (hd : x.before.depot.Does (op, a) x.after.depot) : Moved n policy history x i s i s'
  | publishes {w todo outcome} (hs : s = .delivering (w :: todo))
    (hev : x.event = .publishes i w.message outcome) (depot : x.after.depot = x.before.depot)
    (timeout : Duration) : Moved n policy history x i s i (.after timeout w todo outcome)
  | ticks {i' limit} (idle : s.Idle) (depot : x.after.depot = x.before.depot)
    (unpublished : ∀ id, publishes id x.event = false)
    (uncalled : ∀ j op a, x.event ≠ .calls j op a) :
    Moved n policy history x i s i' (.claiming limit [])

theorem watched_start (n : Nat) (policy : Policy) (k : Nat) :
    Watched n policy [] (start k) [] 0 .upkeep where
  onCourse := .nil
  placed := by simp [start]
  consistent := Depot.consistent_start k
  attended := ⟨by simp, by simp, fun _ => rfl⟩
  begun busy := absurd .upkeep busy
  atOnce := by simp
  ledger := by
    refine ⟨fun id => Nat.zero_le _, fun id hid => absurd rfl hid, ?_, ?_, ?_, ?_, ?_⟩
    · simp [start]
    · simp [start, Depot.records]
    · simp [Stage.waiting]
    · simp [Stage.sent]
    · simp [Stage.held, Stage.sent, Stage.waiting]
  unsettled := by simp [Stage.sent]

section
variable {n i j : Nat} {policy : Policy} {history : List Moment} {x : Moment}
  {courses courses' : List Course} {s s' : Stage} {c : Course} {op : Operation} {a : Answer}

theorem Watched.begun_later (h : Watched n policy history x.before courses i s) (busy : ¬ s.Idle) :
    ∃ y ∈ history ++ [x], beginsTick y.event = true ∧ y.before.rounds.length = i := by
  obtain ⟨y, hy, hbegins, hlength⟩ := h.begun busy
  exact ⟨y, List.mem_append_left _ hy, hbegins, hlength⟩

/-- A step that is neither an operation nor a publication. -/
theorem Watched.still (h : Watched n policy history x.before courses i s)
    (depot : x.after.depot = x.before.depot)
    (placed : ∀ round ∈ x.after.rounds, round.store = n ∧ round.policy = policy)
    (onCourse : x.after.OnCourse courses') (attended : Attended courses' i s)
    (quiet : operations [x] = []) (unpublished : ∀ id, publishes id x.event = false)
    (uncalled : ∀ j op a, x.event ≠ .calls j op a) :
    Watched n policy (history ++ [x]) x.after courses' i s := by
  have same : operations (history ++ [x]) = operations history := by
    rw [operations_append, quiet, List.append_nil]
  constructor
  case onCourse => exact onCourse
  case placed => exact placed
  case consistent =>
    rw [same, depot]
    exact h.consistent
  case attended => exact attended
  case begun => exact h.begun_later
  case atOnce => exact h.atOnce
  case ledger =>
    rw [same, depot, publications_still unpublished]
    exact h.ledger
  case unsettled =>
    exact fun w hw => (h.unsettled w hw).later fun ⟨op, a, hev, _⟩ => uncalled i op a hev

/-- A step that is an operation which settles nothing, whoever does it. -/
theorem Watched.does (h : Watched n policy history x.before courses i s)
    (hd : x.before.depot.Does (op, a) x.after.depot)
    (ops : operations [x] = [⟨x.before.depot, (op, a), x.after.depot⟩])
    (fresh : FreshIds (operations (history ++ [x]))) (unsettling : ∀ id, ¬ op.Settles n id)
    (calls : ∀ j op' a', x.event = .calls j op' a' → op' = op)
    (placed : ∀ round ∈ x.after.rounds, round.store = n ∧ round.policy = policy)
    (onCourse : x.after.OnCourse courses) (unpublished : ∀ id, publishes id x.event = false) :
    Watched n policy (history ++ [x]) x.after courses i s := by
  have effect := h.consistent.healthy.effect hd
  have new : ∀ id, op.made = some id → id ∉ Depot.madeIds (operations history) := by
    intro id hid
    rw [operations_append, ops] at fresh
    exact Depot.FreshIds.new fresh hid
  constructor
  case onCourse => exact onCourse
  case placed => exact placed
  case consistent => exact consistent_append h.consistent ops hd fresh
  case attended => exact h.attended
  case begun => exact h.begun_later
  case atOnce => exact h.atOnce
  case ledger =>
    rw [madeIds_operations_append ops, publications_still unpublished]
    exact h.ledger.does h.consistent.sound effect unsettling new
  case unsettled =>
    intro w hw
    refine (h.unsettled w hw).later ?_
    rintro ⟨op', a', hev, hsettles⟩
    exact unsettling _ (calls i op' a' hev ▸ hsettles)

/-- A call of the round that is at work. -/
theorem Watched.calls (h : Watched n policy history x.before courses i s)
    (hc : courses[i]? = some c) (hev : x.event = .calls i op a)
    (hcalls : s.Calls n policy c.worker op a s') (busy : ¬ s.Idle)
    (whole : ∀ m p worker now, op ≠ .claimOne m p worker now)
    (hd : x.before.depot.Does (op, a) x.after.depot)
    (fresh : FreshIds (operations (history ++ [x])))
    (placed : ∀ round ∈ x.after.rounds, round.store = n ∧ round.policy = policy)
    (onCourse : x.after.OnCourse (courses.set i (c.at s'))) :
    Watched n policy (history ++ [x]) x.after (courses.set i (c.at s')) i s' := by
  have ops : operations [x] = [⟨x.before.depot, (op, a), x.after.depot⟩] := by
    simp [operations, HasDepot.operation?, hev]
  have unpublished : ∀ id, publishes id x.event = false := by simp [hev, publishes]
  have effect := h.consistent.healthy.effect hd
  have unmade : op.made = none := by cases hcalls <;> rfl
  obtain ⟨todo, rfl, ledger⟩ :=
    h.ledger.calls h.consistent.sound hcalls effect busy h.atOnce whole
  constructor
  case onCourse => exact onCourse
  case placed => exact placed
  case consistent => exact consistent_append h.consistent ops hd fresh
  case attended => exact h.attended.move hc
  case begun => exact fun _ => h.begun_later busy
  case atOnce => simp
  case ledger =>
    rw [madeIds_operations_append ops, publications_still unpublished, unmade]
    simpa using ledger
  case unsettled => simp [Stage.sent]

/-- A publication of the round that is at work. -/
theorem Watched.publishes {w : Record} {todo : List Record} {outcome : Except Undelivered Unit}
    (h : Watched n policy history x.before courses i s) (hc : courses[i]? = some c)
    (hs : s = .delivering (w :: todo)) (hev : x.event = .publishes i w.message outcome)
    (depot : x.after.depot = x.before.depot) (timeout : Duration)
    (placed : ∀ round ∈ x.after.rounds, round.store = n ∧ round.policy = policy)
    (onCourse : x.after.OnCourse (courses.set i (c.at (.after timeout w todo outcome)))) :
    Watched n policy (history ++ [x]) x.after (courses.set i (c.at (.after timeout w todo outcome)))
      i (.after timeout w todo outcome) := by
  have same : operations (history ++ [x]) = operations history := by
    simp [operations, HasDepot.operation?, hev]
  have busy : ¬ s.Idle := by
    rw [hs]
    rintro ⟨⟩
  have known : ∀ t ∈ x.before.depot.records n, t.id ∈ Depot.madeIds (operations history) :=
    fun t ht => h.consistent.known n t (List.mem_append_left _ ht)
  have one : ∀ id, publications (history ++ [x]) id =
      publications history id + if w.id = id then 1 else 0 := by
    intro id
    simp only [publications_append, hev, publishes_message]
  constructor
  case onCourse => exact onCourse
  case placed => exact placed
  case consistent =>
    rw [same, depot]
    exact h.consistent
  case attended => exact h.attended.move hc
  case begun => exact fun _ => h.begun_later busy
  case atOnce => cases outcome <;> simp [Stage.after]
  case ledger =>
    rw [same, depot]
    exact (hs ▸ h.ledger).publishes h.consistent.sound known one timeout outcome
  case unsettled =>
    intro v hv
    rw [Stage.sent_after] at hv
    cases hv
    exact ⟨history, x, [], w.message, outcome, rfl, hev, rfl, by simp⟩

/-- The next tick begins. -/
theorem Watched.tick {config : DispatcherConfig} {worker : String}
    (h : Watched n policy history x.before courses i s) (begins : beginsTick x.event = true)
    (idle : s.Idle) (depot : x.after.depot = x.before.depot)
    (placed : ∀ round ∈ x.after.rounds, round.store = n ∧ round.policy = policy)
    (onCourse : x.after.OnCourse
      (courses ++ [⟨config, worker, .claiming config.batchSize []⟩])) :
    Watched n policy (history ++ [x]) x.after
      (courses ++ [⟨config, worker, .claiming config.batchSize []⟩]) courses.length
      (.claiming config.batchSize []) := by
  obtain ⟨m, p, config', worker', hev⟩ : ∃ m p config worker,
      x.event = .begins m p config worker .tick := by
    unfold beginsTick at begins
    split at begins
    · exact ⟨_, _, _, _, ‹_›⟩
    · cases begins
  have same : operations (history ++ [x]) = operations history := by
    simp [operations, HasDepot.operation?, hev]
  have unpublished : ∀ id, Relay.publishes id x.event = false := by simp [hev, Relay.publishes]
  constructor
  case onCourse => exact onCourse
  case placed => exact placed
  case consistent =>
    rw [same, depot]
    exact h.consistent
  case attended => exact h.attended.tick idle config worker
  case begun => exact fun _ => ⟨x, by simp, begins, List.Forall₂.length_eq h.onCourse⟩
  case atOnce =>
    rintro limit got ⟨⟩
    rfl
  case ledger =>
    rw [same, depot, publications_still unpublished]
    exact h.ledger.of_idle idle _
  case unsettled => simp [Stage.sent]

/-- Where a tick begins, the round that was at work before has come to its end. -/
theorem Watched.idle (h : Watched n policy history x.before courses i s)
    (begins : beginsTick x.event = true) (solo : Solo n policy (history ++ [x])) : s.Idle := by
  by_contra busy
  obtain ⟨y, hy, hbegins, rfl⟩ := h.begun busy
  have turns := solo.inTurn
  rw [List.filter_append, List.pairwise_append] at turns
  obtain ⟨round, hi, hdone⟩ := turns.2.2 y (List.mem_filter.2 ⟨hy, hbegins⟩) x (by simp [begins])
  obtain ⟨c, hc, hf⟩ := h.onCourse.get hi
  rw [hdone] at hf
  refine busy ?_
  rw [← h.attended.here c hc]
  exact hf

/-- **Every step keeps the balance**, as long as one tick after the other delivers. -/
theorem Watched.step (h : Watched n policy history x.before courses i s)
    (hx : x.before.Does x.event x.after) (solo : Solo n policy (history ++ [x]))
    (fresh : FreshIds (operations (history ++ [x]))) :
    ∃ courses' i' s', Watched n policy (history ++ [x]) x.after courses' i' s' ∧
      Moved n policy history x i s i' s' := by
  obtain ⟨courses', onCourse, progress⟩ := hx.progress h.onCourse
  obtain ⟨before, event, after⟩ := x
  change before.Does event after at hx
  have last : (⟨before, event, after⟩ : Moment) ∈ history ++ [⟨before, event, after⟩] := by simp
  have new : ∀ {op a d}, operations [⟨before, event, after⟩] = [⟨before.depot, (op, a), d⟩] →
      ∀ id, op.made = some id → id ∉ Depot.madeIds (operations history) := by
    intro op a d ops id hid
    rw [operations_append, ops] at fresh
    exact Depot.FreshIds.new fresh hid
  cases hx with
  | client hd =>
    rename_i op a d
    cases progress
    have quiet : ∀ id, ¬ op.Settles n id :=
      fun id hsettles => solo.clients _ last op a rfl (.settles hsettles)
    exact ⟨courses, i, s, h.does hd rfl fresh quiet (by simp) h.placed onCourse fun _ => rfl,
      .does hd quiet (new rfl) (by simp) fun _ => rfl⟩
  | clientFails =>
    cases progress
    exact ⟨courses, i, s, h.still rfl h.placed onCourse h.attended rfl (fun _ => rfl) (by simp),
      .still rfl (fun _ => rfl) (by simp)⟩
  | loses => exact absurd rfl (solo.nothingLost _ last _)
  | begins =>
    rename_i m p config worker loop
    cases progress
    obtain ⟨rfl, rfl⟩ := solo.rounds _ last _ _ _ _ _ rfl
    have placed : ∀ round ∈ before.rounds ++ [⟨m, p, work config worker loop⟩],
        round.store = m ∧ round.policy = p := by
      intro round hround
      rcases List.mem_append.1 hround with hround | hround
      · exact h.placed round hround
      · cases List.mem_singleton.1 hround
        exact ⟨rfl, rfl⟩
    cases loop with
    | tick =>
      have idle := h.idle rfl solo
      exact ⟨_, _, _, h.tick rfl idle rfl placed onCourse,
        .ticks idle rfl (fun _ => rfl) (by simp)⟩
    | reap | purge =>
      exact ⟨_, i, s, h.still rfl placed onCourse (h.attended.upkeep config worker) rfl
        (fun _ => rfl) (by simp), .still rfl (fun _ => rfl) (by simp)⟩
  | notes hi hr =>
    cases progress
    exact ⟨courses, i, s, h.still rfl (placed_goOn h.placed hi _) onCourse h.attended rfl
      (fun _ => rfl) (by simp), .still rfl (fun _ => rfl) (by simp)⟩
  | calls hi hr hd =>
    rename_i j round op a d rest
    cases progress with
    | calls hc hi' hcalls =>
      rename_i c round' s'
      cases hi.symm.trans hi'
      obtain ⟨rfl, rfl⟩ := h.placed round (List.mem_of_getElem? hi)
      have placed := placed_goOn h.placed hi rest
      have whole : ∀ m p worker now, op ≠ .claimOne m p worker now := by
        rintro m p worker now rfl
        exact solo.whole _ last j m p worker now a rfl
      by_cases busy : c.stage.Idle
      · -- Only upkeep has calls to make without being at work.
        obtain ⟨rfl, upkeep⟩ := hcalls.of_idle busy
        have unsettling : ∀ id, ¬ op.Settles round.store id := by
          rcases upkeep with ⟨_, _, rfl⟩ | ⟨_, _, rfl⟩ <;> rintro id ⟨⟩
        rw [set_at_stage hc] at onCourse
        have same : ∀ j' op' a', Happening.calls j op a = .calls j' op' a' → op' = op := by
          rintro _ _ _ ⟨⟩
          rfl
        exact ⟨courses, i, s, h.does hd rfl fresh unsettling same placed onCourse fun _ => rfl,
          .does hd unsettling (new rfl) same fun _ => rfl⟩
      · obtain ⟨rfl, rfl⟩ := h.attended.busy hc busy
        exact ⟨_, j, s', h.calls hc rfl hcalls busy whole hd fresh placed onCourse,
          .calls rfl hcalls busy whole hd⟩
  | callFails => exact absurd rfl (solo.succeeds _ last _ _)
  | publishes hi hr =>
    rename_i j round m timeout next outcome
    cases progress with
    | publishes hc hstage =>
      rename_i c w todo
      have busy : ¬ c.stage.Idle := by
        rw [hstage]
        rintro ⟨⟩
      obtain ⟨rfl, rfl⟩ := h.attended.busy hc busy
      exact ⟨_, j, _, h.publishes hc hstage rfl rfl _ (placed_goOn h.placed hi _) onCourse,
        .publishes hstage rfl rfl _⟩
  | panics => exact absurd rfl (solo.survives _ last _)

/-- What every step keeps, as the round at work moves, holds at the end of the steps since then. -/
theorem Watched.along {P : List Moment → Depot → Nat → Stage → Prop} {past later : List Moment}
    {r r' : Relay} (h : Watched n policy past r courses i s) (run : Run Does r later r')
    (fresh : FreshIds (operations (past ++ later))) (solo : Solo n policy (past ++ later))
    (step : ∀ done y courses i s i' s', Watched n policy (past ++ done) y.before courses i s →
      Moved n policy (past ++ done) y i s i' s' → P done y.before.depot i s →
      P (done ++ [y]) y.after.depot i' s')
    (start : P [] r.depot i s) :
    ∃ courses' i' s', Watched n policy (past ++ later) r' courses' i' s' ∧
      P later r'.depot i' s' := by
  have keep : ∀ done y, (FreshIds (operations (past ++ done)) → Solo n policy (past ++ done) →
      ∃ courses i s, Watched n policy (past ++ done) y.before courses i s ∧
        P done y.before.depot i s) →
      y.before.Does y.event y.after → FreshIds (operations (past ++ (done ++ [y]))) →
      Solo n policy (past ++ (done ++ [y])) → ∃ courses i s,
        Watched n policy (past ++ (done ++ [y])) y.after courses i s ∧
        P (done ++ [y]) y.after.depot i s := by
    intro done y hdone hy fresh solo
    rw [← List.append_assoc] at fresh solo ⊢
    obtain ⟨courses, i, s, watched, hp⟩ := hdone (fresh_past fresh) solo.past
    obtain ⟨courses', i', s', watched', moved⟩ := watched.step hy solo fresh
    exact ⟨courses', i', s', watched', step done y courses i s i' s' watched moved hp⟩
  have base : FreshIds (operations (past ++ [])) → Solo n policy (past ++ []) →
      ∃ courses i s, Watched n policy (past ++ []) r courses i s ∧ P [] r.depot i s := by
    intro _ _
    rw [List.append_nil]
    exact ⟨courses, i, s, h, start⟩
  exact Run.invariant
    (P := fun done r => FreshIds (operations (past ++ done)) → Solo n policy (past ++ done) →
      ∃ courses i s, Watched n policy (past ++ done) r courses i s ∧ P done r.depot i s)
    keep run base fresh solo

/-- **At the end of a run** the attempts of every record count its publications, but for one that is
not settled yet. -/
theorem watched_of_run {k : Nat} {r : Relay} (run : Run Does (start k) history r)
    (fresh : FreshIds (operations history)) (solo : Solo n policy history) :
    ∃ courses i s, Watched n policy history r courses i s := by
  obtain ⟨courses, i, s, watched, -⟩ := (watched_start n policy k).along
    (P := fun _ _ _ _ => True) run fresh solo (fun _ _ _ _ _ _ _ _ _ _ => trivial) trivial
  exact ⟨courses, i, s, watched⟩

end

/-- **Publications are attempts.** In every run in which one tick after the other works on a store
that began empty, and nobody else claims or settles its records: a stored record whose publications
have all been settled shows as many attempts as it was published, or one less if it is noted as
published; no record shows more attempts than the policy allows; no record is published more often
than that; and when a round is about to publish a record, it was published less often before. -/
theorem attempts_count_publications {k n : Nat} {policy : Policy} {history : List Moment}
    {r : Relay} (run : Run Does (start k) history r) (fresh : FreshIds (operations history))
    (solo : Solo n policy history) :
    (∀ t ∈ r.depot.records n, AllSettled n t.id (history.map (·.event)) →
      publications history t.id =
        t.attempts.toNat + if t.status = .published then 1 else 0) ∧
    (∀ t ∈ r.depot.records n, t.attempts ≤ policy.maxAttempts) ∧
    (∀ id, publications history id ≤ policy.maxAttempts.toNat) ∧
    ∀ round ∈ r.rounds, ∀ m timeout next id, round.rest = .publish m timeout next →
      m.options.messageId = String.ofList id.text →
      publications history id < policy.maxAttempts.toNat := by
  obtain ⟨courses, i, s, watched⟩ := watched_of_run run fresh solo
  refine ⟨fun t ht settled => ?_, fun t ht => ?_, watched.ledger.bounded, ?_⟩
  · refine watched.ledger.counted t ht ?_
    rintro w hw hid
    exact (watched.unsettled w hw).not_allSettled (hid ▸ settled)
  · exact watched.ledger.attempts_le watched.consistent.sound ht
  · intro round hround m timeout next id hrest hm
    obtain ⟨j, hj⟩ := List.getElem?_of_mem hround
    obtain ⟨c, hc, hf⟩ := watched.onCourse.get hj
    rw [hrest] at hf
    obtain ⟨w, todo, hstage, rfl, -, -⟩ := hf
    obtain rfl : w.id = id := Uuid.text_injective (String.ofList_injective hm)
    have busy : ¬ c.stage.Idle := by
      rw [hstage]
      rintro ⟨⟩
    obtain ⟨rfl, rfl⟩ := watched.attended.busy hc busy
    obtain ⟨hlt, hcount, -⟩ := watched.ledger.waiting w (by rw [hstage]; exact List.mem_cons_self)
    rw [hcount]
    exact UInt32.lt_iff_toNat_lt.1 hlt

/-- A record is taken back in the middle of its first delivery, which fails, and the next tick
delivers it. -/
def hiccup : List Happening :=
  let r := Record.ofEvent (.ofNat 1) (.brief none) .epoch
  let later := Instant.epoch.later (.ofSeconds 600)
  [.client (.enqueue 0 (.ofNat 1) (.brief none) .epoch) (.record (some r)),
    .begins 0 .default .default "w" .tick,
    .calls 0 (.claimBatch 0 .default 200 "w" .epoch) (.records [r.claim "w" .epoch]),
    .begins 0 .default .default "w" .reap,
    .calls 1 (.recoverStuck 0 (.ofSeconds 300) later) (.count 1), .notes 1,
    .publishes 0 r.message (.error (.refused ["reset"])), .notes 0,
    .calls 0 (.reschedule 0 .default (.ofNat 1) "reset" 0 .epoch) .done, .notes 0,
    .begins 0 .default .default "w" .tick,
    .calls 2 (.claimBatch 0 .default 200 "w" later)
      (.records [(r.reschedule "reset" (Instant.epoch.later (.ofSeconds 5))).claim "w" later]),
    .publishes 2 r.message (.ok ()), .calls 2 (.markPublished 0 (.ofNat 1) later) .done]

/-- The record of the hiccup was handed over twice, and its one failed attempt is counted. -/
theorem attempts_count_publications_hiccup :
    ∃ history r t, Run Does (start 1) history r ∧ FreshIds (operations history) ∧
      Solo 0 .default history ∧ t ∈ r.depot.records 0 ∧ AllSettled 0 t.id (history.map (·.event)) ∧
      t.status = .published ∧ t.attempts = 1 ∧ publications history t.id = 2 := by
  obtain ⟨history, r, hev, hops, hturns, hrecords, run⟩ : ∃ history r,
      history.map (·.event) = hiccup ∧ FreshIds (operations history) ∧
      ((history.filter fun x => beginsTick x.event).Pairwise fun y x =>
        ∃ round, x.before.rounds[y.before.rounds.length]? = some round ∧ round.rest = .done ()) ∧
      (∃ t, r.depot.records 0 = [t] ∧ t.id = .ofNat 1 ∧ t.status = .published ∧ t.attempts = 1) ∧
      Run Does (start 1) history r := by
    exact ⟨[⟨_, _, _⟩, ⟨_, _, _⟩, ⟨_, _, _⟩, ⟨_, _, _⟩, ⟨_, _, _⟩, ⟨_, _, _⟩, ⟨_, _, _⟩,
      ⟨_, _, _⟩, ⟨_, _, _⟩, ⟨_, _, _⟩, ⟨_, _, _⟩, ⟨_, _, _⟩, ⟨_, _, _⟩, ⟨_, _, _⟩], _,
      rfl, List.nodup_singleton (Uuid.ofNat 1), List.pairwise_pair.2 ⟨_, rfl, rfl⟩,
      ⟨_, rfl, rfl, rfl, rfl⟩,
      rfl, .client rfl, rfl, .begins, rfl, .calls rfl .claimBatch rfl, rfl, .begins,
      rfl, .calls rfl .recoverStuck rfl, rfl, .notes rfl rfl, rfl, .publishes rfl rfl,
      rfl, .notes rfl rfl, rfl, .calls rfl .reschedule rfl, rfl, .notes rfl rfl, rfl, .begins,
      rfl, .calls rfl .claimBatch rfl, rfl, .publishes rfl rfl, rfl, .calls rfl .markPublished rfl,
      rfl⟩
  have settled : ∀ id, AllSettled 0 id (history.map (·.event)) := by
    intro id
    rw [hev]
    simp only [hiccup, AllSettled, reduceCtorEq, false_implies, implies_true, true_and, and_true,
      Happening.publishes.injEq, and_imp]
    constructor
    · rintro i m outcome rfl rfl - hm
      obtain rfl := Uuid.text_injective (String.ofList_injective hm)
      exact ⟨_, .tail _ (.head _), _, _, rfl, .putOff⟩
    · rintro i m outcome rfl rfl - hm
      obtain rfl := Uuid.text_injective (String.ofList_injective hm)
      exact ⟨_, .head _, _, _, rfl, .published⟩
  have events : ∀ x ∈ history, x.event ∈ hiccup := fun x hx => hev ▸ List.mem_map_of_mem hx
  have solo : Solo 0 .default history := by
    constructor
    case inTurn => exact hturns
    case rounds =>
      intro x hx m p config worker loop hx'
      have := hx' ▸ events x hx
      simp only [hiccup, List.mem_cons, reduceCtorEq, Happening.begins.injEq, List.not_mem_nil,
        false_or, or_false] at this
      rcases this with ⟨rfl, rfl, -⟩ | ⟨rfl, rfl, -⟩ | ⟨rfl, rfl, -⟩ <;> exact ⟨rfl, rfl⟩
    case clients =>
      intro x hx op a hx'
      have := hx' ▸ events x hx
      simp only [hiccup, List.mem_cons, reduceCtorEq, Happening.client.injEq, List.not_mem_nil,
        or_false] at this
      obtain ⟨rfl, -⟩ := this
      rintro (_ | _ | ⟨⟨⟩⟩)
    all_goals
      intro x hx
      intros
      intro hx'
      have := hx' ▸ events x hx
      simp [hiccup] at this
  obtain ⟨t, hr, hid, hpublished, hattempts⟩ := hrecords
  have ht : t ∈ r.depot.records 0 := by
    rw [hr]
    exact List.mem_singleton_self t
  have hcount := (attempts_count_publications run hops solo).1 t ht (settled t.id)
  refine ⟨history, r, t, run, hops, solo, ht, settled t.id, hpublished, hattempts, ?_⟩
  rw [hcount, hpublished, hattempts]
  rfl

end Relay
end EventRelay
