import EventRelay.Proofs.Depot.Soundness
import EventRelay.Proofs.Relay.Alone
import EventRelay.Proofs.Relay.Courses
import EventRelay.Proofs.Relay.Division
import EventRelay.Proofs.Uuid

/-!
# Ticks at the same moment

Any number of dispatchers run one tick each on the same store, at one moment of the clock, and their
steps interleave in any way, each single claim, publication and settlement being a step. They hand
over the first claimable records, as many as all their batches together have room for, each record
once, and the store comes out as if the ticks had run one after the other
(`ticks_are_confluent`). Each step of a round is one of the steps of `Division`, taken over the
stages of all rounds together. To run the ticks one after the other is itself one of the
interleavings (`inTurn_is_interleaving`).
-/

namespace EventRelay.Relay

/-- A step of a tick, at one moment of the clock and with a publisher that decides at once. -/
inductive AtOnce (now : Instant) (publisher : Message → Except (List String) Unit) :
    Happening → Prop where
  | notes {i} : AtOnce now publisher (.notes i)
  | calls {i op a} (h : op.reading = some now) : AtOnce now publisher (.calls i op a)
  | publishes {i m} : AtOnce now publisher (.publishes i m (outcomeOf publisher m))

def handed? : Happening → Option Message
  | .publishes _ m _ => some m
  | _ => none

/-- The messages that were handed to the publisher. -/
def handed (history : List Moment) : List Message := history.filterMap fun x => handed? x.event

/-! ## All rounds together -/

/-- Where one course is at another stage, the others are as they were, up to their order. -/
theorem perm_set {α : Type} {l : List α} {i : Nat} {a : α} (h : l[i]? = some a) :
    ∃ others, l.Perm (a :: others) ∧ ∀ b, (l.set i b).Perm (b :: others) := by
  obtain ⟨hlt, rfl⟩ := List.getElem?_eq_some_iff.1 h
  refine ⟨l.take i ++ l.drop (i + 1), ?_, fun b => ?_⟩
  · have : l = l.take i ++ l[i] :: l.drop (i + 1) := by
      rw [List.getElem_cons_drop, List.take_append_drop]
    exact (List.Perm.of_eq this).trans List.perm_middle
  · rw [List.set_eq_take_append_cons_drop, if_pos hlt]
    exact List.perm_middle

/-- The division of the work ended the stages of all rounds. -/
def DividedAmong (policy : Policy) (now : Instant) (publisher : Message → Except (List String) Unit)
    (goal : Contents) (all : List Message) (staged : List Record) (courses : List Course)
    (handed : List Message) (c : Contents) : Prop :=
  Division policy now publisher goal all staged (courses.map (·.stage.limit)).sum
    (courses.flatMap (·.stage.held)) (courses.flatMap (·.stage.waiting)) handed c

section
variable {policy : Policy} {now : Instant} {publisher : Message → Except (List String) Unit}
  {goal c : Contents} {all given : List Message} {staged : List Record}
  {courses courses' : List Course} {d d' : Depot} {n i : Nat} {s : Stage} {worker : String}
  {op : Operation} {a : Answer}

/-- Where every round has still to settle what the publisher decided, a round that goes on does so
as well. -/
theorem told_set {course : Course} (told : ∀ x ∈ courses, x.stage.Told publisher)
    (hs : s.Told publisher) : ∀ x ∈ courses.set i (course.at s), x.stage.Told publisher := by
  intro x hx
  rcases List.mem_or_eq_of_mem_set hx with hx | rfl
  · exact told x hx
  · exact hs

/-- The order of the rounds does not matter for the division of the work. -/
theorem DividedAmong.perm (h : DividedAmong policy now publisher goal all staged courses given c)
    (p : courses.Perm courses') :
    DividedAmong policy now publisher goal all staged courses' given c := by
  unfold DividedAmong at h ⊢
  rw [← (p.map (·.stage.limit)).sum_nat]
  exact Division.perm h (p.flatMap_right _) (p.flatMap_right _)

/-- An answered call keeps the division: a claim takes its share, and a settlement completes what
was decided. -/
theorem DividedAmong.calls {course : Course} (delays : Delays policy now)
    (h : DividedAmong policy now publisher goal all staged courses given c)
    (hi : courses[i]? = some course) (hcalls : course.stage.Calls n policy worker op a s)
    (told : course.stage.Told publisher) (reading : op.reading = some now)
    (hc : (d.put n c).contents? n = some c) (hd : Depot.Effect (d.put n c) op a d') :
    ∃ c', d' = d.put n c' ∧
      DividedAmong policy now publisher goal all staged (courses.set i (course.at s)) given c' := by
  obtain ⟨others, present, next⟩ := perm_set hi
  obtain ⟨c', hd', moved⟩ :=
    Division.calls delays (h.perm present) hcalls told reading hc hd
  have shared : DividedAmong policy now publisher goal all staged (course.at s :: others) given
      c' := moved
  exact ⟨c', hd', shared.perm (next _).symm⟩

/-- A publication moves a message from those that are waiting to those that were handed over. -/
theorem DividedAmong.publish {course : Course} {w : Record} {todo : List Record}
    (h : DividedAmong policy now publisher goal all staged courses given c)
    (hi : courses[i]? = some course) (hstage : course.stage = .delivering (w :: todo))
    (timeout : Duration) (outcome : Except Undelivered Unit) :
    DividedAmong policy now publisher goal all staged
      (courses.set i (course.at (.after timeout w todo outcome))) (given ++ [w.message]) c := by
  obtain ⟨others, present, next⟩ := perm_set hi
  have before : Division policy now publisher goal all staged
      (course.stage.limit + (others.map (·.stage.limit)).sum)
      (course.stage.held ++ others.flatMap (·.stage.held))
      (course.stage.waiting ++ others.flatMap (·.stage.waiting)) given c := h.perm present
  rw [hstage] at before
  have moved : DividedAmong policy now publisher goal all staged
      (course.at (.after timeout w todo outcome) :: others) (given ++ [w.message]) c := by
    simp only [DividedAmong, List.map_cons, List.sum_cons, List.flatMap_cons, Course.at,
      Stage.limit_after, Stage.held, Stage.sent_after, Stage.waiting_after]
    exact Division.publish before
  exact moved.perm (next _).symm

end

/-! ## One step -/

/-- What holds of ticks at the same moment: beside the courses of the rounds stands the division of
the work among them. -/
structure Shared (policy : Policy) (now : Instant) (publisher : Message → Except (List String) Unit)
    (d : Depot) (n : Nat) (goal : Contents) (all : List Message) (past : List Moment) (r : Relay)
    (courses : List Course) : Prop where
  onCourse : r.OnCourse courses
  placed : ∀ round ∈ r.rounds, round.store = n ∧ round.policy = policy
  told : ∀ course ∈ courses, course.stage.Told publisher
  divided : ∃ c, r.depot = d.put n c ∧
    DividedAmong policy now publisher goal all (d.staged n) courses (handed past) c

section
variable {policy : Policy} {now : Instant} {publisher : Message → Except (List String) Unit}
  {d : Depot} {n : Nat} {goal c₀ : Contents} {all : List Message} {past history : List Moment}
  {x : Moment} {r : Relay} {courses : List Course}

/-- **Every step leaves the outlook as it is.** -/
theorem Shared.step (delays : Delays policy now) (healthy : d.Healthy)
    (hn : d.contents? n = some c₀)
    (h : Shared policy now publisher d n goal all past x.before courses)
    (hx : x.before.Does x.event x.after) (atOnce : AtOnce now publisher x.event) :
    ∃ courses', Shared policy now publisher d n goal all (past ++ [x]) x.after courses' := by
  obtain ⟨before, event, after⟩ := x
  obtain ⟨courses', onCourse, progress⟩ := hx.progress h.onCourse
  obtain ⟨c, hdepot, divided⟩ := h.divided
  change before.Does event after at hx
  change AtOnce now publisher event at atOnce
  change before.depot = d.put n c at hdepot
  cases hx with
  | notes hi hr =>
    cases progress
    refine ⟨courses, onCourse, placed_goOn h.placed hi _, h.told, c, hdepot, ?_⟩
    simpa [handed, handed?] using divided
  | calls hi hr hd =>
    rename_i i round op a d' rest
    cases atOnce with
    | calls reading =>
    cases progress with
    | calls hc hi' hcalls =>
      rename_i course round' s
      cases hi.symm.trans hi'
      obtain ⟨rfl, rfl⟩ := h.placed round (List.mem_of_getElem? hi)
      have told := h.told course (List.mem_of_getElem? hc)
      change before.depot.Does (op, a) d' at hd
      rw [hdepot] at hd
      have here : (d.put round.store c).contents? round.store = some c := by
        simp [Depot.contents?_put hn]
      obtain ⟨c', hd', divided'⟩ := divided.calls delays hc hcalls told reading here
        ((healthy.put _ _).effect hd)
      refine ⟨_, onCourse, placed_goOn h.placed hi rest, told_set h.told (told.calls hcalls),
        c', hd', ?_⟩
      simpa [handed, handed?] using divided'
  | publishes hi hr =>
    rename_i i round m timeout next outcome
    cases atOnce
    cases progress with
    | publishes hc hstage =>
      rename_i course w todo
      refine ⟨_, onCourse, placed_goOn h.placed hi _, told_set h.told (Stage.told_after ..), c,
        hdepot, ?_⟩
      simpa [handed, handed?] using divided.publish hc hstage _ _
  | client | clientFails | loses | begins | callFails | panics => cases atOnce

/-- **Every run of ticks at one moment keeps the work divided**, however they come between each
other. -/
theorem shared_of_run (delays : Delays policy now) (healthy : d.Healthy)
    (hn : d.contents? n = some c₀) {r₀ : Relay}
    (start : Shared policy now publisher d n goal all [] r₀ courses)
    (run : Run Does r₀ history r) (atOnce : ∀ x ∈ history, AtOnce now publisher x.event) :
    ∃ courses', Shared policy now publisher d n goal all history r courses' := by
  have keep : ∀ past x, ((∀ y ∈ past, AtOnce now publisher y.event) →
      ∃ courses, Shared policy now publisher d n goal all past x.before courses) →
      x.before.Does x.event x.after → (∀ y ∈ past ++ [x], AtOnce now publisher y.event) →
      ∃ courses, Shared policy now publisher d n goal all (past ++ [x]) x.after courses := by
    intro past x h hx atOnce
    obtain ⟨courses, shared⟩ := h fun y hy => atOnce y (List.mem_append_left _ hy)
    exact shared.step delays healthy hn hx (atOnce x (by simp))
  exact Run.invariant
    (P := fun past r => (∀ y ∈ past, AtOnce now publisher y.event) →
      ∃ courses, Shared policy now publisher d n goal all past r courses)
    keep run (fun _ => ⟨courses, start⟩) atOnce

end

/-! ## The run -/

section
variable {policy : Policy} {now : Instant} {publisher : Message → Except (List String) Unit}
  {d : Depot} {n : Nat} {goal c : Contents} {all given : List Message} {staged : List Record}
  {courses : List Course} {r : Relay}

/-- Ticks of dispatchers, which have just begun. -/
def ticks (n : Nat) (policy : Policy) (workers : List (DispatcherConfig × String)) : List Round :=
  workers.map fun w => ⟨n, policy, work w.1 w.2 .tick⟩

theorem shared_start (hn : d.contents? n = some c) (healthy : d.Healthy)
    (sound : c.Sound (d.staged n)) (policy : Policy) (workers : List (DispatcherConfig × String)) :
    Shared policy now publisher d n
      (c.outlook policy now publisher (Dispatcher.capacity workers) [])
      (c.unclaimed policy now (Dispatcher.capacity workers)) [] ⟨d, ticks n policy workers⟩
      (workers.map fun w => ⟨w.1, w.2, .claiming w.1.batchSize []⟩) where
  onCourse := by
    refine List.forall₂_map_left_iff.2 (List.forall₂_map_right_iff.2 (List.forall₂_same.2 ?_))
    exact fun w _ => work_follows w.1 w.2 .tick
  placed := by
    intro round hround
    obtain ⟨w, -, rfl⟩ := List.mem_map.1 hround
    exact ⟨rfl, rfl⟩
  told := by
    intro course hcourse
    obtain ⟨w, -, rfl⟩ := List.mem_map.1 hcourse
    trivial
  divided := by
    refine ⟨c, (healthy.put_self hn).symm, ?_⟩
    have nothing : ∀ f : Course → List Record,
        (∀ w ∈ workers, f ⟨w.1, w.2, .claiming w.1.batchSize []⟩ = []) →
        (workers.map fun w => (⟨w.1, w.2, .claiming w.1.batchSize []⟩ : Course)).flatMap f =
          [] := by
      intro f hf
      simpa [List.flatMap_map] using hf
    unfold DividedAmong
    rw [nothing _ fun _ _ => rfl, nothing _ fun _ _ => rfl, List.map_map]
    exact Division.start publisher sound _

/-- When all ticks have ended, the store is what it should become, and all messages were handed
over. -/
theorem Shared.ended (h : Shared policy now publisher d n goal all history r courses)
    (ended : ∀ round ∈ r.rounds, round.rest = .done ()) :
    r.depot = d.put n goal ∧ (handed history).Perm all := by
  obtain ⟨c, hdepot, divided⟩ := h.divided
  have delivered : ∀ course ∈ courses, course.stage = .delivering [] := by
    intro course hcourse
    obtain ⟨round, hround, hf⟩ := h.onCourse.mem hcourse
    rw [ended round hround] at hf
    have told := h.told course hcourse
    generalize course.stage = s at hf told
    cases hf with
    | delivered => rfl
    | upkeep => exact absurd told id
  have each : ∀ {α : Type} (f : Stage → α), ∀ course ∈ courses,
      f course.stage = f (.delivering []) :=
    fun f course hcourse => congrArg f (delivered course hcourse)
  have limit : (courses.map (·.stage.limit)).sum = 0 :=
    List.sum_eq_zero_iff_forall_eq_nat.2 (List.forall_mem_map.2 (each Stage.limit))
  have held : courses.flatMap (·.stage.held) = [] := List.flatMap_eq_nil_iff.2 (each Stage.held)
  have waiting : courses.flatMap (·.stage.waiting) = [] :=
    List.flatMap_eq_nil_iff.2 (each Stage.waiting)
  unfold DividedAmong at divided
  rw [limit, held, waiting] at divided
  obtain ⟨rfl, hgiven⟩ := divided.ended
  exact ⟨hdepot, hgiven⟩

end

/-! ## One tick after the other -/

/-- The steps of a round that is played alone at one moment are steps of that moment. -/
theorem OfRound.atOnce {σ : Type} {i : Nat} {now : Instant}
    {publisher : Message → Except (List String) Unit} {ev : Happening}
    (h : OfRound i (.frozen now) (fun (p : σ) m => (outcomeOf publisher m, p)) ev) :
    AtOnce now publisher ev := by
  cases h with
  | notes => exact .notes
  | calls h => exact .calls h
  | publishes => exact .publishes

/-- Running the ticks in turn is one of their interleavings. -/
theorem inTurn_of_done {d : Depot} {n : Nat} (hn : n < d.stores.length) (policy : Policy)
    (now : Instant) (publisher : Message → Except (List String) Unit)
    (workers : List (DispatcherConfig × String)) (ended : List Round) (c : Contents) :
    ∃ history c', Dispatcher.inTurn policy now publisher workers ⟨c, false⟩ = ⟨c', false⟩ ∧
      Run Does ⟨d.put n c, ended ++ ticks n policy workers⟩ history
        ⟨d.put n c', ended ++ workers.map fun _ => ⟨n, policy, .done ()⟩⟩ ∧
      ∀ x ∈ history, AtOnce now publisher x.event := by
  induction workers generalizing ended c with
  | nil => exact ⟨[], c, rfl, rfl, by simp⟩
  | cons w rest ih =>
    obtain ⟨config, worker⟩ := w
    let r : Relay := ⟨d, ended ++ ticks n policy ((config, worker) :: rest)⟩
    have hi : ended.length < r.rounds.length := by simp [r, ticks]
    obtain ⟨c₁, played, history, run, own⟩ := play_alone (r := r) hi hn policy
      (fun (_ : Unit) m => (outcomeOf publisher m, ())) (work config worker .tick) (.frozen now) c
      ()
    obtain ⟨more, c', inTurn, run', atOnce⟩ := ih (ended ++ [⟨n, policy, .done ()⟩]) c₁
    have poised_eq : ∀ a c, r.poised ended.length n policy a c =
        ⟨d.put n c, ended ++ ⟨n, policy, a⟩ :: ticks n policy rest⟩ := by
      simp [r, poised, ticks]
    rw [poised_eq, poised_eq] at run
    rw [List.append_assoc, List.append_assoc] at run'
    refine ⟨history ++ more, c', ?_, run_append.2 ⟨_, run, run'⟩, fun x hx => ?_⟩
    · rw [Dispatcher.inTurn, played, inTurn]
    · exact (List.mem_append.1 hx).elim (fun hx => (own x hx).atOnce) (atOnce x)

/-- **One tick after the other is one of the interleavings**, so that there is a run in which all
ticks come to their ends. -/
theorem inTurn_is_interleaving {d : Depot} (healthy : d.Healthy) {n : Nat} {s : Store}
    (hs : d.stores[n]? = some s) (policy : Policy) (now : Instant)
    (publisher : Message → Except (List String) Unit) (workers : List (DispatcherConfig × String)) :
    ∃ history, Run Does ⟨d, ticks n policy workers⟩ history
        ⟨{ d with stores := d.stores.set n (Dispatcher.inTurn policy now publisher workers s) },
          workers.map fun _ => ⟨n, policy, .done ()⟩⟩ ∧
      ∀ x ∈ history, AtOnce now publisher x.event := by
  obtain ⟨hlock, hn⟩ := healthy.getElem? hs
  have hlt := (List.getElem?_eq_some_iff.1 hs).1
  obtain ⟨history, c', inTurn, run, atOnce⟩ :=
    inTurn_of_done hlt policy now publisher workers [] s.contents
  rw [healthy.put_self hn] at run
  rw [hlock, inTurn]
  exact ⟨history, run, atOnce⟩

/-- **Ticks at the same moment are confluent and divide the work exactly.** In any reachable depot
let any dispatchers run one tick each on the same store, in any interleaving of their steps, at one
moment before the end of time, with a policy whose delays are positive and a publisher that decides
at once. When all ticks are over, what was handed to the publisher are the first claimable records,
as many as all batches together have room for; each was handed over once, and so by one dispatcher
alone; and the store has come out as if the ticks had run one after the other, whatever the
interleaving was. -/
theorem ticks_are_confluent {k n : Nat} {past : List Depot.Moment} {d : Depot} {s : Store}
    (reach : Run Depot.Does (Depot.start k) past d) (fresh : FreshIds past)
    (hs : d.stores[n]? = some s) (policy : Policy) (base : 0 < policy.backoff.base.nanos)
    (cap : 0 < policy.backoff.cap.nanos) (now : Instant) (before : now < Instant.latest)
    (publisher : Message → Except (List String) Unit) (workers : List (DispatcherConfig × String))
    {history : List Moment} {r : Relay} (run : Run Does ⟨d, ticks n policy workers⟩ history r)
    (atOnce : ∀ x ∈ history, AtOnce now publisher x.event)
    (ended : ∀ round ∈ r.rounds, round.rest = .done ()) :
    (handed history).Perm
        (((s.contents.records.filter (·.claimable now policy.maxAttempts)).take
          (Dispatcher.capacity workers)).map Record.message) ∧
      ((handed history).map (·.options.messageId)).Nodup ∧
      r.depot =
        { d with stores := d.stores.set n (Dispatcher.inTurn policy now publisher workers s) } := by
  have consistent := Depot.consistent_of_run reach fresh
  obtain ⟨hlock, hn⟩ := consistent.healthy.getElem? hs
  have sound := consistent.sound n s.contents hn
  have delays := delays_of_pos base cap before
  obtain ⟨courses, shared⟩ := shared_of_run delays consistent.healthy hn
    (shared_start hn consistent.healthy sound policy workers) run atOnce
  obtain ⟨hdepot, hgiven⟩ := shared.ended ended
  refine ⟨hgiven, ?_, ?_⟩
  · have distinct := sound.distinct
    rw [List.map_append] at distinct
    have ids := (List.nodup_append.1 distinct).1
    have apart : (s.contents.records.map fun r => r.message.options.messageId).Nodup := by
      refine List.pairwise_map.2 ((List.pairwise_map.1 ids).imp fun hne heq => hne ?_)
      exact (Record.messageId_message_eq_iff ..).1 heq
    refine (hgiven.map _).nodup_iff.2 ?_
    rw [Contents.unclaimed, List.map_map]
    exact apart.sublist (((List.take_sublist ..).trans List.filter_sublist).map _)
  · have inTurn := (Division.start publisher sound (Dispatcher.capacity workers)).inTurn delays
    rw [hdepot, hlock, inTurn]
    rfl

def threeEvents : List Operation :=
  [.enqueue 0 (.ofNat 1) (.brief none) .epoch,
    .enqueue 0 (.ofNat 2) (.brief none) (Instant.epoch.later (.ofSeconds 1)),
    .enqueue 0 (.ofNat 3) (.brief none) .epoch]

/-- A publisher that refuses what has not occurred at the epoch. -/
def epochOnly (m : Message) : Except (List String) Unit :=
  if m.envelope.occurredAt = .epoch then .ok () else .error ["reset"]

def oneAndTwo : List (DispatcherConfig × String) :=
  [({ DispatcherConfig.default with batchSize := 1 }, "a"),
    ({ DispatcherConfig.default with batchSize := 2 }, "b")]

def tenMinutes : Instant := Instant.epoch.later (.ofSeconds 600)

/-- The second dispatcher claims between the steps of the first, and the other way round. -/
def interleaved : List Happening :=
  let r₁ := Record.ofEvent (.ofNat 1) (.brief none) .epoch
  let r₂ := Record.ofEvent (.ofNat 2) (.brief none) (Instant.epoch.later (.ofSeconds 1))
  let r₃ := Record.ofEvent (.ofNat 3) (.brief none) .epoch
  [.calls 0 (.claimOne 0 .default "a" tenMinutes) (.record (some (r₁.claim "a" tenMinutes))),
    .calls 1 (.claimOne 0 .default "b" tenMinutes) (.record (some (r₂.claim "b" tenMinutes))),
    .calls 0 (.claimBatch 0 .default 0 "a" tenMinutes) (.records []),
    .publishes 0 r₁.message (outcomeOf epochOnly r₁.message),
    .calls 1 (.claimOne 0 .default "b" tenMinutes) (.record (some (r₃.claim "b" tenMinutes))),
    .calls 1 (.claimBatch 0 .default 0 "b" tenMinutes) (.records []),
    .publishes 1 r₂.message (outcomeOf epochOnly r₂.message), .notes 1,
    .calls 1 (.reschedule 0 .default (.ofNat 2) "reset" 0 tenMinutes) .done,
    .calls 0 (.markPublished 0 (.ofNat 1) tenMinutes) .done, .notes 0,
    .publishes 1 r₃.message (outcomeOf epochOnly r₃.message),
    .calls 1 (.markPublished 0 (.ofNat 3) tenMinutes) .done, .notes 1]

/-- The two dispatchers, between whose steps the other one acts, hand over the messages and leave
the store that they would if they took turns. -/
theorem ticks_are_confluent_interleaved :
    let d := (Depot.start 1).after threeEvents
    ∃ s history r, d.stores[0]? = some s ∧ history.map (·.event) = interleaved ∧
      Run Does ⟨d, ticks 0 .default oneAndTwo⟩ history r ∧
      (∀ x ∈ history, AtOnce tenMinutes epochOnly x.event) ∧
      (∀ round ∈ r.rounds, round.rest = .done ()) ∧
      (handed history).Perm
        (((s.contents.records.filter (·.claimable tenMinutes 10)).take 3).map Record.message) ∧
      ((handed history).map (·.options.messageId)).Nodup ∧
      r.depot = { d with
        stores :=
          d.stores.set 0 (Dispatcher.inTurn .default tenMinutes epochOnly oneAndTwo s) } := by
  intro d
  have fresh : FreshIds ((Depot.start 1).moments threeEvents) := by decide +kernel
  obtain ⟨s, hs⟩ : ∃ s, d.stores[0]? = some s := ⟨_, rfl⟩
  obtain ⟨history, r, hev, ended, run⟩ : ∃ history r, history.map (·.event) = interleaved ∧
      (∀ round ∈ r.rounds, round.rest = .done ()) ∧
      Run Does ⟨d, ticks 0 .default oneAndTwo⟩ history r := by
    exact ⟨[⟨_, _, _⟩, ⟨_, _, _⟩, ⟨_, _, _⟩, ⟨_, _, _⟩, ⟨_, _, _⟩, ⟨_, _, _⟩, ⟨_, _, _⟩,
      ⟨_, _, _⟩, ⟨_, _, _⟩, ⟨_, _, _⟩, ⟨_, _, _⟩, ⟨_, _, _⟩, ⟨_, _, _⟩, ⟨_, _, _⟩], ⟨_, [_, _]⟩,
      rfl, List.forall_mem_cons.2 ⟨rfl, List.forall_mem_singleton.2 rfl⟩,
      rfl, .calls rfl .claimOne rfl, rfl, .calls rfl .claimOne rfl, rfl, .calls rfl .claimBatch rfl,
      rfl, .publishes rfl rfl, rfl, .calls rfl .claimOne rfl, rfl, .calls rfl .claimBatch rfl,
      rfl, .publishes rfl rfl, rfl, .notes rfl rfl, rfl, .calls rfl .reschedule rfl,
      rfl, .calls rfl .markPublished rfl, rfl, .notes rfl rfl, rfl, .publishes rfl rfl,
      rfl, .calls rfl .markPublished rfl, rfl, .notes rfl rfl, rfl⟩
  have atOnce : ∀ x ∈ history, AtOnce tenMinutes epochOnly x.event := by
    intro x hx
    have hin : x.event ∈ interleaved := hev ▸ List.mem_map_of_mem hx
    simp only [interleaved, List.mem_cons, List.not_mem_nil, or_false] at hin
    rcases hin with h | h | h | h | h | h | h | h | h | h | h | h | h | h <;> rw [h]
    all_goals first | exact .calls rfl | exact .publishes | exact .notes
  exact ⟨s, history, r, hs, hev, run, atOnce, ended,
    ticks_are_confluent (Depot.run_moments _ _) fresh hs .default (by decide) (by decide) tenMinutes
      (by decide +kernel) epochOnly oneAndTwo run atOnce ended⟩

end EventRelay.Relay
