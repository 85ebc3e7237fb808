import EventRelay.Proofs.Broker.Ring
import EventRelay.Proofs.Run

/-!
# What the log and the subscribers of a broker account for

A broker with a ring through which its messages go to any number of subscribers, each with a place
of its own. Publications, failures that are ordered, new subscribers and messages that are asked for
come in any order. `Effect` says once what a request can do; from it follow, for any run,

* which publications fail: those that the last order of failures still covers (`outcomes_of_run`),
* that the log is the list of the messages that were published (`log_of_run`),
* that what a subscriber has heard walks the part of the log since it came, message by message or
  with the news of how many were passed over (`follows_along`).
-/

namespace EventRelay

/-- A broker, the ring through which its messages go, and for each subscriber the number of the next
message that it gets. -/
structure Broadcast where
  broker : Broker
  ring : Ring
  places : List Nat

namespace Broadcast

/-- What can be asked for. -/
inductive Request where
  | publish (m : Message)
  | failNext (n : Nat)
  | subscribe
  | receive (subscriber : Nat)

/-- What is answered; a subscriber who has read everything receives nothing. -/
inductive Reply where
  | published (result : Except Undelivered Unit)
  | done
  | subscribed (subscriber : Nat)
  | received (item : Option (Except Failure Message))

def start (b : Broker) : Broadcast := ⟨b, .ofSize b.capacity, []⟩

/-- Does what is asked for, if there is such a subscriber. A message that is published without
subscribers goes into the log only. -/
def perform (s : Broadcast) : Request → Option (Reply × Broadcast)
  | .publish m =>
    match s.broker.publish m with
    | (.ok (), b) =>
      some (.published (.ok ()),
        { s with broker := b, ring := if s.places = [] then s.ring else s.ring.send m })
    | (.error e, b) => some (.published (.error e), { s with broker := b })
  | .failNext n => some (.done, { s with broker := s.broker.failNext n })
  | .subscribe => some (.subscribed s.places.length, { s with places := s.places ++ [s.ring.sent] })
  | .receive i =>
    s.places[i]?.map fun next =>
      match s.ring.receive? next with
      | some (item, next) => (.received (some item), { s with places := s.places.set i next })
      | none => (.received none, s)

/-- The request is answered like this. -/
def Does (s : Broadcast) (event : Request × Reply) (s' : Broadcast) : Prop :=
  s.perform event.1 = some (event.2, s')

abbrev Moment := Transition Broadcast (Request × Reply)

/-- What a request with its answer does. -/
inductive Effect (s : Broadcast) : Request × Reply → Broadcast → Prop where
  | refused {m n} (h : s.broker.failures = n + 1) :
    Effect s (.publish m, .published (.error (.refused Broker.unavailable)))
      { s with broker := { s.broker with failures := n } }
  | published {m} (h : s.broker.failures = 0) :
    Effect s (.publish m, .published (.ok ()))
      { s with
        broker := { s.broker with log := s.broker.log ++ [m] }
        ring := if s.places = [] then s.ring else s.ring.send m }
  | ordered {n} : Effect s (.failNext n, .done) { s with broker := s.broker.failNext n }
  | joined :
    Effect s (.subscribe, .subscribed s.places.length)
      { s with places := s.places ++ [s.ring.sent] }
  | heard {i next item next'} (hi : s.places[i]? = some next)
    (h : s.ring.receive? next = some (item, next')) :
    Effect s (.receive i, .received (some item)) { s with places := s.places.set i next' }
  | silent {i next} (hi : s.places[i]? = some next) (h : s.ring.receive? next = none) :
    Effect s (.receive i, .received none) s

/-! ## What is told of a history -/

def outcome : Request × Reply → Option Bool
  | (.publish _, .published (.ok _)) => some true
  | (.publish _, .published (.error _)) => some false
  | _ => none

def outcomes (history : List Moment) : List Bool := history.filterMap (outcome ·.event)

def delivered : Request × Reply → Option Message
  | (.publish m, .published (.ok _)) => some m
  | _ => none

/-- What the subscriber has got. -/
def heardBy (i : Nat) : Request × Reply → Option (Except Failure Message)
  | (.receive j, .received item) => if j = i then item else none
  | _ => none

/-- All that the subscriber has heard, in order. -/
def heard (i : Nat) (history : List Moment) : List (Except Failure Message) :=
  history.filterMap (heardBy i ·.event)

/-- No failures are ordered. -/
def Unordered (history : List Moment) : Prop := ∀ y ∈ history, ∀ n, y.event.1 ≠ .failNext n

/-- So many failures were ordered just now; at the beginning there are none. -/
def Ordered (n : Nat) (past : List Moment) : Prop :=
  (past = [] ∧ n = 0) ∨ ∃ front z, past = front ++ [z] ∧ z.event.1 = .failNext n

/-- A subscriber who came when the log was `since` messages long has heard these items, which
account for the log from there up to the messages that are left. -/
structure Attended (s : Broadcast) (size i since : Nat) (items : List (Except Failure Message))
    (unread : List Message) : Prop where
  accounted : Accounts (s.broker.log.drop since) items unread
  /-- It gets something as long as any messages are left, and the news that it has missed some only
  if more of them are left than the buffer holds. -/
  answered : ∃ item s', s.perform (.receive i) = some (.received item, s') ∧
    (item = none ↔ unread = []) ∧ ∀ f, item = some (.error f) → size < unread.length
  /-- By asking until nothing is left it hears what the broker tells at once. -/
  caughtUp : ∃ next, s.places[i]? = some next ∧ ∀ times, unread.length ≤ times →
    s.ring.hears times next = s.broker.receive (s.broker.log.length - unread.length)

section
variable {s s' : Broadcast} {event : Request × Reply} {history past later : List Moment}

/-- Nothing else can happen. -/
theorem Does.effect (h : s.Does event s') : Effect s event s' := by
  obtain ⟨request, reply⟩ := event
  cases request with
  | publish m =>
    simp only [Does, perform, Broker.publish] at h
    split at h
    · rename_i hpublish
      split at hpublish
      · cases hpublish
      · rename_i none_left
        cases hpublish
        cases h
        exact .published none_left
    · rename_i hpublish
      split at hpublish
      · rename_i some_left
        cases hpublish
        cases h
        exact .refused some_left
      · cases hpublish
  | failNext n =>
    cases h
    exact .ordered
  | subscribe =>
    cases h
    exact .joined
  | receive i =>
    obtain ⟨next, hi, heq⟩ := Option.map_eq_some_iff.1 h
    split at heq
    · cases heq
      exact .heard hi ‹_›
    · cases heq
      exact .silent hi ‹_›

/-! ## Failures -/

theorem outcomes_cons (y : Moment) (rest : List Moment) :
    outcomes (y :: rest) = (outcome y.event).toList ++ outcomes rest := by
  cases h : outcome y.event with
  | none => simp [outcomes, h]
  | some b => simp [outcomes, h]

/-- The publications of a stretch without further orders: those that are covered by the failures
that are left fail, and the others succeed. -/
theorem outcomes_of_run (run : Run Does s later s') (unordered : Unordered later) :
    outcomes later =
      List.replicate (min s.broker.failures (outcomes later).length) false ++
        List.replicate ((outcomes later).length - s.broker.failures) true := by
  induction later generalizing s with
  | nil => simp [outcomes]
  | cons y rest ih =>
    obtain ⟨rfl, hy, run⟩ := run
    have later := ih run fun z hz => unordered z (List.mem_cons_of_mem _ hz)
    obtain ⟨before, event, after⟩ := y
    have effect : Effect before event after := hy.effect
    rw [outcomes_cons]
    cases effect with
    | refused h =>
      simp only [outcome, Option.toList_some, List.length_cons, h, Nat.add_min_add_right,
        Nat.add_sub_add_right, List.replicate_succ, List.cons_append]
      exact congrArg _ later
    | published h =>
      have all : outcomes rest = List.replicate (outcomes rest).length true := by
        simpa [h] using later
      simp only [outcome, Option.toList_some, List.singleton_append, List.length_cons, h,
        Nat.zero_min, List.replicate_zero, List.nil_append, Nat.sub_zero, List.replicate_succ]
      exact congrArg _ all
    | ordered => exact absurd rfl (unordered _ List.mem_cons_self _)
    | joined | heard | silent => exact later

/-- After an order so many failures are left. -/
theorem failures_of_ordered {b : Broker} {n : Nat} (run : Run Does (start b) past s)
    (none_at_first : b.failures = 0) (ordered : Ordered n past) : s.broker.failures = n := by
  rcases ordered with ⟨rfl, rfl⟩ | ⟨front, z, rfl, hz⟩
  · obtain rfl : start b = s := run
    exact none_at_first
  · obtain ⟨m, -, rfl, does, rfl⟩ := run_append.1 run
    obtain ⟨before, ⟨request, reply⟩, after⟩ := z
    obtain rfl : request = .failNext n := hz
    have effect : Effect before (.failNext n, reply) after := does.effect
    cases effect with
    | ordered => rfl

/-- A publication that fails changes nothing but the number of failures that are left. -/
theorem Effect.of_refused (hd : Effect s event s') (failed : outcome event = some false) :
    s'.broker.log = s.broker.log ∧ s'.ring = s.ring ∧ s'.places = s.places := by
  cases hd with
  | refused => exact ⟨rfl, rfl, rfl⟩
  | _ => cases failed

/-! ## The log -/

/-- A request adds to the log what it delivers, and nothing else. -/
theorem Effect.log (hd : Effect s event s') :
    s'.broker.log = s.broker.log ++ (delivered event).toList := by
  cases hd with
  | published => rfl
  | _ => exact (List.append_nil _).symm

/-- The log of a run that begins with an empty one is what was delivered in its course. -/
theorem log_of_run {b : Broker} (run : Run Does (start b) history s) (empty : b.log = []) :
    s.broker.log = history.filterMap (delivered ·.event) := by
  have keep : ∀ past (x : Moment),
      x.before.broker.log = past.filterMap (delivered ·.event) → x.before.Does x.event x.after →
      x.after.broker.log = (past ++ [x]).filterMap (delivered ·.event) := by
    intro past x h hx
    rw [hx.effect.log, h, List.filterMap_append]
    cases hdelivered : delivered x.event with
    | none => simp [hdelivered]
    | some m => simp [hdelivered]
  have base : (start b).broker.log = ([] : List Moment).filterMap (delivered ·.event) := empty
  exact Run.invariant (P := fun past s => s.broker.log = past.filterMap (delivered ·.event))
    keep run base

/-! ## The ring -/

/-- The messages that went through the ring: the log, but for what was published before anybody
listened. -/
def carried (s : Broadcast) : List Message :=
  s.broker.log.drop (s.broker.log.length - s.ring.sent)

/-- The ring has the size of the broker's buffer and holds what went through it. -/
structure Sound (size : Nat) (s : Broadcast) : Prop where
  positive : 0 < size
  size_eq : s.ring.size = size
  capacity_eq : s.broker.capacity = size
  within : s.ring.sent ≤ s.broker.log.length
  holds : s.ring.Holds s.carried
  quiet : s.places = [] → s.ring.sent = 0

variable {size i since next : Nat} {items : List (Except Failure Message)}

theorem sound_start {b : Broker} (positive : 0 < b.capacity) : Sound b.capacity (start b) where
  positive := positive
  size_eq := Ring.size_ofSize _
  capacity_eq := rfl
  within := Nat.zero_le _
  holds := by
    have : (start b).carried = [] := List.drop_length
    rw [this]
    exact Ring.holds_ofSize _
  quiet _ := rfl

/-- A message that goes through the ring comes behind those that went before. -/
theorem carried_publish (within : s.ring.sent ≤ s.broker.log.length) (m : Message) (n : Nat) :
    carried ⟨⟨n, s.broker.log ++ [m], s.broker.failures⟩, s.ring.send m, s.places⟩ =
      s.carried ++ [m] := by
  unfold carried
  rw [Ring.sent_send, List.length_append, List.length_singleton, Nat.add_sub_add_right,
    List.drop_append_of_le_length (by omega)]

/-- **A request keeps the broker sound**: whatever is sent or received, the ring holds the end of
the log, and every subscriber stands somewhere in it. -/
theorem Effect.sound (hd : Effect s event s') (h : s.Sound size) : s'.Sound size := by
  cases hd with
  | refused | ordered | silent =>
    exact ⟨h.positive, h.size_eq, h.capacity_eq, h.within, h.holds, h.quiet⟩
  | published none_left =>
    rename_i m
    by_cases hnobody : s.places = []
    · have zero := h.quiet hnobody
      refine ⟨h.positive, ?_, h.capacity_eq, ?_, ?_, fun _ => ?_⟩
      · simpa [hnobody] using h.size_eq
      · simp [hnobody, zero]
      · have nothing : s.carried = [] := by simp [carried, zero]
        simpa [carried, hnobody, zero, nothing] using h.holds
      · simpa [hnobody] using zero
    · refine ⟨h.positive, ?_, h.capacity_eq, ?_, ?_, fun hnobody' => absurd hnobody' hnobody⟩
      · simpa [hnobody] using h.size_eq
      · have := h.within
        simpa [hnobody] using this
      · have := h.holds.send (h.size_eq ▸ h.positive) m
        rw [← carried_publish h.within m s.broker.capacity] at this
        simpa [hnobody] using this
  | joined =>
    exact ⟨h.positive, h.size_eq, h.capacity_eq, h.within, h.holds, fun hnil => by simp at hnil⟩
  | heard hi hitem =>
    refine ⟨h.positive, h.size_eq, h.capacity_eq, h.within, h.holds, fun hnil => h.quiet ?_⟩
    exact (List.set_eq_nil_iff _ _).1 hnil

/-- At the end of every run the ring and the log agree. -/
theorem sound_of_run {b : Broker} (run : Run Does (start b) history s)
    (positive : 0 < b.capacity) : s.Sound b.capacity :=
  Run.along (P := fun _ s => s.Sound b.capacity) (fun _ _ _ _ h hx => hx.effect.sound h) run
    (sound_start positive)

/-! ## Subscribers -/

/-- What the subscriber has heard accounts for the log up to its place. -/
structure Follows (s : Broadcast) (i since next : Nat) (items : List (Except Failure Message)) :
    Prop where
  since_le : since ≤ s.broker.log.length
  place : s.places[i]? = some next
  next_le : next ≤ s.ring.sent
  accounted : Accounts (s.broker.log.drop since) items (s.carried.drop next)

/-- What a subscriber is told accounts for the messages up to its next place. -/
theorem Sound.accounts (h : s.Sound size) {item : Except Failure Message} {next' : Nat}
    (told : s.ring.receive? next = some (item, next')) :
    next' ≤ s.ring.sent ∧ Accounts (s.carried.drop next) [item] (s.carried.drop next') := by
  have left : (s.carried.drop next).length = s.ring.sent - next := by
    rw [List.length_drop, h.holds.count]
  rcases h.holds.receive? next with ⟨-, hnone⟩ | ⟨m, hm, -, hsome⟩ | ⟨missed, pos, far, hsome⟩
  · rw [hnone] at told
    cases told
  · obtain ⟨rfl, rfl⟩ : .ok m = item ∧ next + 1 = next' := by simpa [hsome] using told
    have := congrArg List.length hm
    rw [left, List.length_cons] at this
    refine ⟨by omega, ?_⟩
    rw [hm]
    exact .got (.nil _)
  · obtain ⟨rfl, rfl⟩ : .error (Broker.lagged missed) = item ∧ next + missed = next' := by
      simpa [hsome] using told
    have length : ((s.carried.drop next).take missed).length = missed := by
      rw [List.length_take]
      omega
    have split : s.carried.drop next =
        (s.carried.drop next).take missed ++ s.carried.drop (next + missed) := by
      rw [← List.drop_drop, List.take_append_drop]
    refine ⟨by omega, ?_⟩
    rw [split]
    have any : (s.carried.drop next).take missed ≠ [] := by
      intro hnil
      rw [hnil] at length
      simp at length
      omega
    have := Accounts.missed any (.nil (s.carried.drop (next + missed)))
    rwa [length] at this

/-- **One step keeps the accounts of a subscriber.** -/
theorem Effect.follows (hd : Effect s event s') (sound : s.Sound size)
    (h : s.Follows i since next items) :
    ∃ next', s'.Follows i since next' (items ++ (heardBy i event).toList) := by
  have inside : i < s.places.length := (List.getElem?_eq_some_iff.1 h.place).1
  have kept : Accounts (s.broker.log.drop since) (items ++ []) (s.carried.drop next) := by
    rw [List.append_nil]
    exact h.accounted
  cases hd with
  | refused | ordered => exact ⟨next, h.since_le, h.place, h.next_le, kept⟩
  | published none_left =>
    rename_i m
    have some_one : s.places ≠ [] := List.ne_nil_of_length_pos (Nat.zero_lt_of_lt inside)
    rw [if_neg some_one]
    have le : next ≤ s.carried.length := h.next_le.trans (Nat.le_of_eq sound.holds.count.symm)
    have more := kept.append [m]
    rw [← List.drop_append_of_le_length h.since_le, ← List.drop_append_of_le_length le,
      ← carried_publish sound.within m s.broker.capacity] at more
    exact ⟨next, h.since_le.trans (by simp), h.place, h.next_le.trans (Nat.le_succ _), more⟩
  | joined =>
    exact ⟨next, h.since_le, (List.getElem?_append_left inside).trans h.place, h.next_le, kept⟩
  | heard hj told =>
    rename_i j next₀ item next'
    by_cases heq : j = i
    · subst heq
      obtain rfl : next₀ = next := Option.some.inj (hj.symm.trans h.place)
      obtain ⟨le, accounts⟩ := sound.accounts told
      have heard : heardBy j (.receive j, .received (some item)) = some item := if_pos rfl
      rw [heard]
      exact ⟨next', h.since_le, List.getElem?_set_self inside, le, h.accounted.trans accounts⟩
    · have unheard : heardBy i (.receive j, .received (some item)) = none := if_neg heq
      rw [unheard]
      exact ⟨next, h.since_le, (List.getElem?_set_ne heq).trans h.place, h.next_le, kept⟩
  | silent hj told =>
    rename_i j next₀
    have unheard : heardBy i (.receive j, .received none) = none := by simp [heardBy]
    rw [unheard]
    exact ⟨next, h.since_le, h.place, h.next_le, kept⟩

theorem heard_append (i : Nat) (history : List Moment) (x : Moment) :
    heard i (history ++ [x]) = heard i history ++ (heardBy i x.event).toList := by
  cases h : heardBy i x.event with
  | none => simp [heard, h]
  | some item => simp [heard, h]

/-- From the moment a subscriber came, its accounts are kept. -/
theorem follows_along (run : Run Does s later s') (sound : s.Sound size)
    (h : s.Follows i since next []) : ∃ next', s'.Follows i since next' (heard i later) := by
  have keep : ∀ done (y : Moment),
      y.before.Sound size ∧ (∃ next', y.before.Follows i since next' (heard i done)) →
      y.before.Does y.event y.after →
      y.after.Sound size ∧ ∃ next', y.after.Follows i since next' (heard i (done ++ [y])) := by
    rintro done y ⟨sound, next', follows⟩ hy
    rw [heard_append]
    exact ⟨hy.effect.sound sound, hy.effect.follows sound follows⟩
  have base : s.Sound size ∧ ∃ next', s.Follows i since next' (heard i []) := ⟨sound, next, h⟩
  exact (Run.invariant
    (P := fun done s => s.Sound size ∧ ∃ next', s.Follows i since next' (heard i done))
    keep run base).2

/-- What a subscriber follows is attended to. -/
theorem Follows.attended (h : s.Follows i since next items) (sound : s.Sound size) :
    s.Attended size i since items (s.carried.drop next) := by
  refine ⟨h.accounted, ?_, next, h.place, fun times enough => ?_⟩
  · rcases sound.holds.receive? next with
      ⟨nil, hnone⟩ | ⟨m, hm, -, hsome⟩ | ⟨missed, pos, far, hsome⟩
    · exact ⟨none, s, by simp [perform, h.place, hnone], by simp [nil], by simp⟩
    · refine ⟨some (.ok m), { s with places := s.places.set i (next + 1) }, ?_, ?_, ?_⟩
      · simp only [perform, h.place, Option.map_some, hsome]
      · simp [hm]
      · simp
    · refine ⟨some (.error (Broker.lagged missed)),
        { s with places := s.places.set i (next + missed) }, ?_, ?_, fun f _ => ?_⟩
      · simp only [perform, h.place, Option.map_some, hsome]
      · have any : s.carried.drop next ≠ [] := List.ne_nil_of_length_pos (by omega)
        simpa using any
      · rw [far, sound.size_eq]
        omega
  · have count := sound.holds.count
    have within := sound.within
    have next_le := h.next_le
    rw [List.length_drop, count] at enough ⊢
    have front : (s.broker.log.take (s.broker.log.length - s.ring.sent)).length + next =
        s.broker.log.length - (s.ring.sent - next) := by
      rw [List.length_take]
      omega
    rw [← front]
    exact sound.holds.hears_eq (sound.capacity_eq.trans sound.size_eq.symm)
      (List.take_append_drop ..).symm enough

/-- A subscriber who has just come has heard nothing and missed nothing. -/
theorem Effect.follows_of_joined (hd : Effect s (.subscribe, .subscribed i) s')
    (sound : s.Sound size) : ∃ next, s'.Follows i s.broker.log.length next [] := by
  cases hd with
  | joined =>
    refine ⟨s.ring.sent, Nat.le_refl _, by simp, Nat.le_refl _, ?_⟩
    have nothing : s.carried.drop s.ring.sent = [] :=
      List.drop_eq_nil_of_le (Nat.le_of_eq sound.holds.count)
    change Accounts (s.broker.log.drop s.broker.log.length) [] (s.carried.drop s.ring.sent)
    rw [nothing, List.drop_length]
    exact .nil _

end

/-! ## The accounts of a run -/

/-- A broker that could be made has a power of two for its buffer and has done nothing yet. -/
theorem ofCapacity_eq_ok {capacity : Nat} {b : Broker} (made : Broker.ofCapacity capacity = .ok b) :
    b = ⟨capacity.nextPowerOfTwo, [], 0⟩ := by
  unfold Broker.ofCapacity at made
  split at made
  · cases made
  · split at made
    · cases made
    · split at made
      · cases made
      · exact (Except.ok.inj made).symm

/-- **Every message is accounted for.** In any run of publications, ordered failures, subscriptions
and messages that are asked for, on a broker of any capacity:

* of the publications since failures were ordered, and until they are ordered again, the first ones
  fail, as many as were ordered, and the others succeed;
* a publication that fails changes neither the log nor what any subscriber is to get;
* the log is the list of the messages that were published, in order;
* what a subscriber has heard accounts for the log from the point where it came, as `Attended` has
  it for a buffer of the capacity rounded up to a power of two. -/
theorem every_message_accounted_for {capacity : Nat} {b : Broker}
    (made : Broker.ofCapacity capacity = .ok b) {history : List Moment} {s : Broadcast}
    (run : Run Does (start b) history s) :
    (∀ past stretch later n, history = past ++ (stretch ++ later) → Ordered n past →
      Unordered stretch → outcomes stretch =
        List.replicate (min n (outcomes stretch).length) false ++
          List.replicate ((outcomes stretch).length - n) true) ∧
    (∀ x ∈ history, outcome x.event = some false →
      x.after.broker.log = x.before.broker.log ∧ x.after.ring = x.before.ring ∧
        x.after.places = x.before.places) ∧
    s.broker.log = history.filterMap (delivered ·.event) ∧
    ∀ past x later i, history = past ++ x :: later → x.event = (.subscribe, .subscribed i) →
      ∃ unread, s.Attended capacity.nextPowerOfTwo i x.before.broker.log.length (heard i later)
        unread := by
  obtain rfl := ofCapacity_eq_ok made
  have positive : 0 < capacity.nextPowerOfTwo :=
    Nat.pos_of_isPowerOfTwo (Nat.isPowerOfTwo_nextPowerOfTwo capacity)
  refine ⟨?_, ?_, log_of_run run rfl, ?_⟩
  · rintro past stretch later n rfl ordered unordered
    obtain ⟨m, before, rest⟩ := run_append.1 run
    obtain ⟨m', during, -⟩ := run_append.1 rest
    have := outcomes_of_run during unordered
    rwa [failures_of_ordered before rfl ordered] at this
  · intro x hx failed
    obtain ⟨past, later, rfl⟩ := List.append_of_mem hx
    obtain ⟨m, -, rfl, does, -⟩ := run_append.1 run
    exact does.effect.of_refused failed
  · rintro past ⟨before, event, after⟩ later i rfl rfl
    obtain ⟨m, earlier, rfl, does, rest⟩ := run_append.1 run
    have sound := sound_of_run earlier positive
    obtain ⟨next, follows⟩ := does.effect.follows_of_joined sound
    obtain ⟨next', follows'⟩ := follows_along rest (does.effect.sound sound) follows
    exact ⟨_, follows'.attended (sound_of_run run positive)⟩

/-! ## Given requests -/

/-- The moments in which requests are made one after the other; one without an answer is left
out. -/
def moments : Broadcast → List Request → List Moment
  | _, [] => []
  | s, request :: rest =>
    match s.perform request with
    | some (reply, s') => ⟨s, (request, reply), s'⟩ :: moments s' rest
    | none => moments s rest

def after : Broadcast → List Request → Broadcast
  | s, [] => s
  | s, request :: rest =>
    match s.perform request with
    | some (_, s') => after s' rest
    | none => after s rest

/-- Requests that are made one after the other are a run. -/
theorem run_moments (s : Broadcast) (requests : List Request) :
    Run Does s (s.moments requests) (s.after requests) := by
  induction requests generalizing s with
  | nil => rfl
  | cons request rest ih =>
    rw [moments, after]
    cases hrequest : s.perform request with
    | none => exact ih s
    | some result => exact ⟨rfl, hrequest, ih result.2⟩

def note (id : String) : Message :=
  ⟨"orders", "created", ⟨"created", .epoch, ⟨"1", "order"⟩, .bool true⟩,
    ⟨id, true, jsonContentType⟩⟩

/-- One publication comes too early for the subscriber and one fails, and of the others there are
more than the buffer holds. -/
def rushHour : List Request :=
  [.publish (note "a"), .subscribe, .failNext 1, .publish (note "b"), .publish (note "c"),
    .publish (note "d"), .publish (note "e"), .publish (note "f"), .publish (note "g"),
    .receive 0, .subscribe, .receive 0, .receive 1]

def smallBroker : Broker := ⟨4, [], 0⟩

def unheard : Broadcast := ⟨⟨4, [note "a"], 0⟩, .ofSize 4, []⟩

/-- The subscriber of the rush hour has missed the first messages, is told how many, and gets the
last four. -/
theorem every_message_accounted_for_rushHour :
    Broker.ofCapacity 3 = .ok smallBroker ∧
      Run Does (start smallBroker) ((start smallBroker).moments rushHour)
        ((start smallBroker).after rushHour) ∧
      outcomes (((start smallBroker).moments rushHour).drop 3) =
        [false, true, true, true, true, true] ∧
      ((start smallBroker).after rushHour).broker.log =
        [note "a", note "c", note "d", note "e", note "f", note "g"] ∧
      ∃ unread, ((start smallBroker).after rushHour).Attended 4 0 1
        [.error (Broker.lagged 1), .ok (note "d")] unread := by
  have size : Nat.nextPowerOfTwo 3 = 4 := by decide +kernel
  have made : Broker.ofCapacity 3 = .ok smallBroker := by
    simp [Broker.ofCapacity, size, Broker.slotSize, smallBroker]
  have run := run_moments (start smallBroker) rushHour
  obtain ⟨-, -, log, subscribers⟩ := every_message_accounted_for made run
  have tried : outcomes (((start smallBroker).moments rushHour).drop 3) =
      [false, true, true, true, true, true] := rfl
  have logged : ((start smallBroker).moments rushHour).filterMap (delivered ·.event) =
      [note "a", note "c", note "d", note "e", note "f", note "g"] := rfl
  have cut : (start smallBroker).moments rushHour =
      [⟨start smallBroker, (.publish (note "a"), .published (.ok ())), unheard⟩] ++
        ⟨unheard, (.subscribe, .subscribed 0), { unheard with places := [0] }⟩ ::
          moments { unheard with places := [0] } (rushHour.drop 2) := rfl
  have items : heard 0 (moments { unheard with places := [0] } (rushHour.drop 2)) =
      [.error (Broker.lagged 1), .ok (note "d")] := rfl
  have attended := subscribers _ _ _ 0 cut rfl
  rw [size, items] at attended
  exact ⟨made, run, tried, log.trans logged, attended⟩

end Broadcast
end EventRelay
