import EventRelay.Proofs.Dispatcher.Stages

/-!
# What calls leave alone

A dispatcher's call changes the store it goes to or the broker, the plans of the next calls, the
journal and the list of calls, and nothing else of a world (`Makes`): no time passes, and no task
but its own notices. Of the plans for upkeep only a call of upkeep uses one up, and the calls of a
tick are none (`asks_tick`).
-/

namespace EventRelay

/-- Every call that a sequence of calls may come to has a property. -/
def Action.Asks {α : Type} (P : Simulation.Call → Prop) : Action α → Prop
  | .done _ => True
  | .note _ next => next.Asks P
  | .claimBatch limit worker next => P (.claimBatch limit worker) ∧ ∀ a, (next a).Asks P
  | .publish m _ next => P (.publish m) ∧ ∀ a, (next a).Asks P
  | .markPublished id next => P (.markPublished id) ∧ ∀ a, (next a).Asks P
  | .reschedule id error attempts next =>
    P (.reschedule id error attempts) ∧ ∀ a, (next a).Asks P
  | .recoverStuck threshold next => P (.recoverStuck threshold) ∧ ∀ a, (next a).Asks P
  | .purgePublished retention next => P (.purgePublished retention) ∧ ∀ a, (next a).Asks P

theorem Action.asks_true {α : Type} (a : Action α) : a.Asks fun _ => True := by
  induction a with
  | done => trivial
  | note entry next ih => exact ih
  | claimBatch limit worker next ih | publish m timeout next ih | markPublished id next ih
  | reschedule id error attempts next ih | recoverStuck threshold next ih
  | purgePublished retention next ih => exact ⟨trivial, ih⟩

namespace Simulation

def Call.loop : Call → Loop
  | .recoverStuck _ => .reap
  | .purgePublished _ => .purge
  | .claimBatch .. | .publish _ | .markPublished _ | .reschedule .. => .tick

/-- The calls of what is left of a tick are calls of a tick. -/
theorem asks_tick {α : Type} {a : Action α} {timeout : Duration} {worker : String} {s : Stage}
    (h : a.Follows timeout worker s) (hs : s ≠ .upkeep) : a.Asks (·.loop = .tick) := by
  induction a generalizing s with
  | done => trivial
  | note entry next ih => exact ih h hs
  | claimBatch limit w next ih =>
    obtain ⟨got, rfl, rfl, herror, hok⟩ := h
    refine ⟨rfl, fun a => ?_⟩
    cases a with
    | error e => exact ih _ (herror e) (by simp)
    | ok rs => exact ih _ (hok rs) (by simp)
  | publish m t next ih =>
    obtain ⟨r, todo, rfl, rfl, rfl, hnext⟩ := h
    refine ⟨rfl, fun outcome => ih _ (hnext outcome) ?_⟩
    cases outcome <;> simp [Stage.after]
  | markPublished id next ih =>
    obtain ⟨r, todo, rfl, rfl, hok, herror⟩ := h
    refine ⟨rfl, fun a => ?_⟩
    cases a with
    | error e => exact ih _ (herror e) (by simp)
    | ok => exact ih _ hok (by simp)
  | reschedule id reason attempts next ih =>
    obtain ⟨r, todo, rfl, rfl, rfl, hnext⟩ := h
    exact ⟨rfl, fun a => ih _ (hnext a) (by simp)⟩
  | recoverStuck | purgePublished => exact absurd h.1 hs

/-- The rounds of a loop make calls of this loop only. -/
theorem World.round_asks (w : World) (agent : Nat) (loop : Loop) :
    (w.round agent loop).Asks (·.loop = loop) := by
  have rest (message field failed : String) (answer : Except Failure Nat) :
      ((Dispatcher.upkeep message field failed answer).andThen fun _ => .done ()).Asks
        (·.loop = loop) := by
    rcases answer with e | (_ | k) <;> trivial
  cases loop with
  | tick =>
    rw [Relay.round_eq_work]
    exact asks_tick (work_follows _ _ .tick) (by simp [Stage.first])
  | reap => exact ⟨rfl, rest _ _ _⟩
  | purge => exact ⟨rfl, rest _ _ _⟩

/-- The plans for the call of a round of upkeep. -/
def Plans.upkeep (p : Plans) : Loop → List (Option StorePlan)
  | .tick => []
  | .reap => p.recoverStuck
  | .purge => p.purgePublished

/-! ## One call -/

/-- One world comes from another by calls, all of them made at the present moment. -/
structure Makes (w w' : World) (made : List Call) : Prop where
  rest : w' = { w with
    stores := w'.stores, brokers := w'.brokers, plans := w'.plans, journal := w'.journal
    calls := w'.calls }
  calls : w'.calls = w.calls ++ made.map (w.elapsed, ·)
  plans : ∀ l, w'.plans.upkeep l = (w.plans.upkeep l).drop (made.countP (·.loop = l))

namespace Makes
variable {w w' w'' : World} {made made' : List Call}

section
variable (h : Makes w w' made)
include h

theorem clock : w'.clock = w.clock := by rw [h.rest]
theorem elapsed : w'.elapsed = w.elapsed := by rw [h.rest]
theorem clients : w'.clients = w.clients := by rw [h.rest]
theorem agents : w'.agents = w.agents := by rw [h.rest]
theorem tokens : w'.tokens = w.tokens := by rw [h.rest]
theorem tasks : w'.tasks = w.tasks := by rw [h.rest]

end

theorem refl (w : World) : Makes w w [] := ⟨rfl, by simp, fun _ => rfl⟩

theorem trans (h : Makes w w' made) (h' : Makes w' w'' made') : Makes w w'' (made ++ made') where
  rest := by rw [h'.rest, h.rest]
  calls := by rw [h'.calls, h.calls, h.elapsed, List.map_append, List.append_assoc]
  plans l := by rw [h'.plans, h.plans, List.drop_drop, List.countP_append]

theorem note (w : World) (entry : Journal.Entry) : Makes w (w.note entry) [] :=
  ⟨rfl, by simp [World.note], fun _ => rfl⟩

theorem notes (w : World) (entries : List Journal.Entry) :
    Makes w (entries.foldl World.note w) [] := by
  induction entries generalizing w with
  | nil => exact refl w
  | cons entry entries ih => exact (note w entry).trans (ih _)

theorem setStoreOf (w : World) (n : Nat) (s : Store) : Makes w (w.setStoreOf n s) [] :=
  ⟨rfl, by simp [World.setStoreOf], fun _ => rfl⟩

theorem setBroker (w : World) (n : Nat) (b : Broker) : Makes w (w.setBroker n b) [] :=
  ⟨rfl, by simp [World.setBroker], fun _ => rfl⟩

/-- A call is noted, and a plan for it is used up. -/
theorem call (w : World) (c : Call) (plans : Plans)
    (h : ∀ l, plans.upkeep l = (w.plans.upkeep l).drop (if c.loop = l then 1 else 0)) :
    Makes w { w.noteCall c with plans := plans } [c] :=
  ⟨rfl, rfl, fun l => by simp [h l, List.countP_cons]⟩

end Makes

namespace World
variable {α : Type} (w : World) (n : Nat)

/-- Taking over what the store answered is no call. -/
theorem settled_makes (r : Except Failure (α × Store)) : Makes w (w.settled n r).2 [] := by
  cases r with
  | ok p => exact .setStoreOf w n p.2
  | error f => exact .refl w

section
variable (operation : Store → Instant → Except Failure (α × Store))

theorem readingFirst_makes : Makes w (w.readingFirst n operation).2 [] := by
  unfold readingFirst
  cases w.clock.read with
  | error fault => exact .refl w
  | ok now => exact settled_makes w n _

theorem readingInside_makes : Makes w (w.readingInside n operation).2 [] := by
  unfold readingInside
  cases w.clock.read with
  | error fault =>
    dsimp only
    split
    · exact .refl w
    · exact .setStoreOf ..
  | ok now => exact settled_makes w n _

end

theorem claimFor_makes (limit : Nat) (worker : String) :
    Makes w (w.claimFor n limit worker).2 [] := by
  unfold claimFor
  split
  · exact .refl w
  · exact readingInside_makes ..

theorem markPublishedFor_makes (id : Uuid) : Makes w (w.markPublishedFor n id).2 [] := by
  unfold markPublishedFor
  split
  · exact .refl w
  · exact readingInside_makes ..

theorem rescheduleFor_makes (id : Uuid) (error : String) (attempts : UInt32) :
    Makes w (w.rescheduleFor n id error attempts).2 [] := by
  have read := readingFirst_makes w n fun s now =>
    s.reschedule (w.client n).policy id error attempts now
  unfold rescheduleFor
  dsimp only
  split <;> rename_i h <;> rw [h] at read
  · exact read.trans (.notes ..)
  · exact read
  · exact read

/-! ## The calls of a dispatcher -/

/-- A claim is noted as one call, also one that fails or takes a part. -/
theorem claimBatch_makes (limit : Nat) (worker : String) :
    Makes w (w.claimBatch n limit worker).2 [.claimBatch limit worker] := by
  have noted := Makes.call w (.claimBatch limit worker)
    { w.plans with claimBatch := w.plans.claimBatch.tail } fun l => by cases l <;> rfl
  unfold claimBatch
  dsimp only
  split
  · exact noted
  · exact noted
  · exact noted.trans (claimFor_makes ..)

/-- Whether a call fails by plan or goes through to the store, it is noted as one call. The
plans with which it leaves the world may lack the next one of its own loop, and no other. -/
theorem failOr_makes {call : Call} {plans : Plans} {through : World → Ending α × World}
    (used : ∀ l, plans.upkeep l = (w.plans.upkeep l).drop (if call.loop = l then 1 else 0))
    (quiet : ∀ v, Makes v (through v).2 []) (planned : Option StorePlan) :
    Makes w (w.failOr call plans planned through).2 [call] := by
  have noted := Makes.call w call plans used
  unfold failOr
  dsimp only
  split
  · exact noted
  · exact noted.trans (quiet _)

theorem markPublished_makes (id : Uuid) :
    Makes w (w.markPublished n id).2 [.markPublished id] :=
  w.failOr_makes (fun l => by cases l <;> rfl) (fun _ => markPublishedFor_makes ..) _

theorem reschedule_makes (id : Uuid) (error : String) (attempts : UInt32) :
    Makes w (w.reschedule n id error attempts).2 [.reschedule id error attempts] :=
  w.failOr_makes (fun l => by cases l <;> rfl) (fun _ => rescheduleFor_makes ..) _

theorem recoverStuck_makes (threshold : Duration) :
    Makes w (w.recoverStuck n threshold).2 [.recoverStuck threshold] :=
  w.failOr_makes (fun l => by cases l <;> simp [Plans.upkeep, Call.loop])
    (fun _ => readingFirst_makes ..) _

theorem purgePublished_makes (retention : Duration) :
    Makes w (w.purgePublished n retention).2 [.purgePublished retention] :=
  w.failOr_makes (fun l => by cases l <;> simp [Plans.upkeep, Call.loop])
    (fun _ => readingFirst_makes ..) _

theorem publishTo_makes (p : Publisher) (m : Message) : Makes w (w.publishTo p m).2 [] := by
  cases p with
  | broker k => exact .setBroker ..
  | journal => exact .note ..

/-- The beginning of an attempt is the call; its end is none. -/
theorem beginPublish_makes (m : Message) (timeout : Duration) :
    Makes w (w.beginPublish m timeout).2 [.publish m] := by
  have noted := Makes.call w (.publish m)
    { w.plans with publish := w.plans.publish.tail } fun l => by cases l <;> rfl
  unfold beginPublish
  dsimp only
  split
  · exact noted
  · exact noted

theorem endPublish_makes (m : Message) (plan : Option PublishPlan) :
    Makes w (w.endPublish n m plan).2 [] := by
  rcases plan with _ | (_ | chain | message)
  · exact .refl w
  · exact publishTo_makes ..
  · exact .refl w
  · exact .refl w

theorem le_wake (m : Message) (timeout : Duration) :
    w.elapsed ≤ (w.beginPublish m timeout).1.wake := by
  unfold beginPublish
  dsimp only
  split <;> exact Nat.le_add_right ..

end World

/-! ## Rounds -/

/-- What is left after the calls that can be made without waiting: nothing, or a publication that
ends later, and then calls with a property. -/
def Progress.Left (P : Call → Prop) (now : Nat) : Progress → Prop
  | .publishing wake _ _ next => now < wake ∧ ∀ outcome, (next outcome).Asks P
  | .finished | .panicked _ => True

/-- The calls that were made without waiting have a property, and so have those that are left. -/
def Performs (P : Call → Prop) (w : World) (x : Progress × World) : Prop :=
  (∃ made, (∀ c ∈ made, P c) ∧ Makes w x.2 made) ∧ x.1.Left P w.elapsed

section
variable {P : Call → Prop} {w w' : World}

/-- What is made before the calls of an action counts with them. -/
theorem Performs.after {x : Progress × World} {made : List Call} (hmade : ∀ c ∈ made, P c)
    (one : Makes w w' made) (h : Performs P w' x) : Performs P w x := by
  obtain ⟨⟨more, hmore, makes⟩, left⟩ := h
  exact ⟨⟨made ++ more, List.forall_mem_append.2 ⟨hmade, hmore⟩, one.trans makes⟩,
    one.elapsed ▸ left⟩

/-- Calls with a property, and what the answer to them leads to. -/
theorem performs_goOn {ε γ : Type} {made : List Call} (hmade : ∀ c ∈ made, P c)
    {x : Except ε γ × World} (one : Makes w x.2 made) {message : ε → String}
    {next : γ → World → Progress × World} (ih : ∀ a w', Performs P w' (next a w')) :
    Performs P w (World.goOn (.panicked <| message ·) next x) := by
  obtain ⟨fault | a, w'⟩ := x
  · exact ⟨⟨made, hmade, one⟩, trivial⟩
  · exact (ih a w').after hmade one

/-- **A round makes calls**, at the moment at which it is performed, and leaves calls of the same
kind for later. -/
theorem perform_performs (agent : Nat) {a : Action Unit} (h : a.Asks P) (w : World) :
    Performs P w (World.perform agent a w) := by
  have only {c : Call} (hc : P c) : ∀ c' ∈ [c], P c' := List.forall_mem_singleton.2 hc
  induction a generalizing w with
  | done => exact ⟨⟨[], by simp, .refl w⟩, trivial⟩
  | note entry next ih => exact (ih h _).after (by simp) (.note w entry)
  | claimBatch limit worker next ih =>
    exact performs_goOn (only h.1) (World.claimBatch_makes ..) fun a => ih a (h.2 a)
  | markPublished id next ih =>
    exact performs_goOn (only h.1) (World.markPublished_makes ..) fun a => ih a (h.2 a)
  | reschedule id error attempts next ih =>
    exact performs_goOn (only h.1) (World.reschedule_makes ..) fun a => ih a (h.2 a)
  | recoverStuck threshold next ih =>
    exact performs_goOn (only h.1) (World.recoverStuck_makes ..) fun a => ih a (h.2 a)
  | purgePublished retention next ih =>
    exact performs_goOn (only h.1) (World.purgePublished_makes ..) fun a => ih a (h.2 a)
  | publish m timeout next ih =>
    have one := World.beginPublish_makes w m timeout
    have later := World.le_wake w m timeout
    rw [World.perform, World.carryOut, World.untilWaiting]
    dsimp only
    split
    · -- The publication ends at once.
      exact performs_goOn (only h.1) (one.trans (World.endPublish_makes ..))
        fun outcome => ih outcome (h.2 outcome)
    · rename_i h'
      rw [one.elapsed] at h'
      exact ⟨⟨_, only h.1, one⟩, by omega, h.2⟩

end

end Simulation
end EventRelay
