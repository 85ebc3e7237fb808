import EventRelay.Simulation.Calls

/-!
# Loops in virtual time

The loops of dispatchers run whenever somebody waits. A loop runs until it has to wait itself: for
a publication that takes its time, or for its next run. A cancelled loop ends when it would wait
for its next run, and never inside a run.
-/

namespace EventRelay.Simulation

/-- What becomes of calls, for whoever has them made: at their end, where the clock breaks one off,
and where a message is to be published. A publication is told the calls that come after it and what
they come to. -/
structure Conduct (α β : Type) where
  finished : α → β
  broken : String → β
  publish : Message → Duration → (Except Undelivered Unit → Action α) →
    (Except Undelivered Unit → World → β × World) → World → β × World

/-- How far a sequence of calls gets without waiting. -/
inductive Progress where
  | finished
  | panicked (message : String)
  | publishing (wake : Nat) (m : Message) (plan : Option PublishPlan)
      (next : Except Undelivered Unit → Action Unit)

namespace World

/-- Goes on with an answer, or breaks off where there is none. -/
def goOn {ε β γ : Type} (broken : ε → β) (next : γ → World → β × World) :
    Except ε γ × World → β × World
  | (.error fault, w) => (broken fault, w)
  | (.ok answer, w) => next answer w

/-- An action goes on with the answer of a call that did not break. -/
theorem goOn_of_ok {ε β γ : Type} {broken : ε → β} {next : γ → World → β × World}
    {x : Except ε γ × World} {a : γ} (h : x.1 = .ok a) : goOn broken next x = next a x.2 := by
  obtain ⟨_, w⟩ := x
  obtain rfl := h
  rfl

/-- Makes the calls of a dispatcher one after the other. -/
def carryOut {α β : Type} (agent : Nat) (c : Conduct α β) : Action α → World → β × World
  | .done a, w => (c.finished a, w)
  | .note entry next, w => carryOut agent c next (w.note entry)
  | .claimBatch limit worker next, w =>
    goOn (c.broken ·.message) (fun a => carryOut agent c (next a)) (w.claimBatch agent limit worker)
  | .markPublished id next, w =>
    goOn (c.broken ·.message) (fun a => carryOut agent c (next a)) (w.markPublished agent id)
  | .reschedule id error attempts next, w =>
    goOn (c.broken ·.message) (fun a => carryOut agent c (next a))
      (w.reschedule agent id error attempts)
  | .recoverStuck threshold next, w =>
    goOn (c.broken ·.message) (fun a => carryOut agent c (next a)) (w.recoverStuck agent threshold)
  | .purgePublished retention next, w =>
    goOn (c.broken ·.message) (fun a => carryOut agent c (next a))
      (w.purgePublished agent retention)
  | .publish m timeout next, w =>
    c.publish m timeout next (fun outcome => carryOut agent c (next outcome)) w

/-- Goes as far as is possible without waiting. -/
def untilWaiting (agent : Nat) : Conduct Unit Progress where
  finished _ := .finished
  broken := .panicked
  publish m timeout next goesOn w :=
    let (attempt, w) := w.beginPublish m timeout
    if attempt.wake = w.elapsed then goOn .panicked goesOn (w.endPublish agent m attempt.plan)
    else (.publishing attempt.wake m attempt.plan next, w)

/-- Makes the calls of a dispatcher until one of them has to wait. -/
def perform (agent : Nat) (a : Action Unit) (w : World) : Progress × World :=
  carryOut agent (untilWaiting agent) a w

def round (w : World) (agent : Nat) : Loop → Action Unit
  | .tick =>
    (Dispatcher.tick (w.agent agent).config (w.agent agent).worker).andThen fun _ => .done ()
  | .reap => (Dispatcher.reap (w.agent agent).config).andThen fun _ => .done ()
  | .purge => (Dispatcher.purge (w.agent agent).config).andThen fun _ => .done ()

def interval (config : DispatcherConfig) : Loop → Duration
  | .tick => config.tickInterval
  | .reap => config.reapInterval
  | .purge => config.purgeInterval

def setActivity (w : World) (task : Nat) (activity : Activity) : World :=
  { w with tasks := w.tasks.modify task fun t => { t with activity := activity } }

/-- What a task does next, given how far its round has got. -/
def afterProgress (task due : Nat) : Progress × World → World
  | (.finished, w) => w.setActivity task (.waiting due)
  | (.panicked message, w) => w.setActivity task (.panicked message)
  | (.publishing wake m plan next, w) => w.setActivity task (.publishing wake m plan next due)

/-- Runs the round of a task that was due at a point. -/
def runRound (w : World) (task : Nat) (t : Task) (due : Nat) : World :=
  let period := Schedule.period (interval (w.agent t.agent).config t.loop)
  let next := Schedule.next period due w.nanosElapsed
  afterProgress task next (perform t.agent (w.round t.agent t.loop) w)

/-- Has a task go on at the present moment. -/
def resume (w : World) (task : Nat) (t : Task) : World :=
  match t.activity with
  | .scheduled =>
    if w.cancelled t.token then w.setActivity task .ended else w.runRound task t w.nanosElapsed
  | .waiting due =>
    if w.cancelled t.token then w.setActivity task .ended else w.runRound task t due
  | .publishing _ m plan next due =>
    match w.endPublish t.agent m plan with
    | (.error message, w) => w.setActivity task (.panicked message)
    | (.ok r, w) => afterProgress task due (perform t.agent (next r) w)
  | .ended | .panicked _ => w

/-- The millisecond at which a task goes on, if it ever does. -/
def wakeTime? (w : World) (t : Task) : Option Nat :=
  match t.activity with
  | .scheduled => some w.elapsed
  | .waiting due => some (if w.cancelled t.token then w.elapsed else ceilMillis due)
  | .publishing wake _ _ _ _ => some wake
  | .ended | .panicked _ => none

/-- The task that goes on first, and when; of several the one that was started first. -/
def nextTask? (w : World) : Option (Nat × Task × Nat) :=
  (w.tasks.zipIdx.filterMap fun (t, n) => (w.wakeTime? t).map fun wake => (n, t, wake)).foldl
    (fun best candidate =>
      match best with
      | none => some candidate
      | some b => if candidate.2.2 < b.2.2 then some candidate else best)
    none

/-- Has the first task go on that does so before a point in time, at most `fuel` times. -/
def runBefore (limit : Nat) : Nat → World → World
  | 0, w => w
  | fuel + 1, w =>
    match w.nextTask? with
    | some (n, t, wake) =>
      if wake < limit then runBefore limit fuel ((w.passUntil wake).resume n t) else w
    | none => w

/-- A bound for the number of times that tasks go on before a point in time: in one millisecond a
task may end a publication, catch up with runs that were due up to five milliseconds ago, and wait
again. -/
def stepBound (w : World) (limit : Nat) : Nat :=
  (limit - w.elapsed + 1) * 8 * (w.tasks.length + 1)

/-- Waits until a point in time, while the loops run. Whoever waits goes on before the loops that
are due at the same moment; without any waiting the loops do not get to run. -/
def waitUntil (w : World) (millis : Nat) : World :=
  if millis ≤ w.elapsed then w else (runBefore millis (w.stepBound millis) w).passUntil millis

def activityOf (w : World) (task : Nat) : Activity :=
  match w.tasks[task]? with
  | some t => t.activity
  | none => .ended

def isOver (w : World) (task : Nat) : Bool :=
  match w.activityOf task with
  | .ended | .panicked _ => true
  | _ => false

/-- Has tasks go on until one of them is over, at most `fuel` times. -/
def runUntilOver (task : Nat) : Nat → World → World
  | 0, w => w
  | fuel + 1, w =>
    if w.isOver task then w
    else
      match w.nextTask? with
      | some (n, t, wake) => runUntilOver task fuel ((w.passUntil wake).resume n t)
      | none => w

def taskPanicked (message : String) : Journal.Entry :=
  ⟨.error, "dispatcher task panicked",
    [("error", .text (String.ofList
      ("task N panicked with message ".toList ++ Text.quoted message)))]⟩

/-- The largest number of times that tasks go on while one of them is waited for. -/
def patience : Nat := 1000000

def joinTask (w : World) (task : Nat) : World :=
  let w := runUntilOver task patience w
  match w.activityOf task with
  | .panicked message => w.note (taskPanicked message)
  | _ => w

/-- Waits for the end of every publication. -/
def waiting {α : Type} (agent : Nat) : Conduct α (Except String α) where
  finished := .ok
  broken := .error
  publish m timeout _ goesOn w :=
    let (attempt, w) := w.beginPublish m timeout
    goOn .error goesOn ((w.waitUntil attempt.wake).endPublish agent m attempt.plan)

/-- Makes the calls of a dispatcher to the end, waiting where they have to wait; the result, or the
message of a panic. -/
def run {α : Type} (agent : Nat) (a : Action α) (w : World) : Except String α × World :=
  carryOut agent (waiting agent) a w

end World
end EventRelay.Simulation
