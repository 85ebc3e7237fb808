import EventRelay.Proofs.Relay

/-!
# Services

A depot with one dispatcher that was started: three tasks, each of which runs the rounds of its loop
on a schedule, under a clock that counts nanoseconds from the start. Time passes only while all
tasks wait, for their next runs or in a publication, and no task waits longer than its timer lets
it; a call to the store takes no time. A publication may end at any moment before its timer goes
off, and has timed out then. The shutdown may come at any moment; a task that has nothing to run
ends then, but one whose next run is due may as well begin it. Everybody else, with other
dispatchers among them, does operations on the depot at any moment.

Nothing is said about the order in which tasks go on at the same moment, so that all of them are
covered; the loops in virtual time are one of these orders (`runRound_eq`, `wake_le`).
-/

namespace EventRelay

open Simulation (Loop)

/-! ## Timers -/

/-- When a timer that is set to a point goes off, both in nanoseconds. -/
def firing (point : Nat) : Nat := ceilMillis point * nanosPerMilli

section
variable {a b : Nat}

/-- No timer goes off early. -/
theorem le_firing (a : Nat) : a ≤ firing a := by
  unfold firing ceilMillis nanosPerMilli
  omega

/-- No timer goes off a whole millisecond late. -/
theorem firing_lt (a : Nat) : firing a < a + nanosPerMilli := by
  unfold firing ceilMillis nanosPerMilli
  omega

theorem firing_mono (h : a ≤ b) : firing a ≤ firing b := by
  unfold firing ceilMillis nanosPerMilli
  omega

/-- A timer that is set to a whole millisecond goes off in time. -/
@[simp] theorem firing_mul (k : Nat) : firing (k * nanosPerMilli) = k * nanosPerMilli := by
  unfold firing ceilMillis nanosPerMilli
  omega

/-- A timer that is set ahead, however far, goes off no later than two timers one after the
other. -/
theorem firing_add_le (a b : Nat) : firing (a + b) ≤ firing a + firing b := by
  unfold firing ceilMillis nanosPerMilli
  omega

end

/-- How long a publication may take, in nanoseconds: up to its timeout, which is cut at
`Schedule.horizon` like every wait. -/
def patience (timeout : Duration) : Nat := min timeout.nanos (Schedule.horizon * nanosPerMilli)

/-- The latest moment at which a task goes on that has come to its present call at some point. -/
def Action.latest (since : Nat) : Action Unit → Nat
  | .publish _ timeout _ => firing (since + patience timeout)
  | _ => since

/-! ## Tasks -/

/-- A dispatcher at its store. -/
structure Engine where
  store : Nat
  policy : Policy
  config : DispatcherConfig
  worker : String

/-- What a task is doing; all points are nanoseconds since the start. -/
inductive Doing where
  /-- It waits for its next run. -/
  | waiting (due : Nat)
  /-- It is inside a run and has come to its present call at some point; its next run is due
  already. -/
  | running (rest : Action Unit) (since due : Nat)
  | ended
  | panicked

/-- The task sleeps until a point. A cancelled task does not wait for its next run. -/
def Doing.Asleep (cancelled : Bool) (point : Nat) : Doing → Prop
  | .waiting due => cancelled = false ∧ point ≤ firing due
  | .running rest since _ => point ≤ rest.latest since
  | .ended | .panicked => True

/-- A depot and the tasks of a dispatcher. -/
structure Service where
  depot : Depot
  /-- The nanoseconds since the start. -/
  elapsed : Nat
  cancelled : Bool
  tasks : Loop → Doing

namespace Service

/-- The dispatcher is started: all loops are due. -/
def start (d : Depot) : Service := ⟨d, 0, false, fun _ => .waiting 0⟩

def turn (s : Service) (l : Loop) (doing : Doing) : Service :=
  { s with tasks := fun l' => if l' = l then doing else s.tasks l' }

/-- What can happen, as it is seen from outside. -/
inductive Occurrence where
  /-- Somebody else does an operation. -/
  | client (op : Operation) (a : Answer)
  /-- Time passes up to a point. -/
  | passes (point : Nat)
  /-- The tasks are cancelled, by a shutdown or because the handle was dropped. -/
  | shutsDown
  /-- A task begins a run. -/
  | wakes (l : Loop)
  /-- A run writes to the journal. -/
  | notes (l : Loop)
  /-- A run calls the store and has an answer. -/
  | calls (l : Loop) (op : Operation) (a : Answer)
  /-- A publication of a run ends: confirmed, refused, or timed out. -/
  | publishes (l : Loop) (m : Message) (outcome : Except Undelivered Unit)
  /-- A task dies in a publication. -/
  | panics (l : Loop)
  /-- A run comes to its end. -/
  | rests (l : Loop)
  /-- A cancelled task ends. -/
  | stops (l : Loop)

/-- What happens in the service of a dispatcher, and what becomes of it. -/
inductive Does (e : Engine) (s : Service) : Occurrence → Service → Prop where
  | client {op a d} (hd : s.depot.Does (op, a) d) : Does e s (.client op a) { s with depot := d }
  | passes {point} (h : s.elapsed ≤ point) (asleep : ∀ l, (s.tasks l).Asleep s.cancelled point) :
    Does e s (.passes point) { s with elapsed := point }
  | shutsDown : Does e s .shutsDown { s with cancelled := true }
  | wakes {l due} (hl : s.tasks l = .waiting due) (h : firing due ≤ s.elapsed) :
    Does e s (.wakes l) (s.turn l (.running (Relay.work e.config e.worker l) s.elapsed
      (Schedule.next (Schedule.period (Simulation.World.interval e.config l)) due s.elapsed)))
  | notes {l entry next since due} (hl : s.tasks l = .running (.note entry next) since due) :
    Does e s (.notes l) (s.turn l (.running next s.elapsed due))
  | calls {l op a d rest rest' since due} (hl : s.tasks l = .running rest since due)
    (hr : Relay.Answered e.store e.policy rest op a rest') (hd : s.depot.Does (op, a) d) :
    Does e s (.calls l op a) { s.turn l (.running rest' s.elapsed due) with depot := d }
  | publishes {l m timeout next since due outcome}
    (hl : s.tasks l = .running (.publish m timeout next) since due)
    (late : outcome = .error .timedOut → firing (since + patience timeout) ≤ s.elapsed) :
    Does e s (.publishes l m outcome) (s.turn l (.running (next outcome) s.elapsed due))
  | panics {l m timeout next since due}
    (hl : s.tasks l = .running (.publish m timeout next) since due) :
    Does e s (.panics l) (s.turn l .panicked)
  | rests {l since due} (hl : s.tasks l = .running (.done ()) since due) :
    Does e s (.rests l) (s.turn l (.waiting due))
  | stops {l due} (hl : s.tasks l = .waiting due) (h : s.cancelled = true) :
    Does e s (.stops l) (s.turn l .ended)

abbrev Moment := Transition Service Occurrence

instance : HasDepot Service Occurrence where
  operation? x :=
    match x.event with
    | .client op a | .calls _ op a => some ⟨x.before.depot, (op, a), x.after.depot⟩
    | _ => none

section
variable (s : Service) (l : Loop) (doing : Doing)

@[simp] theorem tasks_turn_self : (s.turn l doing).tasks l = doing := if_pos rfl

theorem tasks_turn_of_ne {l' : Loop} (h : l' ≠ l) : (s.turn l doing).tasks l' = s.tasks l' :=
  if_neg h

end

/-! ## Virtual time -/

open Simulation (World Task)

/-- The rounds and the due times are those of the loops in virtual time. -/
theorem runRound_eq (w : World) (task : Nat) (t : Task) (due : Nat) :
    w.runRound task t due =
      World.afterProgress task
        (Schedule.next (Schedule.period (World.interval (w.agent t.agent).config t.loop)) due
          w.nanosElapsed)
        (World.perform t.agent
          (Relay.work (w.agent t.agent).config (w.agent t.agent).worker t.loop) w) := by
  unfold World.runRound
  rw [Relay.round_eq_work]

/-- In virtual time no publication waits longer than its timer lets it. -/
theorem wake_le (w : World) (m : Message) (timeout : Duration)
    (next : Except Undelivered Unit → Action Unit) :
    (w.beginPublish m timeout).1.wake * nanosPerMilli ≤
      (Action.publish m timeout next).latest w.nanosElapsed := by
  have bound : (w.beginPublish m timeout).1.wake ≤
      w.elapsed + min (ceilMillis timeout.nanos) Schedule.horizon := by
    unfold World.beginPublish
    dsimp only
    split
    · rename_i h
      rcases h with h | h
      · rw [h]
        exact Nat.le_add_right ..
      · exact Nat.add_le_add_left h _
    · exact Nat.le_refl _
  simp only [Action.latest, firing, patience, ceilMillis, World.nanosElapsed, nanosPerMilli] at *
  omega

end Service
end EventRelay
