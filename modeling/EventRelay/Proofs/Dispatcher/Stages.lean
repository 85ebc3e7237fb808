import EventRelay.Proofs.Relay

/-!
# The stages of a round

A tick goes through stages: it claims records, and then it delivers them one after the other, each
by one publication that is followed by one settlement. `Action.Follows` says that a sequence of
calls is what is left of such a round from a stage on. The rounds of a dispatcher follow their
first stage (`work_follows`), and each call with its answer leads from a stage to the next
(`Answered.stage`, `Follows.published`), so that what is proved about rounds is proved by cases over
`Stage.Calls`, and no proof beyond this module looks into the calls of a tick.
-/

namespace EventRelay

open Dispatcher

/-- How far a round has got. -/
inductive Stage where
  /-- It may claim so many records more, and has claimed these. -/
  | claiming (limit : Nat) (got : List Record)
  /-- It has these records to deliver, one after the other. -/
  | delivering (todo : List Record)
  /-- The publication of a record was confirmed, and is to be noted. -/
  | confirmed (r : Record) (todo : List Record)
  /-- The delivery of a record has failed for a reason, and is to be tried again later. -/
  | failed (r : Record) (reason : String) (todo : List Record)
  /-- It is no tick. -/
  | upkeep

namespace Stage

/-- The records that the round has claimed and not yet published. -/
def waiting : Stage → List Record
  | claiming _ got => got
  | delivering todo => todo
  | confirmed _ todo => todo
  | failed _ _ todo => todo
  | upkeep => []

/-- The record that the round has published and not yet settled. -/
def sent : Stage → Option Record
  | confirmed r _ | failed r _ _ => some r
  | _ => none

/-- The records that the round has claimed and not yet settled. -/
def held (s : Stage) : List Record := s.sent.toList ++ s.waiting

/-- The number of records that the round may still claim. -/
def limit : Stage → Nat
  | claiming limit _ => limit
  | _ => 0

/-- The round holds no record and claims none. -/
inductive Idle : Stage → Prop where
  | delivered : Idle (.delivering [])
  | upkeep : Idle .upkeep

def first (config : DispatcherConfig) : Simulation.Loop → Stage
  | .tick => .claiming config.batchSize []
  | .reap | .purge => .upkeep

/-- The stage after the publication of a record. -/
def after (timeout : Duration) (r : Record) (todo : List Record) :
    Except Undelivered Unit → Stage
  | .ok () => .confirmed r todo
  | .error e => .failed r (reasonText timeout e) todo

section
variable (timeout : Duration) (r : Record) (todo : List Record) (outcome : Except Undelivered Unit)

@[simp] theorem sent_after : (after timeout r todo outcome).sent = some r := by
  cases outcome <;> rfl

@[simp] theorem waiting_after : (after timeout r todo outcome).waiting = todo := by
  cases outcome <;> rfl

/-- A round that has claimed does not claim again. -/
@[simp] theorem limit_after : (after timeout r todo outcome).limit = 0 := by
  cases outcome <;> rfl

end

/-- The call of a round to its store, with the answer, leads from one stage to another. -/
inductive Calls (n : Nat) (policy : Policy) (worker : String) :
    Stage → Operation → Answer → Stage → Prop where
  | claimBatch {limit got now rs} :
    Calls n policy worker (.claiming limit got) (.claimBatch n policy limit worker now)
      (.records rs) (.delivering (got ++ rs))
  | claimOne {limit got now r} :
    Calls n policy worker (.claiming (limit + 1) got) (.claimOne n policy worker now)
      (.record (some r)) (.claiming limit (got ++ [r]))
  | claimNone {limit got now} :
    Calls n policy worker (.claiming (limit + 1) got) (.claimOne n policy worker now)
      (.record none) (.delivering got)
  | markPublished {r todo now} :
    Calls n policy worker (.confirmed r todo) (.markPublished n r.id now) .done (.delivering todo)
  | reschedule {r reason todo now} :
    Calls n policy worker (.failed r reason todo)
      (.reschedule n policy r.id reason r.attempts now) .done (.delivering todo)
  | recoverStuck {threshold now k} :
    Calls n policy worker .upkeep (.recoverStuck n threshold now) (.count k) .upkeep
  | purgePublished {retention now k} :
    Calls n policy worker .upkeep (.purgePublished n retention now) (.count k) .upkeep

end Stage

/-- The calls are what is left of a round from a stage on. -/
def Action.Follows {α : Type} (timeout : Duration) (worker : String) : Action α → Stage → Prop
  | .done _, s => s.Idle
  | .note _ next, s => next.Follows timeout worker s
  | .claimBatch limit w next, s =>
    ∃ got, s = .claiming limit got ∧ w = worker ∧
      (∀ e, (next (.error e)).Follows timeout worker (.delivering [])) ∧
      ∀ rs, (next (.ok rs)).Follows timeout worker (.delivering (got ++ rs))
  | .publish m t next, s =>
    ∃ r todo, s = .delivering (r :: todo) ∧ m = r.message ∧ t = timeout ∧
      ∀ outcome, (next outcome).Follows timeout worker (.after timeout r todo outcome)
  | .markPublished id next, s =>
    ∃ r todo, s = .confirmed r todo ∧ id = r.id ∧
      (next (.ok ())).Follows timeout worker (.delivering todo) ∧
      ∀ e, (next (.error e)).Follows timeout worker (.failed r (chainText e.chain) todo)
  | .reschedule id reason attempts next, s =>
    ∃ r todo, s = .failed r reason todo ∧ id = r.id ∧ attempts = r.attempts ∧
      ∀ a, (next a).Follows timeout worker (.delivering todo)
  | .recoverStuck _ next, s => s = .upkeep ∧ ∀ a, (next a).Follows timeout worker .upkeep
  | .purgePublished _ next, s => s = .upkeep ∧ ∀ a, (next a).Follows timeout worker .upkeep

/-! ## The rounds of a dispatcher -/

/-- It does not matter how calls are grouped that follow each other. -/
theorem Action.andThen_assoc {α β γ : Type} (a : Action α) (f : α → Action β) (g : β → Action γ) :
    (a.andThen f).andThen g = a.andThen fun x => (f x).andThen g := by
  induction a with
  | done x => rfl
  | note entry next ih => simp only [andThen, ih]
  | claimBatch limit worker next ih | publish m timeout next ih | markPublished id next ih
  | reschedule id error attempts next ih | recoverStuck threshold next ih
  | purgePublished retention next ih => simp only [andThen, ih]

section
variable {α : Type} (config : DispatcherConfig) (worker : String)

/-- What is left of a tick after its claim delivers the records that it has got. -/
theorem settleAll_follows (rs : List Record) (report : TickReport) {f : TickReport → Action α}
    (hf : ∀ report, (f report).Follows config.confirmTimeout worker (.delivering [])) :
    ((settleAll config rs report).andThen f).Follows config.confirmTimeout worker
      (.delivering rs) := by
  induction rs generalizing report with
  | nil => exact hf report
  | cons r rest ih =>
    refine ⟨r, rest, rfl, rfl, rfl, fun outcome => ?_⟩
    -- Wherever the delivery fails, the record is put off, and the rest is delivered after that.
    cases outcome with
    | error e =>
      refine ⟨r, rest, rfl, rfl, rfl, fun a => ?_⟩
      cases a with
      | error e => exact ih report
      | ok => exact ih _
    | ok =>
      refine ⟨r, rest, rfl, rfl, ih _, fun e => ⟨r, rest, rfl, rfl, rfl, fun a => ?_⟩⟩
      cases a with
      | error e => exact ih report
      | ok => exact ih _

/-- After the only call of a round of upkeep nothing but the journal is left. -/
theorem upkeep_follows (message field failed : String) (answer : Except Failure Nat)
    {f : Nat → Action α} (hf : ∀ k, (f k).Follows config.confirmTimeout worker .upkeep) :
    ((upkeep message field failed answer).andThen f).Follows config.confirmTimeout worker
      .upkeep := by
  rcases answer with e | (_ | k)
  · exact hf 0
  · exact hf 0
  · exact hf (k + 1)

/-- **Every round of a dispatcher follows its first stage.** -/
theorem work_follows (loop : Simulation.Loop) :
    (Relay.work config worker loop).Follows config.confirmTimeout worker
      (.first config loop) := by
  cases loop with
  | tick =>
    refine ⟨[], rfl, rfl, fun e => .delivered, fun rs => ?_⟩
    cases rs with
    | nil => exact .delivered
    | cons r rest =>
      have delivered := settleAll_follows config worker (r :: rest) ⟨(r :: rest).length, 0, 0⟩
        (f := fun report => (Action.note (tickFinished worker report) (.done report)).andThen
          fun _ => .done ()) fun _ => .delivered
      rwa [← Action.andThen_assoc] at delivered
  | reap => exact ⟨rfl, fun a => upkeep_follows config worker _ _ _ a fun _ => .upkeep⟩
  | purge => exact ⟨rfl, fun a => upkeep_follows config worker _ _ _ a fun _ => .upkeep⟩

end

/-! ## One step -/

section
variable {timeout : Duration} {worker : String} {s : Stage} {rest rest' : Action Unit} {n : Nat}
  {policy : Policy} {op : Operation} {a : Answer}

/-- **A call of a round leads to the next stage.** -/
theorem Relay.Answered.stage (h : Answered n policy rest op a rest')
    (hs : rest.Follows timeout worker s) :
    ∃ s', s.Calls n policy worker op a s' ∧ rest'.Follows timeout worker s' := by
  cases h with
  | claimBatch =>
    obtain ⟨got, rfl, rfl, -, hok⟩ := hs
    exact ⟨_, .claimBatch, hok _⟩
  | claimOne =>
    rename_i limit w next now r
    obtain ⟨got, rfl, rfl, herror, hok⟩ := hs
    refine ⟨_, .claimOne, got ++ [r], rfl, rfl, fun e => herror e, fun rs => ?_⟩
    rw [List.append_assoc]
    exact hok (r :: rs)
  | claimNone =>
    obtain ⟨got, rfl, rfl, -, hok⟩ := hs
    refine ⟨_, .claimNone, ?_⟩
    have := hok []
    rwa [List.append_nil] at this
  | markPublished =>
    obtain ⟨r, todo, rfl, rfl, hok, -⟩ := hs
    exact ⟨_, .markPublished, hok⟩
  | reschedule =>
    obtain ⟨r, todo, rfl, rfl, rfl, hnext⟩ := hs
    exact ⟨_, .reschedule, hnext _⟩
  | recoverStuck =>
    obtain ⟨rfl, hnext⟩ := hs
    exact ⟨_, .recoverStuck, hnext _⟩
  | purgePublished =>
    obtain ⟨rfl, hnext⟩ := hs
    exact ⟨_, .purgePublished, hnext _⟩

/-- A round that is idle has calls of upkeep to make and no others. -/
theorem Stage.Calls.of_idle {s' : Stage} (h : s.Calls n policy worker op a s') (idle : s.Idle) :
    s' = s ∧ ((∃ threshold now, op = .recoverStuck n threshold now) ∨
      ∃ retention now, op = .purgePublished n retention now) := by
  cases idle with
  | delivered => cases h
  | upkeep =>
    cases h with
    | recoverStuck => exact ⟨rfl, .inl ⟨_, _, rfl⟩⟩
    | purgePublished => exact ⟨rfl, .inr ⟨_, _, rfl⟩⟩

end
end EventRelay
