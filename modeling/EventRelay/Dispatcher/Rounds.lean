import EventRelay.Dispatcher.Action
import EventRelay.Dispatcher.Config

/-!
# The rounds of a dispatcher

A dispatcher has three kinds of rounds. A *tick* claims a batch of records, publishes them one by
one, and notes for each that it is published or when to try it again; what happens to one record
does not touch the others. A *reap* takes records back from dead workers. A *purge* takes out
records that were published long ago. Failures go to the journal and never end a round.
-/

namespace EventRelay

/-- What a tick has done: the records claimed, those noted as published, and those noted to be
tried again. -/
structure TickReport where
  claimed : Nat
  published : Nat
  rescheduled : Nat
deriving DecidableEq, Repr, Inhabited

namespace Dispatcher

open Journal

/-- Why a message was not delivered, in one line. -/
def reasonText (timeout : Duration) : Undelivered → String
  | .refused chain => chainText chain
  | .timedOut => (Failure.confirmTimeout timeout).message

def recordFailed (message : String) (id : Uuid) (error : String) : Entry :=
  ⟨.error, message, [idField id, ("error", .text error)]⟩

/-- Publishes a record and notes its publication; the reason if either fails. -/
def deliver (config : DispatcherConfig) (r : Record) : Action (Option String) :=
  .publish r.message config.confirmTimeout fun
    | .error e =>
      let reason := reasonText config.confirmTimeout e
      .note (recordFailed "publish failed" r.id reason) (.done (some reason))
    | .ok () =>
      .markPublished r.id fun
        | .error e =>
          .note (recordFailed "mark published failed" r.id e.message)
            (.done (some (chainText e.chain)))
        | .ok () => .done none

/-- Delivers a record, and has it tried again later if that fails. -/
def settle (config : DispatcherConfig) (r : Record) (report : TickReport) : Action TickReport :=
  (deliver config r).andThen fun
    | none => .done { report with published := report.published + 1 }
    | some reason =>
      .reschedule r.id reason r.attempts fun
        | .ok () => .done { report with rescheduled := report.rescheduled + 1 }
        | .error e => .note (recordFailed "reschedule failed" r.id e.message) (.done report)

def settleAll (config : DispatcherConfig) : List Record → TickReport → Action TickReport
  | [], report => .done report
  | r :: rest, report => (settle config r report).andThen (settleAll config rest)

def tickFinished (worker : String) (report : TickReport) : Entry :=
  ⟨.debug, "outbox tick finished",
    [("worker_id", .text worker), ("claimed", .number report.claimed),
      ("published", .number report.published), ("rescheduled", .number report.rescheduled)]⟩

/-- Claims a batch and delivers it. -/
def tick (config : DispatcherConfig) (worker : String) : Action TickReport :=
  .claimBatch config.batchSize worker fun
    | .error e =>
      .note ⟨.error, "claim batch failed",
        [("worker_id", .text worker), ("error", .text e.message)]⟩
        (.done ⟨0, 0, 0⟩)
    | .ok [] => .done ⟨0, 0, 0⟩
    | .ok records =>
      (settleAll config records ⟨records.length, 0, 0⟩).andThen fun report =>
        .note (tickFinished worker report) (.done report)

/-- What a round of upkeep does with the answer of its only call. -/
def upkeep (message field failed : String) : Except Failure Nat → Action Nat
  | .error e => .note ⟨.error, failed, [("error", .text e.message)]⟩ (.done 0)
  | .ok 0 => .done 0
  | .ok n => .note ⟨.info, message, [(field, .number n)]⟩ (.done n)

/-- Takes records back from workers that have held them for too long. -/
def reap (config : DispatcherConfig) : Action Nat :=
  .recoverStuck config.staleLockThreshold
    (upkeep "recovered stuck outbox events" "recovered" "recover stuck publishing failed")

/-- Takes out records that have been published for longer than the retention. -/
def purge (config : DispatcherConfig) : Action Nat :=
  .purgePublished config.retention
    (upkeep "purged published outbox events" "purged" "purge published failed")

def started (worker : String) : Entry :=
  ⟨.info, "outbox dispatcher started", [("worker_id", .text worker)]⟩

/-- The worker id of a dispatcher that was not given one: the number of its process. -/
def defaultWorkerId (process : String) : String := "dispatcher@" ++ process

end Dispatcher
end EventRelay
