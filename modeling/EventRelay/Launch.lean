import EventRelay.Dispatcher.Rounds
import EventRelay.Journal.Line
import EventRelay.Settings.Load

/-!
# Launching a relay

A relay loads its settings, opens its store and its broker, starts a dispatcher, and runs until it
is told to stop. Only the store in memory and the broker that writes to the journal can be opened
here. If something fails, the relay reports it with its causes and ends.
-/

namespace EventRelay.Launch

open Journal

def relayTarget : String := "outbox_relay"

def dispatcherTarget : String := "outbox_domain::dispatcher"

def filterVariable : String := "OUTBOX_RELAY_LOG"

/-- Why a relay does not start. -/
inductive StartError where
  | settings (e : LoadError)
  /-- The store cannot be opened here. -/
  | noStore
  /-- The broker cannot be opened here. -/
  | noBroker
deriving DecidableEq

/-! ## Reports -/

def linesOf (s : String) : List String := (s.toList.splitOn '\n').map String.ofList

/-- A cause in a report, with its number if there are several. The lines after the first are
indented like it. -/
def causeLines (number : Option Nat) (cause : String) : List String :=
  let (mark, indent) :=
    match number with
    | some n =>
      let digits := Text.decimal n
      (String.ofList (List.replicate (5 - digits.length) ' ' ++ digits) ++ ": ", "       ")
    | none => ("    ", "    ")
  match linesOf cause with
  | [] => []
  | first :: rest => (mark ++ first) :: rest.map (indent ++ ·)

def causesLines (causes : List String) : List String :=
  match causes with
  | [cause] => causeLines none cause
  | causes => (causes.zipIdx.map fun (cause, n) => causeLines (some n) cause).flatten

def report (message : String) (causes : List String) : List String :=
  linesOf ("Error: " ++ message)
    ++ if causes.isEmpty then [] else ["", "Caused by:"] ++ causesLines causes

def LoadError.causes (e : LoadError) : List String :=
  match e with
  | .invalid e => [e.message]
  | e => [e.message, e.reason]

/-- The report of an error. One at which loading breaks off is told without its causes. -/
def StartError.report : StartError → List String
  | .settings e =>
    if e.breaksOff then linesOf e.message
    else Launch.report "failed to load relay settings" (LoadError.causes e)
  | .noStore =>
    Launch.report
      "store.kind is postgres but outbox-relay was built without the `postgres` feature" []
  | .noBroker =>
    Launch.report "broker.kind is amqp but outbox-relay was built without the `amqp` feature" []

/-- The exit code of a relay that does not start. -/
def StartError.exit : StartError → Nat
  | .settings e => if e.breaksOff then 101 else 1
  | _ => 1

/-! ## Starting and stopping -/

def storeTitle : StoreKind → String
  | .memory => "Memory"
  | .postgres => "Postgres"

def brokerTitle : BrokerKind → String
  | .log => "Log"
  | .amqp => "Amqp"

/-- Events in memory are lost when the relay ends. -/
def volatileStore : Line :=
  ⟨.warn, relayTarget, "using in-memory outbox store, events do not survive a restart", []⟩

def starting (worker : String) (s : Settings) : Line :=
  ⟨.info, relayTarget, "starting outbox relay",
    [("worker_id", String.ofList (Text.quoted worker)), ("store", storeTitle s.store.kind),
      ("broker", brokerTitle s.broker.kind)]⟩

def stopping : Line :=
  ⟨.info, relayTarget, "shutdown signal received, stopping dispatcher", []⟩

def workerId (s : Settings) (process : String) : String :=
  s.dispatcher.workerId.getD (Dispatcher.defaultWorkerId process)

/-- What starting a relay writes to the journal, and why it fails, if it does. -/
def start (settings : Except LoadError Settings) (process : String) :
    List Line × Option StartError :=
  match settings with
  | .error e => ([], some (.settings e))
  | .ok s =>
    match s.store.kind, s.broker.kind with
    | .postgres, _ => ([], some .noStore)
    | .memory, .amqp => ([volatileStore], some .noBroker)
    | .memory, .log =>
      let worker := workerId s process
      ([volatileStore, starting worker s, .ofEntry dispatcherTarget (Dispatcher.started worker)],
        none)

/-- The filter of the journal that an environment asks for. -/
def filterOf (environment : List (String × String)) : Filter :=
  .ofText (environment.lookup filterVariable)

/-- What a relay leaves behind. -/
structure Outcome where
  exit : Nat
  /-- The lines of the journal that are shown. -/
  journal : List Line
  /-- The report of an error. -/
  report : List String

/-- The run of a relay that is told to stop as soon as it is up. -/
def run (settings : Except LoadError Settings) (filter : Filter) (process : String) : Outcome :=
  match start settings process with
  | (lines, some e) => ⟨e.exit, filter.shown lines, e.report⟩
  | (lines, none) => ⟨0, filter.shown (lines ++ [stopping]), []⟩

end EventRelay.Launch
