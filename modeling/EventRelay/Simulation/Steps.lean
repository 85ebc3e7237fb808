import EventRelay.Simulation.Tasks

/-!
# Steps

What can be done in a world, one step at a time: work with stores and transactions, with brokers
and subscriptions, with dispatchers and their loops, and with the clock.
-/

namespace EventRelay.Simulation

/-- A step. Stores, transactions and handles are named by numbers and texts; `client` is the client
of the store that a step works with. -/
inductive Step where
  | newStore (policy : Policy)
  | cloneStore (client : Nat)
  | policy (client : Nat)
  | advance (d : Duration)
  | setClock (now : Instant)
  | enqueue (client : Nat) (event : Event)
  | claim (client : Nat) (limit : Nat) (worker : String)
  | markPublished (client : Nat) (id : Uuid)
  | reschedule (client : Nat) (id : Uuid) (error : String) (attempts : UInt32)
  | recover (client : Nat) (threshold : Duration)
  | get (client : Nat) (id : Uuid)
  | purge (client : Nat) (retention : Duration)
  | exhausted (client : Nat) (limit : Nat)
  | snapshot (client : Nat)
  | size (client : Nat)
  | isEmpty (client : Nat)
  | begin (client : Nat) (name : String)
  | enqueueIn (client : Nat) (name : String) (event : Event)
  | staged (name : String)
  | describe (name : String)
  | commit (client : Nat) (name : String)
  | rollback (name : String)
  | poison (client : Nat)
  | newBroker (capacity : Nat)
  | failNext (n : Nat)
  | published
  | subscribe (name : String)
  | receive (name : String)
  | publish (toBroker : Bool) (m : Message)
  | newDispatcher (client : Nat) (toBroker : Bool) (worker : String) (config : DispatcherConfig)
  | plan (change : Plans → Plans)
  | tick (dispatcher : Nat)
  | reap (dispatcher : Nat)
  | sweep (dispatcher : Nat)
  | start (dispatcher : Nat) (name : String)
  | sleep (millis : Nat)
  | shutdown (name : String)
  | isShutdown (name : String)
  | join (name : String)
  | dropHandle (name : String)

/-- The answer to a step. -/
inductive Answer where
  | nothing
  | truth (b : Bool)
  | count (n : Nat)
  | record (r : Option Record)
  | records (rs : List Record)
  | policy (p : Policy)
  | text (s : String)
  | messages (ms : List Message)
  | received (items : List (Except Failure Message))
  | dispatcher (worker : String) (config : DispatcherConfig)
  | report (r : TickReport)
  | failed (failure : Failure)
  | refused (chain : String)
  | panicked (message : String)

def Answer.of {α : Type} (f : α → Answer) : Except Failure α → Answer
  | .ok a => f a
  | .error failure => .failed failure

def Answer.ofEnding {α : Type} (f : α → Answer) : Ending α → Answer
  | .ok r => .of f r
  | .error fault => .panicked fault.message

def setNamed {α : Type} (name : String) (a : α) (l : List (String × α)) : List (String × α) :=
  (name, a) :: l.filter (·.1 ≠ name)

def dropNamed {α : Type} (name : String) (l : List (String × α)) : List (String × α) :=
  l.filter (·.1 ≠ name)

/-- A transaction as it is shown to a developer. Of a staged record the id stands for all that would
be shown of it, its payload included; what is shown of an empty transaction is complete. -/
def describeTransaction (tx : Transaction) : String :=
  "InMemoryTransaction \x7b staged: ["
    ++ ", ".intercalate (tx.staged.map fun r => String.ofList r.id.text) ++ "], .. \x7d"

namespace World

def dropTransaction (w : World) (name : String) : World :=
  match w.transactions.lookup name with
  | some tx =>
    { w with stores := tx.rollback w.stores, transactions := dropNamed name w.transactions }
  | none => w

/-- Takes an event into the transaction with a name. It is accepted before the clock is read. -/
def stage (w : World) (client : Nat) (name : String) (tx : Transaction) (e : Event) :
    Answer × World :=
  let here := (w.client client).store
  match tx.accepts here e, w.clock.read with
  | .error failure, _ => (.failed failure, w)
  | .ok (), .error fault => (.panicked fault.message, w)
  | .ok (), .ok now =>
    match tx.enqueue w.stores here (idMade w.made) e now with
    | .error failure => (.failed failure, { w with made := w.made + 1 })
    | .ok (r, tx, stores) =>
      (.record r,
        { w with
          made := w.made + 1, stores := stores
          transactions := setNamed name tx w.transactions })

def dropHandle (w : World) (name : String) : World :=
  match w.handles.lookup name with
  | some h => { w.cancel h.token with handles := dropNamed name w.handles }
  | none => w

/-- Starts the loops of a dispatcher under a name. -/
def startLoops (w : World) (dispatcher : Nat) (name : String) : World :=
  let token := w.tokens.length
  let first := w.tasks.length
  let w := w.dropHandle name
  let task (loop : Loop) : Task := ⟨dispatcher, token, loop, .scheduled⟩
  let w :=
    { w with
      tokens := w.tokens ++ [false]
      tasks := w.tasks ++ [task .tick, task .reap, task .purge]
      handles := setNamed name ⟨token, [first, first + 1, first + 2]⟩ w.handles }
  w.note (Dispatcher.started (w.agent dispatcher).worker)

def runRoundOf {α : Type} (w : World) (dispatcher : Nat) (round : Agent → Action α)
    (f : α → Answer) : Answer × World :=
  match run dispatcher (round (w.agent dispatcher)) w with
  | (.ok a, w) => (f a, w)
  | (.error message, w) => (.panicked message, w)

def addClient (w : World) (c : Client) : Answer × World :=
  (.count w.clients.length, { w with clients := w.clients ++ [c] })

/-- Does a step. -/
def step (w : World) : Step → Answer × World
  | .newStore policy =>
    let store := w.stores.length
    { w with stores := w.stores ++ [Store.empty] }.addClient ⟨store, policy⟩
  | .cloneStore client => w.addClient (w.client client)
  | .policy client => (.policy (w.client client).policy, w)
  | .advance d => (.nothing, { w with clock := w.clock.later d })
  | .setClock now => (.nothing, { w with clock := .ofInstant now })
  | .enqueue client event =>
    let (r, w) := w.enqueueFor client event
    (.ofEnding .record r, { w with made := w.made + 1 })
  | .claim client limit worker =>
    let (r, w) := w.claimFor client limit worker
    (.ofEnding .records r, w)
  | .markPublished client id =>
    let (r, w) := w.markPublishedFor client id
    (.ofEnding (fun _ => .nothing) r, w)
  | .reschedule client id error attempts =>
    let (r, w) := w.rescheduleFor client id error attempts
    (.ofEnding (fun _ => .nothing) r, w)
  | .recover client threshold =>
    let (r, w) := w.recoverFor client threshold
    (.ofEnding .count r, w)
  | .get client id => (.of .record ((w.storeOf client).get? id), w)
  | .purge client retention =>
    let (r, w) := w.purgeFor client retention
    (.ofEnding .count r, w)
  | .exhausted client limit =>
    (.of .records ((w.storeOf client).exhausted (w.client client).policy limit), w)
  | .snapshot client => (.of .records (w.storeOf client).snapshot, w)
  | .size client => (.of .count (w.storeOf client).size, w)
  | .isEmpty client => (.of (fun n => .truth (n = 0)) (w.storeOf client).size, w)
  | .begin client name =>
    let tx := Transaction.on (w.client client).store
    let w := w.dropTransaction name
    (.nothing, { w with transactions := setNamed name tx w.transactions })
  | .enqueueIn client name event =>
    match w.transactions.lookup name with
    | none => (.nothing, w)
    | some tx => w.stage client name tx event
  | .staged name =>
    match w.transactions.lookup name with
    | some tx => (.records tx.staged, w)
    | none => (.nothing, w)
  | .describe name =>
    match w.transactions.lookup name with
    | some tx => (.text (describeTransaction tx), w)
    | none => (.nothing, w)
  | .commit client name =>
    match w.transactions.lookup name with
    | none => (.nothing, w)
    | some tx =>
      let (r, stores) := tx.commit w.stores (w.client client).store
      (.of .count r, { w with stores := stores, transactions := dropNamed name w.transactions })
  | .rollback name => (.nothing, w.dropTransaction name)
  | .poison client => (.truth true, w.setStoreOf client (w.storeOf client).poison)
  | .newBroker capacity =>
    match Broker.ofCapacity capacity with
    | .error fault => (.panicked fault.message, w)
    | .ok b => (.nothing, { w with brokers := w.brokers ++ [b] })
  | .failNext n =>
    (.nothing, w.setBroker w.currentBroker ((w.broker w.currentBroker).failNext n))
  | .published => (.messages (w.broker w.currentBroker).log, w)
  | .subscribe name =>
    let s : Subscription := ⟨w.currentBroker, (w.broker w.currentBroker).log.length⟩
    (.nothing, { w with subscriptions := setNamed name s w.subscriptions })
  | .receive name =>
    match w.subscriptions.lookup name with
    | none => (.nothing, w)
    | some s =>
      let b := w.broker s.broker
      let read : Subscription := { s with place := b.log.length }
      (.received (b.receive s.place),
        { w with subscriptions := setNamed name read w.subscriptions })
  | .publish toBroker m =>
    let p := if toBroker then Publisher.broker w.currentBroker else .journal
    match w.publishTo p m with
    | (.ok (), w) => (.nothing, w)
    | (.error (.refused chain), w) => (.refused (chainText chain), w)
    | (.error .timedOut, w) => (.nothing, w)
  | .newDispatcher client toBroker worker config =>
    let p := if toBroker then Publisher.broker w.currentBroker else .journal
    (.dispatcher worker config,
      { w with agents := w.agents ++ [⟨client, p, worker, config⟩] })
  | .plan change => (.nothing, { w with plans := change w.plans })
  | .tick dispatcher =>
    w.runRoundOf dispatcher (fun a => Dispatcher.tick a.config a.worker) .report
  | .reap dispatcher => w.runRoundOf dispatcher (fun a => Dispatcher.reap a.config) .count
  | .sweep dispatcher => w.runRoundOf dispatcher (fun a => Dispatcher.purge a.config) .count
  | .start dispatcher name => (.nothing, w.startLoops dispatcher name)
  -- Like every wait this one is cut at thirty years.
  | .sleep millis => (.nothing, w.waitUntil (w.elapsed + min millis Schedule.horizon))
  | .shutdown name =>
    match w.handles.lookup name with
    | some h => (.nothing, w.cancel h.token)
    | none => (.nothing, w)
  | .isShutdown name =>
    match w.handles.lookup name with
    | some h => (.truth (w.cancelled h.token), w)
    | none => (.nothing, w)
  | .join name =>
    match w.handles.lookup name with
    | some h =>
      let w := { w with handles := dropNamed name w.handles }
      let w := h.tasks.foldl joinTask w
      (.nothing, w.cancel h.token)
    | none => (.nothing, w)
  | .dropHandle name => (.nothing, w.dropHandle name)

end World
end EventRelay.Simulation
