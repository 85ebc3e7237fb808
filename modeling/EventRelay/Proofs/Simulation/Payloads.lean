import EventRelay.Proofs.Simulation.Alike
import EventRelay.Proofs.Simulation.Loops

/-!
# Payloads do not matter

What is done in a world does not depend on payloads, but for whether they are null. Two worlds in
which the same is done with other payloads answer in the same way behind the veil, and are the same
behind it in the end (`answers_alike`).
-/

namespace EventRelay.Simulation

/-! ## Steps and answers -/

/-- The answer behind a veil. The text of a transaction for a developer shows what is staged, and is
hidden as a whole. -/
def Answer.veil : Answer → Answer
  | .record r => .record (r.map Record.veil)
  | .records rs => .records (rs.map Record.veil)
  | .text _ => .text ""
  | .messages ms => .messages (ms.map Message.veil)
  | .received items => .received (items.map (Except.map Message.veil))
  | a => a

/-- Two steps differ in payloads only. -/
inductive Step.Alike : Step → Step → Prop where
  | enqueue (client : Nat) {e₁ e₂ : Event} (same : e₁.veil = e₂.veil) :
    Alike (.enqueue client e₁) (.enqueue client e₂)
  | enqueueIn (client : Nat) (name : String) {e₁ e₂ : Event} (same : e₁.veil = e₂.veil) :
    Alike (.enqueueIn client name e₁) (.enqueueIn client name e₂)
  | publish (toBroker : Bool) {m₁ m₂ : Message} (same : m₁.veil = m₂.veil) :
    Alike (.publish toBroker m₁) (.publish toBroker m₂)
  | plan {change₁ change₂ : Plans → Plans}
    (same : ∀ p₁ p₂ : Plans, p₁.veil = p₂.veil → (change₁ p₁).veil = (change₂ p₂).veil) :
    Alike (.plan change₁) (.plan change₂)
  | other {s : Step} (h : ∀ change, s ≠ .plan change) : Alike s s

/-- The step with the event that it hands in behind a veil. -/
def Step.veil : Step → Step
  | .enqueue client e => .enqueue client e.veil
  | .enqueueIn client name e => .enqueueIn client name e.veil
  | s => s

/-- A step that is done in the same way behind the veil, and leaves the tasks alone. -/
def Step.Plain : Step → Prop
  | .describe _ | .publish .. | .plan _ | .tick _ | .reap _ | .sweep _ | .start .. | .sleep _
  | .join _ => False
  | _ => True

/-! ## Values with names -/

section
variable {α : Type} (f : α → α) (name : String) (a : α) (l : List (String × α))

theorem dropNamed_map : dropNamed name (l.map fun x => (x.1, f x.2)) =
    (dropNamed name l).map fun x => (x.1, f x.2) := by
  simp only [dropNamed, List.filter_map, Function.comp_def]

theorem setNamed_map : setNamed name (f a) (l.map fun x => (x.1, f x.2)) =
    (setNamed name a l).map fun x => (x.1, f x.2) := by
  simp only [setNamed, List.filter_map, Function.comp_def, List.map_cons]

end

namespace World

section
variable (w : World)

theorem lookup_veil (name : String) :
    w.veil.transactions.lookup name = (w.transactions.lookup name).map Transaction.veil :=
  lookup_mapValues ..

theorem dropTransaction_veil (name : String) :
    w.veil.dropTransaction name = (w.dropTransaction name).veil := by
  unfold dropTransaction
  rw [lookup_veil]
  cases w.transactions.lookup name with
  | none => rfl
  | some tx => simp only [Option.map_some, veil, Transaction.rollback_veil, dropNamed_map]

theorem currentBroker_veil : w.veil.currentBroker = w.currentBroker := by
  simp only [currentBroker, veil, List.length_map]

theorem dropHandle_veil (name : String) : w.veil.dropHandle name = (w.dropHandle name).veil := by
  have same : w.veil.handles = w.handles := rfl
  unfold dropHandle
  rw [same]
  cases w.handles.lookup name <;> rfl

end

/-- Staging an event reads of its payload only whether it is null. -/
theorem stage_veil (w : World) (client : Nat) (name : String) (tx : Transaction) (e : Event) :
    w.veil.stage client name tx.veil e.veil =
      ((w.stage client name tx e).1.veil, (w.stage client name tx e).2.veil) := by
  have same : w.veil.client client = w.client client := rfl
  have clock : w.veil.clock = w.clock := rfl
  unfold stage
  dsimp only
  rw [same, clock, Transaction.accepts_veil]
  cases tx.accepts (w.client client).store e with
  | error failure => rfl
  | ok =>
    cases w.clock.read with
    | error fault => rfl
    | ok now =>
      have entered : tx.veil.enqueue w.veil.stores (w.client client).store (idMade w.veil.made)
          e.veil now = _ :=
        tx.enqueue_veil w.stores (w.client client).store (idMade w.made) e now
      dsimp only
      rw [entered]
      rcases tx.enqueue w.stores (w.client client).store (idMade w.made) e now with
        failure | ⟨r, tx', stores⟩
      · rfl
      · have named : setNamed name tx'.veil w.veil.transactions = _ :=
          setNamed_map Transaction.veil name tx' w.transactions
        dsimp only [Except.map]
        rw [named]
        rfl

/-- **Most steps are done in the same way behind the veil.** -/
theorem step_veil (w : World) {s : Step} (plain : s.Plain) :
    w.veil.step s.veil = ((w.step s).1.veil, (w.step s).2.veil) := by
  cases s with
  | describe | publish | plan | tick | reap | sweep | start | sleep | join => exact plain.elim
  | enqueue client event =>
    simp only [step, Step.veil]
    rw [enqueueFor_veil]
    rcases (w.enqueueFor client event).1 with _ | _ | _ <;> rfl
  | enqueueIn client name event =>
    simp only [step, Step.veil]
    rw [lookup_veil]
    cases w.transactions.lookup name with
    | none => rfl
    | some tx => exact w.stage_veil client name tx event
  | newStore policy =>
    simp [step, Step.veil, veil, addClient, Answer.veil]
  | cloneStore | policy | advance | setClock => rfl
  | claim client limit worker =>
    simp only [step, Step.veil]
    rw [claimFor_veil]
    rcases (w.claimFor client limit worker).1 with _ | _ | _ <;> rfl
  | markPublished client id =>
    simp only [step, Step.veil]
    rw [markPublishedFor_veil]
    rcases (w.markPublishedFor client id).1 with _ | _ | _ <;> rfl
  | reschedule client id error attempts =>
    simp only [step, Step.veil]
    rw [rescheduleFor_veil]
    rcases (w.rescheduleFor client id error attempts).1 with _ | _ | _ <;> rfl
  | recover client threshold =>
    simp only [step, Step.veil]
    rw [recoverFor_veil]
    rcases (w.recoverFor client threshold).1 with _ | _ | _ <;> rfl
  | purge client threshold =>
    simp only [step, Step.veil]
    rw [purgeFor_veil]
    rcases (w.purgeFor client threshold).1 with _ | _ | _ <;> rfl
  | get client id =>
    simp only [step, Step.veil]
    rw [storeOf_veil, Store.get?_veil]
    rcases (w.storeOf client).get? id with _ | _ <;> rfl
  | exhausted client limit =>
    have same : w.veil.client client = w.client client := rfl
    simp only [step, Step.veil]
    rw [storeOf_veil, same, Store.exhausted_veil]
    cases (w.storeOf client).exhausted (w.client client).policy limit <;> rfl
  | snapshot client =>
    simp only [step, Step.veil]
    rw [storeOf_veil, Store.snapshot_veil]
    cases (w.storeOf client).snapshot <;> rfl
  | size client | isEmpty client =>
    simp only [step, Step.veil]
    rw [storeOf_veil, Store.size_veil]
    cases (w.storeOf client).size <;> rfl
  | begin client name =>
    have named := setNamed_map Transaction.veil name (.on (w.client client).store)
      (w.dropTransaction name).transactions
    simp only [step, Step.veil]
    rw [dropTransaction_veil]
    exact congrArg (fun l => (Answer.nothing,
      { (w.dropTransaction name).veil with transactions := l })) named
  | staged name =>
    simp only [step, Step.veil]
    rw [lookup_veil]
    cases w.transactions.lookup name <;> rfl
  | commit client name =>
    simp only [step, Step.veil]
    rw [lookup_veil]
    cases w.transactions.lookup name with
    | none => rfl
    | some tx =>
      have committed : tx.veil.commit w.veil.stores (w.client client).store = _ :=
        tx.commit_veil w.stores (w.client client).store
      have dropped : dropNamed name w.veil.transactions = _ :=
        dropNamed_map Transaction.veil name w.transactions
      have same : w.veil.client client = w.client client := rfl
      simp only [Option.map_some, same]
      rw [committed, dropped]
      rcases tx.commit w.stores (w.client client).store with ⟨_ | _, stores⟩ <;> rfl
  | rollback name =>
    simp only [step, Step.veil]
    rw [dropTransaction_veil]
    rfl
  | poison client =>
    simp only [step, Step.veil]
    rw [storeOf_veil, Store.poison_veil, setStoreOf_veil]
    rfl
  | newBroker capacity =>
    simp only [step, Step.veil]
    cases made : Broker.ofCapacity capacity with
    | error fault => rfl
    | ok b => simp only [veil, List.map_append, List.map_singleton, Broker.veil_of_ofCapacity made,
        Answer.veil]
  | failNext n =>
    have told := w.setBroker_veil w.currentBroker ((w.broker w.currentBroker).failNext n)
    simp only [step, Step.veil]
    rw [currentBroker_veil, broker_veil]
    exact congrArg (Prod.mk _) told
  | published =>
    simp only [step, Step.veil]
    rw [currentBroker_veil, broker_veil]
    rfl
  | subscribe name =>
    simp only [step, Step.veil]
    rw [currentBroker_veil, broker_veil, Broker.veil, List.length_map]
    rfl
  | receive name =>
    have same : w.veil.subscriptions = w.subscriptions := rfl
    simp only [step, Step.veil]
    rw [same]
    cases w.subscriptions.lookup name with
    | none => rfl
    | some s =>
      have read : (w.broker s.broker).veil.log.length = (w.broker s.broker).log.length :=
        List.length_map ..
      dsimp only
      rw [broker_veil, Broker.receive_veil, read]
      rfl
  | newDispatcher client toBroker worker config =>
    simp only [step, Step.veil]
    rw [currentBroker_veil]
    rfl
  | shutdown name | isShutdown name =>
    have same : w.veil.handles = w.handles := rfl
    simp only [step, Step.veil]
    rw [same]
    cases w.handles.lookup name <;> rfl
  | dropHandle name =>
    simp only [step, Step.veil]
    rw [dropHandle_veil]
    rfl

theorem dropHandle_tasks (w : World) (name : String) : (w.dropHandle name).tasks = w.tasks := by
  unfold dropHandle
  split
  · rfl
  · rfl

/-- A step beside the tasks leaves them alone, unless it waits. -/
theorem tasks_of_beside (w : World) {s : Step} (beside : s.Beside)
    (awake : ∀ millis, s ≠ .sleep millis) : (w.step s).2.tasks = w.tasks :=
  (w.step_undisturbed beside awake).tasks

/-- A plain step leaves the tasks alone. -/
theorem step_tasks (w : World) {s : Step} (plain : s.Plain) : (w.step s).2.tasks = w.tasks := by
  cases s with
  | describe | publish | plan | tick | reap | sweep | start | sleep | join => exact plain.elim
  | advance | setClock => rfl
  | shutdown name =>
    simp only [step]
    split
    · rfl
    · rfl
  | dropHandle name => exact w.dropHandle_tasks name
  | _ => exact w.tasks_of_beside trivial fun _ h => by cases h

variable {w₁ w₂ : World}

def SameAnswer (a₁ a₂ : Answer) : Prop := a₁.veil = a₂.veil

/-- **A plain step answers alike** in alike worlds, and leaves them alike. -/
theorem Alike.plain_step (worlds : w₁.Alike w₂) {s₁ s₂ : Step} (plain₁ : s₁.Plain)
    (plain₂ : s₂.Plain) (same : s₁.veil = s₂.veil) :
    Related SameAnswer (w₁.step s₁) (w₂.step s₂) := by
  have both := w₁.step_veil plain₁
  rw [worlds.veil, same, w₂.step_veil plain₂] at both
  refine ⟨(congrArg Prod.fst both).symm, (congrArg Prod.snd both).symm, ?_⟩
  rw [w₁.step_tasks plain₁, w₂.step_tasks plain₂]
  exact worlds.tasks

theorem Alike.publish (worlds : w₁.Alike w₂) (toBroker : Bool) {m₁ m₂ : Message}
    (same : m₁.veil = m₂.veil) :
    Related SameAnswer (w₁.step (.publish toBroker m₁)) (w₂.step (.publish toBroker m₂)) := by
  have current : w₁.currentBroker = w₂.currentBroker := by
    rw [← currentBroker_veil, worlds.veil, currentBroker_veil]
  obtain ⟨outcome, rest⟩ := publishTo_same
    (if toBroker then .broker w₂.currentBroker else .journal) worlds.veil same
  have alike := worlds.of_makes (publishTo_makes ..) (publishTo_makes ..) rest
  simp only [World.step]
  rw [current]
  generalize publishTo w₁ _ m₁ = x₁ at outcome alike ⊢
  generalize publishTo w₂ _ m₂ = x₂ at outcome alike ⊢
  obtain ⟨outcome₁, v₁⟩ := x₁
  obtain ⟨outcome₂, v₂⟩ := x₂
  obtain rfl : outcome₁ = outcome₂ := outcome
  rcases outcome₁ with (_ | _) | _ <;> exact ⟨rfl, alike⟩

theorem Alike.runRoundOf {α : Type} (worlds : w₁.Alike w₂) (n : Nat) (round : Agent → Action α)
    (f : α → Answer) (same : ∀ a, (round a).Alike (round a)) :
    Related SameAnswer (w₁.runRoundOf n round f) (w₂.runRoundOf n round f) := by
  obtain ⟨result, rest⟩ := run_alike n (same (w₂.agent n)) worlds
  unfold World.runRoundOf
  rw [worlds.agent]
  generalize run n _ w₁ = x₁ at result rest ⊢
  generalize run n _ w₂ = x₂ at result rest ⊢
  obtain ⟨result₁, v₁⟩ := x₁
  obtain ⟨result₂, v₂⟩ := x₂
  obtain rfl : result₁ = result₂ := result
  cases result₁ <;> exact ⟨rfl, rest⟩

theorem Alike.startLoops (worlds : w₁.Alike w₂) (n : Nat) (name : String) :
    (w₁.startLoops n name).Alike (w₂.startLoops n name) := by
  have dropped : (w₁.dropHandle name).Alike (w₂.dropHandle name) := by
    refine ⟨by rw [← dropHandle_veil, worlds.veil, dropHandle_veil], ?_⟩
    rw [dropHandle_tasks, dropHandle_tasks]
    exact worlds.tasks
  have agent := dropped.agent n
  unfold World.startLoops
  rw [worlds.tokens, worlds.tasks.length_eq]
  generalize w₁.dropHandle name = u₁ at *
  generalize w₂.dropHandle name = u₂ at *
  have fresh (loop : Loop) : Task.Alike ⟨n, w₂.tokens.length, loop, .scheduled⟩
      ⟨n, w₂.tokens.length, loop, .scheduled⟩ := ⟨rfl, rfl, rfl, .scheduled⟩
  have tasks := List.rel_append dropped.tasks
    (.cons (fresh .tick) (.cons (fresh .reap) (.cons (fresh .purge) .nil)))
  have begun (handle : Handle) : World.Alike
      { u₁ with
        tokens := u₁.tokens ++ [false]
        tasks := u₁.tasks ++ _
        handles := setNamed name handle u₁.handles }
      { u₂ with
        tokens := u₂.tokens ++ [false]
        tasks := u₂.tasks ++ _
        handles := setNamed name handle u₂.handles } :=
    ⟨congrArg (fun v : World => { v with
      tokens := v.tokens ++ [false]
      handles := setNamed name handle v.handles }) dropped.veil, tasks⟩
  change (World.note _ (Dispatcher.started (u₁.agent n).worker)).Alike
    (World.note _ (Dispatcher.started (u₂.agent n).worker))
  rw [agent]
  exact (begun _).note _

theorem Alike.join (worlds : w₁.Alike w₂) (name : String) :
    Related SameAnswer (w₁.step (.join name)) (w₂.step (.join name)) := by
  have each (tasks : List Nat) : ∀ {v₁ v₂ : World}, v₁.Alike v₂ →
      (tasks.foldl World.joinTask v₁).Alike (tasks.foldl World.joinTask v₂) := by
    induction tasks with
    | nil => exact fun same => same
    | cons task rest ih => exact fun same => ih (same.joinTask task)
  simp only [World.step]
  rw [worlds.handles]
  cases w₂.handles.lookup name with
  | none => exact ⟨rfl, worlds⟩
  | some handle =>
    have dropped : World.Alike { w₁ with handles := dropNamed name w₂.handles }
        { w₂ with handles := dropNamed name w₂.handles } :=
      ⟨congrArg (fun v : World => { v with handles := dropNamed name w₂.handles }) worlds.veil,
        worlds.tasks⟩
    have joined := each handle.tasks dropped
    exact ⟨rfl, congrArg (World.cancel · handle.token) joined.veil, joined.tasks⟩

theorem Alike.describe (worlds : w₁.Alike w₂) (name : String) :
    Related SameAnswer (w₁.step (.describe name)) (w₂.step (.describe name)) := by
  have found : (w₁.transactions.lookup name).map Transaction.veil =
      (w₂.transactions.lookup name).map Transaction.veil := by
    rw [← lookup_veil, worlds.veil, lookup_veil]
  simp only [World.step]
  generalize w₁.transactions.lookup name = tx₁ at found ⊢
  generalize w₂.transactions.lookup name = tx₂ at found ⊢
  cases tx₁ <;> cases tx₂
  · exact ⟨rfl, worlds⟩
  · cases found
  · cases found
  · exact ⟨rfl, worlds⟩

/-- **Steps that differ in payloads only lead from alike worlds to alike worlds**, and their answers
are the same behind the veil. -/
theorem Alike.step (worlds : w₁.Alike w₂) {s₁ s₂ : Step} (same : s₁.Alike s₂) :
    Related SameAnswer (w₁.step s₁) (w₂.step s₂) := by
  cases same with
  | enqueue client same =>
    exact worlds.plain_step trivial trivial (congrArg (Step.enqueue client) same)
  | enqueueIn client name same =>
    exact worlds.plain_step trivial trivial (congrArg (Step.enqueueIn client name) same)
  | publish toBroker same => exact worlds.publish toBroker same
  | plan same =>
    have plans := same w₁.plans w₂.plans (show w₁.veil.plans = w₂.veil.plans by rw [worlds.veil])
    exact ⟨rfl, congrArg₂ (fun (v : World) p => { v with plans := p }) worlds.veil plans,
      worlds.tasks⟩
  | other unplanned =>
    cases s₁ with
    | publish toBroker m => exact worlds.publish toBroker rfl
    | describe name => exact worlds.describe name
    | plan change => exact absurd rfl (unplanned change)
    | tick n => exact worlds.runRoundOf n _ _ fun _ => Dispatcher.tick_alike ..
    | reap n => exact worlds.runRoundOf n _ _ fun _ => Dispatcher.reap_alike _
    | sweep n => exact worlds.runRoundOf n _ _ fun _ => Dispatcher.purge_alike _
    | start n name => exact ⟨rfl, worlds.startLoops n name⟩
    | sleep millis =>
      simp only [World.step]
      rw [worlds.elapsed]
      exact ⟨rfl, worlds.waitUntil _⟩
    | join name => exact worlds.join name
    | _ => exact worlds.plain_step trivial trivial rfl

/-! ## Runs -/

/-- The answers to steps that are done one after the other. -/
def answers (w : World) : List Step → List Answer
  | [] => []
  | s :: rest => (w.step s).1 :: (w.step s).2.answers rest

/-- The answers to steps that differ in payloads only are the same behind the veil, and the worlds
are alike after them. -/
theorem Alike.answers (worlds : w₁.Alike w₂) {steps₁ steps₂ : List Step}
    (same : List.Forall₂ Step.Alike steps₁ steps₂) :
    (w₁.answers steps₁).map Answer.veil = (w₂.answers steps₂).map Answer.veil ∧
      (w₁.after steps₁).Alike (w₂.after steps₂) := by
  induction same generalizing w₁ w₂ with
  | nil => exact ⟨rfl, worlds⟩
  | cons first rest ih =>
    obtain ⟨answer, worlds⟩ := worlds.step first
    obtain ⟨answers, worlds⟩ := ih worlds
    exact ⟨congrArg₂ List.cons answer answers, worlds⟩

/-- **Payloads are opaque.** When the same is done in two worlds of memory stores, memory brokers
and dispatchers, but for the payloads, then the answers are the same but for the payloads in them,
and so is what is stored, staged, published, noted and called in the end. -/
theorem answers_alike (now : Instant) (policy : Policy) {steps₁ steps₂ : List Step}
    (same : List.Forall₂ Step.Alike steps₁ steps₂) :
    ((start now policy).answers steps₁).map Answer.veil =
        ((start now policy).answers steps₂).map Answer.veil ∧
      ((start now policy).after steps₁).veil = ((start now policy).after steps₂).veil := by
  have begun : (start now policy).Alike (start now policy) := ⟨rfl, .nil⟩
  obtain ⟨answers, worlds⟩ := begun.answers same
  exact ⟨answers, worlds.veil⟩

def errand (payload : Json) : List Step :=
  [.enqueue 0 { Event.brief none with payload := payload },
    .newDispatcher 0 true "w" .default, .tick 0, .published]

/-- Two payloads are delivered in the same way, each as it is. -/
theorem answers_alike_errand :
    let told (payload : Json) := (start .epoch .default).answers (errand payload)
    (told (.str "a")).map Answer.veil = (told (.int 7)).map Answer.veil ∧
      (∃ m, (told (.str "a"))[3]? = some (.messages [m]) ∧ m.envelope.payload = .str "a") ∧
      ∃ m, (told (.int 7))[3]? = some (.messages [m]) ∧ m.envelope.payload = .int 7 := by
  have same : List.Forall₂ Step.Alike (errand (.str "a")) (errand (.int 7)) := by
    refine .cons (.enqueue 0 (Event.veil_of_payload _ rfl rfl))
      (.cons ?_ (.cons ?_ (.cons ?_ .nil)))
    all_goals exact .other fun _ h => by cases h
  exact ⟨(answers_alike .epoch .default same).1, ⟨_, rfl, rfl⟩, ⟨_, rfl, rfl⟩⟩

end World
end EventRelay.Simulation
