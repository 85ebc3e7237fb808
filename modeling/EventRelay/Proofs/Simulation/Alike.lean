import EventRelay.Proofs.Simulation.Running
import EventRelay.Proofs.Simulation.Veil
import EventRelay.Proofs.Simulation.Waiting

/-!
# Worlds that differ in payloads

Two worlds are alike if they are the same behind the veil and their tasks have the same to do, but
for the payloads in it (`World.Alike`). What is left of a round depends on the answers that it will
get, so that it is compared as a function: alike answers lead to alike calls (`Action.Alike`). Alike
worlds stay alike whatever their tasks do, and do it at the same moments.
-/

namespace EventRelay

/-! ## Calls -/

/-- Two sequences of calls are the same but for payloads, as long as the answers are. -/
inductive Action.Alike {α : Type} : Action α → Action α → Prop where
  | done (a : α) : Alike (.done a) (.done a)
  | note (entry : Journal.Entry) {next₁ next₂ : Action α} (h : Alike next₁ next₂) :
    Alike (.note entry next₁) (.note entry next₂)
  | claimBatch (limit : Nat) (worker : String)
    {next₁ next₂ : Except Failure (List Record) → Action α}
    (h : ∀ a₁ a₂, a₁.map (List.map Record.veil) = a₂.map (List.map Record.veil) →
      Alike (next₁ a₁) (next₂ a₂)) :
    Alike (.claimBatch limit worker next₁) (.claimBatch limit worker next₂)
  | publish {m₁ m₂ : Message} (message : m₁.veil = m₂.veil) (timeout : Duration)
    {next₁ next₂ : Except Undelivered Unit → Action α}
    (h : ∀ outcome, Alike (next₁ outcome) (next₂ outcome)) :
    Alike (.publish m₁ timeout next₁) (.publish m₂ timeout next₂)
  | markPublished (id : Uuid) {next₁ next₂ : Except Failure Unit → Action α}
    (h : ∀ a, Alike (next₁ a) (next₂ a)) :
    Alike (.markPublished id next₁) (.markPublished id next₂)
  | reschedule (id : Uuid) (error : String) (attempts : UInt32)
    {next₁ next₂ : Except Failure Unit → Action α} (h : ∀ a, Alike (next₁ a) (next₂ a)) :
    Alike (.reschedule id error attempts next₁) (.reschedule id error attempts next₂)
  | recoverStuck (threshold : Duration) {next₁ next₂ : Except Failure Nat → Action α}
    (h : ∀ a, Alike (next₁ a) (next₂ a)) :
    Alike (.recoverStuck threshold next₁) (.recoverStuck threshold next₂)
  | purgePublished (retention : Duration) {next₁ next₂ : Except Failure Nat → Action α}
    (h : ∀ a, Alike (next₁ a) (next₂ a)) :
    Alike (.purgePublished retention next₁) (.purgePublished retention next₂)

/-- Actions that go the same way can be continued, if what follows goes the same way as well. -/
theorem Action.Alike.andThen {α β : Type} {a₁ a₂ : Action α} {f₁ f₂ : α → Action β}
    (h : a₁.Alike a₂) (then_alike : ∀ x, (f₁ x).Alike (f₂ x)) :
    (a₁.andThen f₁).Alike (a₂.andThen f₂) := by
  induction h with
  | done a => exact then_alike a
  | note entry h ih => exact .note entry ih
  | claimBatch limit worker h ih => exact .claimBatch limit worker fun a₁ a₂ same => ih a₁ a₂ same
  | publish message timeout h ih => exact .publish message timeout ih
  | markPublished id h ih => exact .markPublished id ih
  | reschedule id error attempts h ih => exact .reschedule id error attempts ih
  | recoverStuck threshold h ih => exact .recoverStuck threshold ih
  | purgePublished retention h ih => exact .purgePublished retention ih

namespace Dispatcher
variable {config : DispatcherConfig}

/-- A delivery goes the same way for records that differ in their payloads only. -/
theorem deliver_alike {r₁ r₂ : Record} (h : r₁.veil = r₂.veil) :
    (deliver config r₁).Alike (deliver config r₂) := by
  have message : r₁.message.veil = r₂.message.veil := congrArg Record.message h
  have id : r₁.id = r₂.id := show r₁.veil.id = r₂.veil.id by rw [h]
  unfold deliver
  rw [id]
  refine .publish message _ fun outcome => ?_
  cases outcome with
  | error e => exact .note _ (.done _)
  | ok =>
    refine .markPublished _ fun a => ?_
    cases a with
    | error e => exact .note _ (.done _)
    | ok => exact .done _

theorem settle_alike {r₁ r₂ : Record} (h : r₁.veil = r₂.veil) (report : TickReport) :
    (settle config r₁ report).Alike (settle config r₂ report) := by
  have id : r₁.id = r₂.id := show r₁.veil.id = r₂.veil.id by rw [h]
  have attempts : r₁.attempts = r₂.attempts := show r₁.veil.attempts = r₂.veil.attempts by rw [h]
  unfold settle
  rw [id, attempts]
  refine (deliver_alike h).andThen fun reason => ?_
  cases reason with
  | none => exact .done _
  | some reason =>
    refine .reschedule _ _ _ fun a => ?_
    cases a with
    | error e => exact .note _ (.done _)
    | ok => exact .done _

theorem settleAll_alike {rs₁ rs₂ : List Record} (h : rs₁.map Record.veil = rs₂.map Record.veil)
    (report : TickReport) : (settleAll config rs₁ report).Alike (settleAll config rs₂ report) := by
  induction rs₁ generalizing rs₂ report with
  | nil =>
    obtain rfl := List.map_eq_nil_iff.1 h.symm
    exact .done report
  | cons r₁ rest₁ ih =>
    obtain ⟨r₂, rest₂, rfl, hr, hrest⟩ := List.map_eq_cons_iff.1 h.symm
    exact (settle_alike hr.symm report).andThen (ih hrest.symm)

/-- **A tick depends on payloads only in the messages that it publishes.** -/
theorem tick_alike (config : DispatcherConfig) (worker : String) :
    (tick config worker).Alike (tick config worker) := by
  refine .claimBatch _ worker fun a₁ a₂ same => ?_
  rcases a₁ with failure | rs₁ <;> rcases a₂ with failure' | rs₂
  · cases same
    exact .note _ (.done _)
  · cases same
  · cases same
  · have same : rs₁.map Record.veil = rs₂.map Record.veil := Except.ok.inj same
    have length : rs₁.length = rs₂.length := by simpa using congrArg List.length same
    rcases rs₁ with _ | ⟨r₁, rest₁⟩ <;> rcases rs₂ with _ | ⟨r₂, rest₂⟩
    · exact .done _
    · cases same
    · cases same
    · dsimp only
      rw [length]
      exact (settleAll_alike same _).andThen fun report => .note _ (.done report)

/-- What becomes of the answer to a call of upkeep reads no payload. -/
theorem upkeep_alike (message field failed : String) (answer : Except Failure Nat) :
    (upkeep message field failed answer).Alike (upkeep message field failed answer) := by
  rcases answer with e | (_ | k)
  · exact .note _ (.done _)
  · exact .done _
  · exact .note _ (.done _)

theorem reap_alike (config : DispatcherConfig) : (reap config).Alike (reap config) :=
  .recoverStuck _ fun _ => upkeep_alike ..

theorem purge_alike (config : DispatcherConfig) : (purge config).Alike (purge config) :=
  .purgePublished _ fun _ => upkeep_alike ..

end Dispatcher

namespace Simulation

/-! ## Tasks and worlds -/

/-- What is left of a round differs in payloads only. -/
inductive Progress.Alike : Progress → Progress → Prop where
  | finished : Alike .finished .finished
  | panicked (message : String) : Alike (.panicked message) (.panicked message)
  | publishing (wake : Nat) {m₁ m₂ : Message} (same : m₁.veil = m₂.veil)
    (plan : Option PublishPlan) {next₁ next₂ : Except Undelivered Unit → Action Unit}
    (h : ∀ outcome, (next₁ outcome).Alike (next₂ outcome)) :
    Alike (.publishing wake m₁ plan next₁) (.publishing wake m₂ plan next₂)

/-- What two tasks are doing differs in payloads only. -/
inductive Activity.Alike : Activity → Activity → Prop where
  | scheduled : Alike .scheduled .scheduled
  | waiting (due : Nat) : Alike (.waiting due) (.waiting due)
  | publishing (wake : Nat) {m₁ m₂ : Message} (same : m₁.veil = m₂.veil)
    (plan : Option PublishPlan) {next₁ next₂ : Except Undelivered Unit → Action Unit}
    (h : ∀ outcome, (next₁ outcome).Alike (next₂ outcome)) (due : Nat) :
    Alike (.publishing wake m₁ plan next₁ due) (.publishing wake m₂ plan next₂ due)
  | ended : Alike .ended .ended
  | panicked (message : String) : Alike (.panicked message) (.panicked message)

/-- Two tasks differ in payloads only. -/
structure Task.Alike (t₁ t₂ : Task) : Prop where
  agent : t₁.agent = t₂.agent
  token : t₁.token = t₂.token
  loop : t₁.loop = t₂.loop
  activity : t₁.activity.Alike t₂.activity

/-- **Two worlds differ in payloads only**, and whether those are null is the same. -/
structure World.Alike (w₁ w₂ : World) : Prop where
  veil : w₁.veil = w₂.veil
  tasks : List.Forall₂ Task.Alike w₁.tasks w₂.tasks

namespace World.Alike
variable {w₁ w₂ : World}

section
variable (h : w₁.Alike w₂)
include h

theorem clock : w₁.clock = w₂.clock := show w₁.veil.clock = w₂.veil.clock by rw [h.veil]
theorem elapsed : w₁.elapsed = w₂.elapsed :=
  show w₁.veil.elapsed = w₂.veil.elapsed by rw [h.veil]
theorem agents : w₁.agents = w₂.agents := show w₁.veil.agents = w₂.veil.agents by rw [h.veil]
theorem tokens : w₁.tokens = w₂.tokens := show w₁.veil.tokens = w₂.veil.tokens by rw [h.veil]
theorem handles : w₁.handles = w₂.handles :=
  show w₁.veil.handles = w₂.veil.handles by rw [h.veil]

theorem agent (n : Nat) : w₁.agent n = w₂.agent n := by
  rw [World.agent, World.agent, h.agents]

theorem cancelled (token : Nat) : w₁.cancelled token = w₂.cancelled token := by
  rw [World.cancelled, World.cancelled, h.tokens]

theorem note (entry : Journal.Entry) : (w₁.note entry).Alike (w₂.note entry) :=
  ⟨by rw [note_veil, note_veil, h.veil], h.tasks⟩

/-- What makes alike worlds the same behind the veil and does not touch the tasks keeps them
alike. -/
theorem of_makes {v₁ v₂ : World} {made₁ made₂ : List Call} (makes₁ : Makes w₁ v₁ made₁)
    (makes₂ : Makes w₂ v₂ made₂) (same : v₁.veil = v₂.veil) : v₁.Alike v₂ :=
  ⟨same, by rw [makes₁.tasks, makes₂.tasks]; exact h.tasks⟩

end

/-- What is done in the same way behind the veil, and does not touch the tasks. -/
theorem call {β : Type} {f : World → β × World} {g : β → β} (h : w₁.Alike w₂)
    (veiled : ∀ w : World, f w.veil = (g (f w).1, (f w).2.veil))
    (tasks : ∀ w : World, (f w).2.tasks = w.tasks) :
    g (f w₁).1 = g (f w₂).1 ∧ (f w₁).2.Alike (f w₂).2 := by
  have both := veiled w₁
  rw [h.veil, veiled w₂] at both
  exact ⟨(congrArg Prod.fst both).symm, (congrArg Prod.snd both).symm,
    by rw [tasks, tasks]; exact h.tasks⟩

section
variable (h : w₁.Alike w₂) (n : Nat)
include h

/-- A claim hands out the same records behind the veil. -/
theorem claimBatch (limit : Nat) (worker : String) :
    (w₁.claimBatch n limit worker).1.map (Except.map (List.map Record.veil)) =
        (w₂.claimBatch n limit worker).1.map (Except.map (List.map Record.veil)) ∧
      (w₁.claimBatch n limit worker).2.Alike (w₂.claimBatch n limit worker).2 :=
  h.call (claimBatch_veil · n limit worker) fun w => (w.claimBatch_makes n limit worker).tasks

theorem markPublished (id : Uuid) :
    (w₁.markPublished n id).1 = (w₂.markPublished n id).1 ∧
      (w₁.markPublished n id).2.Alike (w₂.markPublished n id).2 :=
  h.call (g := fun x => x) (markPublished_veil · n id) fun w => (w.markPublished_makes n id).tasks

theorem reschedule (id : Uuid) (error : String) (attempts : UInt32) :
    (w₁.reschedule n id error attempts).1 = (w₂.reschedule n id error attempts).1 ∧
      (w₁.reschedule n id error attempts).2.Alike (w₂.reschedule n id error attempts).2 :=
  h.call (g := fun x => x) (reschedule_veil · n id error attempts)
    fun w => (w.reschedule_makes n id error attempts).tasks

theorem recoverStuck (threshold : Duration) :
    (w₁.recoverStuck n threshold).1 = (w₂.recoverStuck n threshold).1 ∧
      (w₁.recoverStuck n threshold).2.Alike (w₂.recoverStuck n threshold).2 :=
  h.call (g := fun x => x) (recoverStuck_veil · n threshold)
    fun w => (w.recoverStuck_makes n threshold).tasks

theorem purgePublished (retention : Duration) :
    (w₁.purgePublished n retention).1 = (w₂.purgePublished n retention).1 ∧
      (w₁.purgePublished n retention).2.Alike (w₂.purgePublished n retention).2 :=
  h.call (g := fun x => x) (purgePublished_veil · n retention)
    fun w => (w.purgePublished_makes n retention).tasks

end

/-- How an attempt ends and when is a matter of the plans, not of the payload. -/
theorem beginPublish (h : w₁.Alike w₂) {m₁ m₂ : Message} (same : m₁.veil = m₂.veil)
    (timeout : Duration) :
    (w₁.beginPublish m₁ timeout).1 = (w₂.beginPublish m₂ timeout).1 ∧
      (w₁.beginPublish m₁ timeout).2.Alike (w₂.beginPublish m₂ timeout).2 := by
  have both := w₁.beginPublish_veil m₁ timeout
  rw [h.veil, same, beginPublish_veil] at both
  exact ⟨(congrArg Prod.fst both).symm, h.of_makes (beginPublish_makes ..)
    (beginPublish_makes ..) (congrArg Prod.snd both).symm⟩

theorem endPublish (h : w₁.Alike w₂) {m₁ m₂ : Message} (same : m₁.veil = m₂.veil) (n : Nat)
    (plan : Option PublishPlan) :
    (w₁.endPublish n m₁ plan).1 = (w₂.endPublish n m₂ plan).1 ∧
      (w₁.endPublish n m₁ plan).2.Alike (w₂.endPublish n m₂ plan).2 := by
  obtain ⟨outcome, rest⟩ := endPublish_same n plan h.veil same
  exact ⟨outcome, h.of_makes (endPublish_makes ..) (endPublish_makes ..) rest⟩

end World.Alike

/-! ## Rounds -/

/-- Two results are related, and the worlds that they leave are alike. -/
def World.Related {β : Type} (R : β → β → Prop) (x₁ x₂ : β × World) : Prop :=
  R x₁.1 x₂.1 ∧ x₁.2.Alike x₂.2

section
variable {β γ : Type} {R : β → β → Prop}

/-- Two rounds go on with an answer that is the same in both. -/
theorem goOn_same {ε : Type} {broken : ε → β} {x₁ x₂ : Except ε γ × World}
    {next₁ next₂ : γ → World → β × World} (breaks : ∀ fault, R (broken fault) (broken fault))
    (answer : x₁.1 = x₂.1) (worlds : x₁.2.Alike x₂.2)
    (next : ∀ a v₁ v₂, World.Alike v₁ v₂ → World.Related R (next₁ a v₁) (next₂ a v₂)) :
    World.Related R (World.goOn broken next₁ x₁) (World.goOn broken next₂ x₂) := by
  obtain ⟨a₁, v₁⟩ := x₁
  obtain ⟨a₂, v₂⟩ := x₂
  obtain rfl : a₁ = a₂ := answer
  cases a₁ with
  | error fault => exact ⟨breaks _, worlds⟩
  | ok a => exact next a v₁ v₂ worlds

/-- Two rounds go on with answers that are the same behind the veil. -/
theorem goOn_alike {broken : ClockFault → β} {x₁ x₂ : Ending γ × World}
    {next₁ next₂ : Except Failure γ → World → β × World} {g : γ → γ}
    (breaks : ∀ fault, R (broken fault) (broken fault))
    (answers : x₁.1.map (Except.map g) = x₂.1.map (Except.map g)) (worlds : x₁.2.Alike x₂.2)
    (next : ∀ a₁ a₂ v₁ v₂, a₁.map g = a₂.map g → World.Alike v₁ v₂ →
      World.Related R (next₁ a₁ v₁) (next₂ a₂ v₂)) :
    World.Related R (World.goOn broken next₁ x₁) (World.goOn broken next₂ x₂) := by
  obtain ⟨fault₁ | a₁, v₁⟩ := x₁ <;> obtain ⟨fault₂ | a₂, v₂⟩ := x₂
  · obtain rfl := Except.error.inj answers
    exact ⟨breaks _, worlds⟩
  · cases answers
  · cases answers
  · exact next a₁ a₂ v₁ v₂ (Except.ok.inj answers) worlds

end

/-- A conduct comes to related results in alike worlds if what is left after a publication does. -/
structure Conduct.Uniform {α β : Type} (c : Conduct α β) (R : β → β → Prop) : Prop where
  finished : ∀ a, R (c.finished a) (c.finished a)
  broken : ∀ message, R (c.broken message) (c.broken message)
  publish : ∀ {m₁ m₂ : Message} (_ : m₁.veil = m₂.veil) (timeout : Duration)
    {next₁ next₂ : Except Undelivered Unit → Action α}
    (_ : ∀ outcome, (next₁ outcome).Alike (next₂ outcome))
    {goesOn₁ goesOn₂ : Except Undelivered Unit → World → β × World}
    (_ : ∀ outcome v₁ v₂, World.Alike v₁ v₂ →
      World.Related R (goesOn₁ outcome v₁) (goesOn₂ outcome v₂))
    {w₁ w₂ : World} (_ : w₁.Alike w₂),
    World.Related R (c.publish m₁ timeout next₁ goesOn₁ w₁) (c.publish m₂ timeout next₂ goesOn₂ w₂)

namespace World
variable {w₁ w₂ : World}

/-- **Calls come to the same in alike worlds**, whoever has them made. -/
theorem carryOut_alike {α β : Type} {c : Conduct α β} {R : β → β → Prop} (uniform : c.Uniform R)
    (n : Nat) {a₁ a₂ : Action α} (h : a₁.Alike a₂) (worlds : w₁.Alike w₂) :
    Related R (carryOut n c a₁ w₁) (carryOut n c a₂ w₂) := by
  induction h generalizing w₁ w₂ with
  | done a => exact ⟨uniform.finished a, worlds⟩
  | note entry h ih => exact ih (worlds.note entry)
  | claimBatch limit worker h ih =>
    obtain ⟨answers, worlds⟩ := worlds.claimBatch n limit worker
    exact goOn_alike (fun _ => uniform.broken _) answers worlds
      fun a₁ a₂ _ _ same worlds => ih a₁ a₂ same worlds
  | markPublished id h ih =>
    obtain ⟨answer, worlds⟩ := worlds.markPublished n id
    exact goOn_same (fun _ => uniform.broken _) answer worlds fun a _ _ worlds => ih a worlds
  | reschedule id error attempts h ih =>
    obtain ⟨answer, worlds⟩ := worlds.reschedule n id error attempts
    exact goOn_same (fun _ => uniform.broken _) answer worlds fun a _ _ worlds => ih a worlds
  | recoverStuck threshold h ih =>
    obtain ⟨answer, worlds⟩ := worlds.recoverStuck n threshold
    exact goOn_same (fun _ => uniform.broken _) answer worlds fun a _ _ worlds => ih a worlds
  | purgePublished retention h ih =>
    obtain ⟨answer, worlds⟩ := worlds.purgePublished n retention
    exact goOn_same (fun _ => uniform.broken _) answer worlds fun a _ _ worlds => ih a worlds
  | publish message timeout h ih =>
    exact uniform.publish message timeout h (fun outcome _ _ worlds => ih outcome worlds) worlds

/-- **A round does the same in alike worlds.** -/
theorem perform_alike (n : Nat) {a₁ a₂ : Action Unit} (h : a₁.Alike a₂) (worlds : w₁.Alike w₂) :
    Related Progress.Alike (perform n a₁ w₁) (perform n a₂ w₂) := by
  refine carryOut_alike ⟨fun _ => .finished, .panicked, ?_⟩ n h worlds
  intro m₁ m₂ message timeout next₁ next₂ h goesOn₁ goesOn₂ ih w₁ w₂ worlds
  obtain ⟨attempt, worlds⟩ := worlds.beginPublish message timeout
  simp only [untilWaiting, attempt, worlds.elapsed]
  split
  · obtain ⟨outcome, worlds⟩ := worlds.endPublish message n _
    exact goOn_same .panicked outcome worlds ih
  · exact ⟨.publishing _ message _ h, worlds⟩

/-- A round of any loop goes the same way in alike worlds. -/
theorem round_alike (worlds : w₁.Alike w₂) (n : Nat) (loop : Loop) :
    (w₁.round n loop).Alike (w₂.round n loop) := by
  have same : w₁.round n loop = w₂.round n loop := by
    cases loop <;> simp only [round, worlds.agent n]
  rw [same]
  cases loop with
  | tick => exact (Dispatcher.tick_alike ..).andThen fun _ => .done ()
  | reap => exact (Dispatcher.reap_alike _).andThen fun _ => .done ()
  | purge => exact (Dispatcher.purge_alike _).andThen fun _ => .done ()

/-! ## Tasks go on -/

theorem forall₂_modify {α : Type} {R : α → α → Prop} {l₁ l₂ : List α} {f g : α → α}
    (h : List.Forall₂ R l₁ l₂) (keeps : ∀ a b, R a b → R (f a) (g b)) (n : Nat) :
    List.Forall₂ R (l₁.modify n f) (l₂.modify n g) := by
  induction h generalizing n with
  | nil => cases n <;> exact .nil
  | cons head tail ih =>
    cases n with
    | zero => exact .cons (keeps _ _ head) tail
    | succ n => exact .cons head (ih n)

theorem Alike.setActivity (worlds : w₁.Alike w₂) (n : Nat) {a₁ a₂ : Activity}
    (same : a₁.Alike a₂) : (w₁.setActivity n a₁).Alike (w₂.setActivity n a₂) := by
  have keeps (t₁ t₂ : Task) (task : t₁.Alike t₂) :
      Task.Alike { t₁ with activity := a₁ } { t₂ with activity := a₂ } :=
    ⟨task.agent, task.token, task.loop, same⟩
  exact ⟨worlds.veil, forall₂_modify worlds.tasks keeps n⟩

theorem Alike.afterProgress {x₁ x₂ : Progress × World} (h : Related Progress.Alike x₁ x₂)
    (n due : Nat) : (World.afterProgress n due x₁).Alike (World.afterProgress n due x₂) := by
  obtain ⟨p₁, v₁⟩ := x₁
  obtain ⟨p₂, v₂⟩ := x₂
  obtain ⟨progress, worlds⟩ := h
  cases progress with
  | finished => exact worlds.setActivity n (.waiting due)
  | panicked message => exact worlds.setActivity n (.panicked message)
  | publishing wake same plan h => exact worlds.setActivity n (.publishing wake same plan h due)

theorem Alike.runRound (worlds : w₁.Alike w₂) (n : Nat) {t₁ t₂ : Task} (task : t₁.Alike t₂)
    (due : Nat) : (w₁.runRound n t₁ due).Alike (w₂.runRound n t₂ due) := by
  unfold World.runRound
  rw [task.agent, task.loop, worlds.agent, nanosElapsed, nanosElapsed, worlds.elapsed]
  exact Alike.afterProgress (perform_alike _ (round_alike worlds _ _) worlds) _ _

/-- **A task that goes on does the same in alike worlds.** -/
theorem Alike.resume (worlds : w₁.Alike w₂) (n : Nat) {t₁ t₂ : Task} (task : t₁.Alike t₂) :
    (w₁.resume n t₁).Alike (w₂.resume n t₂) := by
  have same := task.activity
  unfold World.resume
  rw [task.token, worlds.cancelled, task.agent]
  generalize h₁ : t₁.activity = a₁ at same
  generalize h₂ : t₂.activity = a₂ at same
  cases same with
  | scheduled =>
    dsimp only
    split
    · exact worlds.setActivity n .ended
    · rw [nanosElapsed, nanosElapsed, worlds.elapsed]
      exact worlds.runRound n task _
  | waiting due =>
    dsimp only
    split
    · exact worlds.setActivity n .ended
    · exact worlds.runRound n task due
  | publishing wake message plan h due =>
    obtain ⟨outcome, worlds⟩ := worlds.endPublish message t₂.agent plan
    dsimp only
    generalize w₁.endPublish t₂.agent _ plan = x₁ at outcome worlds ⊢
    generalize w₂.endPublish t₂.agent _ plan = x₂ at outcome worlds ⊢
    obtain ⟨a₁, v₁⟩ := x₁
    obtain ⟨a₂, v₂⟩ := x₂
    obtain rfl : a₁ = a₂ := outcome
    cases a₁ with
    | error message => exact worlds.setActivity n (.panicked message)
    | ok outcome => exact Alike.afterProgress (perform_alike _ (h outcome) worlds) n due
  | ended => exact worlds
  | panicked message => exact worlds

/-! ## Waiting -/

/-- When a task wakes does not depend on a payload. -/
theorem Alike.wakeTime? (worlds : w₁.Alike w₂) {t₁ t₂ : Task} (task : t₁.Alike t₂) :
    w₁.wakeTime? t₁ = w₂.wakeTime? t₂ := by
  have same := task.activity
  unfold World.wakeTime?
  rw [task.token, worlds.cancelled, worlds.elapsed]
  generalize t₁.activity = a₁ at same ⊢
  generalize t₂.activity = a₂ at same ⊢
  cases same <;> rfl

def SameCandidate (c₁ c₂ : Nat × Task × Nat) : Prop :=
  c₁.1 = c₂.1 ∧ c₁.2.1.Alike c₂.2.1 ∧ c₁.2.2 = c₂.2.2

theorem Alike.candidates (worlds : w₁.Alike w₂) :
    List.Forall₂ SameCandidate w₁.candidates w₂.candidates := by
  have tasks := worlds.tasks
  unfold World.candidates
  generalize w₁.tasks = l₁ at tasks ⊢
  generalize w₂.tasks = l₂ at tasks ⊢
  generalize 0 = k
  induction tasks generalizing k with
  | nil => exact .nil
  | @cons t₁ t₂ rest₁ rest₂ task rest ih =>
    simp only [List.zipIdx_cons, List.filterMap_cons, worlds.wakeTime? task]
    cases w₂.wakeTime? t₂ with
    | none => exact ih (k + 1)
    | some wake => exact .cons ⟨rfl, task, rfl⟩ (ih (k + 1))

theorem foldl_firstOf_same {l₁ l₂ : List (Nat × Task × Nat)} (h : List.Forall₂ SameCandidate l₁ l₂)
    {b₁ b₂ : Option (Nat × Task × Nat)} (best : Option.Rel SameCandidate b₁ b₂) :
    Option.Rel SameCandidate (l₁.foldl firstOf b₁) (l₂.foldl firstOf b₂) := by
  induction h generalizing b₁ b₂ with
  | nil => exact best
  | @cons c₁ c₂ _ _ head tail ih =>
    refine ih ?_
    cases best with
    | none => exact .some head
    | @some x₁ x₂ same =>
      simp only [firstOf, head.2.2, same.2.2]
      split
      · exact .some head
      · exact .some same

/-- The next task is the same. -/
theorem Alike.nextTask? (worlds : w₁.Alike w₂) :
    (w₁.nextTask? = none ∧ w₂.nextTask? = none) ∨ ∃ n t₁ t₂ wake, t₁.Alike t₂ ∧
      w₁.nextTask? = some (n, t₁, wake) ∧ w₂.nextTask? = some (n, t₂, wake) := by
  have same : Option.Rel SameCandidate (w₁.candidates.foldl firstOf none)
      (w₂.candidates.foldl firstOf none) := foldl_firstOf_same worlds.candidates .none
  rw [← nextTask?_eq, ← nextTask?_eq] at same
  generalize w₁.nextTask? = next₁ at same ⊢
  generalize w₂.nextTask? = next₂ at same ⊢
  cases same with
  | none => exact .inl ⟨rfl, rfl⟩
  | @some c₁ c₂ same =>
    obtain ⟨n₁, t₁, wake₁⟩ := c₁
    obtain ⟨n₂, t₂, wake₂⟩ := c₂
    obtain ⟨rfl, task, rfl⟩ := same
    exact .inr ⟨n₁, t₁, t₂, wake₁, task, rfl, rfl⟩

theorem Alike.passUntil (worlds : w₁.Alike w₂) (millis : Nat) :
    (w₁.passUntil millis).Alike (w₂.passUntil millis) := by
  refine ⟨?_, worlds.tasks⟩
  exact congrArg (World.passUntil · millis) worlds.veil

theorem Alike.runBefore (worlds : w₁.Alike w₂) (limit fuel : Nat) :
    (World.runBefore limit fuel w₁).Alike (World.runBefore limit fuel w₂) := by
  induction fuel generalizing w₁ w₂ with
  | zero => exact worlds
  | succ fuel ih =>
    rw [World.runBefore, World.runBefore]
    rcases worlds.nextTask? with ⟨h₁, h₂⟩ | ⟨n, t₁, t₂, wake, task, h₁, h₂⟩
    · rw [h₁, h₂]
      exact worlds
    · rw [h₁, h₂]
      dsimp only
      split
      · exact ih ((worlds.passUntil wake).resume n task)
      · exact worlds

theorem Alike.waitUntil (worlds : w₁.Alike w₂) (millis : Nat) :
    (w₁.waitUntil millis).Alike (w₂.waitUntil millis) := by
  have bound : w₁.stepBound millis = w₂.stepBound millis := by
    rw [stepBound, stepBound, worlds.elapsed, worlds.tasks.length_eq]
  unfold World.waitUntil
  rw [worlds.elapsed, bound]
  split
  · exact worlds
  · exact (worlds.runBefore millis _).passUntil millis

/-- **A round that is run to its end does the same in alike worlds.** -/
theorem run_alike {α : Type} (n : Nat) {a₁ a₂ : Action α} (h : a₁.Alike a₂)
    (worlds : w₁.Alike w₂) : Related Eq (run n a₁ w₁) (run n a₂ w₂) := by
  refine carryOut_alike ⟨fun _ => rfl, fun _ => rfl, ?_⟩ n h worlds
  intro m₁ m₂ message timeout next₁ next₂ _ goesOn₁ goesOn₂ ih w₁ w₂ worlds
  obtain ⟨attempt, worlds⟩ := worlds.beginPublish message timeout
  simp only [waiting, attempt]
  obtain ⟨outcome, worlds⟩ := (worlds.waitUntil _).endPublish message n _
  exact goOn_same (fun _ => rfl) outcome worlds ih

/-! ## Waiting for the end of tasks -/

theorem Alike.activityOf (worlds : w₁.Alike w₂) (task : Nat) :
    (w₁.activityOf task).Alike (w₂.activityOf task) := by
  have tasks := worlds.tasks
  unfold World.activityOf
  generalize w₁.tasks = l₁ at tasks ⊢
  generalize w₂.tasks = l₂ at tasks ⊢
  induction tasks generalizing task with
  | nil => exact .ended
  | cons head tail ih =>
    cases task with
    | zero => exact head.activity
    | succ task => exact ih task

theorem Alike.isOver (worlds : w₁.Alike w₂) (task : Nat) : w₁.isOver task = w₂.isOver task := by
  have same := worlds.activityOf task
  unfold World.isOver
  generalize w₁.activityOf task = a₁ at same ⊢
  generalize w₂.activityOf task = a₂ at same ⊢
  cases same <;> rfl

/-- Waiting for the end of a task leaves alike worlds alike. -/
theorem Alike.runUntilOver (worlds : w₁.Alike w₂) (task fuel : Nat) :
    (World.runUntilOver task fuel w₁).Alike (World.runUntilOver task fuel w₂) := by
  induction fuel generalizing w₁ w₂ with
  | zero => exact worlds
  | succ fuel ih =>
    rw [World.runUntilOver, World.runUntilOver, worlds.isOver]
    split
    · exact worlds
    · rcases worlds.nextTask? with ⟨h₁, h₂⟩ | ⟨n, t₁, t₂, wake, same, h₁, h₂⟩
      · rw [h₁, h₂]
        exact worlds
      · rw [h₁, h₂]
        exact ih ((worlds.passUntil wake).resume n same)

theorem Alike.joinTask (worlds : w₁.Alike w₂) (task : Nat) :
    (w₁.joinTask task).Alike (w₂.joinTask task) := by
  have ended := worlds.runUntilOver task patience
  have same := ended.activityOf task
  unfold World.joinTask
  dsimp only
  generalize (World.runUntilOver task patience w₁).activityOf task = a₁ at same ⊢
  generalize (World.runUntilOver task patience w₂).activityOf task = a₂ at same ⊢
  cases same with
  | panicked message => exact ended.note _
  | scheduled | waiting | publishing | ended => exact ended

end World
end Simulation
end EventRelay
