import EventRelay.Dispatcher.Rounds
import EventRelay.Simulation.Tasks

/-!
# The calls of a tick and their answers

An `Exchange` is a call of a dispatcher together with its answer, and `Action.Yields` says which
lists of exchanges a sequence of calls can run through, whatever the store and the publisher are and
however they answer: every answer is possible at every call. The exchanges of a tick are those of
its records put one after the other (`tick_yields_iff`). Those of one record depend on nothing but
the record and what is answered for it.

That a world runs through nothing else is `run_yields`.
-/

namespace EventRelay

open Dispatcher

/-- How a publisher replies to a publication: after some milliseconds, with what it makes of the
message, or never. -/
inductive Reply where
  | after (millis : Nat) (outcome : Except (List String) Unit)
  | never

/-- The outcome of a publication for someone who waits no longer than a timeout. A reply at the very
moment of the timeout is in time. -/
def Reply.within (timeout : Duration) : Reply → Except Undelivered Unit
  | .after millis outcome =>
    if millis ≤ ceilMillis timeout.nanos then outcome.mapError .refused else .error .timedOut
  | .never => .error .timedOut

/-- A call of a dispatcher, with its answer. -/
inductive Exchange where
  | claimBatch (limit : Nat) (worker : String) (answer : Except Failure (List Record))
  | publish (m : Message) (reply : Reply)
  | markPublished (id : Uuid) (answer : Except Failure Unit)
  | reschedule (id : Uuid) (error : String) (attempts : UInt32) (answer : Except Failure Unit)
  | recoverStuck (threshold : Duration) (answer : Except Failure Nat)
  | purgePublished (retention : Duration) (answer : Except Failure Nat)

def Exchange.call : Exchange → Simulation.Call
  | .claimBatch limit worker _ => .claimBatch limit worker
  | .publish m _ => .publish m
  | .markPublished id _ => .markPublished id
  | .reschedule id error attempts _ => .reschedule id error attempts
  | .recoverStuck threshold _ => .recoverStuck threshold
  | .purgePublished retention _ => .purgePublished retention

namespace Action

/-- Some answers lead through these exchanges and to this result. -/
def Yields {α : Type} : Action α → List Exchange → α → Prop
  | .done a, xs, b => xs = [] ∧ b = a
  | .note _ next, xs, b => next.Yields xs b
  | .claimBatch limit worker next, xs, b =>
    ∃ answer rest, xs = .claimBatch limit worker answer :: rest ∧ (next answer).Yields rest b
  | .publish m timeout next, xs, b =>
    ∃ reply rest, xs = .publish m reply :: rest ∧ (next (reply.within timeout)).Yields rest b
  | .markPublished id next, xs, b =>
    ∃ answer rest, xs = .markPublished id answer :: rest ∧ (next answer).Yields rest b
  | .reschedule id error attempts next, xs, b =>
    ∃ answer rest, xs = .reschedule id error attempts answer :: rest ∧
      (next answer).Yields rest b
  | .recoverStuck threshold next, xs, b =>
    ∃ answer rest, xs = .recoverStuck threshold answer :: rest ∧ (next answer).Yields rest b
  | .purgePublished retention next, xs, b =>
    ∃ answer rest, xs = .purgePublished retention answer :: rest ∧ (next answer).Yields rest b

/-- A call with its answer, and then what the answer leads to. -/
theorem yields_call_andThen {α β γ : Type} {x : γ → Exchange} {next : γ → Action α}
    {f : α → Action β} {zs : List Exchange} {b : β}
    (ih : ∀ answer zs, ((next answer).andThen f).Yields zs b ↔
      ∃ xs ys a, zs = xs ++ ys ∧ (next answer).Yields xs a ∧ (f a).Yields ys b) :
    (∃ answer rest, zs = x answer :: rest ∧ ((next answer).andThen f).Yields rest b) ↔
      ∃ xs ys a, zs = xs ++ ys ∧
        (∃ answer rest, xs = x answer :: rest ∧ (next answer).Yields rest a) ∧
        (f a).Yields ys b := by
  constructor
  · rintro ⟨answer, rest, rfl, h⟩
    obtain ⟨xs, ys, a, rfl, hxs, hys⟩ := (ih answer rest).1 h
    exact ⟨x answer :: xs, ys, a, rfl, ⟨answer, xs, rfl, hxs⟩, hys⟩
  · rintro ⟨_, ys, a, rfl, ⟨answer, rest, rfl, hrest⟩, hys⟩
    exact ⟨answer, rest ++ ys, rfl, (ih answer _).2 ⟨rest, ys, a, rfl, hrest, hys⟩⟩

/-- The exchanges of one sequence of calls after the other are those of both. -/
theorem yields_andThen {α β : Type} (a : Action α) (f : α → Action β) (zs : List Exchange)
    (b : β) :
    (a.andThen f).Yields zs b ↔
      ∃ xs ys a', zs = xs ++ ys ∧ a.Yields xs a' ∧ (f a').Yields ys b := by
  induction a generalizing zs with
  | done a =>
    constructor
    · exact fun h => ⟨[], zs, a, rfl, ⟨rfl, rfl⟩, h⟩
    · rintro ⟨_, ys, _, rfl, ⟨rfl, rfl⟩, h⟩
      exact h
  | note entry next ih => exact ih zs
  | claimBatch limit worker next ih | markPublished id next ih
  | reschedule id error attempts next ih | recoverStuck threshold next ih
  | purgePublished retention next ih => exact yields_call_andThen ih
  | publish m timeout next ih => exact yields_call_andThen fun reply => ih (reply.within timeout)

end Action

/-! ## What is answered for one record -/

/-- What is answered for one record of a batch: the reply to its publication, and the answers to the
two calls that may come after it. -/
structure Reception where
  reply : Reply
  marking : Except Failure Unit
  postponing : Except Failure Unit

namespace Reception
variable (timeout : Duration) (a : Reception)

/-- Why the record is to be tried again: because its publication failed, or because the note that it
is published did. -/
def failure? : Option String :=
  match a.reply.within timeout, a.marking with
  | .error e, _ => some (reasonText timeout e)
  | .ok (), .error e => some (chainText e.chain)
  | .ok (), .ok () => none

def published : Bool := (a.reply.within timeout).toBool && a.marking.toBool

def rescheduled : Bool := (a.failure? timeout).isSome && a.postponing.toBool

/-- The exchanges for the delivery of a record: its publication, and if that is confirmed in time,
the note that it is published. -/
def delivery (r : Record) : List Exchange :=
  .publish r.message a.reply ::
    match a.reply.within timeout with
    | .ok () => [.markPublished r.id a.marking]
    | .error _ => []

/-- The exchanges for a record: its delivery, and if that has failed, the note to try again. -/
def exchanges (r : Record) : List Exchange :=
  a.delivery timeout r ++ (a.failure? timeout).toList.map fun reason =>
    .reschedule r.id reason r.attempts a.postponing

/-- A delivery is noted or has failed. -/
theorem published_eq : a.published timeout = (a.failure? timeout).isNone := by
  unfold failure? published
  rcases a.reply.within timeout with e | ⟨⟩
  · rfl
  · rcases a.marking with e | ⟨⟩ <;> rfl

/-- What is noted as published is not rescheduled. -/
theorem rescheduled_of_published {timeout : Duration} {a : Reception}
    (h : a.published timeout = true) : a.rescheduled timeout = false := by
  rw [published_eq, Option.isNone_iff_eq_none] at h
  rw [rescheduled, h]
  rfl

theorem countP_cons (p : Reception → Bool) (as : List Reception) :
    (a :: as).countP p = (p a).toNat + as.countP p := by
  cases h : p a <;> simp [h, Nat.add_comm]

/-- No record is counted both as published and as rescheduled, so that the two numbers of a report
stay below the number of claims. -/
theorem countP_published_add_countP_rescheduled_le (timeout : Duration) (as : List Reception) :
    as.countP (·.published timeout) + as.countP (·.rescheduled timeout) ≤ as.length := by
  have apart : as.countP (·.published timeout) ≤ as.countP (¬ ·.rescheduled timeout) :=
    List.countP_mono_left fun a _ h => by simp [rescheduled_of_published h]
  have all := as.length_eq_countP_add_countP (·.rescheduled timeout)
  omega

end Reception

/-! ## Ticks -/

namespace Dispatcher
variable (config : DispatcherConfig)

/-- **A delivery goes through the publication, and through the note if that was confirmed in time**;
it fails if either of them does. -/
theorem deliver_yields (r : Record) (xs : List Exchange) (reason : Option String) :
    (deliver config r).Yields xs reason ↔
      ∃ a : Reception, xs = a.delivery config.confirmTimeout r ∧
        reason = a.failure? config.confirmTimeout := by
  constructor
  · rintro ⟨reply, rest, rfl, h⟩
    cases hr : reply.within config.confirmTimeout with
    | error e =>
      rw [hr] at h
      obtain ⟨rfl, rfl⟩ := h
      exact ⟨⟨reply, .ok (), .ok ()⟩, by simp only [Reception.delivery, hr],
        by simp only [Reception.failure?, hr]⟩
    | ok =>
      rw [hr] at h
      obtain ⟨marking, rest, rfl, h⟩ := h
      refine ⟨⟨reply, marking, .ok ()⟩, ?_, ?_⟩
      · cases marking <;> simp only [Reception.delivery, hr, h.1]
      · cases marking <;> simp only [Reception.failure?, hr, h.2]
  · rintro ⟨a, rfl, rfl⟩
    refine ⟨a.reply, _, rfl, ?_⟩
    simp only [Reception.failure?]
    rcases a.reply.within config.confirmTimeout with e | ⟨⟩
    · exact ⟨rfl, rfl⟩
    · refine ⟨a.marking, [], rfl, ?_⟩
      rcases a.marking with e | ⟨⟩
      · exact ⟨rfl, rfl⟩
      · exact ⟨rfl, rfl⟩

/-- **The exchanges of one record**, and what they add to the report. -/
theorem settle_yields (r : Record) (report : TickReport) (xs : List Exchange)
    (report' : TickReport) :
    (settle config r report).Yields xs report' ↔
      ∃ a : Reception, xs = a.exchanges config.confirmTimeout r ∧
        report' = ⟨report.claimed,
          report.published + (a.published config.confirmTimeout).toNat,
          report.rescheduled + (a.rescheduled config.confirmTimeout).toNat⟩ := by
  simp only [settle, Action.yields_andThen, deliver_yields, Reception.published_eq,
    Reception.rescheduled, Reception.exchanges]
  constructor
  · rintro ⟨_, ys, _, rfl, ⟨a, rfl, rfl⟩, h⟩
    cases hf : a.failure? config.confirmTimeout with
    | none =>
      rw [hf] at h
      obtain ⟨rfl, rfl⟩ := h
      exact ⟨a, by simp [hf], by simp [hf]⟩
    | some reason =>
      rw [hf] at h
      obtain ⟨answer, rest, rfl, h⟩ := h
      -- The delivery was the same whatever the answer to the last call.
      let b : Reception := { a with postponing := answer }
      have hb : b.failure? config.confirmTimeout = some reason := hf
      refine ⟨b, ?_, ?_⟩
      · cases answer <;> simp [hb, h.1, b, Reception.delivery]
      · cases answer <;> simp [hb, h.2, b, Except.toBool]
  · rintro ⟨a, rfl, rfl⟩
    refine ⟨_, _, _, rfl, ⟨a, rfl, rfl⟩, ?_⟩
    cases hf : a.failure? config.confirmTimeout with
    | none => exact ⟨rfl, by simp⟩
    | some reason =>
      refine ⟨a.postponing, [], rfl, ?_⟩
      cases a.postponing with
      | error e => exact ⟨rfl, by simp [Except.toBool]⟩
      | ok => exact ⟨rfl, by simp [Except.toBool]⟩

/-- **The exchanges of a batch are those of its records one after the other.** -/
theorem settleAll_yields (rs : List Record) (report : TickReport) (xs : List Exchange)
    (report' : TickReport) :
    (settleAll config rs report).Yields xs report' ↔
      ∃ as : List Reception, as.length = rs.length ∧
        xs = (rs.zip as).flatMap (fun p => p.2.exchanges config.confirmTimeout p.1) ∧
        report' = ⟨report.claimed,
          report.published + as.countP (·.published config.confirmTimeout),
          report.rescheduled + as.countP (·.rescheduled config.confirmTimeout)⟩ := by
  induction rs generalizing report xs with
  | nil =>
    constructor
    · rintro ⟨rfl, rfl⟩
      exact ⟨[], rfl, rfl, rfl⟩
    · rintro ⟨as, has, rfl, rfl⟩
      obtain rfl := List.length_eq_zero_iff.1 has
      exact ⟨rfl, rfl⟩
  | cons r rest ih =>
    simp only [settleAll, Action.yields_andThen, settle_yields, ih]
    constructor
    · rintro ⟨_, _, _, rfl, ⟨a, rfl, rfl⟩, as, has, rfl, rfl⟩
      refine ⟨a :: as, by rw [List.length_cons, has, List.length_cons], by simp, ?_⟩
      simp only [Reception.countP_cons, Nat.add_assoc]
    · rintro ⟨as, has, rfl, rfl⟩
      cases as with
      | nil => cases has
      | cons a as =>
        refine ⟨_, _, _, List.flatMap_cons, ⟨a, rfl, rfl⟩, as, Nat.succ.inj has, rfl, ?_⟩
        simp only [Reception.countP_cons, Nat.add_assoc]

/-- A tick settles what it has claimed, which is nothing if the claim has failed. -/
theorem tick_yields (worker : String) (xs : List Exchange) (report : TickReport) :
    (tick config worker).Yields xs report ↔
      ∃ answer rest, xs = .claimBatch config.batchSize worker answer :: rest ∧
        let rs := answer.toOption.getD []
        (settleAll config rs ⟨rs.length, 0, 0⟩).Yields rest report := by
  refine exists_congr fun answer => exists_congr fun rest => and_congr_right fun _ => ?_
  cases answer with
  | error e => exact Iff.rfl
  | ok rs =>
    cases rs with
    | nil => exact Iff.rfl
    | cons r rs =>
      -- Only the entry at the end of the tick is left.
      refine (Action.yields_andThen ..).trans
        ⟨?_, fun h => ⟨rest, [], report, by simp, h, rfl, rfl⟩⟩
      rintro ⟨ys, _, _, rfl, h, rfl, rfl⟩
      rwa [List.append_nil]

/-- **A tick goes through its records one by one.** It claims a batch, and what it claims, nothing
if that fails, it publishes record by record in this order. It notes that a record is published if
and only if the publication was confirmed in time, and when to try it again if and only if the
publication or the note has failed, with the whole reason and the attempts of the record as it was
claimed. Each of these exchanges depends on its own record and the answers for that record alone,
and every record counts at most once in the report. -/
theorem tick_yields_iff (worker : String) (xs : List Exchange) (report : TickReport) :
    (tick config worker).Yields xs report ↔
      ∃ (answer : Except Failure (List Record)) (as : List Reception),
        let rs := answer.toOption.getD []
        as.length = rs.length ∧
        xs = .claimBatch config.batchSize worker answer ::
          (rs.zip as).flatMap (fun p => p.2.exchanges config.confirmTimeout p.1) ∧
        report = ⟨rs.length, as.countP (·.published config.confirmTimeout),
          as.countP (·.rescheduled config.confirmTimeout)⟩ ∧
        report.published + report.rescheduled ≤ report.claimed := by
  simp only [tick_yields, settleAll_yields, Nat.zero_add]
  constructor
  · rintro ⟨answer, _, rfl, as, has, rfl, rfl⟩
    refine ⟨answer, as, has, rfl, rfl, ?_⟩
    exact has ▸ Reception.countP_published_add_countP_rescheduled_le _ as
  · rintro ⟨answer, as, has, rfl, rfl, -⟩
    exact ⟨answer, _, rfl, as, has, rfl, rfl⟩

end Dispatcher
end EventRelay
