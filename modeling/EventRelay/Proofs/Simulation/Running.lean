import EventRelay.Proofs.Dispatcher.Exchanges
import EventRelay.Proofs.Simulation.Frame

/-!
# Rounds that run to their end

A client that has a dispatcher do a round waits for its end. What the world notes of such a round
are the calls of exchanges that the round can run through (`run_yields`).
-/

namespace EventRelay.Simulation.World

variable {α γ : Type}

def callsMade (w : World) : List Call := w.calls.map (·.2)

/-! ## Waiting without loops -/

/-- Where no task has been started, none is next. -/
theorem nextTask?_of_no_tasks {w : World} (alone : w.tasks = []) : w.nextTask? = none := by
  simp [nextTask?, alone]

/-- Where no loop runs, nothing happens while somebody waits. -/
theorem waitUntil_of_no_tasks {w : World} (alone : w.tasks = []) (millis : Nat) :
    w.waitUntil millis = if millis ≤ w.elapsed then w else w.passUntil millis := by
  unfold waitUntil
  split
  · rfl
  · have still (fuel : Nat) : runBefore millis fuel w = w := by
      cases fuel with
      | zero => rfl
      | succ fuel => rw [runBefore, nextTask?_of_no_tasks alone]
    rw [still]

/-- Time alone makes no calls. -/
theorem callsMade_waitUntil_of_no_tasks {w : World} (alone : w.tasks = []) (millis : Nat) :
    (w.waitUntil millis).callsMade = w.callsMade ∧ (w.waitUntil millis).tasks = [] := by
  rw [waitUntil_of_no_tasks alone]
  split
  · exact ⟨rfl, alone⟩
  · exact ⟨rfl, alone⟩

/-! ## Exchanges -/

/-- The log of the calls grows by the calls that are made. -/
theorem callsMade_of_makes {w w' : World} {made : List Call} (h : Makes w w' made) :
    w'.callsMade = w.callsMade ++ made := by
  simp [callsMade, h.calls, Function.comp_def]

/-- A publisher outside of the loops delivers, or refuses with its reasons. -/
theorem publishTo_answers (w : World) (p : Publisher) (m : Message) :
    ∃ answer : Except (List String) Unit, (w.publishTo p m).1 = answer.mapError .refused := by
  cases p with
  | broker n =>
    simp only [publishTo, Broker.publish]
    split
    · exact ⟨.error Broker.unavailable, rfl⟩
    · exact ⟨.ok (), rfl⟩
  | journal => exact ⟨.ok (), rfl⟩

/-- A publication that has not timed out ends with an answer of the publisher. -/
theorem endPublish_answers {w w' : World} {agent : Nat} {m : Message} {plan : PublishPlan}
    {outcome : Except Undelivered Unit} (h : w.endPublish agent m (some plan) = (.ok outcome, w')) :
    ∃ answer : Except (List String) Unit, outcome = answer.mapError .refused := by
  cases plan with
  | deliver =>
    obtain ⟨answer, ha⟩ := publishTo_answers w (w.agent agent).publisher m
    cases h
    exact ⟨answer, ha⟩
  | fail chain => cases h; exact ⟨.error chain, rfl⟩
  | panic message => cases h

/-- A publication ends with a reply that is in time, or has timed out. -/
theorem exists_reply (w : World) (agent : Nat) (m : Message) (timeout : Duration) {v v' : World}
    {outcome : Except Undelivered Unit}
    (h : v.endPublish agent m (w.beginPublish m timeout).1.plan = (.ok outcome, v')) :
    ∃ reply : Reply, reply.within timeout = outcome := by
  unfold beginPublish at h
  dsimp only at h
  split at h
  · rename_i inTime
    obtain ⟨answer, rfl⟩ := endPublish_answers h
    exact ⟨.after (min (w.plans.publish.head?.getD (0, .deliver)).1 Schedule.horizon) answer,
      if_pos (by simp only [noteCall] at inTime; omega)⟩
  · cases h
    exact ⟨.never, rfl⟩

/-- A call that is answered is noted, and the rest of the round goes on. -/
theorem yields_goOn {agent : Nat} {w w' : World} (alone : w.tasks = []) {b : α}
    {x : Ending γ × World} {e : Except Failure γ → Exchange} {c : Call}
    (he : ∀ a, (e a).call = c) (one : Makes w x.2 [c]) {next : Except Failure γ → Action α}
    (ih : ∀ a {w}, w.tasks = [] → run agent (next a) w = (.ok b, w') →
      ∃ xs, (next a).Yields xs b ∧ w'.callsMade = w.callsMade ++ xs.map Exchange.call)
    (h : goOn (.error ·.message) (fun a => run agent (next a)) x = (.ok b, w')) :
    ∃ xs, (∃ a rest, xs = e a :: rest ∧ (next a).Yields rest b) ∧
      w'.callsMade = w.callsMade ++ xs.map Exchange.call := by
  obtain ⟨fault | a, v⟩ := x
  · cases h
  · obtain ⟨xs, yields, calls⟩ := ih a (one.tasks.trans alone) h
    exact ⟨e a :: xs, ⟨a, xs, rfl, yields⟩, by simp [calls, callsMade_of_makes one, he]⟩

/-- **A round that was run to its end has gone through exchanges.** -/
theorem run_yields (agent : Nat) (a : Action α) {w : World} (alone : w.tasks = []) {b : α}
    {w' : World} (h : run agent a w = (.ok b, w')) :
    ∃ xs, a.Yields xs b ∧ w'.callsMade = w.callsMade ++ xs.map Exchange.call := by
  induction a generalizing w with
  | done a => cases h; exact ⟨[], ⟨rfl, rfl⟩, by simp⟩
  | note entry next ih => exact ih (w := w.note entry) alone h
  | claimBatch limit worker next ih =>
    exact yields_goOn (e := .claimBatch limit worker) alone (fun _ => rfl)
      (claimBatch_makes ..) ih h
  | markPublished id next ih =>
    exact yields_goOn (e := .markPublished id) alone (fun _ => rfl) (markPublished_makes ..) ih h
  | reschedule id error attempts next ih =>
    exact yields_goOn (e := .reschedule id error attempts) alone (fun _ => rfl)
      (reschedule_makes ..) ih h
  | recoverStuck threshold next ih =>
    exact yields_goOn (e := .recoverStuck threshold) alone (fun _ => rfl)
      (recoverStuck_makes ..) ih h
  | purgePublished retention next ih =>
    exact yields_goOn (e := .purgePublished retention) alone (fun _ => rfl)
      (purgePublished_makes ..) ih h
  | publish m timeout next ih =>
    have one := beginPublish_makes w m timeout
    obtain ⟨waited, still⟩ := callsMade_waitUntil_of_no_tasks (one.tasks.trans alone)
      (w.beginPublish m timeout).1.wake
    have ended := endPublish_makes ((w.beginPublish m timeout).2.waitUntil
      (w.beginPublish m timeout).1.wake) agent m (w.beginPublish m timeout).1.plan
    rw [run, carryOut, waiting] at h
    dsimp only at h
    rcases hend : ((w.beginPublish m timeout).2.waitUntil
      (w.beginPublish m timeout).1.wake).endPublish agent m (w.beginPublish m timeout).1.plan
      with ⟨panic | outcome, v⟩ <;> rw [hend] at h ended
    · cases h
    · obtain ⟨reply, hreply⟩ := exists_reply w agent m timeout hend
      obtain ⟨xs, yields, calls⟩ := ih _ (ended.tasks.trans still) h
      refine ⟨.publish m reply :: xs, ⟨reply, xs, rfl, hreply ▸ yields⟩, ?_⟩
      rw [calls, callsMade_of_makes ended, waited, callsMade_of_makes one, List.append_nil,
        List.append_assoc]
      rfl

end EventRelay.Simulation.World
