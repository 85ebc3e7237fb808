import EventRelay.Proofs.Depot.Effects
import EventRelay.Proofs.Service

/-!
# A dispatcher can come to its end

Whatever the tasks of a dispatcher are doing, they can all come to their ends by themselves once
they are cancelled: a healthy store answers every call, a publication may end at any moment, and a
round has finitely many calls to make (`finishes`). So no task gets stuck inside a run, and
what holds of tasks that have ended is not an empty promise (`can_end`).
-/

namespace EventRelay

open Simulation (Loop)

namespace Service

/-- Only the task `l` has gone on, and nobody else has done anything. -/
structure Proceeds (e : Engine) (l : Loop) (s s' : Service) : Prop where
  run : ∃ history, Run (Does e) s history s' ∧ ∀ x ∈ history, ∀ op a, x.event ≠ .client op a
  others : ∀ l', l' ≠ l → s'.tasks l' = s.tasks l'
  cancelled : s'.cancelled = s.cancelled
  healthy : s.depot.Healthy →
    s'.depot.Healthy ∧ s'.depot.stores.length = s.depot.stores.length

section
variable {e : Engine} {l : Loop} {s s₁ s₂ s₃ : Service} {rest rest' : Action Unit} {since due : Nat}
  {op : Operation} {a : Answer} {d : Depot} {ev : Occurrence} {doing : Doing}

theorem Proceeds.refl (e : Engine) (l : Loop) (s : Service) : Proceeds e l s s where
  run := ⟨[], rfl, by simp⟩
  others _ _ := rfl
  cancelled := rfl
  healthy h := ⟨h, rfl⟩

theorem Proceeds.trans (h : Proceeds e l s₁ s₂) (h' : Proceeds e l s₂ s₃) :
    Proceeds e l s₁ s₃ where
  run := by
    obtain ⟨history, run, own⟩ := h.run
    obtain ⟨history', run', own'⟩ := h'.run
    refine ⟨history ++ history', run_append.2 ⟨s₂, run, run'⟩, fun x hx => ?_⟩
    exact (List.mem_append.1 hx).elim (own x) (own' x)
  others l' hl' := (h'.others l' hl').trans (h.others l' hl')
  cancelled := h'.cancelled.trans h.cancelled
  healthy healthy := by
    obtain ⟨healthy₂, length₂⟩ := h.healthy healthy
    obtain ⟨healthy₃, length₃⟩ := h'.healthy healthy₂
    exact ⟨healthy₃, length₃.trans length₂⟩

theorem Proceeds.turn (hx : Does e s ev (s.turn l doing)) (own : ∀ op a, ev ≠ .client op a) :
    Proceeds e l s (s.turn l doing) where
  run := ⟨[⟨s, ev, s.turn l doing⟩], ⟨rfl, hx, rfl⟩, by simpa using own⟩
  others _ hl' := tasks_turn_of_ne _ _ _ hl'
  cancelled := rfl
  healthy h := ⟨h, rfl⟩

/-- A task whose call to the store is answered proceeds. -/
theorem Proceeds.calls (hl : s.tasks l = .running rest since due)
    (hr : Relay.Answered e.store e.policy rest op a rest') (hd : s.depot.Does (op, a) d) :
    Proceeds e l s { s.turn l (.running rest' s.elapsed due) with depot := d } where
  run := ⟨[⟨s, .calls l op a, _⟩], ⟨rfl, .calls hl hr hd, rfl⟩, by simp⟩
  others _ hl' := tasks_turn_of_ne _ _ _ hl'
  cancelled := rfl
  healthy h := (h.effect hd).healthy h

/-- A task that has these calls still to make can finish its run. -/
def Finishes (e : Engine) (l : Loop) (rest : Action Unit) : Prop :=
  ∀ (s : Service) (since due : Nat), s.tasks l = .running rest since due → s.depot.Healthy →
    e.store < s.depot.stores.length → ∃ s', Proceeds e l s s' ∧ s'.tasks l = .waiting due

/-- A run in which the store answers the next call can be finished if it can be finished from
there. -/
theorem Finishes.answered
    (h : ∀ d : Depot, d.Healthy → e.store < d.stores.length → ∃ op a rest' d',
      Relay.Answered e.store e.policy rest op a rest' ∧ d.Does (op, a) d' ∧ Finishes e l rest') :
    Finishes e l rest := by
  intro s since due hl healthy hn
  obtain ⟨op, a, rest', d, hr, hd, finishes⟩ := h s.depot healthy hn
  have step := Proceeds.calls hl hr hd
  obtain ⟨healthy', length⟩ := step.healthy healthy
  have here : ({ s.turn l (.running rest' s.elapsed due) with depot := d } : Service).tasks l =
      .running rest' s.elapsed due := tasks_turn_self s l _
  obtain ⟨s', more, waits⟩ := finishes _ _ _ here healthy' (length ▸ hn)
  exact ⟨s', step.trans more, waits⟩

/-- **Every round can be finished.** The calls to the store read some time, and the publications are
confirmed at once. -/
theorem finishes (e : Engine) (l : Loop) (now : Instant) (rest : Action Unit) :
    Finishes e l rest := by
  induction rest with
  | done a =>
    intro s since due hl healthy hn
    exact ⟨_, .turn (.rests hl) (by simp), tasks_turn_self _ _ _⟩
  | note entry next ih =>
    intro s since due hl healthy hn
    have step : Proceeds e l s (s.turn l (.running next s.elapsed due)) :=
      .turn (.notes hl) (by simp)
    obtain ⟨s', more, waits⟩ := ih _ _ _ (tasks_turn_self _ _ _) healthy hn
    exact ⟨s', step.trans more, waits⟩
  | publish m timeout next ih =>
    intro s since due hl healthy hn
    have step : Proceeds e l s (s.turn l (.running (next (.ok ())) s.elapsed due)) :=
      .turn (.publishes hl (by simp)) (by simp)
    obtain ⟨s', more, waits⟩ := ih (.ok ()) _ _ _ (tasks_turn_self _ _ _) healthy hn
    exact ⟨s', step.trans more, waits⟩
  | claimBatch limit worker next ih =>
    refine Finishes.answered fun d healthy hn => ?_
    obtain ⟨rs, d', hd⟩ : ∃ rs d', d.Does
        (.claimBatch e.store e.policy limit worker now, .records rs) d' :=
      healthy.change_ok hn fun c => by cases limit <;> exact ⟨_, _, rfl⟩
    exact ⟨_, _, _, d', .claimBatch, hd, ih (.ok rs)⟩
  | markPublished id next ih =>
    refine Finishes.answered fun d healthy hn => ?_
    obtain ⟨-, d', hd⟩ : ∃ (_ : Unit) (d' : Depot),
        d.Does (.markPublished e.store id now, .done) d' :=
      healthy.change_ok hn fun c => ⟨_, _, rfl⟩
    exact ⟨_, _, _, d', .markPublished, hd, ih (.ok ())⟩
  | reschedule id error attempts next ih =>
    refine Finishes.answered fun d healthy hn => ?_
    obtain ⟨-, d', hd⟩ : ∃ (_ : List Journal.Entry) (d' : Depot), d.Does
        (.reschedule e.store e.policy id error attempts now, .done) d' :=
      healthy.change_ok hn fun c => ⟨_, _, Depot.reschedule_store_eq ..⟩
    exact ⟨_, _, _, d', .reschedule, hd, ih (.ok ())⟩
  | recoverStuck threshold next ih =>
    refine Finishes.answered fun d healthy hn => ?_
    obtain ⟨k, d', hd⟩ : ∃ k d', d.Does (.recoverStuck e.store threshold now, .count k) d' :=
      healthy.change_ok hn fun c => ⟨_, _, rfl⟩
    exact ⟨_, _, _, d', .recoverStuck, hd, ih (.ok k)⟩
  | purgePublished retention next ih =>
    refine Finishes.answered fun d healthy hn => ?_
    obtain ⟨k, d', hd⟩ : ∃ k d', d.Does (.purgePublished e.store retention now, .count k) d' :=
      healthy.change_ok hn fun c => ⟨_, _, rfl⟩
    exact ⟨_, _, _, d', .purgePublished, hd, ih (.ok k)⟩

/-- A cancelled task that is alive can be finished. -/
theorem Proceeds.task (now : Instant) (cancelled : s.cancelled = true)
    (alive : s.tasks l ≠ .panicked) (healthy : s.depot.Healthy)
    (hn : e.store < s.depot.stores.length) : ∃ s', Proceeds e l s s' ∧ s'.tasks l = .ended := by
  have stops : ∀ {s₁ due}, Proceeds e l s s₁ → s₁.tasks l = .waiting due →
      ∃ s', Proceeds e l s s' ∧ s'.tasks l = .ended := by
    intro s₁ due go waits
    have step : Proceeds e l s₁ (s₁.turn l .ended) :=
      .turn (.stops waits (go.cancelled.trans cancelled)) (by simp)
    exact ⟨_, go.trans step, tasks_turn_self _ _ _⟩
  cases hl : s.tasks l with
  | waiting due => exact stops (.refl e l s) hl
  | running rest since due =>
    obtain ⟨s₁, go, waits⟩ := finishes e l now rest s since due hl healthy hn
    exact stops go waits
  | ended => exact ⟨s, .refl e l s, hl⟩
  | panicked => exact absurd hl alive

/-- **A dispatcher can come to its end.** If no task has died, then after a shutdown all of them can
end, by what they do themselves. -/
theorem can_end (now : Instant) (alive : ∀ l, s.tasks l ≠ .panicked) (healthy : s.depot.Healthy)
    (hn : e.store < s.depot.stores.length) :
    ∃ more s', Run (Does e) s more s' ∧ (∀ x ∈ more, ∀ op a, x.event ≠ .client op a) ∧
      ∀ l, s'.tasks l = .ended := by
  obtain ⟨s₁, tick, ended⟩ := Proceeds.task (e := e) (l := .tick)
    (s := { s with cancelled := true }) now rfl (alive .tick) healthy hn
  obtain ⟨healthy₁, length₁⟩ := tick.healthy healthy
  obtain ⟨s₂, reap, ended₂⟩ := Proceeds.task (e := e) (l := .reap) now tick.cancelled
    (tick.others .reap nofun ▸ alive .reap) healthy₁ (length₁ ▸ hn)
  obtain ⟨healthy₂, length₂⟩ := reap.healthy healthy₁
  obtain ⟨s₃, purge, ended₃⟩ := Proceeds.task (e := e) (l := .purge) now
    (reap.cancelled.trans tick.cancelled)
    (reap.others .purge nofun ▸ tick.others .purge nofun ▸ alive .purge) healthy₂
    (length₂ ▸ length₁ ▸ hn)
  obtain ⟨history₁, run₁, own₁⟩ := tick.run
  obtain ⟨history₂, run₂, own₂⟩ := reap.run
  obtain ⟨history₃, run₃, own₃⟩ := purge.run
  refine ⟨⟨s, .shutsDown, _⟩ :: (history₁ ++ (history₂ ++ history₃)), s₃,
    ⟨rfl, .shutsDown, run_append.2 ⟨s₁, run₁, run_append.2 ⟨s₂, run₂, run₃⟩⟩⟩, ?_, ?_⟩
  · intro x hx
    rcases List.mem_cons.1 hx with rfl | hx
    · simp
    · rcases List.mem_append.1 hx with hx | hx
      · exact own₁ x hx
      · exact (List.mem_append.1 hx).elim (own₂ x) (own₃ x)
  · rintro (_ | _ | _)
    · rw [purge.others .tick nofun, reap.others .tick nofun]
      exact ended
    · rw [purge.others .reap nofun]
      exact ended₂
    · exact ended₃

end
end Service
end EventRelay
