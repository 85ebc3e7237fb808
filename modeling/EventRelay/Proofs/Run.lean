/-!
# Runs

A run of a system is the list of its steps, each with the state before it and the state after it,
so that a statement about a run can look at any moment of it. Two principles are proved once, for
any system: a run can be cut at any place (`run_append`), and what one step keeps, together with
the steps before it, a whole run keeps (`Run.invariant`, and `Run.along` for the steps of a run
that is given).
-/

namespace EventRelay

/-- One step of a run: the state before, what happens, and the state after. -/
structure Transition (σ ε : Type) where
  before : σ
  event : ε
  after : σ

/-- The steps lead from one state to another, each as the system allows it. -/
def Run {σ ε : Type} (allowed : σ → ε → σ → Prop) : σ → List (Transition σ ε) → σ → Prop
  | s, [], t => s = t
  | s, x :: rest, t => x.before = s ∧ allowed s x.event x.after ∧ Run allowed x.after rest t

section
variable {σ ε : Type} {allowed : σ → ε → σ → Prop}

@[simp] theorem run_nil (s t : σ) : Run allowed s [] t ↔ s = t := Iff.rfl

/-- A run that is not empty has a first step, and is a run from there on. -/
theorem run_cons (s t : σ) (x : Transition σ ε) (rest : List (Transition σ ε)) :
    Run allowed s (x :: rest) t ↔
      x.before = s ∧ allowed s x.event x.after ∧ Run allowed x.after rest t := Iff.rfl

/-- A run of two lists of steps is a run of the first up to some state, and of the second from
there on. -/
theorem run_append {s t : σ} {steps more : List (Transition σ ε)} :
    Run allowed s (steps ++ more) t ↔ ∃ m, Run allowed s steps m ∧ Run allowed m more t := by
  induction steps generalizing s with
  | nil => simp
  | cons x rest ih =>
    simp only [List.cons_append, run_cons, ih]
    constructor
    · rintro ⟨hb, hx, m, h₁, h₂⟩
      exact ⟨m, ⟨hb, hx, h₁⟩, h₂⟩
    · rintro ⟨m, ⟨hb, hx, h₁⟩, h₂⟩
      exact ⟨hb, hx, m, h₁, h₂⟩

/-- **Invariants of runs.** A property of the steps so far and the present state that every step
keeps holds at the end of a run if it held at its beginning. -/
theorem Run.invariant {P : List (Transition σ ε) → σ → Prop}
    (keep : ∀ past x, P past x.before → allowed x.before x.event x.after → P (past ++ [x]) x.after)
    {s t : σ} {steps : List (Transition σ ε)} (run : Run allowed s steps t)
    {past : List (Transition σ ε)} (start : P past s) : P (past ++ steps) t := by
  induction steps generalizing s past with
  | nil =>
    obtain rfl : s = t := run
    simpa using start
  | cons x rest ih =>
    obtain ⟨rfl, hx, later⟩ := run
    have h := ih later (keep past x start hx)
    rwa [List.append_assoc] at h

/-- What every step of a given run keeps holds at its end. -/
theorem Run.along {P : List (Transition σ ε) → σ → Prop} {s t : σ} {steps : List (Transition σ ε)}
    (keep : ∀ past x later, steps = past ++ x :: later → P past x.before →
      allowed x.before x.event x.after → P (past ++ [x]) x.after)
    (run : Run allowed s steps t) (start : P [] s) : P steps t := by
  have step : ∀ past x, (past <+: steps → P past x.before) → allowed x.before x.event x.after →
      past ++ [x] <+: steps → P (past ++ [x]) x.after := by
    intro past x h hx pre
    obtain ⟨later, heq⟩ := pre
    rw [List.append_assoc, List.singleton_append] at heq
    exact keep past x later heq.symm (h ⟨x :: later, heq⟩) hx
  exact Run.invariant (P := fun past s => past <+: steps → P past s) step run (fun _ => start)
    (List.prefix_refl steps)

end
end EventRelay
