import EventRelay.Proofs.Simulation.Frame
import Mathlib.Algebra.Order.BigOperators.Group.List
import Mathlib.Algebra.Order.Ring.Nat

/-!
# Waiting

While somebody waits, the tasks go on one after the other, the one that is due first before the
others (`nextTask?_eq_some`). What a task does when it goes on is said once, by `resume_cases`: it
makes calls of its round and then does something else. That takes it nearer to any point in time, by
a measure that counts the moments up to there and the runs to catch up with (`Activity.effort`), so
that waiting comes to its end: when somebody has waited until a point in time, no task is due before
it (`nothing_due_before`).
-/

namespace EventRelay.Simulation

/-! ## The next task -/

/-- The first of two candidates to go on, the earlier one in the list if both do at the same
moment. -/
def firstOf (best : Option (Nat × Task × Nat)) (candidate : Nat × Task × Nat) :
    Option (Nat × Task × Nat) :=
  match best with
  | none => some candidate
  | some b => if candidate.2.2 < b.2.2 then some candidate else best

/-- The fold finds a candidate, and none of the others wakes before it. -/
theorem foldl_firstOf (candidates : List (Nat × Task × Nat)) (b : Nat × Task × Nat) :
    ∃ c, candidates.foldl firstOf (some b) = some c ∧ (c = b ∨ c ∈ candidates) ∧
      c.2.2 ≤ b.2.2 ∧ ∀ x ∈ candidates, c.2.2 ≤ x.2.2 := by
  induction candidates generalizing b with
  | nil => exact ⟨b, rfl, .inl rfl, Nat.le_refl _, by simp⟩
  | cons x rest ih =>
    rw [List.foldl_cons, firstOf]
    split
    · obtain ⟨c, hc, hmem, hle, hall⟩ := ih x
      exact ⟨c, hc, .inr (List.mem_cons.2 hmem), by omega, List.forall_mem_cons.2 ⟨hle, hall⟩⟩
    · obtain ⟨c, hc, hmem, hle, hall⟩ := ih b
      exact ⟨c, hc, hmem.imp_right (List.mem_cons_of_mem x), hle,
        List.forall_mem_cons.2 ⟨by omega, hall⟩⟩

namespace World
variable {w : World} {n wake : Nat} {t : Task}

def candidates (w : World) : List (Nat × Task × Nat) :=
  w.tasks.zipIdx.filterMap fun (t, n) => (w.wakeTime? t).map fun wake => (n, t, wake)

theorem nextTask?_eq (w : World) : w.nextTask? = w.candidates.foldl firstOf none := rfl

theorem mem_candidates :
    (n, t, wake) ∈ w.candidates ↔ w.tasks[n]? = some t ∧ w.wakeTime? t = some wake := by
  simp only [candidates, List.mem_filterMap, Prod.exists, Option.map_eq_some_iff, Prod.mk.injEq]
  constructor
  · rintro ⟨t', n', hin, wake', hwake, rfl, rfl, rfl⟩
    exact ⟨List.mem_zipIdx_iff_getElem?.1 hin, hwake⟩
  · rintro ⟨ht, hwake⟩
    exact ⟨t, n, List.mem_zipIdx_iff_getElem?.2 ht, wake, hwake, rfl, rfl, rfl⟩

/-- The next task is one that waits, and no other one wakes before it. -/
theorem nextTask?_eq_some (h : w.nextTask? = some (n, t, wake)) :
    w.tasks[n]? = some t ∧ w.wakeTime? t = some wake ∧
      ∀ t' ∈ w.tasks, ∀ wake', w.wakeTime? t' = some wake' → wake ≤ wake' := by
  rw [nextTask?_eq] at h
  cases hc : w.candidates with
  | nil =>
    rw [hc] at h
    cases h
  | cons b rest =>
    rw [hc, List.foldl_cons, firstOf] at h
    obtain ⟨c, found, hmem, hle, hall⟩ := foldl_firstOf rest b
    obtain rfl := Option.some.inj (found.symm.trans h)
    have own : (n, t, wake) ∈ w.candidates := by
      rw [hc]
      exact List.mem_cons.2 hmem
    obtain ⟨ht, hwake⟩ := mem_candidates.1 own
    refine ⟨ht, hwake, fun t' ht' wake' hwake' => ?_⟩
    obtain ⟨n', hn'⟩ := List.mem_iff_getElem?.1 ht'
    have other : (n', t', wake') ∈ w.candidates := mem_candidates.2 ⟨hn', hwake'⟩
    rw [hc] at other
    rcases List.mem_cons.1 other with rfl | other
    · exact hle
    · exact hall _ other

/-- Where no task is next, none waits for a point in time. -/
theorem nextTask?_eq_none (h : w.nextTask? = none) : ∀ t ∈ w.tasks, w.wakeTime? t = none := by
  rw [nextTask?_eq] at h
  have none_there : w.candidates = [] := by
    cases hc : w.candidates with
    | nil => rfl
    | cons b rest =>
      rw [hc, List.foldl_cons, firstOf] at h
      obtain ⟨c, found, -⟩ := foldl_firstOf rest b
      cases found.symm.trans h
  intro t ht
  obtain ⟨n, hn⟩ := List.mem_iff_getElem?.1 ht
  cases hw : w.wakeTime? t with
  | none => rfl
  | some wake =>
    have : (n, t, wake) ∈ w.candidates := mem_candidates.2 ⟨hn, hw⟩
    rw [none_there] at this
    cases this

end World

/-! ## Going on -/

/-- What a task does that has made some calls of its round and has its next run due. -/
def Progress.activity (due : Nat) : Progress → Activity
  | .finished => .waiting due
  | .panicked message => .panicked message
  | .publishing wake m plan next => .publishing wake m plan next due

/-- The calls that a task still has to make in its round have a property. -/
def Activity.Left (P : Call → Prop) : Activity → Prop
  | .publishing _ _ _ next _ => ∀ outcome, (next outcome).Asks P
  | .scheduled | .waiting _ | .ended | .panicked _ => True

/-- When a task is due that was due at one point and runs at another, both in nanoseconds. -/
def Task.next (config : DispatcherConfig) (loop : Loop) (due now : Nat) : Nat :=
  Schedule.next (Schedule.period (World.interval config loop)) due now

/-- A task whose time has come goes on from one activity to another: it ends, it begins the run that
is due, or it goes on after a publication. -/
inductive GoesOn (P : Call → Prop) (config : DispatcherConfig) (loop : Loop) (wake now : Nat) :
    Activity → Activity → Prop where
  | ends {a} : GoesOn P config loop wake now a .ended
  | begins {p} (left : Progress.Left P now p) :
    GoesOn P config loop wake now .scheduled
      (p.activity (Task.next config loop (now * nanosPerMilli) (now * nanosPerMilli)))
  | runs {p due} (woken : ceilMillis due = wake) (left : Progress.Left P now p) :
    GoesOn P config loop wake now (.waiting due)
      (p.activity (Task.next config loop due (now * nanosPerMilli)))
  | panics {m plan next due message} :
    GoesOn P config loop wake now (.publishing wake m plan next due) (.panicked message)
  | continues {m plan next due p} (left : Progress.Left P now p) :
    GoesOn P config loop wake now (.publishing wake m plan next due) (p.activity due)

/-- What a task has left to do after it has gone on is of the same kind as before. -/
theorem GoesOn.left {P : Call → Prop} {config : DispatcherConfig} {loop : Loop} {wake now : Nat}
    {a a' : Activity} (h : GoesOn P config loop wake now a a') : a'.Left P := by
  have each {p : Progress} (left : p.Left P now) (due : Nat) : (p.activity due).Left P := by
    cases p with
    | finished => trivial
    | panicked message => trivial
    | publishing wake m plan next => exact left.2
  cases h with
  | ends => trivial
  | begins left => exact each left _
  | runs woken left => exact each left _
  | panics => trivial
  | continues left => exact each left _

namespace World

theorem afterProgress_eq (n due : Nat) (x : Progress × World) :
    afterProgress n due x = x.2.setActivity n (x.1.activity due) := by
  obtain ⟨p, v⟩ := x
  cases p <;> rfl

/-- A due round performs the round's action and files how it went. -/
theorem runRound_eq (w : World) (n : Nat) (t : Task) (due : Nat) :
    w.runRound n t due =
      (perform t.agent (w.round t.agent t.loop) w).2.setActivity n
        ((perform t.agent (w.round t.agent t.loop) w).1.activity
          (Task.next (w.agent t.agent).config t.loop due (w.elapsed * nanosPerMilli))) := by
  rw [runRound, afterProgress_eq, nanosElapsed, Task.next]

theorem getElem?_setActivity (w : World) (n : Nat) (a : Activity) (m : Nat) :
    (w.setActivity n a).tasks[m]? =
      (w.tasks[m]?).map fun t => if n = m then { t with activity := a } else t := by
  rw [setActivity, List.getElem?_modify]
  rfl

/-- **What a task does when it goes on.** It makes calls of its round, and then does something
else. -/
theorem resume_cases {P : Call → Prop} {w : World} {n wake : Nat} {t : Task}
    (round : (w.round t.agent t.loop).Asks P) (left : t.activity.Left P)
    (h : w.wakeTime? t = some wake) :
    ∃ v made a, w.resume n t = v.setActivity n a ∧ Makes w v made ∧ (∀ c ∈ made, P c) ∧
      GoesOn P (w.agent t.agent).config t.loop wake w.elapsed t.activity a := by
  obtain ⟨⟨made, hmade, makes⟩, later⟩ := perform_performs t.agent round w
  cases ha : t.activity with
  | scheduled =>
    simp only [resume, ha]
    split
    · exact ⟨w, [], .ended, rfl, .refl w, by simp, .ends⟩
    · rw [runRound_eq, nanosElapsed]
      exact ⟨_, made, _, rfl, makes, hmade, .begins later⟩
  | waiting due =>
    simp only [resume, ha]
    split
    · exact ⟨w, [], .ended, rfl, .refl w, by simp, .ends⟩
    · rename_i alive
      rw [wakeTime?, ha] at h
      dsimp only at h
      rw [if_neg alive, Option.some.injEq] at h
      rw [runRound_eq]
      exact ⟨_, made, _, rfl, makes, hmade, .runs h later⟩
  | publishing wake' m plan next due =>
    rw [ha] at left
    simp only [wakeTime?, ha, Option.some.injEq] at h
    subst h
    have ended := endPublish_makes w t.agent m plan
    simp only [resume, ha]
    split <;> rename_i hend <;> rw [hend] at ended
    · exact ⟨_, [], _, rfl, ended, by simp, .panics⟩
    · rename_i outcome v
      obtain ⟨⟨made, hmade, makes⟩, later⟩ := perform_performs t.agent (left outcome) v
      rw [afterProgress_eq]
      rw [ended.elapsed] at later
      exact ⟨_, made, _, rfl, ended.trans makes, hmade, .continues later⟩
  | ended | panicked => simp [wakeTime?, ha] at h

end World

/-! ## Effort -/

/-- The number of moments from now up to a point in time, and of those that a run which was due
before is to catch up with; a task that is more than five milliseconds late leaves runs out. -/
def Activity.effort (limit now : Nat) : Activity → Nat
  | .scheduled => 2 * (limit - now)
  | .waiting due => (limit - now) + (limit - max (due / nanosPerMilli) (now - 6))
  | .publishing wake _ _ _ due =>
    (limit - max wake now + 1) + (limit - max (due / nanosPerMilli) (now - 6))
  | .ended | .panicked _ => 0

/-- A run is due at least a millisecond after the one before, and if that was late, not before
now. -/
theorem le_next (config : DispatcherConfig) (loop : Loop) {due now : Nat} (h : due ≤ now) :
    due + nanosPerMilli ≤ Task.next config loop due now ∧
      (due + 5 * nanosPerMilli < now → now ≤ Task.next config loop due now) := by
  have period : nanosPerMilli ≤ Schedule.period (World.interval config loop) := by
    unfold Schedule.period
    omega
  have rest := Nat.mod_lt (now - due)
    (show 0 < Schedule.period (World.interval config loop) by unfold nanosPerMilli at period; omega)
  unfold Task.next Schedule.next Schedule.tolerance Schedule.horizon
  generalize Schedule.period (World.interval config loop) = p at *
  generalize (now - due) % p = q at *
  unfold nanosPerMilli at *
  dsimp only
  split <;> constructor <;> omega

/-- A run leaves less to catch up with. -/
theorem catchUp_lt {due next now limit : Nat} (reached : due ≤ now * nanosPerMilli)
    (later : due + nanosPerMilli ≤ next)
    (late : due + 5 * nanosPerMilli < now * nanosPerMilli → now * nanosPerMilli ≤ next)
    (before : now < limit) :
    limit - max (next / nanosPerMilli) (now - 6) < limit - max (due / nanosPerMilli) (now - 6) := by
  have positive : 0 < nanosPerMilli := by decide
  have advanced : due / nanosPerMilli + 1 ≤ next / nanosPerMilli := by
    rw [← Nat.add_div_right _ positive]
    exact Nat.div_le_div_right later
  have soon : due / nanosPerMilli ≤ now := Nat.div_le_of_le_mul (Nat.mul_comm _ _ ▸ reached)
  have behind : due + 5 * nanosPerMilli < now * nanosPerMilli → due / nanosPerMilli + 5 < now := by
    rw [← Nat.add_mul_div_right _ _ positive]
    exact (Nat.div_lt_iff_lt_mul positive).2
  have near : ¬ due + 5 * nanosPerMilli < now * nanosPerMilli → now ≤ due / nanosPerMilli + 5 := by
    rw [← Nat.add_mul_div_right _ _ positive, Nat.le_div_iff_mul_le positive]
    exact Nat.le_of_not_lt
  have there : due + 5 * nanosPerMilli < now * nanosPerMilli → now ≤ next / nanosPerMilli :=
    fun tardy => (Nat.le_div_iff_mul_le positive).2 (late tardy)
  generalize due / nanosPerMilli = a at *
  generalize next / nanosPerMilli = b at *
  by_cases tardy : due + 5 * nanosPerMilli < now * nanosPerMilli
  · have := behind tardy
    have := there tardy
    omega
  · have := near tardy
    omega

/-- What is left of an action, and of the rounds after it, is bounded by the time that is left. -/
theorem effort_activity_le {P : Call → Prop} {now limit : Nat} {p : Progress}
    (left : p.Left P now) (before : now < limit) (due : Nat) :
    (p.activity due).effort limit now ≤
      (limit - now) + (limit - max (due / nanosPerMilli) (now - 6)) := by
  cases p with
  | finished => exact Nat.le_refl _
  | panicked message => exact Nat.zero_le _
  | publishing wake m plan next =>
    have later := left.1
    simp only [Progress.activity, Activity.effort]
    omega

/-- Whoever goes on gets nearer to any later point in time. -/
theorem GoesOn.effort_lt {P : Call → Prop} {config : DispatcherConfig} {loop : Loop}
    {wake now limit : Nat} {a a' : Activity} (h : GoesOn P config loop wake now a a')
    (reached : wake ≤ now) (before : now < limit) (alive : a.effort limit now ≠ 0) :
    a'.effort limit now < a.effort limit now := by
  cases h with
  | ends => exact Nat.pos_of_ne_zero alive
  | begins left =>
    refine Nat.lt_of_le_of_lt (effort_activity_le left before _) ?_
    have later := (le_next config loop (Nat.le_refl (now * nanosPerMilli))).1
    simp only [Activity.effort, nanosPerMilli] at *
    omega
  | @runs p due woken left =>
    refine Nat.lt_of_le_of_lt (effort_activity_le left before _) ?_
    have past : due ≤ now * nanosPerMilli := by
      unfold ceilMillis nanosPerMilli at *
      omega
    obtain ⟨later, late⟩ := le_next config loop past
    exact Nat.add_lt_add_left (catchUp_lt past later late before) _
  | panics =>
    simp only [Activity.effort]
    omega
  | continues left =>
    refine Nat.lt_of_le_of_lt (effort_activity_le left before _) ?_
    simp only [Activity.effort]
    omega

/-- Time that passes brings nobody farther away. -/
theorem Activity.effort_mono (a : Activity) {now now' : Nat} (h : now ≤ now') (limit : Nat) :
    a.effort limit now' ≤ a.effort limit now := by
  cases a <;> simp only [effort] <;> omega

/-- Nobody is farther away than eight runs for each moment. -/
theorem Activity.effort_le (a : Activity) (limit now : Nat) :
    a.effort limit now ≤ (limit - now + 1) * 8 := by
  cases a <;> simp only [effort] <;> omega

namespace World

def effort (w : World) (limit : Nat) : Nat :=
  (w.tasks.map fun t => t.activity.effort limit w.elapsed).sum

/-- The effort of a world is at most the fuel that a wait begins with. -/
theorem effort_le_stepBound (w : World) (limit : Nat) : w.effort limit ≤ w.stepBound limit := by
  have each : ∀ x ∈ w.tasks.map fun t => t.activity.effort limit w.elapsed,
      x ≤ (limit - w.elapsed + 1) * 8 := by
    intro x hx
    obtain ⟨t, -, rfl⟩ := List.mem_map.1 hx
    exact Activity.effort_le ..
  refine (List.sum_le_card_nsmul _ _ each).trans ?_
  rw [List.length_map, nsmul_eq_mul, Nat.cast_id, stepBound, Nat.mul_comm]
  exact Nat.mul_le_mul_left _ (Nat.le_succ _)

theorem passUntil_effort_le (w : World) (limit millis : Nat) :
    (w.passUntil millis).effort limit ≤ w.effort limit :=
  List.sum_le_sum fun t _ => t.activity.effort_mono (Nat.le_max_left ..) limit

theorem sum_modify_lt {α : Type} {f : α → Nat} {g : α → α} {l : List α} {n : Nat} {a : α}
    (h : l[n]? = some a) (less : f (g a) < f a) :
    ((l.modify n g).map f).sum < (l.map f).sum := by
  induction l generalizing n with
  | nil => cases h
  | cons b rest ih =>
    cases n with
    | zero =>
      obtain rfl : b = a := Option.some.inj h
      exact Nat.add_lt_add_right less _
    | succ n => exact Nat.add_lt_add_left (ih h) _

theorem effort_ne_zero {w : World} {wake : Nat} {t : Task} (h : w.wakeTime? t = some wake)
    {limit : Nat} (before : w.elapsed < limit) : t.activity.effort limit w.elapsed ≠ 0 := by
  cases ha : t.activity <;> simp only [wakeTime?, ha] at h <;> simp only [Activity.effort]
  · omega
  · omega
  · omega
  · cases h
  · cases h

/-- **Every resumption brings a wait nearer to its end**: the time stays and the effort falls. -/
theorem resume_nearer {w : World} {n wake : Nat} {t : Task} (ht : w.tasks[n]? = some t)
    (h : w.wakeTime? t = some wake) (reached : wake ≤ w.elapsed) {limit : Nat}
    (before : w.elapsed < limit) :
    (w.resume n t).elapsed = w.elapsed ∧ (w.resume n t).effort limit < w.effort limit := by
  have anyLeft : t.activity.Left fun _ => True := by
    cases ha : t.activity <;> simp only [Activity.Left]
    exact fun outcome => Action.asks_true _
  obtain ⟨v, made, a, resumed, makes, -, goesOn⟩ :=
    resume_cases (Action.asks_true (w.round t.agent t.loop)) anyLeft h
  have less := goesOn.effort_lt reached before (effort_ne_zero h before)
  rw [resumed]
  refine ⟨makes.elapsed, ?_⟩
  rw [effort, effort, setActivity, makes.elapsed, makes.tasks]
  exact sum_modify_lt ht less

/-! ## Waiting until a point in time -/

/-- A task that is waited for goes on at the moment that was reached. -/
theorem wakeTime?_passUntil {w : World} {wake : Nat} {t : Task} (h : w.wakeTime? t = some wake) :
    ∃ wake', (w.passUntil wake).wakeTime? t = some wake' ∧
      wake' ≤ (w.passUntil wake).elapsed := by
  have reached : wake ≤ (w.passUntil wake).elapsed := Nat.le_max_right ..
  cases ha : t.activity <;> simp only [wakeTime?, ha] at h ⊢
  · exact ⟨_, rfl, Nat.le_refl _⟩
  · rename_i due
    have same : (w.passUntil wake).cancelled t.token = w.cancelled t.token := rfl
    rw [same]
    split at h
    · exact ⟨_, rfl, by rw [if_pos ‹_›]⟩
    · exact ⟨_, rfl, by rw [if_neg ‹_›, Option.some.inj h]; exact reached⟩
  · exact ⟨_, rfl, Option.some.inj h ▸ reached⟩
  · cases h
  · cases h

/-- What a world keeps when time passes up to the next task and this goes on, it keeps while
somebody waits. -/
theorem runBefore_keeps {I : World → Prop} {limit : Nat}
    (step : ∀ w n t wake, I w → w.nextTask? = some (n, t, wake) → wake < limit →
      I ((w.passUntil wake).resume n t)) (fuel : Nat) {w : World} (h : I w) :
    I (runBefore limit fuel w) := by
  induction fuel generalizing w with
  | zero => exact h
  | succ fuel ih =>
    rw [runBefore]
    split
    · rename_i n t wake next
      split
      · exact ih (step w n t wake h next ‹_›)
      · exact h
    · exact h

/-- **When somebody has waited until a point in time, no task is due before it.** -/
theorem nothing_due_before {w : World} {limit : Nat} (before : w.elapsed < limit) :
    ∀ t ∈ (runBefore limit (w.stepBound limit) w).tasks,
      ∀ wake, (runBefore limit (w.stepBound limit) w).wakeTime? t = some wake → limit ≤ wake := by
  have enough := w.effort_le_stepBound limit
  generalize w.stepBound limit = fuel at *
  induction fuel generalizing w with
  | zero =>
    intro t ht wake hwake
    have spent : t.activity.effort limit w.elapsed ≤ w.effort limit :=
      List.single_le_sum (fun _ _ => Nat.zero_le _) _ (List.mem_map_of_mem ht)
    exact absurd (Nat.le_zero.1 (spent.trans enough)) (effort_ne_zero hwake before)
  | succ fuel ih =>
    rw [runBefore]
    cases next : w.nextTask? with
    | none =>
      intro t ht wake hwake
      cases (nextTask?_eq_none next t ht).symm.trans hwake
    | some found =>
      obtain ⟨n, t, wake⟩ := found
      obtain ⟨ht, hwake, first⟩ := nextTask?_eq_some next
      dsimp only
      split
      · rename_i early
        obtain ⟨wake', hwake', reached⟩ := wakeTime?_passUntil hwake
        have soon : (w.passUntil wake).elapsed < limit := Nat.max_lt.2 ⟨before, early⟩
        have there : (w.passUntil wake).tasks[n]? = some t := ht
        obtain ⟨same, less⟩ := resume_nearer there hwake' reached soon
        have passed := w.passUntil_effort_le limit wake
        exact ih (by rwa [same]) (by omega)
      · rename_i late
        intro t' ht' wake' hwake'
        exact (Nat.le_of_not_lt late).trans (first t' ht' wake' hwake')

end World

end EventRelay.Simulation
