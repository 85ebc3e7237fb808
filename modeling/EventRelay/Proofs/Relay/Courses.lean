import EventRelay.Proofs.Dispatcher.Stages
import Mathlib.Data.List.Forall2

/-!
# The courses of the rounds

Beside the rounds of a relay stand their courses: the stage of each round, with the dispatcher that
it belongs to. What happens in a relay moves at most one course by one stage (`Does.progress`), so
that an invariant of a relay can speak about stages and need not look at what is left of the
rounds. The operations that are done on the depot in the course of a history are a history of the
depot (`run_operations`).
-/

namespace EventRelay

/-- The stage of a round of a dispatcher. -/
structure Course where
  config : DispatcherConfig
  worker : String
  stage : Stage

def Course.at (c : Course) (s : Stage) : Course := { c with stage := s }

namespace Relay

/-- The rounds follow their courses. -/
def OnCourse (r : Relay) (courses : List Course) : Prop :=
  List.Forall₂ (fun round c => round.rest.Follows c.config.confirmTimeout c.worker c.stage)
    r.rounds courses

/-- A call of a round to its store fails, and leads from one stage to another. -/
inductive Falters (failure : Failure) : Stage → Stage → Prop where
  | claiming {limit got} : Falters failure (.claiming limit got) (.delivering [])
  | confirmed {r todo} :
    Falters failure (.confirmed r todo) (.failed r (chainText failure.chain) todo)
  | failed {r reason todo} : Falters failure (.failed r reason todo) (.delivering todo)
  | upkeep : Falters failure .upkeep .upkeep

/-- What happens in a relay moves the courses of its rounds like this. -/
inductive Progress (r : Relay) : List Course → Happening → List Course → Prop where
  | client {courses op a} : Progress r courses (.client op a) courses
  | clientFails {courses op} : Progress r courses (.clientFails op) courses
  | loses {courses t} : Progress r courses (.loses t) courses
  | begins {courses n policy config worker loop} :
    Progress r courses (.begins n policy config worker loop)
      (courses ++ [⟨config, worker, .first config loop⟩])
  | notes {courses i} : Progress r courses (.notes i) courses
  | calls {courses i c round op a s} (hc : courses[i]? = some c) (hi : r.rounds[i]? = some round)
    (h : c.stage.Calls round.store round.policy c.worker op a s) :
    Progress r courses (.calls i op a) (courses.set i (c.at s))
  | callFails {courses i c failure s} (hc : courses[i]? = some c) (h : Falters failure c.stage s) :
    Progress r courses (.callFails i failure) (courses.set i (c.at s))
  | publishes {courses i c s todo outcome} (hc : courses[i]? = some c)
    (h : c.stage = .delivering (s :: todo)) :
    Progress r courses (.publishes i s.message outcome)
      (courses.set i (c.at (.after c.config.confirmTimeout s todo outcome)))
  | panics {courses i c s todo} (hc : courses[i]? = some c)
    (h : c.stage = .delivering (s :: todo)) :
    Progress r courses (.panics i) (courses.set i (c.at (.delivering [])))

section
variable {r r' : Relay} {courses : List Course} {i : Nat} {round : Round} {ev : Happening}

/-- Every round follows the course that has its number. -/
theorem OnCourse.get (h : r.OnCourse courses) (hi : r.rounds[i]? = some round) :
    ∃ c, courses[i]? = some c ∧
      round.rest.Follows c.config.confirmTimeout c.worker c.stage := by
  obtain ⟨hlt, rfl⟩ := List.getElem?_eq_some_iff.1 hi
  have hlt' : i < courses.length := List.Forall₂.length_eq h ▸ hlt
  exact ⟨courses[i], List.getElem?_eq_getElem hlt', List.Forall₂.get h hlt hlt'⟩

theorem OnCourse.mem (h : r.OnCourse courses) {c : Course} (hc : c ∈ courses) :
    ∃ round ∈ r.rounds, round.rest.Follows c.config.confirmTimeout c.worker c.stage := by
  obtain ⟨i, hlt, rfl⟩ := List.getElem_of_mem hc
  have hlt' : i < r.rounds.length := (List.Forall₂.length_eq h).symm ▸ hlt
  exact ⟨r.rounds[i], List.getElem_mem hlt', List.Forall₂.get h hlt' hlt⟩

/-- A course that stays at its stage leaves the courses as they are. -/
theorem set_at_stage {c : Course} (hc : courses[i]? = some c) :
    courses.set i (c.at c.stage) = courses := by
  obtain ⟨hlt, rfl⟩ := List.getElem?_eq_some_iff.1 hc
  exact List.set_getElem_self hlt

/-- A round that has gone on is on its course at the new stage. -/
theorem OnCourse.goOn (h : r.OnCourse courses) (round : Round) {c : Course} {rest : Action Unit}
    {s : Stage} (hs : rest.Follows c.config.confirmTimeout c.worker s) :
    (r.goOn i round rest).OnCourse (courses.set i (c.at s)) := by
  unfold OnCourse at h ⊢
  unfold Relay.goOn
  rw [List.forall₂_iff_get] at h ⊢
  refine ⟨by simpa using h.1, fun j h₁ h₂ => ?_⟩
  simp only [List.get_eq_getElem, List.getElem_set]
  split
  · exact hs
  · exact h.2 j (by simpa using h₁) (by simpa using h₂)

/-- A round that goes on stays where it is. -/
theorem placed_goOn {n : Nat} {policy : Policy}
    (h : ∀ round ∈ r.rounds, round.store = n ∧ round.policy = policy)
    (hi : r.rounds[i]? = some round) (rest : Action Unit) :
    ∀ round' ∈ (r.goOn i round rest).rounds, round'.store = n ∧ round'.policy = policy := by
  intro round' hround
  rcases List.mem_or_eq_of_mem_set hround with hround | rfl
  · exact h round' hround
  · exact h round (List.mem_of_getElem? hi)

/-- A call that fails leads to the next stage of the course. -/
theorem Failed.stage {failure : Failure} {rest rest' : Action Unit} {timeout : Duration}
    {worker : String} {s : Stage} (h : Failed failure rest rest')
    (hs : rest.Follows timeout worker s) :
    ∃ s', Falters failure s s' ∧ rest'.Follows timeout worker s' := by
  cases h with
  | claimBatch =>
    obtain ⟨got, rfl, rfl, herror, -⟩ := hs
    exact ⟨_, .claiming, herror failure⟩
  | markPublished =>
    obtain ⟨s, todo, rfl, rfl, -, herror⟩ := hs
    exact ⟨_, .confirmed, herror failure⟩
  | reschedule =>
    obtain ⟨s, todo, rfl, rfl, rfl, hnext⟩ := hs
    exact ⟨_, .failed, hnext _⟩
  | recoverStuck | purgePublished =>
    obtain ⟨rfl, hnext⟩ := hs
    exact ⟨_, .upkeep, hnext _⟩

/-- **What happens moves at most one course by one stage.** -/
theorem Does.progress (hd : r.Does ev r') (h : r.OnCourse courses) :
    ∃ courses', r'.OnCourse courses' ∧ Progress r courses ev courses' := by
  cases hd with
  | client => exact ⟨courses, h, .client⟩
  | clientFails => exact ⟨courses, h, .clientFails⟩
  | loses => exact ⟨courses, h, .loses⟩
  | begins =>
    rename_i n policy config worker loop
    exact ⟨_, List.rel_append h (.cons (work_follows config worker loop) .nil), .begins⟩
  | notes hi hr =>
    rename_i i round entry next
    obtain ⟨c, hc, hf⟩ := h.get hi
    rw [hr] at hf
    change next.Follows c.config.confirmTimeout c.worker c.stage at hf
    refine ⟨courses, ?_, .notes⟩
    have onCourse := h.goOn (i := i) round hf
    rwa [set_at_stage hc] at onCourse
  | calls hi hr hd =>
    rename_i i round op a d rest
    obtain ⟨c, hc, hf⟩ := h.get hi
    obtain ⟨s, hcalls, hf'⟩ := hr.stage hf
    exact ⟨_, h.goOn round hf', .calls hc hi hcalls⟩
  | callFails hi hr =>
    rename_i i round failure rest
    obtain ⟨c, hc, hf⟩ := h.get hi
    obtain ⟨s, hfalters, hf'⟩ := hr.stage hf
    exact ⟨_, h.goOn round hf', .callFails hc hfalters⟩
  | publishes hi hr =>
    rename_i i round m timeout next outcome
    obtain ⟨c, hc, hf⟩ := h.get hi
    rw [hr] at hf
    obtain ⟨s, todo, hstage, rfl, rfl, hnext⟩ := hf
    exact ⟨_, h.goOn round (hnext outcome), .publishes hc hstage⟩
  | panics hi hr =>
    rename_i i round m timeout next
    obtain ⟨c, hc, hf⟩ := h.get hi
    rw [hr] at hf
    obtain ⟨s, todo, hstage, -⟩ := hf
    exact ⟨_, h.goOn round .delivered, .panics hc hstage⟩

end

/-! ## Operations on the depot -/

instance : HasDepot Relay Happening where
  operation? x :=
    match x.event with
    | .client op a | .calls _ op a => some ⟨x.before.depot, (op, a), x.after.depot⟩
    | _ => none

/-- No commit is lost. -/
def NothingLost (history : List Moment) : Prop := ∀ x ∈ history, ∀ t, x.event ≠ .loses t

/-- Ids that are not made twice are not made twice in the beginning of a history. -/
theorem fresh_past {past more : List Moment} (fresh : FreshIds (operations (past ++ more))) :
    FreshIds (operations past) := by
  rw [operations_append] at fresh
  exact fresh.sublist ((List.sublist_append_left _ _).filterMap _)

/-- The operations of a run of a relay are a run of its depot. -/
theorem run_operations {r r' : Relay} {history : List Moment} (run : Run Does r history r')
    (nothingLost : NothingLost history) :
    Run Depot.Does r.depot (operations history) r'.depot := by
  induction history generalizing r with
  | nil =>
    obtain rfl : r = r' := run
    rfl
  | cons x rest ih =>
    obtain ⟨before, event, after⟩ := x
    obtain ⟨rfl, hx, later⟩ := run
    have done := ih later fun y hy => nothingLost y (List.mem_cons_of_mem _ hy)
    change before.Does event after at hx
    change Run Depot.Does after.depot (operations rest) r'.depot at done
    cases hx with
    | client hd | calls _ _ hd => exact ⟨rfl, hd, done⟩
    | loses => exact absurd rfl (nothingLost _ List.mem_cons_self _)
    | clientFails | begins | notes | callFails | publishes | panics => exact done

end Relay
end EventRelay
