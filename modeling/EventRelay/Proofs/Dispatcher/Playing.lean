import EventRelay.Proofs.Depot.Records
import EventRelay.Proofs.Dispatcher.Stages
import EventRelay.Proofs.Store.Claiming

/-!
# Rounds without interference

`Action.play` makes the calls of a round one after the other against a store and a publisher, and
nobody acts in between. Every call has a reading of the clock of its own, and so has every single
claim of a batch; if the clock stands still, the claims are a batch of the store
(`Store.claimEach_frozen`). What comes out depends on the stage of the round alone (`Follows.play`):
a tick claims its records and delivers them one after the other, each by one publication and the
settlement that belongs to its outcome.
-/

namespace EventRelay

open Dispatcher

/-- The times that a clock shows one after the other, as often as it is read. -/
abbrev Readings := Nat → Instant

def Readings.drop (clock : Readings) (n : Nat) : Readings := fun i => clock (i + n)

def Readings.frozen (now : Instant) : Readings := fun _ => now

/-! ## Claiming with several readings -/

/-- Claims records one by one, each at its own time. -/
def Store.claimEach (policy : Policy) (worker : String) :
    Readings → Nat → Store → Except Failure (List Record × Store)
  | _, 0, s => .ok ([], s)
  | clock, limit + 1, s =>
    match s.claimOne policy worker (clock 0) with
    | .error failure => .error failure
    | .ok (none, s) => .ok ([], s)
    | .ok (some r, s) =>
      match claimEach policy worker (clock.drop 1) limit s with
      | .error failure => .error failure
      | .ok (rs, s) => .ok (r :: rs, s)

def Contents.claimEach (policy : Policy) (worker : String) :
    Readings → Nat → Contents → List Record × Contents
  | _, 0, c => ([], c)
  | clock, limit + 1, c =>
    match c.claimOne? policy worker (clock 0) with
    | none => ([], c)
    | some (r, c) =>
      let (rs, c) := claimEach policy worker (clock.drop 1) limit c
      (r :: rs, c)

section
variable (policy : Policy) (worker : String)

/-- If the clock stands still, a batch that is claimed record by record is a batch. -/
theorem Store.claimEach_frozen (now : Instant) (limit : Nat) (s : Store) :
    s.claimEach policy worker (.frozen now) limit = s.claimBatch policy limit worker now := by
  induction limit generalizing s with
  | zero => rfl
  | succ limit ih =>
    have still : (Readings.frozen now).drop 1 = .frozen now := rfl
    rw [claimEach, claimBatch_succ, still]
    simp only [ih]
    rfl

/-- If the clock stands still, claiming one by one is claiming at once. -/
theorem Contents.claimEach_frozen (now : Instant) (limit : Nat) (c : Contents) :
    c.claimEach policy worker (.frozen now) limit = c.claimUpTo policy worker now limit := by
  induction limit generalizing c with
  | zero => rfl
  | succ limit ih =>
    have still : (Readings.frozen now).drop 1 = .frozen now := rfl
    rw [claimEach, claimUpTo, still]
    simp only [ih]
    rfl

/-- A store that can be used claims from its contents. -/
theorem Store.claimEach_eq (clock : Readings) (limit : Nat) (c : Contents) :
    (⟨c, false⟩ : Store).claimEach policy worker clock limit =
      .ok ((c.claimEach policy worker clock limit).1,
        ⟨(c.claimEach policy worker clock limit).2, false⟩) := by
  induction limit generalizing clock c with
  | zero => rfl
  | succ limit ih =>
    rw [claimEach, Contents.claimEach]
    simp only [claimOne, locked, Bool.false_eq_true, if_false]
    cases c.claimOne? policy worker (clock 0) with
    | none => rfl
    | some found => simp only [ih]

end

/-! ## Playing a round -/

/-- The answer of a store, and the store afterwards; after a failure it is as it was. -/
def Store.answered {α : Type} (s : Store) : Except Failure (α × Store) → Except Failure α × Store
  | .ok (a, s) => (.ok a, s)
  | .error failure => (.error failure, s)

section
variable {α σ : Type} (policy : Policy) (send : σ → Message → Except Undelivered Unit × σ)

/-- Makes the calls of a round, each with its answer, and nobody acts in between. -/
def Action.play : Action α → Readings → Store → σ → α × Store × σ
  | .done a, _, s, p => (a, s, p)
  | .note _ next, clock, s, p => next.play clock s p
  | .claimBatch limit worker next, clock, s, p =>
    let (answer, s) := s.answered (s.claimEach policy worker clock limit)
    (next answer).play (clock.drop limit) s p
  | .publish m _ next, clock, s, p =>
    let (outcome, p) := send p m
    (next outcome).play clock s p
  | .markPublished id next, clock, s, p =>
    let (answer, s) := s.answered (s.markPublished id (clock 0))
    (next answer).play (clock.drop 1) s p
  | .reschedule id error attempts next, clock, s, p =>
    let (answer, s) := s.answered (s.reschedule policy id error attempts (clock 0))
    (next (answer.map fun _ => ())).play (clock.drop 1) s p
  | .recoverStuck threshold next, clock, s, p =>
    let (answer, s) := s.answered (s.recoverStuck threshold (clock 0))
    (next answer).play (clock.drop 1) s p
  | .purgePublished retention next, clock, s, p =>
    let (answer, s) := s.answered (s.purgePublished retention (clock 0))
    (next answer).play (clock.drop 1) s p

/-- The record after the outcome of a publication was noted, of a copy with so many attempts. -/
def Record.concluded (timeout : Duration) (attempts : UInt32) (now : Instant) (r : Record) :
    Except Undelivered Unit → Record
  | .ok () => r.markPublished now
  | .error e => r.reschedule (reasonText timeout e) (now.later (policy.backoff.delay attempts))

/-- Notes the outcome of the publication of a copy of a record. -/
def Contents.conclude (timeout : Duration) (w : Record) (now : Instant) (c : Contents)
    (outcome : Except Undelivered Unit) : Contents :=
  c.update w.id (·.concluded policy timeout w.attempts now outcome)

def Contents.deliver (timeout : Duration) : List Record → Readings → Contents → σ → Contents × σ
  | [], _, c, p => (c, p)
  | w :: todo, clock, c, p =>
    let (outcome, p) := send p w.message
    deliver timeout todo (clock.drop 1) (c.conclude policy timeout w (clock 0) outcome) p

/-- What a tick still does from a stage on. -/
def Stage.carryOut (timeout : Duration) (worker : String) :
    Stage → Readings → Contents → σ → Contents × σ
  | .claiming limit got, clock, c, p =>
    let (rs, c) := c.claimEach policy worker clock limit
    c.deliver policy send timeout (got ++ rs) (clock.drop limit) p
  | .delivering todo, clock, c, p => c.deliver policy send timeout todo clock p
  | .confirmed w todo, clock, c, p =>
    (c.update w.id (·.markPublished (clock 0))).deliver policy send timeout todo (clock.drop 1) p
  | .failed w reason todo, clock, c, p =>
    (Depot.putOff policy w.id reason w.attempts (clock 0) c).deliver policy send timeout todo
      (clock.drop 1) p
  | .upkeep, _, c, p => (c, p)

variable {timeout : Duration} {worker : String}

/-- **What is left of a tick does what its stage says**, whatever its calls look like. -/
theorem Action.Follows.play (policy : Policy) (send : σ → Message → Except Undelivered Unit × σ)
    {a : Action α} {s : Stage} (h : a.Follows timeout worker s) (hs : s ≠ .upkeep)
    (clock : Readings) (c : Contents) (p : σ) :
    (a.play policy send clock ⟨c, false⟩ p).2 =
      (⟨(s.carryOut policy send timeout worker clock c p).1, false⟩,
        (s.carryOut policy send timeout worker clock c p).2) := by
  induction a generalizing s clock c p with
  | done a =>
    cases h with
    | delivered => rfl
    | upkeep => exact absurd rfl hs
  | note entry next ih => exact ih h hs clock c p
  | claimBatch limit w next ih =>
    obtain ⟨got, rfl, rfl, -, hok⟩ := h
    simp only [Action.play, Store.claimEach_eq, Store.answered, ih _ (hok _) (by simp)]
    rfl
  | publish m t next ih =>
    obtain ⟨r, todo, rfl, rfl, rfl, hnext⟩ := h
    simp only [Action.play]
    cases hsend : (send p r.message).1 with
    | ok =>
      rw [ih _ (hnext _) (by simp [Stage.after])]
      simp only [Stage.after, Stage.carryOut, Contents.deliver, hsend, Contents.conclude,
        Record.concluded]
    | error e =>
      rw [ih _ (hnext _) (by simp [Stage.after])]
      simp only [Stage.after, Stage.carryOut, Contents.deliver, hsend, Contents.conclude,
        Record.concluded, Depot.putOff]
  | markPublished id next ih =>
    obtain ⟨r, todo, rfl, rfl, hok, -⟩ := h
    simp only [Action.play, Store.markPublished, Store.locked, Store.answered, Bool.false_eq_true,
      if_false, ih _ hok (by simp)]
    rfl
  | reschedule id reason attempts next ih =>
    obtain ⟨r, todo, rfl, rfl, rfl, hnext⟩ := h
    simp only [Action.play, Depot.reschedule_store_eq, Store.answered, ih _ (hnext _) (by simp)]
    rfl
  | recoverStuck | purgePublished => exact absurd h.1 hs

end

/-! ## Conclusions -/

section
variable {policy : Policy} {timeout : Duration} {staged : List Record} {c : Contents}

/-- The outcome of a publication changes nothing but the state of the delivery. -/
@[simp] theorem Record.origin_concluded (policy : Policy) (timeout : Duration) (attempts : UInt32)
    (now : Instant) (r : Record) (outcome : Except Undelivered Unit) :
    (r.concluded policy timeout attempts now outcome).origin = r.origin := by
  cases outcome <;> rfl

/-- Noting an outcome keeps the contents sound. -/
theorem Contents.Sound.conclude (h : c.Sound staged) (w : Record) (now : Instant)
    (outcome : Except Undelivered Unit) :
    (c.conclude policy timeout w now outcome).Sound staged := by
  refine h.update w.id fun r => ?_
  have same := Record.origin_concluded policy timeout w.attempts now r outcome
  exact ⟨Record.id_eq_of_origin same, Record.dedupeKey_eq_of_origin same⟩

end
end EventRelay
