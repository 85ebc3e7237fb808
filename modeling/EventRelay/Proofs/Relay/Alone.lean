import EventRelay.Proofs.Dispatcher.Playing

/-!
# Rounds that are left alone

`Action.play` makes all calls of a round as if nobody else were there. This is one of the ways in
which the round can go in a relay, call by call and a batch record by record (`play_alone`):
what is proved about every run of a relay holds of it as well, and what is proved about it happens
in a relay.
-/

namespace EventRelay.Relay

/-- The round `i` does this, at a time that its clock shows, and the publisher answers it. -/
inductive OfRound {σ : Type} (i : Nat) (clock : Readings)
    (send : σ → Message → Except Undelivered Unit × σ) : Happening → Prop where
  | notes : OfRound i clock send (.notes i)
  | calls {op a k} (h : op.reading = some (clock k)) : OfRound i clock send (.calls i op a)
  | publishes {m p} : OfRound i clock send (.publishes i m (send p m).1)

/-- The round `i` alone leads from one relay to another. -/
def Alone {σ : Type} (i : Nat) (clock : Readings)
    (send : σ → Message → Except Undelivered Unit × σ) (r r' : Relay) : Prop :=
  ∃ history, Run Does r history r' ∧ ∀ x ∈ history, OfRound i clock send x.event

/-- The relay in which the round `i` has these calls still to make on the store `n`, and that is
what the store contains. -/
def poised (r : Relay) (i n : Nat) (policy : Policy) (rest : Action Unit) (c : Contents) : Relay :=
  ⟨r.depot.put n c, r.rounds.set i ⟨n, policy, rest⟩⟩

section
variable {σ : Type} {i n : Nat} {policy : Policy} {clock : Readings}
  {send : σ → Message → Except Undelivered Unit × σ} {r r₁ r₂ r₃ : Relay} {ev : Happening}
  {rest rest' : Action Unit} {c c' : Contents} {op : Operation} {a : Answer}

theorem Alone.refl (r : Relay) : Alone i clock send r r := ⟨[], rfl, by simp⟩

theorem Alone.trans (h : Alone i clock send r₁ r₂)
    (h' : Alone i clock send r₂ r₃) : Alone i clock send r₁ r₃ := by
  obtain ⟨history, run, own⟩ := h
  obtain ⟨history', run', own'⟩ := h'
  refine ⟨history ++ history', run_append.2 ⟨r₂, run, run'⟩, fun x hx => ?_⟩
  exact (List.mem_append.1 hx).elim (own x) (own' x)

theorem Alone.single (h : r₁.Does ev r₂) (own : OfRound i clock send ev) :
    Alone i clock send r₁ r₂ :=
  ⟨[⟨r₁, ev, r₂⟩], ⟨rfl, h, rfl⟩, by simpa using own⟩

/-- What the clock shows later on, it shows. -/
theorem OfRound.drop {k : Nat} (h : OfRound i (clock.drop k) send ev) :
    OfRound i clock send ev := by
  cases h with
  | notes => exact .notes
  | calls h => exact .calls h
  | publishes => exact .publishes

theorem Alone.drop {k : Nat} (h : Alone i (clock.drop k) send r₁ r₂) :
    Alone i clock send r₁ r₂ := by
  obtain ⟨history, run, own⟩ := h
  exact ⟨history, run, fun x hx => (own x hx).drop⟩

/-- A store whose lock is in order does what the round asks of it. -/
theorem poised_calls (hi : i < r.rounds.length) (hn : n < r.depot.stores.length) (op : Operation)
    {α : Type} {answer : α → Answer} {f : Store → Except Failure (α × Store)} {x : α}
    (asks : ∀ d : Depot, d.perform op = d.change n answer f)
    (hf : f ⟨c, false⟩ = .ok (x, ⟨c', false⟩)) (hr : Answered n policy rest op (answer x) rest')
    (k : Nat) (reading : op.reading = some (clock k)) :
    Alone i clock send (r.poised i n policy rest c) (r.poised i n policy rest' c') := by
  have here : (r.poised i n policy rest c).rounds[i]? = some ⟨n, policy, rest⟩ :=
    List.getElem?_set_self hi
  have done : (r.depot.put n c).Does (op, answer x) (r.depot.put n c') := by
    rw [Depot.Does, asks]
    simp [Depot.change, Depot.put, List.getElem?_set_self hn, hf]
  have step := Does.calls here hr done
  simp only [goOn, poised, List.set_set] at step
  exact .single step (.calls reading)

/-- A round that writes to the journal goes on with the rest of its calls. -/
theorem poised_notes (hi : i < r.rounds.length) (entry : Journal.Entry) (c : Contents) :
    Alone i clock send (r.poised i n policy (.note entry rest) c)
      (r.poised i n policy rest c) := by
  have here : (r.poised i n policy (.note entry rest) c).rounds[i]? =
      some ⟨n, policy, .note entry rest⟩ := List.getElem?_set_self hi
  have step := Does.notes here rfl
  simp only [goOn, poised, List.set_set] at step
  exact .single step .notes

/-- A round that publishes goes on as the publisher's answer has it. -/
theorem poised_publishes (hi : i < r.rounds.length) (m : Message) (timeout : Duration)
    (next : Except Undelivered Unit → Action Unit) (c : Contents) (p : σ) :
    Alone i clock send (r.poised i n policy (.publish m timeout next) c)
      (r.poised i n policy (next (send p m).1) c) := by
  have here : (r.poised i n policy (.publish m timeout next) c).rounds[i]? =
      some ⟨n, policy, .publish m timeout next⟩ := List.getElem?_set_self hi
  have step : Does _ (.publishes i m (send p m).1) _ := .publishes here rfl
  simp only [goOn, poised, List.set_set] at step
  exact .single step .publishes

/-- A batch that is claimed record by record. -/
theorem claimEach_alone (hi : i < r.rounds.length) (hn : n < r.depot.stores.length)
    (worker : String) (limit : Nat) (next : Except Failure (List Record) → Action Unit)
    (clock : Readings) (c : Contents) :
    Alone i clock send (r.poised i n policy (.claimBatch limit worker next) c)
      (r.poised i n policy (next (.ok (c.claimEach policy worker clock limit).1))
        (c.claimEach policy worker clock limit).2) := by
  induction limit generalizing next clock c with
  | zero =>
    have asks : ∀ d : Depot, d.perform (.claimBatch n policy 0 worker (clock 0)) =
        d.change n .records (·.claimBatch policy 0 worker (clock 0)) := fun _ => rfl
    exact poised_calls hi hn _ asks rfl .claimBatch 0 rfl
  | succ limit ih =>
    have asks : ∀ d : Depot, d.perform (.claimOne n policy worker (clock 0)) =
        d.change n .record (·.claimOne policy worker (clock 0)) := fun _ => rfl
    rw [Contents.claimEach]
    cases hone : c.claimOne? policy worker (clock 0) with
    | none =>
      have none_found : (⟨c, false⟩ : Store).claimOne policy worker (clock 0) =
          .ok (none, ⟨c, false⟩) := by simp [Store.claimOne, Store.locked, hone]
      exact poised_calls hi hn _ asks none_found .claimNone 0 rfl
    | some found =>
      obtain ⟨w, c'⟩ := found
      have one_found : (⟨c, false⟩ : Store).claimOne policy worker (clock 0) =
          .ok (some w, ⟨c', false⟩) := by simp [Store.claimOne, Store.locked, hone]
      have others := ih (fun rs => next (rs.map (w :: ·))) (clock.drop 1) c'
      exact (poised_calls hi hn _ asks one_found .claimOne 0 rfl).trans others.drop

/-- **A played round is a run of the relay.** -/
theorem play_alone (hi : i < r.rounds.length) (hn : n < r.depot.stores.length) (policy : Policy)
    (send : σ → Message → Except Undelivered Unit × σ) (round : Action Unit) (clock : Readings)
    (c : Contents) (p : σ) :
    ∃ c', (round.play policy send clock ⟨c, false⟩ p).2.1 = ⟨c', false⟩ ∧
      Alone i clock send (r.poised i n policy round c) (r.poised i n policy (.done ()) c') := by
  induction round generalizing clock c p with
  | done a => exact ⟨c, rfl, .refl _⟩
  | note entry next ih =>
    obtain ⟨c', played, run⟩ := ih clock c p
    exact ⟨c', played, (poised_notes hi entry c).trans run⟩
  | claimBatch limit worker next ih =>
    obtain ⟨c', played, run⟩ := ih (.ok (c.claimEach policy worker clock limit).1)
      (clock.drop limit) (c.claimEach policy worker clock limit).2 p
    refine ⟨c', ?_, (claimEach_alone hi hn worker limit next clock c).trans run.drop⟩
    simpa only [Action.play, Store.claimEach_eq, Store.answered] using played
  | publish m timeout next ih =>
    obtain ⟨c', played, run⟩ := ih (send p m).1 clock c (send p m).2
    exact ⟨c', played, (poised_publishes hi m timeout next c p).trans run⟩
  | markPublished id next ih =>
    obtain ⟨c', played, run⟩ := ih (.ok ()) (clock.drop 1) _ p
    exact ⟨c', played, (poised_calls hi hn (.markPublished n id (clock 0)) (fun _ => rfl) rfl
      .markPublished 0 rfl).trans run.drop⟩
  | reschedule id error attempts next ih =>
    have noted := Depot.reschedule_store_eq policy id error attempts (clock 0) c
    obtain ⟨c', played, run⟩ := ih (.ok ()) (clock.drop 1) _ p
    refine ⟨c', ?_, (poised_calls hi hn (.reschedule n policy id error attempts (clock 0))
      (fun _ => rfl) noted .reschedule 0 rfl).trans run.drop⟩
    simpa only [Action.play, noted, Store.answered, Except.map] using played
  | recoverStuck threshold next ih =>
    obtain ⟨c', played, run⟩ := ih (.ok _) (clock.drop 1) _ p
    exact ⟨c', played, (poised_calls hi hn (.recoverStuck n threshold (clock 0)) (fun _ => rfl) rfl
      .recoverStuck 0 rfl).trans run.drop⟩
  | purgePublished retention next ih =>
    obtain ⟨c', played, run⟩ := ih (.ok _) (clock.drop 1) _ p
    exact ⟨c', played, (poised_calls hi hn (.purgePublished n retention (clock 0)) (fun _ => rfl)
      rfl .purgePublished 0 rfl).trans run.drop⟩

end
end EventRelay.Relay
