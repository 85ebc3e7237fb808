import EventRelay.Time.Duration

/-!
# Failures

What can go wrong between an event that is handed in and the broker's confirmation, with the text
that logs and records keep of it, and what is known of the parts of a computation that succeeds.
-/

namespace EventRelay

/-- Why an operation of the outbox failed. -/
inductive Failure where
  /-- The event cannot be accepted. -/
  | validation (reason : String)
  /-- A document could not be written. -/
  | serialization (reason : String)
  /-- The store failed. -/
  | database (reason : String)
  /-- The store has no such thing. -/
  | notFound (reason : String)
  /-- The broker did not take the message. -/
  | publish (reason : String)
  /-- The broker did not answer in time. -/
  | confirmTimeout (timeout : Duration)
  /-- The configuration cannot be used. -/
  | config (reason : String)
deriving DecidableEq

def Failure.message : Failure → String
  | .validation reason => "validation error: " ++ reason
  | .serialization reason => "serialization error: " ++ reason
  | .database reason => "database error: " ++ reason
  | .notFound reason => "not found: " ++ reason
  | .publish reason => "publish failed: " ++ reason
  | .confirmTimeout timeout =>
    "broker confirm timed out after " ++ String.ofList timeout.text
  | .config reason => "invalid config: " ++ reason

/-- A failure with the reasons below it, the outermost first. Only a document that could not be
written has one, which its text names as well. -/
def Failure.chain : Failure → List String
  | .serialization reason => [Failure.message (.serialization reason), reason]
  | failure => [failure.message]

/-! ## Computations that succeed -/

section
variable {ε ε' α β : Type}

theorem ok_bind (a : α) (f : α → Except ε β) : (Except.ok a >>= f) = f a := rfl

/-- Two steps succeed together exactly if the first gives something with which the second
succeeds. -/
theorem bind_eq_ok_iff {x : Except ε α} {f : α → Except ε β} {b : β} :
    (x >>= f) = .ok b ↔ ∃ a, x = .ok a ∧ f a = .ok b := by
  cases x <;> simp [bind, Except.bind]

/-- What is made of a result succeeds exactly if there is a result to make it of. -/
theorem map_eq_ok_iff {x : Except ε α} {f : α → β} {b : β} :
    x.map f = .ok b ↔ ∃ a, x = .ok a ∧ f a = b := by
  cases x <;> simp [Except.map]

/-- Putting an error in other words does not change when there is none. -/
theorem mapError_eq_ok_iff {x : Except ε α} {f : ε → ε'} {a : α} :
    x.mapError f = .ok a ↔ x = .ok a := by
  cases x with
  | ok b =>
    exact ⟨fun h => congrArg Except.ok (Except.ok.inj h),
      fun h => congrArg Except.ok (Except.ok.inj h)⟩
  | error e => exact ⟨nofun, nofun⟩

end
end EventRelay
