import EventRelay.Time.Duration

/-!
# The retry policy

A failed delivery is tried again after a delay that doubles with every attempt, from a base up to a
cap, and no event is tried more often than the policy allows.
-/

namespace EventRelay

/-- The delays between attempts: the base, doubled for every attempt, but never above the cap. -/
structure Backoff where
  base : Duration
  cap : Duration
deriving DecidableEq

/-- The delay after so many failed attempts. From 32 attempts on, and wherever the product leaves
the range of durations, it is the cap. -/
def Backoff.delay (b : Backoff) (attempts : UInt32) : Duration :=
  if attempts < 32 then
    match b.base.scale? (2 ^ attempts.toNat) with
    | some d => d.shorter b.cap
    | none => b.cap
  else b.cap

/-- How often, and after which delays, a delivery is tried. -/
structure Policy where
  maxAttempts : UInt32
  backoff : Backoff
deriving DecidableEq

/-- Ten attempts, with delays from five seconds up to five minutes. -/
def Policy.default : Policy := ⟨10, .ofSeconds 5, .ofSeconds 300⟩

instance : Inhabited Policy := ⟨.default⟩

end EventRelay
