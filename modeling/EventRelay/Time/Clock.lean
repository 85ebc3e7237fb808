import EventRelay.Time.Instant

/-!
# Clocks

A clock counts nanoseconds from 1970-01-01T00:00:00Z on. It knows no leap seconds: one that is set
to a point inside a leap second shows the second that follows. A clock can be read only while it
shows a point in time that is not before the epoch and not behind the last year; whoever reads it
at other times breaks off.
-/

namespace EventRelay

/-- A clock, by the nanoseconds since the epoch. -/
structure Clock where
  nanos : Int
deriving DecidableEq

/-- Why a clock cannot be read. -/
inductive ClockFault where
  /-- It shows a point so many nanoseconds before the epoch. -/
  | beforeEpoch (nanos : Nat)
  /-- It shows a point behind the end of time. -/
  | behindEnd
deriving DecidableEq

def ClockFault.message : ClockFault → String
  | .beforeEpoch nanos =>
    "system time before Unix epoch: SystemTimeError("
      ++ String.ofList ((Duration.ofNanos? nanos).getD .longest).text ++ ")"
  | .behindEnd => "called `Option::unwrap()` on a `None` value"

namespace Clock

def ofInstant (t : Instant) : Clock := ⟨t.nanos⟩

/-- The clock after a duration has passed. -/
def later (c : Clock) (d : Duration) : Clock := ⟨c.nanos + d.nanos⟩

def read (c : Clock) : Except ClockFault Instant :=
  if c.nanos < 0 then .error (.beforeEpoch c.nanos.natAbs)
  else
    match Instant.ofParts? (c.nanos / nanosPerSecond) (c.nanos % nanosPerSecond).toNat with
    | some t => .ok t
    | none => .error .behindEnd

end Clock
end EventRelay
