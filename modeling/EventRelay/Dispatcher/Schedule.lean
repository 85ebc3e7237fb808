import EventRelay.Time.Duration

/-!
# The schedule of a loop

A loop runs when it starts and then at every multiple of its interval. Timers fire at whole
milliseconds: a loop runs at the first of them that is not before its due time. A loop that was
busy and comes more than five milliseconds too late runs at once, leaves out the runs that it has
missed, and goes on at the next multiple; a smaller delay is caught up.

No timer is set further ahead than thirty years (`Schedule.horizon`). This is a simplification: a
timer waits as long as it is told to, and is put thirty years ahead only where the clock counts no
further. Nothing is meant to be said of longer waits.
-/

namespace EventRelay

def nanosPerMilli : Nat := 1000000

/-- The first whole millisecond that is not before a point given in nanoseconds. -/
def ceilMillis (nanos : Nat) : Nat := (nanos + (nanosPerMilli - 1)) / nanosPerMilli

namespace Schedule

def period (interval : Duration) : Nat := max interval.nanos nanosPerMilli

/-- How late a run may be without runs being left out, in nanoseconds. -/
def tolerance : Nat := 5 * nanosPerMilli

/-- The time that a timer may be set ahead, in milliseconds: thirty years of 365 days. Every longer
wait is cut here, not only one beyond the end of the clock. -/
def horizon : Nat := 30 * 365 * 86400 * 1000

/-- When a loop is due after a run that was due at one point and takes place at another, all in
nanoseconds; at the latest at the `horizon`. -/
def next (period due now : Nat) : Nat :=
  let due := if due + tolerance < now then now + period - (now - due) % period else due + period
  min due (now + horizon * nanosPerMilli)

end Schedule
end EventRelay
