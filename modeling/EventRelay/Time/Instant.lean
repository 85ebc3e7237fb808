import EventRelay.Time.Calendar
import EventRelay.Time.Duration

/-!
# Points in time

A point in time is a number of seconds since 1970-01-01T00:00:00Z and a number of nanoseconds in
that second. A second may be followed by a leap second, which has no number of its own: a point
inside it belongs to the second before and has 10⁹ nanoseconds or more.

Time has two ends: it begins with the year −262143 and stops with the year 262142. Moving a point
by a duration stops at the ends.
-/

namespace EventRelay

/-- The first second of the year −262143. -/
def firstSecond : Int := -8334601228800

/-- The last second of the year 262142. -/
def lastSecond : Int := 8210266876799

/-- A point in time; `nano` of 10⁹ or more lies in the leap second after `second`. -/
structure Instant where
  second : Int
  nano : Nat
  second_ge : firstSecond ≤ second
  second_le : second ≤ lastSecond
  nano_lt : nano < 2 * nanosPerSecond
deriving DecidableEq

namespace Instant

@[ext] theorem ext {a b : Instant} (hs : a.second = b.second) (hn : a.nano = b.nano) : a = b := by
  cases a; cases b; simp_all

def ofParts? (second : Int) (nano : Nat) : Option Instant :=
  if h : firstSecond ≤ second ∧ second ≤ lastSecond ∧ nano < 2 * nanosPerSecond then
    some ⟨second, nano, h.1, h.2.1, h.2.2⟩
  else none

def epoch : Instant := ⟨0, 0, by decide, by decide, by decide⟩

def earliest : Instant := ⟨firstSecond, 0, by decide, by decide, by decide⟩

def latest : Instant := ⟨lastSecond, nanosPerSecond - 1, by decide, by decide, by decide⟩

instance : Inhabited Instant := ⟨epoch⟩

/-! ## Order -/

/-- Earlier points have a smaller second, or the same second and fewer nanoseconds. -/
instance : LT Instant :=
  ⟨fun a b => a.second < b.second ∨ (a.second = b.second ∧ a.nano < b.nano)⟩

instance : LE Instant :=
  ⟨fun a b => a.second < b.second ∨ (a.second = b.second ∧ a.nano ≤ b.nano)⟩

instance (a b : Instant) : Decidable (a < b) :=
  inferInstanceAs (Decidable (a.second < b.second ∨ (a.second = b.second ∧ a.nano < b.nano)))

instance (a b : Instant) : Decidable (a ≤ b) :=
  inferInstanceAs (Decidable (a.second < b.second ∨ (a.second = b.second ∧ a.nano ≤ b.nano)))

theorem lt_def {a b : Instant} :
    a < b ↔ a.second < b.second ∨ (a.second = b.second ∧ a.nano < b.nano) := Iff.rfl

theorem le_def {a b : Instant} :
    a ≤ b ↔ a.second < b.second ∨ (a.second = b.second ∧ a.nano ≤ b.nano) := Iff.rfl

theorem not_lt {a b : Instant} : ¬ a < b ↔ b ≤ a := by
  rw [lt_def, le_def]; omega

theorem not_le {a b : Instant} : ¬ a ≤ b ↔ b < a := by
  rw [lt_def, le_def]; omega

/-! ## Moving by a duration

A point inside a leap second stays there as long as it moves by less than a second and does not
run over its end. A longer way leaves the leap second first: forwards from the second that it
belongs to, backwards from the second after. -/

/-- The parts of the point `d` later, wherever time ends. -/
def partsAfter (t : Instant) (d : Duration) : Int × Nat :=
  let s : Int := d.wholeSeconds
  let n := d.fraction
  if t.nano ≥ nanosPerSecond ∧ s = 0 ∧ t.nano + n < 2 * nanosPerSecond then (t.second, t.nano + n)
  else
    let sum := t.nano % nanosPerSecond + n
    if sum ≥ nanosPerSecond then (t.second + s + 1, sum - nanosPerSecond)
    else (t.second + s, sum)

/-- The parts of the point `d` earlier, wherever time begins. -/
def partsBefore (t : Instant) (d : Duration) : Int × Nat :=
  let s : Int := d.wholeSeconds
  let n := d.fraction
  if t.nano ≥ nanosPerSecond ∧ s = 0 then (t.second, t.nano - n)
  else
    let second := if t.nano ≥ nanosPerSecond then t.second + 1 else t.second
    let nano := t.nano % nanosPerSecond
    if nano < n then (second - s - 1, nano + nanosPerSecond - n)
    else (second - s, nano - n)

/-- The point `d` later, or the end of time. -/
def later (t : Instant) (d : Duration) : Instant :=
  let p := t.partsAfter d
  (ofParts? p.1 p.2).getD latest

/-- The point `d` earlier, or the beginning of time. -/
def earlier (t : Instant) (d : Duration) : Instant :=
  let p := t.partsBefore d
  (ofParts? p.1 p.2).getD earliest

/-- The distance of an ordinary point from the epoch in nanoseconds. -/
def nanos (t : Instant) : Int := t.second * nanosPerSecond + t.nano

end Instant
end EventRelay
