import EventRelay.Text.Digits

/-!
# Durations

A span of time of zero or more whole nanoseconds, below 2⁶⁴ seconds. Arithmetic that would leave
this range answers `none`, so that a caller decides what takes its place.

A duration is shown in the largest of the units s, ms, µs and ns in which it has a whole part, with
the exact fraction and no trailing zeros: `1.5s`, `250ms`, `1.001µs`, and `0ns` for zero.
-/

namespace EventRelay

def nanosPerSecond : Nat := 1000000000

/-- A span of time in whole nanoseconds, below 2⁶⁴ seconds. -/
structure Duration where
  nanos : Nat
  nanos_lt : nanos < 2 ^ 64 * nanosPerSecond
deriving DecidableEq

namespace Duration

@[ext] theorem ext {a b : Duration} (h : a.nanos = b.nanos) : a = b := by
  cases a; cases b; simp_all

def ofNanos? (n : Nat) : Option Duration :=
  if h : n < 2 ^ 64 * nanosPerSecond then some ⟨n, h⟩ else none

def longest : Duration := ⟨2 ^ 64 * nanosPerSecond - 1, by decide⟩

def zero : Duration := ⟨0, by decide⟩

instance : Inhabited Duration := ⟨zero⟩

def ofSeconds (s : UInt64) : Duration :=
  ⟨s.toNat * nanosPerSecond, by
    have := s.toNat_lt
    unfold nanosPerSecond
    omega⟩

def ofMillis (ms : UInt64) : Duration :=
  ⟨ms.toNat * 1000000, by
    have := ms.toNat_lt
    unfold nanosPerSecond
    omega⟩

/-- The whole seconds of a duration. -/
def wholeSeconds (d : Duration) : Nat := d.nanos / nanosPerSecond

/-- The nanoseconds of a duration beyond its whole seconds. -/
def fraction (d : Duration) : Nat := d.nanos % nanosPerSecond

def wholeMillis (d : Duration) : Nat := d.nanos / 1000000

def scale? (d : Duration) (k : Nat) : Option Duration := ofNanos? (d.nanos * k)

/-- A duration is at most another if it has no more nanoseconds. -/
instance : LE Duration := ⟨fun a b => a.nanos ≤ b.nanos⟩

instance (a b : Duration) : Decidable (a ≤ b) := inferInstanceAs (Decidable (a.nanos ≤ b.nanos))

def shorter (a b : Duration) : Duration := if a ≤ b then a else b

def longer (a b : Duration) : Duration := if a ≤ b then b else a

theorem le_def {a b : Duration} : a ≤ b ↔ a.nanos ≤ b.nanos := Iff.rfl

@[simp] theorem nanos_shorter (a b : Duration) :
    (a.shorter b).nanos = min a.nanos b.nanos := by
  unfold shorter
  split <;> rename_i h <;> rw [le_def] at h <;> omega

@[simp] theorem nanos_longer (a b : Duration) :
    (a.longer b).nanos = max a.nanos b.nanos := by
  unfold longer
  split <;> rename_i h <;> rw [le_def] at h <;> omega

theorem ofNanos?_eq_some_iff {n : Nat} {d : Duration} : ofNanos? n = some d ↔ d.nanos = n := by
  unfold ofNanos?
  split
  · rw [Option.some.injEq]
    exact ⟨fun h => by rw [← h], fun h => Duration.ext h.symm⟩
  · rename_i h
    simp only [reduceCtorEq, false_iff]
    intro hn
    exact h (hn ▸ d.nanos_lt)

/-! ## Text -/

/-- The fraction `part / 10 ^ places` behind a decimal point, without trailing zeros; nothing for
zero. -/
def fractionText (places part : Nat) : List Char :=
  if part = 0 then []
  else '.' :: ((Text.padded places part).reverse.dropWhile (· == '0')).reverse

def text (d : Duration) : List Char :=
  let n := d.nanos
  if n ≥ nanosPerSecond then
    Text.decimal (n / nanosPerSecond) ++ fractionText 9 (n % nanosPerSecond) ++ ['s']
  else if n ≥ 1000000 then
    Text.decimal (n / 1000000) ++ fractionText 6 (n % 1000000) ++ ['m', 's']
  else if n ≥ 1000 then
    Text.decimal (n / 1000) ++ fractionText 3 (n % 1000) ++ ['µ', 's']
  else
    Text.decimal n ++ ['n', 's']

end Duration
end EventRelay
