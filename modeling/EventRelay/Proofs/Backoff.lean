import EventRelay.Policy
import EventRelay.Time.Instant

/-!
# Delays and points in time

A delay is never above the cap (`Backoff.delay_le_cap`), it is positive where base and cap are
(`Backoff.delay_pos`), and it grows with the attempts (`Backoff.delay_le_delay`). It is the base,
doubled for every attempt, up to 31 attempts; from then on it is the cap, however far the doubled
base is below it (`Backoff.delay_formula`).

A point in time that is moved by a longer duration comes out later or at the same place
(`Instant.later_le_later`), and one that is moved at all comes out later, as long as time has not
ended (`Instant.lt_later`). A point inside the leap second at the very end of time would move back
to the end, so both ask that it is not beyond the end already.
-/

namespace EventRelay

namespace Instant

theorem le_refl (t : Instant) : t ≤ t := by
  rw [le_def]; omega

/-- The order of points is transitive, also across leap seconds. -/
theorem le_trans {a b c : Instant} (h : a ≤ b) (h' : b ≤ c) : a ≤ c := by
  rw [le_def] at *; omega

theorem le_of_lt {a b : Instant} (h : a < b) : a ≤ b := by
  rw [lt_def] at h; rw [le_def]; omega

/-- The three ways in which a point moves forward: inside its leap second, into the second that it
reaches, or with a carry into the next one. -/
theorem partsAfter_cases (t : Instant) (d : Duration) :
    (1000000000 ≤ t.nano ∧ d.nanos < 1000000000 ∧ t.nano + d.nanos < 2000000000 ∧
        t.partsAfter d = (t.second, t.nano + d.nanos)) ∨
      (¬ (1000000000 ≤ t.nano ∧ d.nanos < 1000000000 ∧ t.nano + d.nanos < 2000000000) ∧
        t.nano % 1000000000 + d.nanos % 1000000000 < 1000000000 ∧
        t.partsAfter d = (t.second + (d.nanos / 1000000000 : Nat),
          t.nano % 1000000000 + d.nanos % 1000000000)) ∨
      (¬ (1000000000 ≤ t.nano ∧ d.nanos < 1000000000 ∧ t.nano + d.nanos < 2000000000) ∧
        1000000000 ≤ t.nano % 1000000000 + d.nanos % 1000000000 ∧
        t.partsAfter d = (t.second + (d.nanos / 1000000000 : Nat) + 1,
          t.nano % 1000000000 + d.nanos % 1000000000 - 1000000000)) := by
  have whole : d.wholeSeconds = d.nanos / 1000000000 := rfl
  have fraction : d.fraction = d.nanos % 1000000000 := rfl
  have second : nanosPerSecond = 1000000000 := rfl
  unfold partsAfter
  dsimp only
  split
  · rename_i inside
    rw [whole, fraction, second] at inside
    refine .inl ⟨inside.1, by omega, by omega, ?_⟩
    rw [fraction, Nat.mod_eq_of_lt (by omega)]
  · rename_i outside
    rw [whole, fraction, second] at outside
    split
    · exact .inr (.inr ⟨by omega, ‹_›, rfl⟩)
    · rename_i carry
      rw [fraction, second] at carry
      exact .inr (.inl ⟨by omega, by omega, rfl⟩)

/-- Moving forward ends at the parts of the later point, or at the end of time if they are beyond
it. -/
theorem later_cases (t : Instant) (d : Duration) :
    ((t.partsAfter d).1 ≤ lastSecond ∧ (t.later d).second = (t.partsAfter d).1 ∧
        (t.later d).nano = (t.partsAfter d).2) ∨
      (lastSecond < (t.partsAfter d).1 ∧ t.later d = latest) := by
  have parts : firstSecond ≤ (t.partsAfter d).1 ∧ (t.partsAfter d).2 < 2 * nanosPerSecond := by
    have hs := t.second_ge
    have hn := t.nano_lt
    unfold nanosPerSecond at *
    rcases partsAfter_cases t d with ⟨_, _, _, h⟩ | ⟨_, _, h⟩ | ⟨_, _, h⟩ <;>
      rw [h] <;> dsimp only <;> omega
  by_cases upper : (t.partsAfter d).1 ≤ lastSecond
  · refine .inl ⟨upper, ?_⟩
    simp [later, ofParts?, parts, upper]
  · refine .inr ⟨by omega, ?_⟩
    simp [later, ofParts?, upper]

/-- Before the end of time, a wait that is not empty leads to a later point. -/
theorem lt_later {t : Instant} (h : t < latest) {d : Duration} (hd : 0 < d.nanos) :
    t < t.later d := by
  rcases later_cases t d with ⟨-, hs, hn⟩ | ⟨-, hend⟩
  · rw [lt_def, hs, hn]
    have := t.nano_lt
    unfold nanosPerSecond at this
    rcases partsAfter_cases t d with ⟨_, _, _, h⟩ | ⟨_, _, h⟩ | ⟨_, _, h⟩ <;>
      rw [h] <;> dsimp only <;> omega
  · rwa [hend]

theorem le_later {t : Instant} (h : t ≤ latest) (d : Duration) : t ≤ t.later d := by
  rcases later_cases t d with ⟨-, hs, hn⟩ | ⟨-, hend⟩
  · rw [le_def, hs, hn]
    have := t.nano_lt
    unfold nanosPerSecond at this
    rcases partsAfter_cases t d with ⟨_, _, _, hp⟩ | ⟨_, _, hp⟩ | ⟨_, _, hp⟩ <;>
      rw [hp] <;> dsimp only <;> omega
  · rwa [hend]

/-- Waiting stops at the end of time. -/
theorem later_le_latest {t : Instant} (h : t ≤ latest) (d : Duration) : t.later d ≤ latest := by
  rcases later_cases t d with ⟨hle, hs, hn⟩ | ⟨-, hend⟩
  · rw [le_def] at h ⊢
    rw [hs, hn]
    simp only [latest, nanosPerSecond] at h ⊢
    rcases partsAfter_cases t d with ⟨_, _, _, hp⟩ | ⟨_, _, hp⟩ | ⟨_, _, hp⟩ <;>
      rw [hp] at hle ⊢ <;> dsimp only at hle ⊢ <;> omega
  · rw [hend]
    exact le_refl _

/-- A longer wait does not end earlier, also where it is cut at the end of time. -/
theorem later_le_later {t : Instant} (h : t ≤ latest) {d d' : Duration} (hd : d ≤ d') :
    t.later d ≤ t.later d' := by
  rcases later_cases t d' with ⟨hle', hs', hn'⟩ | ⟨-, hend⟩
  · rw [Duration.le_def] at hd
    have before : (t.partsAfter d).1 < (t.partsAfter d').1 ∨
        ((t.partsAfter d).1 = (t.partsAfter d').1 ∧ (t.partsAfter d).2 ≤ (t.partsAfter d').2) := by
      have := t.nano_lt
      unfold nanosPerSecond at this
      rcases partsAfter_cases t d with ⟨_, _, _, hp⟩ | ⟨_, _, hp⟩ | ⟨_, _, hp⟩ <;>
        rcases partsAfter_cases t d' with ⟨_, _, _, hq⟩ | ⟨_, _, hq⟩ | ⟨_, _, hq⟩ <;>
          rw [hp, hq] <;> dsimp only <;> omega
    rcases later_cases t d with ⟨-, hs, hn⟩ | ⟨hgt, -⟩
    · rw [le_def, hs, hn, hs', hn']
      exact before
    · omega
  · rw [hend]
    exact later_le_latest h d

end Instant

namespace Backoff

/-- However many attempts there were, the cap is never exceeded. -/
theorem delay_le_cap (b : Backoff) (attempts : UInt32) : b.delay attempts ≤ b.cap := by
  unfold delay
  split
  · split
    · rw [Duration.le_def, Duration.nanos_shorter]
      exact Nat.min_le_right ..
    · exact Nat.le_refl _
  · exact Nat.le_refl _

/-- A backoff without a zero in it never asks for a delivery at once. -/
theorem delay_pos {b : Backoff} (base : 0 < b.base.nanos) (cap : 0 < b.cap.nanos)
    (attempts : UInt32) : 0 < (b.delay attempts).nanos := by
  unfold delay
  split
  · split
    · rename_i d hd
      have hscaled := Duration.ofNanos?_eq_some_iff.1 hd
      have : 0 < b.base.nanos * 2 ^ attempts.toNat := Nat.mul_pos base (Nat.two_pow_pos _)
      rw [Duration.nanos_shorter]
      omega
    · exact cap
  · exact cap

/-- Below 32 attempts the base is doubled for each of them, as far as the cap allows. -/
theorem nanos_delay (b : Backoff) (attempts : UInt32) :
    (b.delay attempts).nanos =
      if attempts < 32 then min (b.base.nanos * 2 ^ attempts.toNat) b.cap.nanos
      else b.cap.nanos := by
  unfold delay
  split
  · split
    · rename_i d hd
      rw [Duration.nanos_shorter, Duration.ofNanos?_eq_some_iff.1 hd]
    · rename_i hd
      -- A product out of range is above the cap, which is in range.
      have := b.cap.nanos_lt
      unfold Duration.scale? Duration.ofNanos? at hd
      split at hd
      · cases hd
      · omega
  · rfl

/-- **More attempts never shorten the delay**, not even where the formula gives way to the cap. -/
theorem delay_le_delay (b : Backoff) {attempts attempts' : UInt32} (h : attempts ≤ attempts') :
    b.delay attempts ≤ b.delay attempts' := by
  have cap : (b.delay attempts).nanos ≤ b.cap.nanos := b.delay_le_cap attempts
  rw [Duration.le_def, b.nanos_delay attempts']
  split
  · rename_i below
    have below' : attempts < 32 := UInt32.lt_of_le_of_lt h below
    have powers : 2 ^ attempts.toNat ≤ 2 ^ attempts'.toNat :=
      Nat.pow_le_pow_right (by decide) (UInt32.le_iff_toNat_le.1 h)
    have products := Nat.mul_le_mul_left b.base.nanos powers
    rw [nanos_delay, if_pos below'] at cap ⊢
    omega
  · exact cap

/-- Before the first retry nothing is doubled. -/
theorem delay_zero {b : Backoff} (h : b.base ≤ b.cap) : b.delay 0 = b.base := by
  refine Duration.ext ?_
  rw [Duration.le_def] at h
  rw [nanos_delay, if_pos (by decide), UInt32.toNat_zero, Nat.pow_zero, Nat.mul_one,
    Nat.min_eq_left h]

/-- The delay is at least the base, if the cap is. -/
theorem base_le_delay {b : Backoff} (h : b.base ≤ b.cap) (attempts : UInt32) :
    b.base ≤ b.delay attempts := by
  rw [← delay_zero h]
  exact b.delay_le_delay (UInt32.zero_le)

/-- **The delay and its formula.** With `n` attempts the delay is the smaller one of the cap and of
`2 ^ n` times the base below 32 attempts, in whole nanoseconds and without any bound, and the cap
from there on. So it is what the formula says exactly if there are fewer than 32 attempts or the
formula has come to the cap as well, and the formula holds throughout exactly if `2 ^ 32` times the
base are not below the cap. -/
theorem delay_formula (base cap : Duration) :
    (∀ n : UInt32, ((Backoff.mk base cap).delay n).nanos =
      if n.toNat < 32 then min cap.nanos (base.nanos * 2 ^ n.toNat) else cap.nanos) ∧
    (∀ n : UInt32,
      ((Backoff.mk base cap).delay n).nanos = min cap.nanos (base.nanos * 2 ^ n.toNat) ↔
        n.toNat < 32 ∨ cap.nanos ≤ base.nanos * 2 ^ n.toNat) ∧
    ((∀ n : UInt32,
      ((Backoff.mk base cap).delay n).nanos = min cap.nanos (base.nanos * 2 ^ n.toNat)) ↔
        cap.nanos ≤ base.nanos * 2 ^ 32) := by
  have value (n : UInt32) : ((Backoff.mk base cap).delay n).nanos =
      if n.toNat < 32 then min cap.nanos (base.nanos * 2 ^ n.toNat) else cap.nanos := by
    have below : n < 32 ↔ n.toNat < 32 := UInt32.lt_iff_toNat_lt
    rw [nanos_delay, Nat.min_comm]
    simp only [below]
  have exact_iff (n : UInt32) :
      ((Backoff.mk base cap).delay n).nanos = min cap.nanos (base.nanos * 2 ^ n.toNat) ↔
        n.toNat < 32 ∨ cap.nanos ≤ base.nanos * 2 ^ n.toNat := by
    rw [value]
    split
    · rename_i below
      exact ⟨fun _ => .inl below, fun _ => rfl⟩
    · rename_i beyond
      constructor
      · intro h
        exact .inr (h ▸ Nat.min_le_right ..)
      · intro h
        exact (Nat.min_eq_left (h.resolve_left beyond)).symm
  refine ⟨value, exact_iff, fun h => ?_, fun h n => (exact_iff n).2 ?_⟩
  · -- The first delay that is not computed any more decides for all the others.
    exact ((exact_iff 32).1 (h 32)).resolve_left (by decide)
  · by_cases below : n.toNat < 32
    · exact .inl below
    · have powers : 2 ^ 32 ≤ 2 ^ n.toNat := Nat.pow_le_pow_right (by decide) (by omega)
      exact .inr (Nat.le_trans h (Nat.mul_le_mul_left base.nanos powers))

/-- From 31 attempts to 32 the delay rises from 24 days to a cap of 100 days, and not to 49. -/
theorem delay_jumps_to_cap : ¬ ∀ (base cap : Duration) (n : UInt32),
    ((Backoff.mk base cap).delay n).nanos = min cap.nanos (base.nanos * 2 ^ n.toNat) := by
  intro formula
  have thirtySecond := formula (.ofMillis 1) (.ofSeconds 8640000) 32
  exact absurd thirtySecond (by decide +kernel)

end Backoff
end EventRelay
