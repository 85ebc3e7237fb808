import EventRelay.Proofs.Backoff
import EventRelay.Time.Clock

/-!
# Points in time as numbers

A clock shows no leap second (`ordinary_of_read`). Points outside leap seconds are ordered as their
distances from the epoch are, and moving them adds or subtracts the nanoseconds of the duration as
far as time goes (`nanos_later`, `nanos_earlier`). Inside a leap second none of this holds: from
there a later point may be reached sooner. That nothing moves forward by being moved back holds for
all points (`earlier_le`).
-/

namespace EventRelay

/-- A point in time outside all leap seconds. -/
def Instant.Ordinary (t : Instant) : Prop := t.nano < nanosPerSecond

instance (t : Instant) : Decidable t.Ordinary :=
  inferInstanceAs (Decidable (t.nano < nanosPerSecond))

namespace Instant

variable {t t' : Instant}

/-- A clock that can be read shows no leap second. -/
theorem ordinary_of_read {c : Clock} (h : c.read = .ok t) : t.Ordinary ∧ t.nanos = c.nanos := by
  unfold Clock.read at h
  split at h
  · cases h
  · split at h
    · rename_i parts
      cases h
      unfold ofParts? at parts
      split at parts
      · cases parts
        simp only [Ordinary, nanos, nanosPerSecond] at *
        omega
      · cases parts
    · cases h

/-- Away from leap seconds the order is that of the nanoseconds. -/
theorem le_iff_nanos (h : t.Ordinary) (h' : t'.Ordinary) : t ≤ t' ↔ t.nanos ≤ t'.nanos := by
  simp only [Ordinary, nanos, nanosPerSecond, le_def] at *
  omega

theorem lt_iff_nanos (h : t.Ordinary) (h' : t'.Ordinary) : t < t' ↔ t.nanos < t'.nanos := by
  simp only [Ordinary, nanos, nanosPerSecond, lt_def] at *
  omega

/-! ## Forward -/

theorem ordinary_later (h : t.Ordinary) (d : Duration) : (t.later d).Ordinary := by
  rcases later_cases t d with ⟨-, -, hn⟩ | ⟨-, hend⟩
  · simp only [Ordinary, nanosPerSecond] at *
    rcases partsAfter_cases t d with ⟨_, _, _, hp⟩ | ⟨_, _, hp⟩ | ⟨_, _, hp⟩ <;>
      rw [hp] at hn <;> dsimp only at hn <;> omega
  · rw [hend]
    decide

/-- A clock reading is moved forward by adding the nanoseconds, up to the end of time. -/
theorem nanos_later (h : t.Ordinary) (d : Duration) :
    (t.later d).nanos = min (t.nanos + d.nanos) latest.nanos := by
  have last : latest.nanos = 8210266876799 * 1000000000 + 999999999 := rfl
  have sum : (t.partsAfter d).1 * 1000000000 + (t.partsAfter d).2 = t.nanos + d.nanos ∧
      (t.partsAfter d).2 < 1000000000 := by
    simp only [Ordinary, nanos, nanosPerSecond] at *
    rcases partsAfter_cases t d with ⟨_, _, _, hp⟩ | ⟨_, _, hp⟩ | ⟨_, _, hp⟩ <;>
      rw [hp] <;> dsimp only <;> omega
  rcases later_cases t d with ⟨hle, hs, hn⟩ | ⟨hgt, hend⟩
  · have : (t.later d).nanos = t.nanos + d.nanos := by
      rw [← sum.1, ← hs, ← hn]
      rfl
    unfold lastSecond at hle
    omega
  · rw [hend]
    unfold lastSecond at hgt
    omega

/-- Of two clock readings the later one stays the later one, whatever is added to the first is
added to the second. -/
theorem later_mono (h : t.Ordinary) (h' : t'.Ordinary) (le : t ≤ t') {d d' : Duration}
    (hd : d ≤ d') : t.later d ≤ t'.later d' := by
  rw [le_iff_nanos (ordinary_later h d) (ordinary_later h' d'), nanos_later h, nanos_later h']
  rw [le_iff_nanos h h'] at le
  rw [Duration.le_def] at hd
  omega

/-! ## Backward -/

/-- The three ways in which a point moves back: inside its leap second, without a carry, or with a
carry from the second before. -/
theorem partsBefore_cases (t : Instant) (d : Duration) :
    (1000000000 ≤ t.nano ∧ d.nanos < 1000000000 ∧ t.partsBefore d = (t.second, t.nano - d.nanos)) ∨
      ∃ second : Int, (second = t.second ∧ t.nano < 1000000000 ∨
          second = t.second + 1 ∧ 1000000000 ≤ t.nano ∧ 1000000000 ≤ d.nanos) ∧
        (t.nano % 1000000000 < d.nanos % 1000000000 ∧
            t.partsBefore d = (second - (d.nanos / 1000000000 : Nat) - 1,
              t.nano % 1000000000 + 1000000000 - d.nanos % 1000000000) ∨
          d.nanos % 1000000000 ≤ t.nano % 1000000000 ∧
            t.partsBefore d = (second - (d.nanos / 1000000000 : Nat),
              t.nano % 1000000000 - d.nanos % 1000000000)) := by
  have whole : d.wholeSeconds = d.nanos / 1000000000 := rfl
  have fraction : d.fraction = d.nanos % 1000000000 := rfl
  have second : nanosPerSecond = 1000000000 := rfl
  unfold partsBefore
  dsimp only
  rw [whole, fraction, second]
  split
  · refine .inl ⟨by omega, by omega, ?_⟩
    rw [Nat.mod_eq_of_lt (by omega)]
  · refine .inr ⟨if t.nano ≥ 1000000000 then t.second + 1 else t.second, by split <;> omega, ?_⟩
    split
    · exact .inl ⟨‹_›, rfl⟩
    · exact .inr ⟨by omega, rfl⟩

/-- Moving back ends at the parts of the earlier point, or at the beginning of time if they are
before it. -/
theorem earlier_cases (t : Instant) (d : Duration) :
    (firstSecond ≤ (t.partsBefore d).1 ∧ (t.earlier d).second = (t.partsBefore d).1 ∧
        (t.earlier d).nano = (t.partsBefore d).2) ∨
      ((t.partsBefore d).1 < firstSecond ∧ t.earlier d = earliest) := by
  have parts : (t.partsBefore d).1 ≤ lastSecond ∧ (t.partsBefore d).2 < 2 * nanosPerSecond := by
    have hs := t.second_le
    have hn := t.nano_lt
    unfold nanosPerSecond at *
    rcases partsBefore_cases t d with ⟨_, _, h⟩ | ⟨_, _, ⟨_, h⟩ | ⟨_, h⟩⟩ <;>
      rw [h] <;> dsimp only <;> omega
  by_cases lower : firstSecond ≤ (t.partsBefore d).1
  · refine .inl ⟨lower, ?_⟩
    simp [earlier, ofParts?, parts, lower]
  · refine .inr ⟨by omega, ?_⟩
    simp [earlier, ofParts?, lower]

theorem earlier_le (t : Instant) (d : Duration) : t.earlier d ≤ t := by
  rcases earlier_cases t d with ⟨-, hs, hn⟩ | ⟨-, hbegin⟩
  · rw [le_def, hs, hn]
    rcases partsBefore_cases t d with ⟨_, _, h⟩ | ⟨_, _, ⟨_, h⟩ | ⟨_, h⟩⟩ <;>
      rw [h] <;> dsimp only <;> omega
  · have := t.second_ge
    rw [hbegin]
    simp only [le_def, earliest]
    omega

theorem ordinary_earlier (h : t.Ordinary) (d : Duration) : (t.earlier d).Ordinary := by
  rcases earlier_cases t d with ⟨-, -, hn⟩ | ⟨-, hbegin⟩
  · simp only [Ordinary, nanosPerSecond] at *
    rcases partsBefore_cases t d with ⟨_, _, hp⟩ | ⟨_, _, ⟨_, hp⟩ | ⟨_, hp⟩⟩ <;>
      rw [hp] at hn <;> dsimp only at hn <;> omega
  · rw [hbegin]
    decide

/-- A clock reading is moved back by subtracting the nanoseconds, down to the beginning of time. -/
theorem nanos_earlier (h : t.Ordinary) (d : Duration) :
    (t.earlier d).nanos = max (t.nanos - d.nanos) earliest.nanos := by
  have first : earliest.nanos = -8334601228800 * 1000000000 := rfl
  have difference : (t.partsBefore d).1 * 1000000000 + (t.partsBefore d).2 = t.nanos - d.nanos ∧
      (t.partsBefore d).2 < 1000000000 := by
    simp only [Ordinary, nanos, nanosPerSecond] at *
    rcases partsBefore_cases t d with ⟨_, _, hp⟩ | ⟨_, _, ⟨_, hp⟩ | ⟨_, hp⟩⟩ <;>
      rw [hp] <;> dsimp only <;> omega
  rcases earlier_cases t d with ⟨hge, hs, hn⟩ | ⟨hlt, hbegin⟩
  · have : (t.earlier d).nanos = t.nanos - d.nanos := by
      rw [← difference.1, ← hs, ← hn]
      rfl
    unfold firstSecond at hge
    omega
  · rw [hbegin]
    unfold firstSecond at hlt
    omega

end Instant
end EventRelay
