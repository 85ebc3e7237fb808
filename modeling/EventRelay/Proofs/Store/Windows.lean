import EventRelay.Proofs.Settings
import EventRelay.Proofs.Store.Keys

/-!
# Windows of time

A purge looks back by the retention and a recovery by the threshold of stale locks, and a failed
delivery looks forward by its delay. On the way a number of days becomes seconds of 64 bits, a
duration may become a signed number of milliseconds, and the result is cut off where time begins or
ends. `Store.windows_are_exact` says that nothing is seen of all this: what a store does is what the
times and the span say as whole numbers of nanoseconds, however large they are. The reason is that
all of time is much shorter than the spans at which something is cut off
(`Instant.add_lt_congr_of_extent`), and that a point that is cut off at an end of time has no point
beyond it (`Instant.lt_earlier_iff`).
-/

namespace EventRelay

/-! ## Looking back and forward -/

/-- The nanoseconds from the beginning of time to its end. -/
def Instant.extent : Nat := 16544868105600 * nanosPerSecond

/-- The duration, unless it is longer than a signed number of 64 bits can say in milliseconds. -/
def Duration.signed? (d : Duration) : Option Duration :=
  if d.nanos ≤ (2 ^ 63 - 1) * 1000000 then some d else none

namespace Instant

variable {t now : Instant}

theorem earliest_le_nanos (t : Instant) : earliest.nanos ≤ t.nanos := by
  have := t.second_ge
  simp only [nanos, earliest, firstSecond, nanosPerSecond] at *
  omega

/-- Between two clock readings there is never more than all of time. -/
theorem nanos_lt_add_extent (ht : t.Ordinary) (now : Instant) : t.nanos < now.nanos + extent := by
  have := t.second_le
  have := now.second_ge
  simp only [Ordinary, nanos, extent, firstSecond, lastSecond, nanosPerSecond] at *
  omega

/-- Being before a point that is looked back at is the same as being longer ago than the duration,
also where the point would be before the beginning of time. -/
theorem lt_earlier_iff (ht : t.Ordinary) (reading : now.Ordinary) (d : Duration) :
    t < now.earlier d ↔ t.nanos + d.nanos < now.nanos := by
  have := t.earliest_le_nanos
  rw [lt_iff_nanos ht (ordinary_earlier reading d), nanos_earlier reading]
  omega

/-- Spans that are at least as long as all of time have run out nowhere. -/
theorem add_lt_congr_of_extent (reading : now.Ordinary) (t : Instant) {span span' : Nat}
    (h : span = span' ∨ extent ≤ span ∧ extent ≤ span') :
    t.nanos + span < now.nanos ↔ t.nanos + span' < now.nanos := by
  have := nanos_lt_add_extent reading t
  omega

/-- A duration that a signed number of milliseconds cannot say leads to the beginning of time from
everywhere, so that it may be refused in looking back. -/
theorem earlier_eq_signed (t : Instant) (d : Duration) :
    t.earlier d = (d.signed?.bind fun d =>
      ofParts? (t.partsBefore d).1 (t.partsBefore d).2).getD earliest := by
  unfold Duration.signed?
  split
  · rfl
  · rcases earlier_cases t d with ⟨hge, -, -⟩ | ⟨-, hbegin⟩
    · have := t.second_le
      unfold firstSecond lastSecond at *
      rcases partsBefore_cases t d with ⟨_, _, h⟩ | ⟨_, _, ⟨_, h⟩ | ⟨_, h⟩⟩ <;>
        rw [h] at hge <;> dsimp only at hge <;> omega
    · exact hbegin

/-- The same in looking forward, with the end of time. -/
theorem later_eq_signed (t : Instant) (d : Duration) :
    t.later d = (d.signed?.bind fun d =>
      ofParts? (t.partsAfter d).1 (t.partsAfter d).2).getD latest := by
  unfold Duration.signed?
  split
  · rfl
  · rcases later_cases t d with ⟨hle, -, -⟩ | ⟨-, hend⟩
    · have := t.second_ge
      unfold firstSecond lastSecond at *
      rcases partsAfter_cases t d with ⟨_, _, _, h⟩ | ⟨_, _, h⟩ | ⟨_, _, h⟩ <;>
        rw [h] at hle <;> dsimp only at hle <;> omega
    · exact hend

end Instant

/-! ## Records -/

namespace Record

/-- The record was published more than `span` nanoseconds before `now`. -/
def PublishedFor (r : Record) (span : Nat) (now : Instant) : Prop :=
  r.status = .published ∧ ∃ since ∈ r.publishedAt, since.nanos + span < now.nanos

/-- The record is in the hands of a worker since more than `span` nanoseconds before `now`. -/
def HeldFor (r : Record) (span : Nat) (now : Instant) : Prop :=
  r.status = .publishing ∧ ∃ since ∈ r.lockedAt, since.nanos + span < now.nanos

instance (r : Record) (span : Nat) (now : Instant) : Decidable (r.PublishedFor span now) :=
  inferInstanceAs (Decidable (_ ∧ _))

instance (r : Record) (span : Nat) (now : Instant) : Decidable (r.HeldFor span now) :=
  inferInstanceAs (Decidable (_ ∧ _))

/-- The times at which the record was published and claimed are readings of a clock. -/
def ClockTimes (r : Record) : Prop :=
  (∀ t ∈ r.publishedAt, t.Ordinary) ∧ ∀ t ∈ r.lockedAt, t.Ordinary

instance (r : Record) : Decidable r.ClockTimes := inferInstanceAs (Decidable (_ ∧ _))

section
variable {r : Record} {now : Instant}

/-- A cutoff that stops at the beginning of time expires the same records as the exact one. -/
theorem ClockTimes.expired_iff (h : r.ClockTimes) (reading : now.Ordinary) (d : Duration) :
    r.expired (now.earlier d) = true ↔ r.PublishedFor d.nanos now := by
  rw [Record.expired_iff]
  refine and_congr_right fun _ => exists_congr fun since => and_congr_right fun hat => ?_
  exact Instant.lt_earlier_iff (h.1 since hat) reading d

/-- A cutoff that stops at the beginning of time frees the same records as the exact one. -/
theorem ClockTimes.stale_iff (h : r.ClockTimes) (reading : now.Ordinary) (d : Duration) :
    r.stale (now.earlier d) = true ↔ r.HeldFor d.nanos now := by
  rw [Record.stale_iff]
  refine and_congr_right fun _ => exists_congr fun since => and_congr_right fun hat => ?_
  exact Instant.lt_earlier_iff (h.2 since hat) reading d

/-- Spans as long as all of time ask for the same. -/
theorem publishedFor_congr (reading : now.Ordinary) {span span' : Nat}
    (h : span = span' ∨ Instant.extent ≤ span ∧ Instant.extent ≤ span') :
    r.PublishedFor span now ↔ r.PublishedFor span' now := by
  unfold PublishedFor
  simp only [Instant.add_lt_congr_of_extent reading _ h]

end
end Record

/-! ## Stores -/

/-- What a purge answers and leaves behind: exactly the records that were published more than `span`
nanoseconds ago are gone. Where the tables agree with the records they do so afterwards, and
everything else is found as before. -/
structure Store.Purged (s : Store) (span : Nat) (now : Instant) (count : Nat) (s' : Store) :
    Prop where
  count : count = s.contents.records.countP (·.PublishedFor span now)
  rows : s'.contents.rows = s.contents.rows.filter fun row => ¬ row.2.PublishedFor span now
  nextSeq : s'.contents.nextSeq = s.contents.nextSeq
  sound : ∀ staged, s.contents.Sound staged → s'.contents.Sound staged
  found : ∀ staged, s.contents.Sound staged → ∀ id,
    s'.contents.get? id = (s.contents.get? id).filter fun r => ¬ r.PublishedFor span now

/-- What a recovery answers and leaves behind: exactly the records that workers have held for more
than `span` nanoseconds are pending and in nobody's hands, and else as they were. -/
structure Store.Recovered (s : Store) (span : Nat) (now : Instant) (count : Nat) (s' : Store) :
    Prop where
  count : count = s.contents.records.countP (·.HeldFor span now)
  rows : s'.contents.rows = s.contents.rows.map fun row =>
    if row.2.HeldFor span now then
      (row.1, { row.2 with status := .pending, lockedBy := none, lockedAt := none })
    else row
  index : s'.contents.index = s.contents.index
  owners : s'.contents.owners = s.contents.owners
  nextSeq : s'.contents.nextSeq = s.contents.nextSeq

section
variable {c : Contents} {now : Instant}

theorem Contents.nextSeq_purge (c : Contents) (cutoff : Instant) :
    (c.purge cutoff).2.nextSeq = c.nextSeq := by
  have removes : ∀ (gone : List (Nat × Record)) (c : Contents),
      (gone.foldl remove c).nextSeq = c.nextSeq := by
    intro gone
    induction gone with
    | nil => exact fun _ => rfl
    | cons row rest ih => exact fun c => ih (c.remove row)
  exact removes _ c

/-- Rows whose records satisfy a condition are as many as the records that do. -/
theorem Contents.length_filter_rows (c : Contents) (p : Record → Bool) :
    (c.rows.filter fun row => p row.2).length = c.records.countP p := by
  rw [records, List.countP_map, List.countP_eq_length_filter]
  rfl

/-- A purge whose retention is cut at the extent of time removes what the retention itself says. -/
theorem Store.purged (ascending : c.rows.Pairwise (·.1 < ·.1))
    (times : ∀ r ∈ c.records, r.ClockTimes) (reading : now.Ordinary) {d : Duration} {span : Nat}
    (clip : d.nanos = span ∨ Instant.extent ≤ d.nanos ∧ Instant.extent ≤ span) :
    (⟨c, false⟩ : Store).Purged span now (c.purge (now.earlier d)).1
      ⟨(c.purge (now.earlier d)).2, false⟩ := by
  have same : ∀ r ∈ c.records, r.expired (now.earlier d) = decide (r.PublishedFor span now) := by
    intro r hr
    rw [Bool.eq_iff_iff, decide_eq_true_eq, (times r hr).expired_iff reading,
      Record.publishedFor_congr reading clip]
  refine ⟨?_, ?_, c.nextSeq_purge _, fun _ sound => sound.purge _, fun staged sound id => ?_⟩
  · refine (c.length_filter_rows (·.expired (now.earlier d))).trans (List.countP_congr ?_)
    exact fun r hr => by rw [same r hr]
  · refine (Contents.rows_purge ascending _).trans (List.filter_congr fun row hrow => ?_)
    rw [same row.2 (List.mem_map_of_mem hrow), decide_not]
  · refine Option.ext fun r => ?_
    have left : r ∈ (c.purge (now.earlier d)).2.records ↔
        r ∈ c.records ∧ ¬ r.PublishedFor span now := by
      rw [Contents.records, Contents.rows_purge ascending, Contents.records]
      constructor
      · intro hr
        obtain ⟨row, hrow, rfl⟩ := List.mem_map.1 hr
        obtain ⟨hin, hexp⟩ := List.mem_filter.1 hrow
        have hr := List.mem_map_of_mem (f := (·.2)) hin
        rw [same row.2 hr] at hexp
        exact ⟨hr, by simpa using hexp⟩
      · rintro ⟨hr, hexp⟩
        obtain ⟨row, hin, rfl⟩ := List.mem_map.1 hr
        refine List.mem_map_of_mem (List.mem_filter.2 ⟨hin, ?_⟩)
        rw [same row.2 hr]
        simpa using hexp
    rw [(sound.purge _).get?_eq_some_iff, left, Option.filter_eq_some_iff,
      sound.get?_eq_some_iff, decide_eq_true_eq, and_right_comm]

/-- A recovery releases what the threshold says. -/
theorem Store.recovered (times : ∀ r ∈ c.records, r.ClockTimes) (reading : now.Ordinary)
    (d : Duration) :
    (⟨c, false⟩ : Store).Recovered d.nanos now (c.recover (now.earlier d)).1
      ⟨(c.recover (now.earlier d)).2, false⟩ := by
  have same : ∀ r ∈ c.records, (r.stale (now.earlier d) = true ↔ r.HeldFor d.nanos now) :=
    fun r hr => (times r hr).stale_iff reading d
  refine ⟨?_, ?_, rfl, rfl, rfl⟩
  · refine (List.countP_eq_length_filter ..).symm.trans (List.countP_congr fun r hr => ?_)
    rw [same r hr, decide_eq_true_eq]
  · refine List.map_congr_left fun row hrow => ?_
    simp only [same row.2 (List.mem_map_of_mem hrow), Record.release]

/-- Where nothing is expired, a purge changes nothing. -/
theorem Contents.purge_of_none_expired {cutoff : Instant}
    (h : ∀ row ∈ c.rows, row.2.expired cutoff = false) : c.purge cutoff = (0, c) := by
  have gone : c.rows.filter (·.2.expired cutoff) = [] := by
    rw [List.filter_eq_nil_iff]
    intro row hrow
    rw [h row hrow]
    decide
  rw [Contents.purge, gone]
  rfl

theorem Contents.recover_of_none_stale {cutoff : Instant}
    (h : ∀ row ∈ c.rows, row.2.stale cutoff = false) : c.recover cutoff = (0, c) := by
  have count : c.records.countP (·.stale cutoff) = 0 := by
    rw [List.countP_eq_zero]
    intro r hr
    obtain ⟨row, hrow, rfl⟩ := List.mem_map.1 hr
    rw [h row hrow]
    decide
  have rows : (c.rows.map fun row =>
      if row.2.stale cutoff then (row.1, row.2.release) else row) = c.rows := by
    refine (List.map_congr_left fun row hrow => ?_).trans (List.map_id _)
    rw [h row hrow]
    rfl
  rw [Contents.recover, ← List.countP_eq_length_filter, count, rows]

/-- Nothing is left for a second purge at the same time. -/
theorem Store.purgePublished_again (ascending : c.rows.Pairwise (·.1 < ·.1)) (d : Duration) :
    (⟨(c.purge (now.earlier d)).2, false⟩ : Store).purgePublished d now =
      .ok (0, ⟨(c.purge (now.earlier d)).2, false⟩) := by
  have none_left : ∀ row ∈ (c.purge (now.earlier d)).2.rows,
      row.2.expired (now.earlier d) = false := by
    intro row hrow
    rw [Contents.rows_purge ascending] at hrow
    simpa using (List.mem_filter.1 hrow).2
  simp only [purgePublished, locked, Contents.purge_of_none_expired none_left, Bool.false_eq_true,
    if_false]

/-- Nothing is left for a second recovery at the same time. -/
theorem Store.recoverStuck_again (d : Duration) :
    (⟨(c.recover (now.earlier d)).2, false⟩ : Store).recoverStuck d now =
      .ok (0, ⟨(c.recover (now.earlier d)).2, false⟩) := by
  have none_left : ∀ row ∈ (c.recover (now.earlier d)).2.rows,
      row.2.stale (now.earlier d) = false := by
    intro row' hrow'
    obtain ⟨row, -, rfl⟩ := List.mem_map.1 hrow'
    split
    · rfl
    · simpa using ‹¬ row.2.stale (now.earlier d) = true›
  simp only [recoverStuck, locked, Contents.recover_of_none_stale none_left, Bool.false_eq_true,
    if_false]

end

/-! ## Settings -/

/-- Either the retention is the number of days to the nanosecond, or both are longer than all of
time. -/
theorem Settings.retention_or_extent (s : Settings) :
    s.dispatcherConfig.retention.nanos =
        s.dispatcher.retentionDays.toNat * 86400 * nanosPerSecond ∨
      Instant.extent ≤ s.dispatcherConfig.retention.nanos ∧
        Instant.extent ≤ s.dispatcher.retentionDays.toNat * 86400 * nanosPerSecond := by
  have retention : s.dispatcherConfig.retention.nanos =
      (secondsOfDays s.dispatcher.retentionDays).toNat * nanosPerSecond := rfl
  rw [retention]
  unfold secondsOfDays
  split
  · rename_i fits
    have day : (86400 : UInt64).toNat = 86400 := rfl
    rw [UInt64.toNat_mul, day, Nat.mod_eq_of_lt fits]
    exact .inl rfl
  · right
    have longest : (0xffffffffffffffff : UInt64).toNat = 2 ^ 64 - 1 := rfl
    rw [longest]
    unfold Instant.extent nanosPerSecond
    omega

/-- **Windows of time are exact.** Take any contents of a store whose numbers ascend, with a lock
that is in order and times that are clock readings, and a reading of the clock. A purge takes out
exactly the records that were published longer ago than the retention, and a recovery releases
exactly those that have been held for longer than the threshold, to the nanosecond and for every
duration; they say how many these are, change nothing else, and find nothing more to do at the same
time. For settings the spans are the number of days and the number of seconds that are set, whatever
these are. A failed delivery is put off to exactly the end of the delay, or to the end of time if
that is sooner. -/
theorem Store.windows_are_exact {s : Store} (lock : s.poisoned = false)
    (ascending : s.contents.rows.Pairwise (·.1 < ·.1))
    (times : ∀ r ∈ s.contents.records, r.ClockTimes) {now : Instant} (reading : now.Ordinary) :
    (∀ retention : Duration, ∃ count s', s.purgePublished retention now = .ok (count, s') ∧
      s.Purged retention.nanos now count s' ∧
      s'.purgePublished retention now = .ok (0, s')) ∧
    (∀ threshold : Duration, ∃ count s', s.recoverStuck threshold now = .ok (count, s') ∧
      s.Recovered threshold.nanos now count s' ∧
      s'.recoverStuck threshold now = .ok (0, s')) ∧
    (∀ settings : Settings,
      (∃ count s', s.purgePublished settings.dispatcherConfig.retention now = .ok (count, s') ∧
        s.Purged (settings.dispatcher.retentionDays.toNat * 86400 * nanosPerSecond) now count s') ∧
      ∃ count s', s.recoverStuck settings.dispatcherConfig.staleLockThreshold now =
          .ok (count, s') ∧
        s.Recovered (settings.dispatcher.staleLockThresholdSecs.toNat * nanosPerSecond) now count
          s') ∧
    ∀ (policy : Policy) (id : Uuid) (r : Record) (error : String) (attempts : UInt32),
      s.get? id = .ok (some r) → ∃ next, s.PutsOff policy id error attempts now next ∧
        next.nanos = min (now.nanos + (policy.backoff.delay attempts).nanos)
          Instant.latest.nanos := by
  obtain ⟨c, poisoned⟩ := s
  obtain rfl : poisoned = false := lock
  refine ⟨fun retention => ?_, fun threshold => ?_, fun settings => ⟨?_, ?_⟩, ?_⟩
  · exact ⟨_, _, rfl, Store.purged ascending times reading (.inl rfl),
      Store.purgePublished_again ascending retention⟩
  · exact ⟨_, _, rfl, Store.recovered times reading threshold,
      Store.recoverStuck_again threshold⟩
  · exact ⟨_, _, rfl, Store.purged ascending times reading settings.retention_or_extent⟩
  · exact ⟨_, _, rfl,
      Store.recovered times reading settings.dispatcherConfig.staleLockThreshold⟩
  · intro policy id r error attempts held
    exact ⟨_, Store.putsOff held policy error attempts now, Instant.nanos_later reading _⟩

/-- Two events are published and two more are in the hands of a worker: the first of each since the
epoch, and the second since a nanosecond later. -/
def Depot.weekOld : List Operation :=
  let later := Instant.epoch.later ⟨1, by decide⟩
  [.enqueue 0 (.ofNat 1) (.brief none) .epoch, .enqueue 0 (.ofNat 2) (.brief none) .epoch,
    .enqueue 0 (.ofNat 3) (.brief none) .epoch, .claimBatch 0 .default 3 "w" .epoch,
    .markPublished 0 (.ofNat 1) .epoch, .markPublished 0 (.ofNat 2) later,
    .enqueue 0 (.ofNat 4) (.brief none) later, .claimBatch 0 .default 1 "w" later]

def Depot.weekLater : Instant := (Instant.epoch.later (.ofSeconds 604800)).later ⟨1, by decide⟩

/-- The settings of a relay that keeps published events for as many days as it can. -/
def Settings.hoarding : Settings :=
  { Settings.default with
    dispatcher := { DispatcherSettings.default with retentionDays := 0xffffffffffffffff } }

theorem Store.windows_are_exact_weekOld :
    ∃ s, ((Depot.start 1).after Depot.weekOld).stores[0]? = some s ∧ s.poisoned = false ∧
      s.contents.rows.Pairwise (·.1 < ·.1) ∧ (∀ r ∈ s.contents.records, r.ClockTimes) ∧
      Depot.weekLater.Ordinary ∧
      (∃ s', s.purgePublished (.ofSeconds 604800) Depot.weekLater = .ok (1, s') ∧
        s'.contents.records.map (·.id) = [.ofNat 2, .ofNat 3, .ofNat 4]) ∧
      (∃ s', s.recoverStuck (.ofSeconds 604800) Depot.weekLater = .ok (1, s') ∧
        s'.contents.records.map (·.lockedBy) = [none, none, none, some "w"]) ∧
      (∃ s', s.purgePublished Settings.hoarding.dispatcherConfig.retention Depot.weekLater =
        .ok (0, s')) ∧
      ∃ next, s.PutsOff ⟨10, .longest, .longest⟩ (.ofNat 3) "reset" 0 Depot.weekLater next ∧
        next.nanos = Instant.latest.nanos := by
  obtain ⟨s, hs, lock, ascending, times, ⟨r, held⟩, expired, left, stale, released, hoarded⟩ :
      ∃ s, ((Depot.start 1).after Depot.weekOld).stores[0]? = some s ∧ s.poisoned = false ∧
        s.contents.rows.Pairwise (·.1 < ·.1) ∧ (∀ r ∈ s.contents.records, r.ClockTimes) ∧
        (∃ r, s.get? (.ofNat 3) = .ok (some r)) ∧
        s.contents.records.countP (·.PublishedFor 604800000000000 Depot.weekLater) = 1 ∧
        (s.contents.rows.filter fun row =>
          ¬ row.2.PublishedFor 604800000000000 Depot.weekLater).map (·.2.id) =
            [.ofNat 2, .ofNat 3, .ofNat 4] ∧
        s.contents.records.countP (·.HeldFor 604800000000000 Depot.weekLater) = 1 ∧
        (s.contents.records.map fun r =>
          if r.HeldFor 604800000000000 Depot.weekLater then none else r.lockedBy) =
            [none, none, none, some "w"] ∧
        s.contents.records.countP
          (·.PublishedFor (0xffffffffffffffff * 86400 * nanosPerSecond) Depot.weekLater) = 0 :=
    ⟨_, rfl, rfl, by decide +kernel, by decide +kernel, ⟨_, rfl⟩, by decide +kernel,
      by decide +kernel, by decide +kernel, by decide +kernel, by decide +kernel⟩
  have reading : Depot.weekLater.Ordinary := by decide +kernel
  obtain ⟨purges, recovers, configured, putsOff⟩ :=
    Store.windows_are_exact lock ascending times reading
  refine ⟨s, hs, lock, ascending, times, reading, ?_, ?_, ?_, ?_⟩
  · obtain ⟨count, s', h, purged, -⟩ := purges (.ofSeconds 604800)
    rw [purged.count.trans expired] at h
    refine ⟨s', h, ?_⟩
    rw [Contents.records, purged.rows, List.map_map]
    exact left
  · obtain ⟨count, s', h, recovered, -⟩ := recovers (.ofSeconds 604800)
    rw [recovered.count.trans stale] at h
    refine ⟨s', h, ?_⟩
    rw [← released, Contents.records, Contents.records, recovered.rows, List.map_map,
      List.map_map, List.map_map]
    refine List.map_congr_left fun row _ => ?_
    simp only [Function.comp_apply]
    split
    · exact (if_pos ‹_›).symm
    · exact (if_neg ‹_›).symm
  · obtain ⟨⟨count, s', h, purged⟩, -⟩ := configured Settings.hoarding
    exact ⟨s', (purged.count.trans hoarded) ▸ h⟩
  · obtain ⟨next, off, value⟩ := putsOff ⟨10, .longest, .longest⟩ _ r "reset" 0 held
    exact ⟨next, off, value.trans (by decide +kernel)⟩

end EventRelay
