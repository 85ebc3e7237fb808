import EventRelay.Proofs.Depot.Terminal

/-!
# The books of a record are kept

The lock of a record goes with its status, and a published record shows when it was published and no
error any more (`Record.InOrder`); what a transaction has staged is untouched (`Record.Untouched`).
Settling a record does not look at the status it has, so that this is checked for every change a
record can go through (`Change.inOrder`), and a commit brings in records that are untouched. Along
one row of a store the attempts never fall, and a reschedule is all that lets them rise, by one
(`Change.tallies`).
-/

namespace EventRelay

/-- The lock of the record is set by whoever publishes it and by nobody else, and a published record
has its time and no error. -/
structure Record.InOrder (r : Record) : Prop where
  locked : r.status = .publishing → r.lockedBy.isSome ∧ r.lockedAt.isSome
  unlocked : r.status ≠ .publishing → r.lockedBy = none ∧ r.lockedAt = none
  confirmed : r.status = .published → r.publishedAt.isSome ∧ r.error = none

/-- No worker has had the record so far. -/
structure Record.Untouched (r : Record) : Prop where
  pending : r.status = .pending
  unlocked : r.lockedBy = none ∧ r.lockedAt = none
  attempts : r.attempts = 0

/-- A record and what has become of it by an operation on the store `n`: the attempts have not
fallen, and they have risen by one at most and by a reschedule only. -/
structure Record.Tallies (n : Nat) (op : Operation) (r r' : Record) : Prop where
  same : r'.origin = r.origin
  grow : r.attempts ≤ r'.attempts
  byOne : r'.attempts.toNat ≤ r.attempts.toNat + 1
  rescheduled : r'.attempts ≠ r.attempts → Depot.Reschedules n r.id op

section
variable {r : Record}

theorem le_countUp (n : UInt32) : n ≤ countUp n := by
  have := n.toNat_lt
  rw [UInt32.le_iff_toNat_le, toNat_countUp]
  omega

/-- A record is taken in without a lock, an attempt or a time of publication. -/
theorem Record.untouched_ofEvent (id : Uuid) (e : Event) (now : Instant) :
    (Record.ofEvent id e now).Untouched :=
  ⟨rfl, ⟨rfl, rfl⟩, rfl⟩

/-- A pending record without a lock is in order. -/
theorem Record.inOrder_of_pending (pending : r.status = .pending)
    (unlocked : r.lockedBy = none ∧ r.lockedAt = none) : r.InOrder := by
  refine ⟨fun h => ?_, fun _ => unlocked, fun h => ?_⟩
  · rw [pending] at h
    cases h
  · rw [pending] at h
    cases h

theorem Record.Untouched.inOrder (h : r.Untouched) : r.InOrder :=
  Record.inOrder_of_pending h.pending h.unlocked

/-- A claim sets both halves of the lock. -/
theorem Record.inOrder_claim (r : Record) (worker : String) (now : Instant) :
    (r.claim worker now).InOrder :=
  ⟨fun _ => ⟨rfl, rfl⟩, (absurd rfl ·), (nomatch ·)⟩

/-- A confirmation takes the lock away and sets the time of publication. -/
theorem Record.inOrder_markPublished (r : Record) (now : Instant) :
    (r.markPublished now).InOrder :=
  ⟨(nomatch ·), fun _ => ⟨rfl, rfl⟩, fun _ => ⟨rfl, rfl⟩⟩

end

namespace Depot

/-! ## Steps -/

section
variable {d d' : Depot} {n : Nat} {op : Operation} {a : Answer} {r r' : Record}

/-- Whatever status a record has, what happens to it leaves it in order. -/
theorem Change.inOrder (h : Change n op r r') (hr : r.InOrder) : r'.InOrder := by
  cases h with
  | kept => exact hr
  | claimed | claimedOne => exact r.inOrder_claim _ _
  | marked => exact r.inOrder_markPublished _
  | rescheduled | released => exact Record.inOrder_of_pending rfl ⟨rfl, rfl⟩

/-- Whatever changes a record, its attempts grow by one with a failed delivery and stay
otherwise. -/
theorem Change.tallies (h : Change n op r r') : r.Tallies n op r' := by
  refine ⟨h.origin_eq, ?_, ?_, ?_⟩
  · cases h with
    | rescheduled => exact le_countUp r.attempts
    | _ => exact UInt32.le_refl _
  · cases h with
    | rescheduled =>
      change (countUp r.attempts).toNat ≤ r.attempts.toNat + 1
      rw [toNat_countUp]
      omega
    | _ => exact Nat.le_succ _
  · cases h with
    | rescheduled hid =>
      subst hid
      exact fun _ => ⟨_, _, _, _, rfl⟩
    | _ => exact fun h => absurd rfl h

/-- No two rows have the same number. -/
theorem Filed.eq_of_row (h : d.Filed) {seq : Nat} (hr : (seq, r) ∈ d.rows n)
    (hr' : (seq, r') ∈ d.rows n) : r = r' := by
  cases hc : d.contents? n with
  | none => simp [Depot.rows, hc] at hr
  | some c =>
    rw [rows_eq hc] at hr hr'
    exact (h n c hc).eq_of_seq hr hr'

/-- What a row holds after a step has become of what it held before, or it has just come in. -/
theorem Effect.of_row (filed : d.Filed) (filed' : d'.Filed) (hd : Effect d op a d') {seq : Nat}
    (hr' : (seq, r') ∈ d'.rows n) :
    (∀ r, (seq, r) ∈ d.rows n → Change n op r r') ∧
      ((∀ r, (seq, r) ∉ d.rows n) → Enters d n op a r') := by
  have same {seq r r'} (hr : (seq, r) ∈ d.rows n) (hr' : (seq, r') ∈ d.rows n) : r = r' :=
    filed.eq_of_row hr hr'
  have same' {seq r r'} (hr : (seq, r) ∈ d'.rows n) (hr' : (seq, r') ∈ d'.rows n) : r = r' :=
    filed'.eq_of_row hr hr'
  have rows := hd.rows filed n
  generalize d.rows n = front, d'.rows n = back at *
  cases rows with
  | changed h =>
    obtain ⟨r₀, hr₀, hc⟩ := h.backward hr'
    refine ⟨fun r hr => ?_, fun absent => absurd hr₀ (absent r₀)⟩
    rwa [same hr hr₀]
  | added h =>
    refine ⟨fun r hr => ?_, fun absent => ?_⟩
    · rw [same' (List.mem_append_left _ hr) hr']
      exact .kept op r'
    · rcases List.mem_append.1 hr' with hr' | hr'
      · exact absurd hr' (absent r')
      · exact h _ hr'
  | purged h =>
    have hin := (List.mem_filter.1 hr').1
    refine ⟨fun r hr => ?_, fun absent => absurd hin (absent r')⟩
    rw [same hr hin]
    exact .kept op r'

/-- The books of all records are kept: of those that are stored and of those that are staged. -/
structure Booked (d : Depot) : Prop where
  stored : ∀ n, ∀ r ∈ d.records n, r.InOrder
  staged : ∀ n, ∀ r ∈ d.staged n, r.Untouched

theorem booked_start (k : Nat) : (start k).Booked :=
  ⟨fun n r hr => by simp [records] at hr, fun n r hr => by simp at hr⟩

/-- A record that enters a store has not been touched while it was staged. -/
theorem Booked.untouched_of_enters (h : d.Booked) (henter : Enters d n op a r) : r.Untouched := by
  cases henter with
  | enqueued => exact Record.untouched_ofEvent ..
  | committed htx hn hin => exact h.staged n r (mem_staged.2 ⟨_, _, htx, hn, hin⟩)

/-- **One step keeps the books.** -/
theorem Effect.booked (filed : d.Filed) (hd : Effect d op a d') (h : d.Booked) : d'.Booked := by
  constructor
  · intro n r' hr'
    rcases hd.backward filed hr' with ⟨r, hr, hc⟩ | henter
    · exact hc.inOrder (h.stored n r hr)
    · exact (h.untouched_of_enters henter).inOrder
  · intro n r hr
    rcases hd.staged_backward hr with hr | ⟨t, id, e, now, -, -, rfl⟩
    · exact h.staged n r hr
    · exact Record.untouched_ofEvent ..

/-- At this moment the attempts in every row of a store add up, and a row that is new has none. -/
def Tallied (x : Moment) : Prop :=
  ∀ n seq r', (seq, r') ∈ x.after.rows n →
    (∀ r, (seq, r) ∈ x.before.rows n → r.Tallies n x.event.1 r') ∧
      ((∀ r, (seq, r) ∉ x.before.rows n) → r'.attempts = 0)

/-- In a moment of booked stores the attempts of every row add up. -/
theorem Effect.tallied (filed : d.Filed) (filed' : d'.Filed) (hd : Effect d op a d')
    (h : d.Booked) : Tallied ⟨d, (op, a), d'⟩ := by
  intro n seq r' hr'
  obtain ⟨old, new⟩ := hd.of_row filed filed' hr'
  exact ⟨fun r hr => (old r hr).tallies, fun absent =>
    (h.untouched_of_enters (new absent)).attempts⟩

end

/-! ## Runs -/

/-- **The books are kept.** At the end of any run of any operations, whatever their arguments, ids
and clocks: every stored record has its lock set if and only if it is being published, and a
published one shows when it was published and no error; every record that an open transaction has
staged is pending, unlocked and without attempts; and at every moment of the run the attempts of a
stored record have not fallen, have risen by one at most, and have risen only by a reschedule of its
id, while a record that has just come in has none. -/
theorem books_are_kept {k : Nat} {history : List Moment} {d : Depot}
    (run : Run Does (start k) history d) :
    (∀ n, ∀ r ∈ d.records n, r.InOrder) ∧
      (∀ t tx, d.open? t = some tx → ∀ r ∈ tx.staged, r.Untouched) ∧
      ∀ x ∈ history, Tallied x := by
  have keep : ∀ past x,
      x.before.Healthy ∧ x.before.Filed ∧ x.before.Booked ∧ (∀ z ∈ past, Tallied z) →
      x.before.Does x.event x.after →
      x.after.Healthy ∧ x.after.Filed ∧ x.after.Booked ∧ ∀ z ∈ past ++ [x], Tallied z := by
    rintro past x ⟨healthy, filed, booked, tallied⟩ hx
    have effect : Effect x.before x.event.1 x.event.2 x.after := healthy.effect hx
    have filed' := effect.filed filed
    refine ⟨(effect.healthy healthy).1, filed', effect.booked filed booked, fun z hz => ?_⟩
    rcases List.mem_append.1 hz with hz | hz
    · exact tallied z hz
    · cases List.mem_singleton.1 hz
      exact effect.tallied filed filed' booked
  have base : (start k).Healthy ∧ (start k).Filed ∧ (start k).Booked ∧
      ∀ z ∈ ([] : List Moment), Tallied z :=
    ⟨healthy_start k, filed_start k, booked_start k, by simp⟩
  obtain ⟨-, -, booked, tallied⟩ := Run.invariant
    (P := fun past d => d.Healthy ∧ d.Filed ∧ d.Booked ∧ ∀ z ∈ past, Tallied z) keep run base
  refine ⟨booked.stored, fun t tx htx r hr => ?_, tallied⟩
  exact booked.staged tx.store r (mem_staged.2 ⟨t, tx, htx, rfl, hr⟩)

/-- A record is published, rescheduled too late and claimed once more, while a transaction stays
open. -/
def lateFailure : List Operation :=
  [.begin 0, .stage 0 0 (.ofNat 1) (.brief none) .epoch, .commit 0 0,
    .begin 0, .stage 0 1 (.ofNat 2) (.brief (some "a")) .epoch,
    .claimBatch 0 .default 10 "w" .epoch, .markPublished 0 (.ofNat 1) .epoch,
    .reschedule 0 .default (.ofNat 1) "reset" 0 .epoch,
    .claimBatch 0 .default 10 "v" (Instant.epoch.later (.ofSeconds 5))]

/-- After the late failure the record counts one attempt and has kept its time of publication. -/
theorem books_are_kept_lateFailure :
    (∃ r ∈ ((start 1).after lateFailure).records 0, r.status = .publishing ∧ r.attempts = 1 ∧
      r.publishedAt = some .epoch ∧ r.InOrder) ∧
    (∃ tx, ((start 1).after lateFailure).open? 1 = some tx ∧ tx.staged.length = 1 ∧
      ∀ r ∈ tx.staged, r.Untouched) ∧
    ((start 1).moments lateFailure).length = 9 ∧
    ∀ x ∈ (start 1).moments lateFailure, Tallied x := by
  obtain ⟨stored, staged, tallied⟩ := books_are_kept (run_moments (start 1) lateFailure)
  refine ⟨?_, ?_, by decide +kernel, tallied⟩
  · obtain ⟨r, hr, publishing, attempts, published⟩ : ∃ r,
        r ∈ ((start 1).after lateFailure).records 0 ∧ r.status = .publishing ∧ r.attempts = 1 ∧
          r.publishedAt = some .epoch :=
      ⟨_, List.mem_cons_self, rfl, rfl, rfl⟩
    exact ⟨r, hr, publishing, attempts, published, stored 0 r hr⟩
  · obtain ⟨tx, htx, hlength⟩ : ∃ tx, ((start 1).after lateFailure).open? 1 = some tx ∧
        tx.staged.length = 1 := ⟨_, rfl, rfl⟩
    exact ⟨tx, htx, hlength, staged 1 tx htx⟩

end Depot
end EventRelay
