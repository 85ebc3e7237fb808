import EventRelay.Proofs.Depot.Soundness

/-!
# What becomes of a duplicate

An event is refused as a duplicate when a record with its key is stored or staged. The refusal
rests on what an open transaction has staged as much as on what is stored, and a transaction may be
given up after the refusal: then its records never come into the store, and the refused event is
lost with them (`refusal_outlives_reservation`). This is the only way in which that happens:
`duplicate_answered_for` follows the record on which a refusal rested to the point where all
transactions have ended.
-/

namespace EventRelay.Depot

/-- An event with the key is refused at the store `n` because another event owns the key. -/
inductive Refuses (n : Nat) (key : String) : Operation × Answer → Prop where
  | enqueue {id e now} (hkey : e.dedupeKey = some key) :
    Refuses n key (.enqueue n id e now, .record none)
  | stage {t id e now} (hkey : e.dedupeKey = some key) :
    Refuses n key (.stage n t id e now, .record none)

/-- A record with the key is in the store `n`. -/
def KeyStored (d : Depot) (n : Nat) (key : String) : Prop :=
  ∃ r ∈ d.records n, r.dedupeKey = some key

/-- A published record with the key has been purged from the store `n`. -/
def KeyPurged (history : List Moment) (n : Nat) (key : String) : Prop :=
  ∃ y ∈ history, ∃ r ∈ y.before.records n,
    r.dedupeKey = some key ∧ r.status = .published ∧ Purges n y.event.1 r

/-- A transaction on the store `n` is rolled back, or committed to another store. -/
def GivesUp (n t : Nat) (op : Operation) : Prop :=
  op = .rollback t ∨ ∃ m, m ≠ n ∧ op = .commit m t

/-- A transaction that is given up has ended. -/
theorem GivesUp.ends {n t : Nat} {op : Operation} (h : GivesUp n t op) : op.Ends t := by
  rcases h with h | ⟨m, -, h⟩
  · exact .inl h
  · exact .inr ⟨m, h⟩

/-- A transaction that was open has staged a record with the key, but has been given up since. -/
def ReservedInVain (d : Depot) (later : List Moment) (n : Nat) (key : String) : Prop :=
  ∃ t tx, d.open? t = some tx ∧ tx.store = n ∧ (∃ r ∈ tx.staged, r.dedupeKey = some key) ∧
    ∃ y ∈ later, GivesUp n t y.event.1

/-- A transaction was open and has staged a record with the key, and it is still open. -/
def Reserved (d d' : Depot) (n : Nat) (key : String) : Prop :=
  ∃ t tx more, d.open? t = some tx ∧ tx.store = n ∧ (∃ r ∈ tx.staged, r.dedupeKey = some key) ∧
    d'.open? t = some ⟨n, tx.staged ++ more⟩

/-- What holds of a key since an event was refused in the state `d₀`: its fate is decided, or the
transaction that had reserved it is still open. -/
inductive Pursued (d₀ : Depot) (n : Nat) (key : String) (done : List Moment) (d : Depot) :
    Prop where
  | stored (h : KeyStored d n key)
  | purged (h : KeyPurged done n key)
  | inVain (h : ReservedInVain d₀ done n key)
  | reserved (h : Reserved d₀ d n key)

section
variable {d d' : Depot} {op : Operation} {a : Answer} {n : Nat} {key : String}

/-- A refusal changes nothing, and rests on a record that is stored or staged. -/
theorem refused_because (sound : d.Sound) (hd : Effect d op a d') (h : Refuses n key (op, a)) :
    d' = d ∧ (KeyStored d n key ∨ Reserved d d n key) := by
  have holder : ∀ {c id e now}, d.contents? n = some c → e.dedupeKey = some key →
      c.reserveFor? (.ofEvent id e now) = none → KeyStored d n key ∨ Reserved d d n key := by
    intro c id e now hc hkey hres
    have hkey' : (Record.ofEvent id e now).dedupeKey = some key := hkey
    simp only [Contents.reserveFor?, hkey'] at hres
    obtain ⟨r, hr, hrkey⟩ := (sound n c hc).reserve?_eq_none hres
    rcases List.mem_append.1 hr with hr | hr
    · exact .inl ⟨r, by rwa [records_eq hc], hrkey⟩
    · obtain ⟨t, tx, htx, rfl, hin⟩ := mem_staged.1 hr
      exact .inr ⟨t, tx, [], htx, rfl, ⟨r, hin, hrkey⟩, by rwa [List.append_nil]⟩
  generalize hx : (op, a) = x at h
  cases h with
  | enqueue hkey =>
    cases hx
    cases hd with
    | duplicate hc hins => exact ⟨rfl, holder hc hkey (Option.map_eq_none_iff.1 hins)⟩
  | stage hkey =>
    cases hx
    cases hd with
    | stagedDuplicate htx hn hc hres => exact ⟨rfl, holder hc hkey hres⟩

/-- A stored key stays in the store until its record is purged, being published. -/
theorem KeyStored.step (filed : d.Filed) (hd : Effect d op a d') (h : KeyStored d n key) :
    KeyStored d' n key ∨
      ∃ r ∈ d.records n, r.dedupeKey = some key ∧ r.status = .published ∧ Purges n op r := by
  obtain ⟨r, hr, hkey⟩ := h
  rcases hd.forward filed hr with ⟨r', hr', hc⟩ | hpurge
  · exact .inl ⟨r', hr', (Record.dedupeKey_eq_of_origin hc.origin_eq).trans hkey⟩
  · obtain ⟨retention, now, -, hexp⟩ := id hpurge
    exact .inr ⟨r, hr, hkey, (Record.expired_iff.1 hexp).1, hpurge⟩

/-- A reservation stays until its transaction is committed, which stores the key, or given up. -/
theorem Reserved.step {d₀ : Depot} (sound : d.Sound) (hd : Effect d op a d')
    (h : Reserved d₀ d n key) :
    Reserved d₀ d' n key ∨ KeyStored d' n key ∨
      ∃ t tx, d₀.open? t = some tx ∧ tx.store = n ∧ (∃ r ∈ tx.staged, r.dedupeKey = some key) ∧
        GivesUp n t op := by
  obtain ⟨t, tx, more, htx₀, hn, ⟨r, hr, hkey⟩, htx⟩ := h
  rcases hd.open?_forward htx with ⟨more', htx'⟩ | ⟨c, hc, rfl⟩ | hroll | ⟨m, hm, hcommit⟩
  · refine .inl ⟨t, tx, more ++ more', htx₀, hn, ⟨r, hr, hkey⟩, ?_⟩
    rwa [← List.append_assoc]
  · have complete := (sound.beside htx hc).insertAll.2.2
    refine .inr (.inl ⟨r, ?_, hkey⟩)
    have hc' : (d.put n (c.insertAll (tx.staged ++ more)).2).contents? n =
        some (c.insertAll (tx.staged ++ more)).2 := by
      rw [contents?_put hc, if_pos rfl]
    have : ((d.put n (c.insertAll (tx.staged ++ more)).2).setTransaction t none).records n =
        c.records ++ (tx.staged ++ more) := (records_eq hc').trans complete
    rw [this]
    simp [hr]
  · exact .inr (.inr ⟨t, tx, htx₀, hn, ⟨r, hr, hkey⟩, .inl hroll⟩)
  · exact .inr (.inr ⟨t, tx, htx₀, hn, ⟨r, hr, hkey⟩, .inr ⟨m, hm, hcommit⟩⟩)

/-- One step decides the fate of a refused key, or leaves it as it was. -/
theorem Pursued.step {d₀ : Depot} {done : List Moment} {y : Moment} (sound : y.before.Sound)
    (hd : Effect y.before y.event.1 y.event.2 y.after) (h : Pursued d₀ n key done y.before) :
    Pursued d₀ n key (done ++ [y]) y.after := by
  cases h with
  | stored h =>
    rcases h.step sound.filed hd with h | ⟨r, hr, h⟩
    · exact .stored h
    · exact .purged ⟨y, by simp, r, hr, h⟩
  | purged h =>
    obtain ⟨z, hz, h⟩ := h
    exact .purged ⟨z, List.mem_append_left _ hz, h⟩
  | inVain h =>
    obtain ⟨t, tx, htx, hn, hr, z, hz, h⟩ := h
    exact .inVain ⟨t, tx, htx, hn, hr, z, List.mem_append_left _ hz, h⟩
  | reserved h =>
    rcases h.step sound hd with h | h | ⟨t, tx, htx, hn, hr, h⟩
    · exact .reserved h
    · exact .stored h
    · exact .inVain ⟨t, tx, htx, hn, hr, y, by simp, h⟩

end

/-- **A duplicate answer is answered for.** Once all transactions have ended, for every key under
which an event was refused as a duplicate, a record with the key is in the store, or was published
and purged since, or the key was reserved by a transaction that was open at the refusal and given
up after it. -/
theorem duplicate_answered_for {k : Nat} {past later : List Moment} {x : Moment} {d : Depot}
    {n : Nat} {key : String} (run : Run Does (start k) (past ++ x :: later) d)
    (fresh : FreshIds (past ++ x :: later)) (refused : Refuses n key x.event)
    (ended : ∀ t, d.open? t = none) :
    KeyStored d n key ∨ KeyPurged later n key ∨ ReservedInVain x.before later n key := by
  obtain ⟨before, hx, after, rest⟩ := cut_run run fresh
  have start : Pursued x.before n key [] x.after := by
    obtain ⟨same, h | h⟩ := refused_because before.sound hx refused
    · exact .stored (same ▸ h)
    · exact .reserved (by rwa [same])
  have fresh' : FreshIds ((past ++ [x]) ++ later) := by rwa [List.append_cons] at fresh
  have final : Pursued x.before n key later d :=
    after.along rest fresh' (fun _ _ before _ _ effect h => h.step before.sound effect) start
  cases final with
  | stored h => exact .inl h
  | purged h => exact .inr (.inl h)
  | inVain h => exact .inr (.inr h)
  | reserved h =>
    -- No transaction is open any more that could still hold the key.
    obtain ⟨t, tx, more, -, -, -, hopen⟩ := h
    rw [ended t] at hopen
    cases hopen

def outlived : List Operation :=
  [.begin 0, .stage 0 0 (.ofNat 1) (.brief (some "a")) .epoch,
    .enqueue 0 (.ofNat 2) (.brief (some "a")) .epoch, .rollback 0]

/-- In the end no transaction is open. -/
theorem all_ended_outlived (t : Nat) : ((start 1).after outlived).open? t = none := by
  have : ((start 1).after outlived).transactions = [none] := rfl
  unfold open?
  rw [this]
  cases t with
  | zero => rfl
  | succ t => rfl

/-- The refusal of the second event stays, though the transaction that caused it leaves nothing
behind. -/
theorem duplicate_answered_for_outlived :
    ∃ past x later, (start 1).moments outlived = past ++ x :: later ∧ Refuses 0 "a" x.event ∧
      FreshIds (past ++ x :: later) ∧ (∀ t, ((start 1).after outlived).open? t = none) ∧
      (KeyStored ((start 1).after outlived) 0 "a" ∨ KeyPurged later 0 "a" ∨
        ReservedInVain x.before later 0 "a") := by
  have fresh : FreshIds ((start 1).moments outlived) := by decide +kernel
  have run := run_moments (start 1) outlived
  obtain ⟨past, x, later, heq, refused⟩ : ∃ past x later,
      (start 1).moments outlived = past ++ x :: later ∧ Refuses 0 "a" x.event :=
    ⟨[_, _], _, [_], rfl, .enqueue rfl⟩
  rw [heq] at fresh run
  exact ⟨past, x, later, heq, refused, fresh, all_ended_outlived,
    duplicate_answered_for run fresh refused all_ended_outlived⟩

/-- A refusal can outlive the reservation that it rests on: in the end the store is empty, and
nothing was purged. -/
theorem refusal_outlives_reservation :
    ¬ ∀ (k : Nat) (past later : List Moment) (x : Moment) (d : Depot) (n : Nat) (key : String),
      Run Does (start k) (past ++ x :: later) d → FreshIds (past ++ x :: later) →
      (∀ t, d.open? t = none) →
      (∃ id e now, e.dedupeKey = some key ∧ x.event = (.enqueue n id e now, .record none)) →
      KeyStored d n key ∨ KeyPurged later n key := by
  intro claim
  have fresh : FreshIds ((start 1).moments outlived) := by decide +kernel
  have run := run_moments (start 1) outlived
  obtain ⟨past, x, y, heq, hx, hy⟩ : ∃ past x y,
      (start 1).moments outlived = past ++ x :: [y] ∧
      x.event = (.enqueue 0 (.ofNat 2) (.brief (some "a")) .epoch, .record none) ∧
      y.event.1 = .rollback 0 :=
    ⟨[_, _], _, _, rfl, rfl, rfl⟩
  rw [heq] at fresh run
  rcases claim 1 past [y] x _ 0 "a" run fresh all_ended_outlived ⟨_, _, _, rfl, hx⟩ with
    ⟨r, hr, -⟩ | ⟨z, hz, r, -, -, -, retention, now, hop, -⟩
  · have : ((start 1).after outlived).records 0 = [] := rfl
    rw [this] at hr
    cases hr
  · cases List.mem_singleton.1 hz
    rw [hy] at hop
    cases hop

end EventRelay.Depot
