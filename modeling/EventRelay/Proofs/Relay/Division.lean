import EventRelay.Proofs.Backoff
import EventRelay.Proofs.Dispatcher.Playing
import Mathlib.Algebra.GroupWithZero.Nat

/-!
# The division of work

Several ticks at the same moment share the records of a store. What comes out does not depend on
who does what and when, and the reason is that the outcome can be told in advance, at any time: the
records that the ticks hold will be concluded as the publisher decides, and the claims that they may
still make will go to the next claimable records, which will be concluded in the same way. Every
step of every tick leaves this outlook as it is (`Division`): a claim, because the record that it
takes is the next one; a settlement, because it does what was to be done anyway. All of it rests on
one fact about the policy: what is put off is not claimable at the same moment (`Delays`).
-/

namespace EventRelay

open Contents

/-- What is put off is put off beyond the present moment. -/
def Delays (policy : Policy) (now : Instant) : Prop :=
  ∀ attempts, now < now.later (policy.backoff.delay attempts)

/-- A backoff without a zero in it puts off, unless the end of time has come. -/
theorem delays_of_pos {policy : Policy} (base : 0 < policy.backoff.base.nanos)
    (cap : 0 < policy.backoff.cap.nanos) {now : Instant} (h : now < Instant.latest) :
    Delays policy now :=
  fun attempts => Instant.lt_later h (Backoff.delay_pos base cap attempts)

/-- The outcome of a publication at a publisher that refuses some messages and takes no time. -/
def outcomeOf (publisher : Message → Except (List String) Unit) (m : Message) :
    Except Undelivered Unit :=
  (publisher m).mapError .refused

section
variable (policy : Policy) (now : Instant) (publisher : Message → Except (List String) Unit)

/-- The record after a delivery of it, whoever has made it. -/
def Record.tried (r : Record) : Record :=
  r.concluded policy .zero r.attempts now (outcomeOf publisher r.message)

/-- The rows after the records with some ids were delivered. -/
def finishRows (ids : List Uuid) (rows : List (Nat × Record)) : List (Nat × Record) :=
  rows.map fun row => if row.2.id ∈ ids then (row.1, row.2.tried policy now publisher) else row

/-- What becomes of the contents when the records with some ids are delivered, and as many more are
claimed and delivered as may be. -/
def Contents.outlook (limit : Nat) (ids : List Uuid) (c : Contents) : Contents :=
  { c with
    rows := changeUpTo (·.claimable now policy.maxAttempts) (·.tried policy now publisher) limit
      (finishRows policy now publisher ids c.rows) }

/-- The messages of the records that are still to be claimed. -/
def Contents.unclaimed (limit : Nat) (c : Contents) : List Message :=
  ((c.records.filter (·.claimable now policy.maxAttempts)).take limit).map Record.message

/-- Ticks may claim so many records more, hold these records, have not published those among them
that wait, and have handed these messages to the publisher. All the time the outlook is the contents
`goal`, and the messages that are handed over in the end are those in `all`. -/
structure Division (goal : Contents) (all : List Message) (staged : List Record) (limit : Nat)
    (held waiting : List Record) (handed : List Message) (c : Contents) : Prop where
  sound : c.Sound staged
  stored : ∀ w ∈ held, w ∈ c.records ∧ w.status = .publishing
  distinct : (held.map (·.id)).Nodup
  outlook : c.outlook policy now publisher limit (held.map (·.id)) = goal
  messages : (handed ++ waiting.map Record.message ++ c.unclaimed policy now limit).Perm all

/-- The number of records that ticks of all these dispatchers may claim together. -/
def Dispatcher.capacity (workers : List (DispatcherConfig × String)) : Nat :=
  (workers.map (·.1.batchSize)).sum

/-- Runs a tick of each dispatcher, one after the other, at one moment of the clock. -/
def Dispatcher.inTurn :
    List (DispatcherConfig × String) → Store → Store
  | [], s => s
  | (config, worker) :: rest, s =>
    inTurn rest
      ((Relay.work config worker .tick).play policy
        (fun (_ : Unit) m => (outcomeOf publisher m, ())) (.frozen now) s ()).2.1

variable {policy now publisher}

/-! ## What was tried -/

/-- What becomes of a record does not depend on the timeout of a publisher that takes no time. -/
theorem concluded_outcomeOf (timeout timeout' : Duration) (attempts : UInt32) (r : Record)
    (m : Message) :
    r.concluded policy timeout attempts now (outcomeOf publisher m) =
      r.concluded policy timeout' attempts now (outcomeOf publisher m) := by
  unfold outcomeOf
  cases publisher m <;> rfl

/-- Claiming does not show any more after the delivery. -/
theorem tried_claim (r : Record) (worker : String) :
    (r.claim worker now).tried policy now publisher = r.tried policy now publisher := by
  have same : (r.claim worker now).message = r.message := rfl
  unfold Record.tried
  rw [same]
  cases outcomeOf publisher r.message <;> rfl

/-- A record whose publication has ended is not claimable at the same moment. -/
theorem not_claimable_concluded (delays : Delays policy now) (timeout : Duration)
    (attempts : UInt32) (r : Record) (outcome : Except Undelivered Unit) :
    (r.concluded policy timeout attempts now outcome).claimable now policy.maxAttempts = false := by
  cases outcome with
  | ok => simp [Record.concluded, Record.claimable, Record.markPublished]
  | error e =>
    have : ¬ now.later (policy.backoff.delay attempts) ≤ now := Instant.not_le.2 (delays attempts)
    simp [Record.concluded, Record.claimable, Record.reschedule, this]

/-- Finishing rows makes none of them claimable again. -/
theorem not_claimable_finishRows (delays : Delays policy now)
    (publisher : Message → Except (List String) Unit) (ids : List Uuid) {rows : List (Nat × Record)}
    (h : ∀ row ∈ rows, row.2.claimable now policy.maxAttempts = false) :
    ∀ row ∈ finishRows policy now publisher ids rows,
      row.2.claimable now policy.maxAttempts = false := by
  intro row hrow
  obtain ⟨row₀, hrow₀, rfl⟩ := List.mem_map.1 hrow
  split
  · exact not_claimable_concluded delays ..
  · exact h row₀ hrow₀

theorem finishRows_cons_of_ne {id : Uuid} {ids : List Uuid} {rows : List (Nat × Record)}
    (h : ∀ row ∈ rows, row.2.id ≠ id) :
    finishRows policy now publisher (id :: ids) rows =
      finishRows policy now publisher ids rows := by
  refine List.map_congr_left fun row hrow => ?_
  simp [h row hrow]

/-- Where only what fails a condition is changed, and fails it then, the rest is found as before. -/
theorem filter_map_of_spent {p : Record → Bool} {f : Record → Record} {l : List Record}
    (h : ∀ r ∈ l, f r = r ∨ (p r = false ∧ p (f r) = false)) :
    (l.map f).filter p = l.filter p := by
  induction l with
  | nil => rfl
  | cons r rest ih =>
    have hrest := ih fun r hr => h r (List.mem_cons_of_mem _ hr)
    rcases h r List.mem_cons_self with heq | ⟨hr, hfr⟩
    · simp only [List.map_cons, heq, List.filter_cons, hrest]
    · simp [hr, hfr, hrest]

/-! ## Steps -/

variable {goal : Contents} {all : List Message} {staged : List Record} {limit : Nat}
  {held waiting : List Record} {handed : List Message} {c c' : Contents} {w : Record}
  {worker : String}

/-- The order of the records that are held and waiting does not matter. -/
theorem Division.perm
    (h : Division policy now publisher goal all staged limit held waiting handed c)
    {held' waiting' : List Record} (hheld : held.Perm held') (hwaiting : waiting.Perm waiting') :
    Division policy now publisher goal all staged limit held' waiting' handed c where
  sound := h.sound
  stored w hw := h.stored w (hheld.mem_iff.2 hw)
  distinct := (hheld.map _).nodup_iff.1 h.distinct
  outlook := by
    have same : finishRows policy now publisher (held'.map (·.id)) c.rows =
        finishRows policy now publisher (held.map (·.id)) c.rows := by
      simp only [finishRows, (hheld.map (·.id)).mem_iff]
    rw [← h.outlook, Contents.outlook, Contents.outlook, same]
  messages :=
    ((((hwaiting.map Record.message).symm.append_left handed).append_right _).trans h.messages)

/-- **A claim takes the next record**, of those that were to be claimed anyway. -/
theorem Division.claim_one (delays : Delays policy now)
    (h : Division policy now publisher goal all staged (limit + 1) held waiting handed c)
    (hone : c.claimOne? policy worker now = some (w, c')) :
    Division policy now publisher goal all staged limit (w :: held) (w :: waiting) handed c' := by
  have sound' := h.sound.claimOne? hone
  obtain ⟨front, seq, r, back, hrows, hfront, hclaim, rfl, rfl, others⟩ :=
    h.sound.claimOne?_eq_some hone
  have others_front : ∀ row ∈ front, row.2.id ≠ r.id :=
    fun row hrow => others row (List.mem_append_left _ hrow)
  have others_back : ∀ row ∈ back, row.2.id ≠ r.id :=
    fun row hrow => others row (List.mem_append_right _ hrow)
  have hr : r ∈ c.records := by simp [records, hrows]
  have stays : ∀ v ∈ held, v ≠ r := by
    rintro v hv rfl
    simp [Record.claimable_iff, (h.stored v hv).2] at hclaim
  have new : r.id ∉ held.map (·.id) := by
    intro hin
    obtain ⟨v, hv, hid⟩ := List.mem_map.1 hin
    exact stays v hv (h.sound.eq_of_id (List.mem_append_left _ (h.stored v hv).1)
      (List.mem_append_left _ hr) hid)
  constructor
  case sound => exact sound'
  case stored =>
    intro v hv
    rcases List.mem_cons.1 hv with rfl | hv
    · exact ⟨by simp [records], rfl⟩
    · obtain ⟨hin, hpublishing⟩ := h.stored v hv
      simp only [records, hrows, List.map_append, List.map_cons, List.mem_append,
        List.mem_cons] at hin ⊢
      exact ⟨hin.imp_right fun hin => .inr (hin.resolve_left (stays v hv)), hpublishing⟩
  case distinct => exact List.nodup_cons.2 ⟨new, h.distinct⟩
  case outlook =>
    rw [← h.outlook]
    have skip := not_claimable_finishRows delays publisher (held.map (·.id)) hfront
    have before : finishRows policy now publisher (held.map (·.id)) c.rows =
        finishRows policy now publisher (held.map (·.id)) front ++
          (seq, r) :: finishRows policy now publisher (held.map (·.id)) back := by
      simp only [finishRows, hrows, List.map_append, List.map_cons, if_neg new]
    have after : finishRows policy now publisher (r.id :: held.map (·.id))
          (front ++ (seq, r.claim worker now) :: back) =
        finishRows policy now publisher (held.map (·.id)) front ++
          (seq, r.tried policy now publisher) ::
            finishRows policy now publisher (held.map (·.id)) back := by
      rw [← finishRows_cons_of_ne others_front, ← finishRows_cons_of_ne others_back]
      have taken : (r.claim worker now).id ∈ r.id :: held.map (·.id) := List.mem_cons_self
      simp only [finishRows, List.map_append, List.map_cons, if_pos taken, tried_claim]
    have spent := not_claimable_concluded delays .zero r.attempts r (outcomeOf publisher r.message)
    simp only [Contents.outlook, List.map_cons]
    rw [show (r.claim worker now).id = r.id from rfl, after, before, changeUpTo_append skip,
      changeUpTo_append skip]
    simp only [changeUpTo, hclaim, if_true]
    rw [show (r.tried policy now publisher).claimable now policy.maxAttempts = false from spent]
    simp
  case messages =>
    have skip : (front.map (·.2)).filter (·.claimable now policy.maxAttempts) = [] :=
      filter_eq_nil_of_none hfront
    refine List.Perm.trans ?_ h.messages
    simp only [Contents.unclaimed, records, hrows, List.map_append, List.map_cons,
      List.filter_append, skip, List.nil_append, List.filter_cons, hclaim, if_true, claimable_claim,
      Bool.false_eq_true, if_false, List.take_succ_cons, List.append_assoc]
    rw [show (r.claim worker now).message = r.message from rfl]
    exact (List.perm_middle.symm).append_left handed

/-- Where nothing can be claimed, it does not matter how much may be. -/
theorem Division.claim_none (delays : Delays policy now)
    (h : Division policy now publisher goal all staged limit held waiting handed c)
    (hnone : c.claimOne? policy worker now = none) (limit' : Nat) :
    Division policy now publisher goal all staged limit' held waiting handed c := by
  have none_claimable := claimOne?_eq_none hnone
  have skip := not_claimable_finishRows delays publisher (held.map (·.id)) none_claimable
  have nothing : c.records.filter (·.claimable now policy.maxAttempts) = [] :=
    filter_eq_nil_of_none none_claimable
  refine ⟨h.sound, h.stored, h.distinct, ?_, ?_⟩
  · rw [← h.outlook]
    have stay := changeUpTo_of_none (p := (·.claimable now policy.maxAttempts))
      (f := (·.tried policy now publisher)) skip
    simp only [Contents.outlook, stay]
  · refine List.Perm.trans ?_ h.messages
    simp only [Contents.unclaimed, nothing, List.take_nil]
    exact .refl _

/-- A batch is claimed record by record. -/
theorem Division.claimUpTo (worker : String) (delays : Delays policy now) (batch : Nat)
    (h : Division policy now publisher goal all staged (batch + limit) held waiting handed c) :
    Division policy now publisher goal all staged limit
      ((Contents.claimUpTo policy worker now batch c).1 ++ held)
      ((Contents.claimUpTo policy worker now batch c).1 ++ waiting) handed
      (Contents.claimUpTo policy worker now batch c).2 := by
  induction batch generalizing held waiting c with
  | zero => simpa [Contents.claimUpTo] using h
  | succ batch ih =>
    rw [Contents.claimUpTo]
    cases hone : c.claimOne? policy worker now with
    | none => exact h.claim_none delays hone limit
    | some found =>
      obtain ⟨w, c'⟩ := found
      rw [Nat.succ_add] at h
      exact (ih (h.claim_one delays hone)).perm List.perm_middle List.perm_middle

/-- A publication hands the message of the first waiting record over. -/
theorem Division.publish
    (h : Division policy now publisher goal all staged limit held (w :: waiting) handed c) :
    Division policy now publisher goal all staged limit held waiting (handed ++ [w.message]) c := by
  refine ⟨h.sound, h.stored, h.distinct, h.outlook, ?_⟩
  have := h.messages
  rwa [List.map_cons, List.append_cons] at this

/-- **A settlement does what was to be done anyway.** -/
theorem Division.settle (delays : Delays policy now)
    (h : Division policy now publisher goal all staged limit (w :: held) waiting handed c)
    (timeout : Duration) :
    Division policy now publisher goal all staged limit held waiting handed
      (c.conclude policy timeout w now (outcomeOf publisher w.message)) := by
  obtain ⟨hw, hpublishing⟩ := h.stored w List.mem_cons_self
  have distinct : (w.id :: held.map (·.id)).Nodup := h.distinct
  have unique : ∀ r ∈ c.records, r.id = w.id → r = w := fun r hr hid =>
    h.sound.eq_of_id (List.mem_append_left _ hr) (List.mem_append_left _ hw) hid
  have hrecords := h.sound.records_update w.id
    (·.concluded policy timeout w.attempts now (outcomeOf publisher w.message))
  have hupdate := h.sound.update_eq w.id
    (·.concluded policy timeout w.attempts now (outcomeOf publisher w.message))
  constructor
  case sound => exact h.sound.conclude ..
  case stored =>
    intro v hv
    obtain ⟨hin, hstatus⟩ := h.stored v (List.mem_cons_of_mem _ hv)
    refine ⟨?_, hstatus⟩
    rw [Contents.conclude, hrecords]
    have hne : v.id ≠ w.id := fun heq =>
      (List.nodup_cons.1 distinct).1 (heq ▸ List.mem_map_of_mem hv)
    exact List.mem_map.2 ⟨v, hin, if_neg hne⟩
  case distinct => exact (List.nodup_cons.1 distinct).2
  case outlook =>
    rw [← h.outlook, Contents.conclude, hupdate]
    simp only [Contents.outlook, finishRows, List.map_map, List.map_cons]
    congr 2
    refine List.map_congr_left fun row hrow => ?_
    by_cases hid : row.2.id = w.id
    · obtain heq := unique row.2 (List.mem_map_of_mem hrow) hid
      have same := Record.id_eq_of_origin (Record.origin_concluded policy timeout w.attempts now w
        (outcomeOf publisher w.message))
      simp only [Function.comp_apply, heq, if_true, same, (List.nodup_cons.1 distinct).1, if_false,
        List.mem_cons, true_or]
      rw [concluded_outcomeOf timeout .zero]
      rfl
    · simp [hid]
  case messages =>
    have same := filter_map_of_spent (p := (·.claimable now policy.maxAttempts)) (l := c.records)
      (f := fun r => if r.id = w.id then
        r.concluded policy timeout w.attempts now (outcomeOf publisher w.message) else r) (by
        intro r hr
        split
        · rename_i hid
          rw [unique r hr hid]
          refine .inr ⟨by simp [Record.claimable, hpublishing], ?_⟩
          exact not_claimable_concluded delays ..
        · exact .inl rfl)
    refine List.Perm.trans ?_ h.messages
    rw [Contents.conclude]
    simp only [Contents.unclaimed, hrecords, same]
    exact .refl _

/-! ## The calls of a round -/

/-- The settlement that a round has still to make is the one that the publisher has decided. -/
def Stage.Told (publisher : Message → Except (List String) Unit) : Stage → Prop
  | .confirmed w _ => publisher w.message = .ok ()
  | .failed w reason _ => ∃ chain, publisher w.message = .error chain ∧ reason = chainText chain
  | .upkeep => False
  | _ => True

section
variable {d d' : Depot} {n k : Nat} {s s' : Stage} {op : Operation} {a : Answer}
  {others others' : List Record}

/-- **A call of one round is a step of the division**, beside what the others hold. -/
theorem Division.calls (delays : Delays policy now)
    (h : Division policy now publisher goal all staged (s.limit + k) (s.held ++ others)
      (s.waiting ++ others') handed c)
    (hcalls : s.Calls n policy worker op a s') (told : s.Told publisher)
    (reading : op.reading = some now) (hc : (d.put n c).contents? n = some c)
    (hd : Depot.Effect (d.put n c) op a d') :
    ∃ c', d' = d.put n c' ∧ Division policy now publisher goal all staged (s'.limit + k)
      (s'.held ++ others) (s'.waiting ++ others') handed c' := by
  -- A round lists what it claims behind what it has, and the division lists it in front.
  have order : ∀ got new rest : List Record,
      (new ++ (got ++ rest)).Perm ((got ++ new) ++ rest) := by
    intro got new rest
    rw [← List.append_assoc]
    exact List.perm_append_comm.append_right rest
  cases hcalls with
  | claimBatch =>
    rename_i limit got now' rs
    obtain rfl : now' = now := Option.some.inj reading
    cases hd with
    | claimed hc' =>
      cases hc.symm.trans hc'
      refine ⟨_, Depot.put_put .., ?_⟩
      have claimed := (h.claimUpTo worker delays limit).perm (order got _ others)
        (order got _ others')
      rwa [← Nat.zero_add k] at claimed
  | claimOne =>
    rename_i limit got now' r
    obtain rfl : now' = now := Option.some.inj reading
    cases hd with
    | claimedOne hc' hone =>
      cases hc.symm.trans hc'
      refine ⟨_, Depot.put_put .., ?_⟩
      have more : (Stage.claiming (limit + 1) got).limit + k = (limit + k) + 1 :=
        Nat.add_right_comm ..
      rw [more] at h
      exact (h.claim_one delays hone).perm (order got [r] others) (order got [r] others')
  | claimNone =>
    rename_i limit got now'
    obtain rfl : now' = now := Option.some.inj reading
    cases hd with
    | claimedNone hc' hnone =>
      cases hc.symm.trans hc'
      exact ⟨c, rfl, h.claim_none delays hnone (0 + k)⟩
  | markPublished =>
    rename_i r todo now'
    obtain rfl : now' = now := Option.some.inj reading
    cases hd with
    | marked hc' =>
      cases hc.symm.trans hc'
      refine ⟨_, Depot.put_put .., ?_⟩
      have settled := h.settle delays .zero
      have outcome : outcomeOf publisher r.message = .ok () := by
        rw [outcomeOf, show publisher r.message = .ok () from told]
        rfl
      rwa [outcome] at settled
  | reschedule =>
    rename_i r reason todo now'
    obtain rfl : now' = now := Option.some.inj reading
    cases hd with
    | rescheduled hc' =>
      cases hc.symm.trans hc'
      refine ⟨_, Depot.put_put .., ?_⟩
      have settled := h.settle delays .zero
      obtain ⟨chain, refused, rfl⟩ := told
      have outcome : outcomeOf publisher r.message = .error (.refused chain) := by
        rw [outcomeOf, refused]
        rfl
      rwa [outcome] at settled
  | recoverStuck | purgePublished => exact absurd told id

theorem Stage.Told.calls (hcalls : s.Calls n policy worker op a s') (told : s.Told publisher) :
    s'.Told publisher := by
  cases hcalls with
  | recoverStuck | purgePublished => exact told
  | claimBatch | claimOne | claimNone | markPublished | reschedule => trivial

theorem Stage.told_after (publisher : Message → Except (List String) Unit) (timeout : Duration)
    (w : Record) (todo : List Record) :
    (Stage.after timeout w todo (outcomeOf publisher w.message)).Told publisher := by
  unfold outcomeOf
  cases hsent : publisher w.message with
  | ok => exact hsent
  | error chain => exact ⟨chain, hsent, rfl⟩

end

/-! ## The beginning and the end -/

/-- Where nothing is to be delivered or claimed, nothing becomes of the contents. -/
theorem outlook_nothing (c : Contents) : c.outlook policy now publisher 0 [] = c := by
  have same : finishRows policy now publisher [] c.rows = c.rows := by simp [finishRows]
  rw [Contents.outlook, same, changeUpTo_zero]

/-- Before anybody has claimed, all of the work is to be claimed. -/
theorem Division.start (publisher : Message → Except (List String) Unit) (sound : c.Sound staged)
    (limit : Nat) :
    Division policy now publisher (c.outlook policy now publisher limit [])
      (c.unclaimed policy now limit) staged limit [] [] [] c :=
  ⟨sound, by simp, List.nodup_nil, rfl, .refl _⟩

/-- Where nothing is held and nothing may be claimed any more, the outlook is there. -/
theorem Division.ended
    (h : Division policy now publisher goal all staged 0 [] [] handed c) :
    c = goal ∧ handed.Perm all := by
  refine ⟨(outlook_nothing c).symm.trans h.outlook, ?_⟩
  have := h.messages
  simpa [Contents.unclaimed] using this

/-! ## One tick after the other -/

/-- Delivering all that is held, without interference. -/
theorem Division.deliver (delays : Delays policy now) (timeout : Duration)
    {todo : List Record}
    (h : Division policy now publisher goal all staged limit todo todo handed c) :
    ∃ handed', Division policy now publisher goal all staged limit [] [] handed'
      (c.deliver policy (fun (_ : Unit) m => (outcomeOf publisher m, ())) timeout todo
        (.frozen now) ()).1 := by
  induction todo generalizing handed c with
  | nil => exact ⟨handed, h⟩
  | cons w todo ih => exact ih (h.publish.settle delays timeout)

/-- A tick without interference. -/
theorem Division.tick (worker : String) (delays : Delays policy now) (config : DispatcherConfig)
    (h : Division policy now publisher goal all staged (config.batchSize + limit) [] [] handed c) :
    ∃ handed' c', ((Relay.work config worker .tick).play policy
        (fun (_ : Unit) m => (outcomeOf publisher m, ())) (.frozen now) ⟨c, false⟩ ()).2.1 =
          ⟨c', false⟩ ∧
      Division policy now publisher goal all staged limit [] [] handed' c' := by
  have played := (work_follows config worker .tick).play policy
    (fun (_ : Unit) m => (outcomeOf publisher m, ())) (by simp [Stage.first]) (.frozen now) c ()
  have claimed := h.claimUpTo worker delays config.batchSize
  rw [List.append_nil] at claimed
  obtain ⟨handed', h'⟩ := claimed.deliver delays config.confirmTimeout
  refine ⟨handed', _, congrArg (·.1) played, ?_⟩
  rw [← Contents.claimEach_frozen] at h'
  exact h'

/-- The ticks of all dispatchers, one after the other. -/
theorem Division.inTurn (delays : Delays policy now) {workers : List (DispatcherConfig × String)}
    (h : Division policy now publisher goal all staged (Dispatcher.capacity workers) [] [] handed
      c) :
    Dispatcher.inTurn policy now publisher workers ⟨c, false⟩ = ⟨goal, false⟩ := by
  induction workers generalizing handed c with
  | nil => rw [Dispatcher.inTurn, h.ended.1]
  | cons w rest ih =>
    obtain ⟨config, worker⟩ := w
    obtain ⟨handed', c', played, h'⟩ := h.tick worker delays config
    rw [Dispatcher.inTurn, played]
    exact ih h'

end
end EventRelay
