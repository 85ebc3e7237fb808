import EventRelay.Proofs.Settings
import EventRelay.Proofs.Settings.Loading
import EventRelay.Proofs.Store.Claiming
import EventRelay.Proofs.Text.Integers

/-!
# Texts that come from the environment

A variable of the environment is read before it is known what its field wants: a truth value in any
case, an integer of 64 bits or a real number is taken for what it stands for, and where a text is
wanted it is printed again. `Settings.texts_arrive_printed` says for which texts this makes no
difference, and that two relays with worker ids of their own mark the records that they claim
differently exactly if their worker ids are printed differently. `Settings.zeros_in_front_are_lost`
is about two worker ids that are not.
-/

namespace EventRelay

/-! ## Printed values -/

/-- The text that becomes of the text of a variable where a text is wanted: the text itself, unless
it stands for a truth value or a number, which is printed. -/
def Layer.printedValue (w : String) : String :=
  if Text.lower w = "true" ∨ Text.lower w = "false" then Text.lower w
  else
    match Text.int64? 10 w.toList with
    | some n => String.ofList (Text.signed n)
    | none =>
      match Binary64.read? w.toList with
      | some x => String.ofList (x.text .setting)
      | none => w

/-- A field that wants a text has the text of a variable as it is printed. -/
theorem Layer.toText?_variableValue (w : String) (origin : Option String) :
    Setting.toText? (.scalar (variableValue w) origin) = .ok (some (printedValue w)) := by
  unfold variableValue printedValue
  by_cases yes : Text.lower w = "true"
  · simp [yes, Setting.toText?, Setting.toText, Except.map]
  by_cases no : Text.lower w = "false"
  · simp [no, Setting.toText?, Setting.toText, Except.map]
  simp only [yes, no, if_false, or_self]
  cases Text.int64? 10 w.toList with
  | some n => rfl
  | none =>
    cases Binary64.read? w.toList with
    | some x => rfl
    | none => rfl

/-! ## What is printed is not blank -/

namespace Text

theorem blank_eq_false {c : Char} {cs : List Char} (mem : c ∈ cs) (h : isBlank c = false) :
    blank (String.ofList cs) = false := by
  rw [blank, String.toList_ofList, List.all_eq_false]
  exact ⟨c, mem, by simp [h]⟩

theorem isBlank_of_isDigit {c : Char} (h : isDigit c = true) : isBlank c = false := by
  simp only [isDigit, Bool.and_eq_true, decide_eq_true_eq, Char.le_def, UInt32.le_iff_toNat_le] at h
  have low : 48 ≤ c.toNat := h.1
  have high : c.toNat ≤ 57 := h.2
  simp [isBlank]
  omega

/-- A written number is not blank. -/
theorem exists_mem_decimal (n : Nat) : ∃ c ∈ decimal n, isBlank c = false := by
  obtain ⟨c, mem⟩ := List.exists_mem_of_ne_nil _ (decimal_ne_nil n)
  exact ⟨c, mem, isBlank_of_isDigit (isDigit_of_mem_decimal mem)⟩

theorem blank_signed (n : Int) : blank (String.ofList (signed n)) = false := by
  obtain ⟨c, mem, h⟩ := exists_mem_decimal n.natAbs
  refine blank_eq_false ?_ h
  rw [signed]
  split
  · exact .tail _ mem
  · exact mem

end Text

theorem Decimal.exists_mem_text_setting (d : Decimal) :
    ∃ c ∈ d.text .setting, Text.isBlank c = false := by
  change ∃ c ∈ d.positionalText false, Text.isBlank c = false
  simp only [positionalText, Bool.false_eq_true, if_false]
  split
  · exact ⟨'0', by simp, by decide⟩
  · split
    · obtain ⟨c, mem, h⟩ := Text.exists_mem_decimal d.digits
      exact ⟨c, by simp [mem], h⟩
    · split
      · exact ⟨'.', by simp, by decide⟩
      · exact ⟨'.', by simp, by decide⟩

/-- The text that becomes of a real number is not blank. -/
theorem Binary64.blank_text_setting (x : Binary64) :
    Text.blank (String.ofList (x.text .setting)) = false := by
  have magnitude : ∃ c ∈ if x.isFinite then (Decimal.shortest x).text .setting
      else ['i', 'n', 'f'], Text.isBlank c = false := by
    split
    · exact Decimal.exists_mem_text_setting _
    · exact ⟨'i', by simp, by decide⟩
  obtain ⟨c, mem, h⟩ := magnitude
  unfold text
  split
  · decide
  · refine Text.blank_eq_false ?_ h
    dsimp only
    split
    · exact .tail _ mem
    · exact mem

/-- A text that is not blank is printed as one that is not blank. -/
theorem Layer.blank_printedValue {w : String} (h : Text.blank w = false) :
    Text.blank (printedValue w) = false := by
  unfold printedValue
  split
  · rename_i word
    rcases word with word | word
    · rw [word]
      decide
    · rw [word]
      decide
  · split
    · exact Text.blank_signed _
    · split
      · exact Binary64.blank_text_setting _
      · exact h

/-! ## Loading -/

namespace Settings

/-- Where no files are and one variable is set, its field is what it gives, and the other fields
have their defaults. -/
theorem load_variable {f : Field} {w : String} {s : Settings} (accepted : s.Accepted)
    (read : f.read? (Layer.variableValue w) = some (f.get s))
    (others : ∀ g : Field, g ≠ f → g.get s = g.default) :
    load (fun _ => none) none [(f.variableName, w)] = .ok s := by
  have nothing : ∀ g, given (fun _ => none) none [] g = none := fun _ => rfl
  have start : Loadable (fun _ => none) none [] := by
    constructor
    case present => rintro name (⟨⟨⟩⟩ | ⟨⟨⟩⟩)
    case plain => exact fun _ _ _ => nofun
    case distinct => exact List.nodup_nil
    case known => exact List.forall_mem_nil _
    case convertible => exact fun f => rfl
  have one := @Loadable.cons _ _ _ start f w List.not_mem_nil (read ▸ rfl)
  obtain ⟨s', loaded, follows⟩ := one.exists_load_eq
  have expected : s.Follows (given (fun _ => none) none [(f.variableName, w)]) := by
    intro g
    rw [given_cons, nothing]
    by_cases same : g = f
    · subst same
      rw [if_pos rfl]
      exact read
    · rw [if_neg same, others g same]
      rfl
  rw [loaded, expected.unique follows, checked, validate_eq_ok_iff.2 accepted]

def withWorkerId (w : String) : Settings :=
  { Settings.default with dispatcher := { DispatcherSettings.default with workerId := some w } }

def withStoreUrl (url : String) : Settings := { Settings.default with store := ⟨.memory, some url⟩ }

def withBrokerUrl (url : String) : Settings := { Settings.default with broker := ⟨.log, some url⟩ }

theorem accepted_default : Settings.default.Accepted := validate_eq_ok_iff.1 validate_default

/-- The fields that are texts. -/
inductive TextField where
  | workerId
  | storeUrl
  | brokerUrl

def TextField.field : TextField → Field
  | .workerId => .workerId
  | .storeUrl => .storeUrl
  | .brokerUrl => .brokerUrl

def TextField.variableName : TextField → String
  | .workerId => "OUTBOX_RELAY__DISPATCHER__WORKER_ID"
  | .storeUrl => "OUTBOX_RELAY__STORE__URL"
  | .brokerUrl => "OUTBOX_RELAY__BROKER__URL"

def TextField.settings : TextField → String → Settings
  | .workerId => withWorkerId
  | .storeUrl => withStoreUrl
  | .brokerUrl => withBrokerUrl

/-- The usual settings are accepted with any text in a text field that is not blank. -/
theorem TextField.accepted_settings (t : TextField) {text : String}
    (h : Text.blank text = false) : (t.settings text).Accepted := by
  have d := accepted_default
  cases t with
  | workerId =>
    exact ⟨d.positive, by rintro _ ⟨⟩; exact h, d.attempts, d.backoff, d.storeUrl, d.brokerUrl⟩
  | storeUrl => exact ⟨d.positive, d.workerId, d.attempts, d.backoff, nofun, d.brokerUrl⟩
  | brokerUrl => exact ⟨d.positive, d.workerId, d.attempts, d.backoff, d.storeUrl, nofun⟩

/-- A text setting is the printed value of its variable. -/
theorem load_text (t : TextField) {w : String} (h : Text.blank w = false) :
    load (fun _ => none) none [(t.variableName, w)] =
      .ok (t.settings (Layer.printedValue w)) := by
  have named : t.field.variableName = t.variableName := by
    cases t <;> decide +kernel
  have printed := congrArg Except.toOption (Layer.toText?_variableValue w none)
  have read : t.field.read? (Layer.variableValue w) =
      some (t.field.get (t.settings (Layer.printedValue w))) := by
    cases t <;> exact printed
  have others : ∀ g : Field, g ≠ t.field →
      g.get (t.settings (Layer.printedValue w)) = g.default := by
    intro g other
    cases t <;> cases g <;> first | rfl | exact absurd rfl other
  rw [← named]
  exact load_variable (t.accepted_settings (Layer.blank_printedValue h)) read others

/-! ## What arrives unchanged -/

/-- What a text has to be like to arrive as it was written: if it stands for a truth value or a
number, it has to be written as that is printed. -/
def Unchanged (w : String) : Prop :=
  match Layer.variableValue w with
  | .bool b => w = if b then "true" else "false"
  | .int _ => Text.PlainInteger w.toList
  | .real x => w.toList = x.text .setting
  | _ => True

theorem ofList_eq_iff {cs : List Char} {w : String} : String.ofList cs = w ↔ cs = w.toList :=
  ⟨fun h => by rw [← h, String.toList_ofList], fun h => by rw [h, String.ofList_toList]⟩

/-- **A text arrives as it was written exactly if it is `Unchanged`.** -/
theorem printedValue_eq_iff (w : String) : Layer.printedValue w = w ↔ Unchanged w := by
  unfold Unchanged Layer.printedValue Layer.variableValue
  by_cases yes : Text.lower w = "true"
  · simp [yes, eq_comm]
  by_cases no : Text.lower w = "false"
  · simp [no, eq_comm]
  simp only [yes, no, if_false, or_self]
  cases read : Text.int64? 10 w.toList with
  | some n => exact ofList_eq_iff.trans (Text.signed_eq_iff_plain read)
  | none =>
    cases Binary64.read? w.toList with
    | some x => exact ofList_eq_iff.trans eq_comm
    | none => exact iff_of_true rfl trivial

/-- A record is claimed by a relay that is started without files and with a worker id in its
environment. -/
def ClaimedBy (w : String) (r : Record) : Prop :=
  ∃ (s : Settings) (process : String) (store store' : Store) (policy : Policy) (limit : Nat)
    (now : Instant) (claimed : List Record),
    load (fun _ => none) none [("OUTBOX_RELAY__DISPATCHER__WORKER_ID", w)] = .ok s ∧
    store.claimBatch policy limit (Launch.workerId s process) now = .ok (claimed, store') ∧
    r ∈ claimed

/-- A record is locked under the worker id as it is printed, not as it was written. -/
theorem ClaimedBy.lockedBy {w : String} {r : Record} (h : Text.blank w = false)
    (claimed : ClaimedBy w r) : r.lockedBy = some (Layer.printedValue w) := by
  obtain ⟨s, process, store, store', policy, limit, now, records, loaded, batch, mem⟩ := claimed
  cases (load_text .workerId h).symm.trans loaded
  unfold Store.claimBatch at batch
  split at batch
  · cases batch
    cases mem
  · unfold Store.locked at batch
    split at batch
    · cases batch
    · rw [Contents.claimUpTo_eq] at batch
      cases batch
      obtain ⟨r, -, rfl⟩ := List.mem_map.1 mem
      rfl

/-- There is a record that a relay with this worker id claims. -/
theorem exists_claimedBy {w : String} (h : Text.blank w = false) : ∃ r, ClaimedBy w r :=
  let waiting := Record.ofEvent (.ofNat 1) (.brief none) .epoch
  let store : Store := ⟨(Contents.empty.insert? waiting).getD .empty, false⟩
  ⟨_, _, "1", store, _, .default, 1, .epoch, _, load_text .workerId h, rfl, List.mem_cons_self⟩

/-- **Texts arrive as their values are printed.** A worker id and the addresses of a store and of a
broker are the printed values of their variables, if these are not blank, and all other settings
have their defaults. A text is its own printed value exactly if it stands for itself or is written
as its value is printed. Records that two relays claim are marked alike exactly if the worker ids
have the same printed value. -/
theorem texts_arrive_printed {w : String} (h : Text.blank w = false) :
    load (fun _ => none) none [("OUTBOX_RELAY__DISPATCHER__WORKER_ID", w)] =
      .ok (withWorkerId (Layer.printedValue w)) ∧
    load (fun _ => none) none [("OUTBOX_RELAY__STORE__URL", w)] =
      .ok (withStoreUrl (Layer.printedValue w)) ∧
    load (fun _ => none) none [("OUTBOX_RELAY__BROKER__URL", w)] =
      .ok (withBrokerUrl (Layer.printedValue w)) ∧
    (Layer.printedValue w = w ↔ Unchanged w) ∧
    ∀ (w' : String) (r r' : Record), Text.blank w' = false → ClaimedBy w r → ClaimedBy w' r' →
      (r.lockedBy = r'.lockedBy ↔ Layer.printedValue w = Layer.printedValue w') := by
  refine ⟨load_text .workerId h, load_text .storeUrl h, load_text .brokerUrl h,
    printedValue_eq_iff w, ?_⟩
  intro w' r r' h' claimed claimed'
  rw [claimed.lockedBy h, claimed'.lockedBy h', Option.some.injEq]

/-- The worker id `0x1F` is accepted and arrives as `31`. -/
theorem texts_arrive_printed_hexadecimal :
    Text.blank "0x1F" = false ∧
    load (fun _ => none) none [("OUTBOX_RELAY__DISPATCHER__WORKER_ID", "0x1F")] =
      .ok (withWorkerId "0x1F") ∧
    ∃ r r', ClaimedBy "0x1F" r ∧ ClaimedBy "31" r' ∧ r.lockedBy ≠ r'.lockedBy := by
  have h : Text.blank "0x1F" = false := by decide
  have h' : Text.blank "31" = false := by decide
  obtain ⟨loaded, -, -, -, same_iff⟩ := texts_arrive_printed h
  have printed : Layer.printedValue "0x1F" = "0x1F" := by decide +kernel
  have printed' : Layer.printedValue "31" = "31" := by decide +kernel
  obtain ⟨r, claimed⟩ := exists_claimedBy h
  obtain ⟨r', claimed'⟩ := exists_claimedBy h'
  refine ⟨h, printed ▸ loaded, r, r', claimed, claimed', fun same => ?_⟩
  have both := (same_iff "31" r r' h' claimed claimed').1 same
  rw [printed, printed'] at both
  exact absurd both (by decide)

/-- A worker id of digits loses the zeros in front, so that it is the same as another one. -/
theorem zeros_in_front_are_lost :
    Text.blank "007" = false ∧ Text.blank "7" = false ∧
    (¬ ∃ s, load (fun _ => none) none [("OUTBOX_RELAY__DISPATCHER__WORKER_ID", "007")] = .ok s ∧
      s.dispatcher.workerId = some "007") ∧
    ∃ r r', ClaimedBy "007" r ∧ ClaimedBy "7" r' ∧ r.lockedBy = r'.lockedBy := by
  have h : Text.blank "007" = false := by decide
  have h' : Text.blank "7" = false := by decide
  have printed : Layer.printedValue "007" = "7" := by decide +kernel
  have printed' : Layer.printedValue "7" = "7" := by decide +kernel
  obtain ⟨r, claimed⟩ := exists_claimedBy h
  obtain ⟨r', claimed'⟩ := exists_claimedBy h'
  refine ⟨h, h', ?_, r, r', claimed, claimed', ?_⟩
  · rintro ⟨s, loaded, kept⟩
    cases (load_text .workerId h).symm.trans loaded
    change some (Layer.printedValue "007") = some "007" at kept
    rw [printed] at kept
    exact absurd kept (by decide)
  · rw [claimed.lockedBy h, claimed'.lockedBy h', printed, printed']

end Settings
end EventRelay
