import EventRelay.Broker
import Mathlib.Data.Nat.ModEq

/-!
# The buffer of the subscribers

The messages on their way to the subscribers lie in a ring of slots: message number `p` lies in slot
`p % size`, until message number `p + size` is written over it. A subscriber asks for one message
after the other; one whose next message is written over is told how many it has missed, and goes on
with the oldest message that is left.

`Ring.Holds.receive?` is all that a subscriber can meet, and `Ring.Holds.hears_eq` is that a
subscriber who asks until nothing is left hears what `Broker.receive` tells at once.
-/

namespace EventRelay

/-- A ring of slots, and the number of messages that were sent through it. -/
structure Ring where
  slots : List (Option Message)
  sent : Nat

/-- What was heard accounts for a stretch of messages up to the ones that are left: a message for
itself, and the news that messages were missed for exactly so many. -/
inductive Accounts : List Message → List (Except Failure Message) → List Message → Prop where
  | nil (rest : List Message) : Accounts rest [] rest
  | got {m messages items rest} (h : Accounts messages items rest) :
    Accounts (m :: messages) (.ok m :: items) rest
  | missed {skipped messages items rest} (any : skipped ≠ []) (h : Accounts messages items rest) :
    Accounts (skipped ++ messages) (.error (Broker.lagged skipped.length) :: items) rest

namespace Ring

def size (r : Ring) : Nat := r.slots.length

/-- A ring of empty slots. -/
def ofSize (size : Nat) : Ring := ⟨List.replicate size none, 0⟩

/-- The ring after one more message. -/
def send (r : Ring) (m : Message) : Ring := ⟨r.slots.set (r.sent % r.size) (some m), r.sent + 1⟩

/-- What a subscriber gets whose next message has the number `next`, and the number of the next
message then; nothing if all messages were read. -/
def receive? (r : Ring) (next : Nat) : Option (Except Failure Message × Nat) :=
  if r.sent ≤ next then none
  else if r.size < r.sent - next then
    some (.error (Broker.lagged (r.sent - r.size - next)), r.sent - r.size)
  else r.slots[next % r.size]?.join.map fun m => (.ok m, next + 1)

/-- What a subscriber hears who asks so many times. -/
def hears (r : Ring) : Nat → Nat → List (Except Failure Message)
  | 0, _ => []
  | times + 1, next =>
    match r.receive? next with
    | none => []
    | some (item, next) => item :: r.hears times next

/-- These messages were sent through the ring, and the last of them lie in its slots. -/
structure Holds (r : Ring) (messages : List Message) : Prop where
  count : messages.length = r.sent
  kept : ∀ p m, messages[p]? = some m → r.sent ≤ p + r.size →
    r.slots[p % r.size]? = some (some m)

@[simp] theorem size_ofSize (size : Nat) : (ofSize size).size = size := List.length_replicate ..

@[simp] theorem size_send (r : Ring) (m : Message) : (r.send m).size = r.size := List.length_set ..

@[simp] theorem sent_send (r : Ring) (m : Message) : (r.send m).sent = r.sent + 1 := rfl

theorem holds_ofSize (size : Nat) : (ofSize size).Holds [] := ⟨rfl, by simp⟩

/-- Two messages share a slot only if the ring has gone round between them. -/
theorem mod_ne_of_lt {p sent size : Nat} (h : p < sent) (near : sent < p + size) :
    p % size ≠ sent % size := by
  intro same
  have := Nat.le_of_dvd (by omega) ((Nat.modEq_iff_dvd' h.le).1 same)
  omega

variable {r : Ring} {messages : List Message} {next : Nat}

/-- **One more message** takes the slot of the oldest one, and the ring holds the latest ones
again. -/
theorem Holds.send (h : r.Holds messages) (some_slot : 0 < r.size) (m : Message) :
    (r.send m).Holds (messages ++ [m]) := by
  refine ⟨by simp [h.count], fun p x hp near => ?_⟩
  have inside : r.sent % r.size < r.slots.length := Nat.mod_lt _ some_slot
  rw [size_send, sent_send] at near
  rw [size_send]
  change (r.slots.set (r.sent % r.size) (some m))[p % r.size]? = some (some x)
  rcases Nat.lt_or_ge p messages.length with hlt | hge
  · rw [List.getElem?_append_left hlt] at hp
    have older := mod_ne_of_lt (h.count ▸ hlt) (by omega : r.sent < p + r.size)
    rw [List.getElem?_set_ne older.symm]
    exact h.kept p x hp (by omega)
  · have newest : p = messages.length ∧ m = x := by
      rw [List.getElem?_append_right hge] at hp
      obtain ⟨hzero, hx⟩ := List.getElem?_eq_some_iff.1 hp
      rw [List.length_singleton] at hzero
      refine ⟨by omega, ?_⟩
      rw [← hx]
      exact (List.getElem_singleton _).symm
    obtain ⟨rfl, rfl⟩ := newest
    rw [h.count, List.getElem?_set_self inside]

/-- **What a subscriber can meet.** Nothing is left; or the next message is still in its slot; or it
is written over, and the news is exact and leaves as many messages as the ring has slots. -/
theorem Holds.receive? (h : r.Holds messages) (next : Nat) :
    (messages.drop next = [] ∧ r.receive? next = none) ∨
      (∃ m, messages.drop next = m :: messages.drop (next + 1) ∧
        (messages.drop next).length ≤ r.size ∧ r.receive? next = some (.ok m, next + 1)) ∨
      ∃ missed, 0 < missed ∧ (messages.drop next).length = missed + r.size ∧
        r.receive? next = some (.error (Broker.lagged missed), next + missed) := by
  have left : (messages.drop next).length = r.sent - next := by rw [List.length_drop, h.count]
  unfold Ring.receive?
  split
  · exact .inl ⟨List.drop_eq_nil_of_le (by rwa [h.count]), rfl⟩
  · rename_i unread
    split
    · rename_i far
      refine .inr (.inr ⟨r.sent - r.size - next, by omega, by omega, ?_⟩)
      rw [show next + (r.sent - r.size - next) = r.sent - r.size by omega]
    · rename_i near
      have hlt : next < messages.length := by rw [h.count]; omega
      refine .inr (.inl ⟨messages[next], List.drop_eq_getElem_cons hlt, by omega, ?_⟩)
      rw [h.kept next messages[next] (List.getElem?_eq_getElem hlt) (by omega)]
      rfl

/-- As long as no message is written over, a subscriber hears what is left. -/
theorem Holds.hears_of_near (h : r.Holds messages) {times : Nat}
    (near : r.sent - next ≤ r.size) (enough : r.sent - next ≤ times) :
    r.hears times next = (messages.drop next).map .ok := by
  have left : ∀ n, (messages.drop n).length = r.sent - n := fun n => by
    rw [List.length_drop, h.count]
  induction times generalizing next with
  | zero =>
    have : messages.drop next = [] := List.drop_eq_nil_of_le (by rw [h.count]; omega)
    rw [this]
    rfl
  | succ times ih =>
    rw [hears]
    rcases h.receive? next with ⟨none_left, hnone⟩ | ⟨m, hm, -, hsome⟩ | ⟨missed, pos, far, -⟩
    · rw [hnone, none_left]
      rfl
    · have lengths := congrArg List.length hm
      rw [List.length_cons, left, left] at lengths
      rw [hsome, hm, List.map_cons]
      exact congrArg _ (ih (by omega) (by omega))
    · rw [left] at far
      omega

/-- **One by one or at once.** A subscriber who asks until nothing is left hears what the broker
tells who has the same log and a buffer of the same size. -/
theorem Holds.hears_eq (h : r.Holds messages) {b : Broker} {front : List Message} {times : Nat}
    (capacity : b.capacity = r.size) (log : b.log = front ++ messages)
    (enough : r.sent - next ≤ times) : r.hears times next = b.receive (front.length + next) := by
  have unread : b.log.length - (front.length + next) = r.sent - next := by
    rw [log, List.length_append, h.count]
    omega
  have rest (n : Nat) : b.log.drop (front.length + n) = messages.drop n := by
    rw [log, List.drop_append, List.drop_eq_nil_of_le (by omega), List.nil_append,
      Nat.add_sub_cancel_left]
  unfold Broker.receive
  simp only [unread, capacity, Nat.add_assoc, rest]
  split
  · rename_i none_missed
    rw [none_missed, Nat.add_zero]
    exact h.hears_of_near (by omega) enough
  · rename_i some_missed
    obtain ⟨times, rfl⟩ : ∃ n, times = n + 1 := ⟨times - 1, by omega⟩
    have left : (messages.drop next).length = r.sent - next := by rw [List.length_drop, h.count]
    rw [hears]
    rcases h.receive? next with ⟨none_left, -⟩ | ⟨m, -, near, -⟩ | ⟨missed, pos, far, hsome⟩
    · rw [none_left] at left
      simp only [List.length_nil] at left
      omega
    · omega
    · obtain rfl : missed = r.sent - next - r.size := by omega
      rw [hsome]
      exact congrArg _ (h.hears_of_near (by omega) (by omega))

end Ring

namespace Accounts

variable {messages rest rest' : List Message} {items items' : List (Except Failure Message)}

theorem trans (h : Accounts messages items rest) (h' : Accounts rest items' rest') :
    Accounts messages (items ++ items') rest' := by
  induction h with
  | nil => exact h'
  | got _ ih => exact .got (ih h')
  | missed any _ ih => exact .missed any (ih h')

/-- What comes in behind is left, too. -/
theorem append (h : Accounts messages items rest) (more : List Message) :
    Accounts (messages ++ more) items (rest ++ more) := by
  induction h with
  | nil => exact .nil _
  | got _ ih => exact .got ih
  | missed any _ ih =>
    rw [List.append_assoc]
    exact .missed any ih

end Accounts
end EventRelay
