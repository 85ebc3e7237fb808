import EventRelay.Proofs.Store.Keys

/-!
# Freeing keys

The contents in which some keys are free (`Contents.freed`) are those that a store would have if
these keys had never been reserved. A store does the same with both, as long as nobody asks for one
of the keys: every operation commutes with freeing them, and only those that take records in or give
keys up need to know that their own keys are others. Reserving a key and freeing it again leaves
nothing behind (`Sound.reserveFor?_freed`), and giving up staged records frees their keys and no
others (`Sound.releaseKeys_eq`).
-/

namespace EventRelay

/-! ## Tables -/

namespace Table

variable {κ ν : Type} [DecidableEq κ]

def eraseAll (t : Table κ ν) (ks : List κ) : Table κ ν := ⟨t.entries.filter fun e => e.1 ∉ ks⟩

section
variable (t : Table κ ν) (ks : List κ) (k : κ)

@[simp] theorem eraseAll_nil : t.eraseAll [] = t := by
  simp [eraseAll]

theorem eraseAll_cons : t.eraseAll (k :: ks) = (t.erase k).eraseAll ks := by
  simp only [eraseAll, erase, List.filter_filter, List.mem_cons, not_or]
  congr 2
  funext e
  rw [Bool.decide_and, Bool.and_comm]

theorem eraseAll_concat : t.eraseAll (ks ++ [k]) = (t.erase k).eraseAll ks := by
  rw [← eraseAll_cons]
  simp [eraseAll, and_comm]

theorem erase_eraseAll : (t.eraseAll ks).erase k = (t.erase k).eraseAll ks := by
  simp only [eraseAll, erase, List.filter_filter]
  congr 2
  funext e
  rw [Bool.and_comm]

theorem get?_eraseAll : (t.eraseAll ks).get? k = if k ∈ ks then none else t.get? k := by
  induction ks generalizing t with
  | nil => simp
  | cons k' rest ih =>
    rw [eraseAll_cons, ih, get?_erase]
    by_cases hk : k = k'
    · simp [hk]
    · simp [hk]

end

section
variable {t : Table κ ν} {ks : List κ} {k : κ}

theorem insert_eraseAll (h : k ∉ ks) (v : ν) :
    (t.eraseAll ks).insert k v = (t.insert k v).eraseAll ks := by
  simp only [insert, erase_eraseAll]
  simp [eraseAll, h]

theorem erase_of_free (h : t.get? k = none) : t.erase k = t := by
  have none_has : ∀ e ∈ t.entries, e.1 ≠ k := by
    simpa [get?, List.find?_eq_none] using h
  unfold erase
  rw [List.filter_eq_self.2 fun e he => by simpa using none_has e he]

theorem erase_insert_self (v : ν) : (t.insert k v).erase k = t.erase k := by
  simp [insert, erase]

/-- A key that was free is free again when its new value is erased. -/
theorem eraseAll_insert (h : t.get? k = none) (v : ν) :
    (t.insert k v).eraseAll (ks ++ [k]) = t.eraseAll ks := by
  rw [eraseAll_concat, erase_insert_self, erase_of_free h]

end
end Table

/-! ## Contents -/

namespace Contents

/-- The contents in which keys are free. -/
def freed (c : Contents) (keys : List String) : Contents :=
  { c with owners := c.owners.eraseAll keys }

def keysOf (rs : List Record) : List String := rs.filterMap (·.dedupeKey)

section
variable (c : Contents) (keys : List String)

@[simp] theorem freed_nil : c.freed [] = c := by
  simp [freed]

/-- A claim does not look at the owners of keys. -/
theorem claimOne?_freed (policy : Policy) (worker : String) (now : Instant) :
    (c.freed keys).claimOne? policy worker now =
      (c.claimOne? policy worker now).map fun x => (x.1, x.2.freed keys) := by
  simp only [claimOne?, freed, Option.map_map, Function.comp_def]

theorem claimUpTo_freed (policy : Policy) (worker : String) (now : Instant) (limit : Nat) :
    claimUpTo policy worker now limit (c.freed keys) =
      ((claimUpTo policy worker now limit c).1,
        (claimUpTo policy worker now limit c).2.freed keys) := by
  induction limit generalizing c with
  | zero => rfl
  | succ limit ih =>
    simp only [claimUpTo, claimOne?_freed]
    cases c.claimOne? policy worker now with
    | none => rfl
    | some x => simp only [Option.map_some, ih]

theorem update_freed (id : Uuid) (g : Record → Record) :
    (c.freed keys).update id g = (c.update id g).freed keys := by
  unfold update
  rw [show (c.freed keys).index = c.index from rfl]
  cases c.index.get? id with
  | none => rfl
  | some seq => rfl

theorem purge_freed (cutoff : Instant) :
    (c.freed keys).purge cutoff = ((c.purge cutoff).1, (c.purge cutoff).2.freed keys) := by
  have removes : ∀ (row : Nat × Record) (c : Contents),
      (c.freed keys).remove row = (c.remove row).freed keys := by
    intro row c
    unfold remove freed
    cases row.2.dedupeKey with
    | none => rfl
    | some key => simp only [Table.erase_eraseAll]
  have removesAll : ∀ (gone : List (Nat × Record)) (c : Contents),
      gone.foldl remove (c.freed keys) = (gone.foldl remove c).freed keys := by
    intro gone
    induction gone with
    | nil => exact fun _ => rfl
    | cons row rest ih =>
      intro c
      simp only [List.foldl_cons, removes, ih]
  exact congrArg (Prod.mk _) (removesAll _ c)

end

section
variable {c c' : Contents} {keys : List String} {r : Record} {rs staged : List Record}

/-- A reservation looks at the owner of no key but its own. -/
theorem reserveFor?_freed (h : ∀ key, r.dedupeKey = some key → key ∉ keys) :
    (c.freed keys).reserveFor? r = (c.reserveFor? r).map (·.freed keys) := by
  unfold reserveFor?
  cases hkey : r.dedupeKey with
  | none => rfl
  | some key =>
    have other := h key hkey
    have owner : (c.freed keys).owners.get? key = c.owners.get? key := by
      simp [freed, Table.get?_eraseAll, other]
    simp only [reserve?, owner]
    cases c.owners.get? key with
    | none => simp only [freed, Table.insert_eraseAll other, Option.map_some]
    | some owner =>
      dsimp only
      split
      · rfl
      · rfl

theorem insert?_freed (h : ∀ key, r.dedupeKey = some key → key ∉ keys) :
    (c.freed keys).insert? r = (c.insert? r).map (·.freed keys) := by
  simp only [insert?, reserveFor?_freed h, Option.map_map, Function.comp_def]
  rfl

theorem insertAll_freed (h : ∀ key ∈ keysOf rs, key ∉ keys) :
    (c.freed keys).insertAll rs = ((c.insertAll rs).1, (c.insertAll rs).2.freed keys) := by
  induction rs generalizing c with
  | nil => rfl
  | cons r rest ih =>
    have own : ∀ key, r.dedupeKey = some key → key ∉ keys := fun key hkey =>
      h key (List.mem_filterMap.2 ⟨r, List.mem_cons_self, hkey⟩)
    have others : ∀ key ∈ keysOf rest, key ∉ keys := fun key hkey =>
      h key ((List.sublist_cons_self ..).filterMap _ |>.subset hkey)
    simp only [insertAll, insert?_freed own]
    cases c.insert? r with
    | none => exact ih others
    | some c' => simp only [Option.map_some, ih others]

theorem releaseKey_freed {key : String} (h : key ∉ keys) (id : Uuid) :
    (c.freed keys).releaseKey key id = (c.releaseKey key id).freed keys := by
  have owner : (c.freed keys).owners.get? key = c.owners.get? key := by
    simp [freed, Table.get?_eraseAll, h]
  simp only [releaseKey, owner]
  split
  · simp only [freed, Table.erase_eraseAll]
  · rfl

theorem releaseKeys_freed (h : ∀ key ∈ keysOf rs, key ∉ keys) :
    (c.freed keys).releaseKeys rs = (c.releaseKeys rs).freed keys := by
  unfold releaseKeys
  induction rs generalizing c with
  | nil => rfl
  | cons r rest ih =>
    have others : ∀ key ∈ keysOf rest, key ∉ keys := fun key hkey =>
      h key ((List.sublist_cons_self ..).filterMap _ |>.subset hkey)
    simp only [List.foldl_cons]
    cases hkey : r.dedupeKey with
    | none => exact ih others
    | some key =>
      have own := h key (List.mem_filterMap.2 ⟨r, List.mem_cons_self, hkey⟩)
      simp only [releaseKey_freed own]
      exact ih others

/-- Reserving a key for a new record and freeing it again leaves nothing behind. -/
theorem Sound.reserveFor?_freed (h : c.Sound staged)
    (new : r.id ∉ (c.records ++ staged).map (·.id)) (hr : c.reserveFor? r = some c') :
    c'.freed (keysOf (rs ++ [r])) = c.freed (keysOf rs) := by
  unfold Contents.reserveFor? at hr
  cases hkey : r.dedupeKey with
  | none =>
    rw [hkey] at hr
    cases hr
    simp [keysOf, hkey]
  | some key =>
    have keys : keysOf (rs ++ [r]) = keysOf rs ++ [key] := by simp [keysOf, hkey]
    simp only [hkey] at hr
    obtain ⟨free, rfl⟩ := h.free_of_reserve? new hr
    simp only [freed, keys, Table.eraseAll_insert free]

/-- **A rollback frees the keys of its records**, and no others. -/
theorem Sound.releaseKeys_eq (h : c.Sound (rs ++ staged)) :
    c.releaseKeys rs = c.freed (keysOf rs) := by
  induction rs generalizing c with
  | nil => simp [keysOf, Contents.releaseKeys]
  | cons r rest ih =>
    rw [h.releaseKeys_cons, ih (Sound.tail h)]
    unfold keysOf withoutKeyOf
    cases hkey : r.dedupeKey with
    | none => simp [hkey]
    | some key => simp [freed, hkey, Table.eraseAll_cons]

end
end Contents
end EventRelay
