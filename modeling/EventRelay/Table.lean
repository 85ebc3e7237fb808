/-!
# Tables

A table holds at most one value for a key. It is a list of pairs; only the first pair of a key
counts, and setting or erasing a key leaves no other pair of it behind.
-/

namespace EventRelay

/-- At most one value for each key. -/
structure Table (κ ν : Type) where
  entries : List (κ × ν)

namespace Table

variable {κ ν : Type} [DecidableEq κ]

def empty : Table κ ν := ⟨[]⟩

def get? (t : Table κ ν) (k : κ) : Option ν := (t.entries.find? (·.1 = k)).map (·.2)

/-- The table in which a key has no value. -/
def erase (t : Table κ ν) (k : κ) : Table κ ν := ⟨t.entries.filter (·.1 ≠ k)⟩

def insert (t : Table κ ν) (k : κ) (v : ν) : Table κ ν := ⟨(k, v) :: (t.erase k).entries⟩

@[simp] theorem get?_empty (k : κ) : (empty : Table κ ν).get? k = none := rfl

@[simp] theorem get?_erase_self (t : Table κ ν) (k : κ) : (t.erase k).get? k = none := by
  simp [get?, erase, List.find?_filter]

theorem get?_erase_of_ne (t : Table κ ν) {k l : κ} (h : l ≠ k) :
    (t.erase k).get? l = t.get? l := by
  simp only [get?, erase, List.find?_filter]
  congr 2
  funext a
  by_cases ha : a.1 = l
  · simp [ha, h]
  · simp [ha]

@[simp] theorem get?_insert_self (t : Table κ ν) (k : κ) (v : ν) :
    (t.insert k v).get? k = some v := by
  simp [get?, insert]

theorem get?_insert_of_ne (t : Table κ ν) {k l : κ} (v : ν) (h : l ≠ k) :
    (t.insert k v).get? l = t.get? l := by
  rw [← get?_erase_of_ne t h]
  simp [get?, insert, h.symm]

/-- An erased key is free, and every other key is as it was. -/
theorem get?_erase (t : Table κ ν) (k l : κ) :
    (t.erase k).get? l = if l = k then none else t.get? l := by
  split
  · subst l; exact get?_erase_self t k
  · exact get?_erase_of_ne t ‹_›

/-- An inserted key has the new value, and every other key is as it was. -/
theorem get?_insert (t : Table κ ν) (k : κ) (v : ν) (l : κ) :
    (t.insert k v).get? l = if l = k then some v else t.get? l := by
  split
  · subst l; exact get?_insert_self t k v
  · exact get?_insert_of_ne t v ‹_›

end Table
end EventRelay
