import EventRelay.Json.Decode
import EventRelay.Proofs.Json.Values

/-!
# Structures are decoded

An object with an entry for each field of a structure, in the order of the fields, is decoded: the
entries are collected (`fieldsOf_toReading`), and each field has the value that its entry decodes
to. Conversely, the parts of a structure that was decoded come out of readings at a place one level
further in (`place_of_fieldsOf`).
-/

namespace EventRelay.Json

/-! ## Simple values -/

section
variable {p : Place}

/-- Text is decoded to what the function makes of it. -/
theorem decodeText_str {α : Type} {expected : String} {make : String → Except (List Char) α}
    {s : String} {a : α} (h : make s = .ok a) :
    decodeText expected make p (.text s) = .ok a := by
  simp only [decodeText, h]

theorem decodeString_str (s : String) : decodeString p (toReading (.str s)) = .ok s := by
  rw [toReading]
  exact decodeText_str rfl

theorem decodeBool_bool (b : Bool) : decodeBool p (toReading (.bool b)) = .ok b := by
  rw [toReading]
  rfl

/-- Null decodes to an absence, whatever the decoder is. -/
theorem decodeOption_null {α : Type} (d : Decoder α) :
    decodeOption d p (toReading .null) = .ok none := by
  rw [toReading]
  rfl

theorem decodeOption_str {α : Type} {d : Decoder α} {s : String} {a : α}
    (h : d p (toReading (.str s)) = .ok a) :
    decodeOption d p (toReading (.str s)) = .ok (some a) := by
  rw [toReading] at h ⊢
  simp only [decodeOption, h]
  rfl

/-- Text that may be missing is decoded to itself. -/
theorem decodeOption_ofText? (s : Option String) :
    decodeOption decodeString p (toReading (ofText? s)) = .ok s := by
  cases s with
  | none => exact decodeOption_null _
  | some s => exact decodeOption_str (decodeString_str s)

/-- A value decodes to itself if its objects are ordered and it is not too deep for its place. -/
theorem decodeValue_toReading {v : Json} (ordered : v.Ordered) (shallow : v.depth < p.room) :
    decodeValue p v.toReading = .ok v := by
  simp only [decodeValue, value_toReading v _ ordered shallow]

/-- A value that was decoded has ordered objects and fits into its place. -/
theorem ordered_of_decodeValue {r : Reading} {v : Json} (positive : 0 < p.room)
    (h : decodeValue p r = .ok v) : v.Ordered ∧ v.depth < p.room := by
  unfold decodeValue at h
  split at h
  · rename_i hv
    cases h
    exact ordered_of_value r positive hv
  · cases h

/-- A number below the limit is decoded to itself. -/
theorem decodeNatural_int {expected : String} {limit n : Nat} (h : n < limit) :
    decodeNatural expected limit p (toReading (.int n)) = .ok n := by
  rw [toReading]
  exact if_pos ⟨Int.natCast_nonneg n, Int.ofNat_lt.2 h⟩

end

/-! ## Structures -/

/-- The entries of an object are those of a structure: one for each field, in the order of the
fields, with a value that satisfies the field's decoder. -/
def Match (p : Place) (fields : List Field) (entries : List (String × Json)) : Prop :=
  List.Forall₂ (fun f e => f.name = e.1 ∧ f.check p e.2.toReading = .ok ()) fields entries

theorem Match.nil {p : Place} : Match p [] [] := List.Forall₂.nil

/-- A further entry matches if its value decodes as the further field wants it. -/
theorem Match.cons {α : Type} {p : Place} {name : String} {d : Decoder α} {v : Json} {a : α}
    {fields : List Field} {entries : List (String × Json)} (h : d p v.toReading = .ok a)
    (rest : Match p fields entries) : Match p (.of name d :: fields) ((name, v) :: entries) := by
  refine List.Forall₂.cons ⟨rfl, ?_⟩ rest
  simp only [Field.of, h]
  rfl

/-- The entries have the names of the fields. -/
theorem Match.distinct {p : Place} {fields : List Field} {entries : List (String × Json)}
    (h : Match p fields entries) (distinct : (fields.map (·.name)).Nodup) :
    (entries.map (·.1)).Nodup := by
  have names : fields.map (·.name) = entries.map (·.1) := by
    clear distinct
    induction h with
    | nil => rfl
    | cons first _ ih => rw [List.map_cons, List.map_cons, first.1, ih]
  rwa [← names]

def Fields.ofEntries (p : Place) (entries : List (String × Json)) : Fields :=
  ⟨p, entries.map fun e => (e.1, e.2.toReading)⟩

/-- A field is found by its name. -/
theorem find?_name {fields : List Field} {f : Field} (distinct : (fields.map (·.name)).Nodup)
    (h : f ∈ fields) : fields.find? (·.name == f.name) = some f := by
  induction fields with
  | nil => cases h
  | cons first rest ih =>
    rw [List.map_cons, List.nodup_cons] at distinct
    rcases List.mem_cons.1 h with rfl | h
    · exact List.find?_cons_of_pos (beq_self_eq_true _)
    · have other : first.name ≠ f.name := fun heq =>
        distinct.1 (heq ▸ List.mem_map.2 ⟨f, h, rfl⟩)
      rw [List.find?_cons_of_neg (by simpa using other)]
      exact ih distinct.2 h

/-- Entries that match the fields are collected, all of them and in their order. -/
theorem collectEntries_of_match {all fields : List Field} {p : Place}
    {entries : List (String × Json)} (found : List (String × Reading))
    (matching : Match p fields entries) (members : ∀ f ∈ fields, f ∈ all)
    (distinct : (all.map (·.name)).Nodup)
    (fresh : (found.map (·.1) ++ fields.map (·.name)).Nodup) :
    collectEntries all p found (entryReadings entries) =
      .ok (found ++ entries.map fun e => (e.1, e.2.toReading)) := by
  induction matching generalizing found with
  | nil => simp [entryReadings, collectEntries]
  | @cons f e fields entries first rest ih =>
    obtain ⟨key, value⟩ := e
    obtain ⟨rfl, checked⟩ := first
    have known := find?_name distinct (members f List.mem_cons_self)
    have unseen : (found.lookup f.name).isSome = false := by
      rw [Option.isSome_eq_false_iff, Option.isNone_iff_eq_none, List.lookup_eq_none_iff]
      intro e he
      have := (List.nodup_append.1 fresh).2.2 e.1 (List.mem_map.2 ⟨e, he, rfl⟩) f.name (by simp)
      simpa using this.symm
    have later := ih (found ++ [(f.name, toReading value)])
      (fun g hg => members g (List.mem_cons_of_mem _ hg)) (by simpa using fresh)
    rw [entryReadings, collectEntries, known]
    dsimp only
    rw [if_neg (by simp [unseen]), checked, ok_bind, later]
    simp

/-- **An object with an entry for each field** has the readings of the entries as its fields. -/
theorem fieldsOf_toReading {shape : Shape} {p q : Place} {entries : List (String × Json)}
    (inside : p.inside = .ok q) (distinct : (shape.fields.map (·.name)).Nodup)
    (matching : Match q shape.fields entries) :
    shape.fieldsOf p (toReading (.obj entries)) = .ok (.ofEntries q entries) := by
  have collected := collectEntries_of_match [] matching (fun _ => id) distinct
    (by simpa using distinct)
  rw [toReading, Shape.fieldsOf]
  simp only [inside, ok_bind, collected, List.nil_append]
  rfl

section
variable {α : Type} {p : Place} {entries : List (String × Json)} {name : String} {v : Json}
  {d : Decoder α}

/-- The name of each entry leads to its value. -/
theorem lookup_ofEntries (distinct : (entries.map (·.1)).Nodup) (i : Nat)
    (h : entries[i]? = some (name, v)) :
    (Fields.ofEntries p entries).found.lookup name = some v.toReading := by
  have along {entries : List (String × Json)} (distinct : (entries.map (·.1)).Nodup)
      (h : (name, v) ∈ entries) :
      (entries.map fun e => (e.1, e.2.toReading)).lookup name = some v.toReading := by
    induction entries with
    | nil => cases h
    | cons e rest ih =>
      rw [List.map_cons, List.nodup_cons] at distinct
      rw [List.map_cons, List.lookup_cons]
      rcases List.mem_cons.1 h with rfl | h
      · rw [beq_self_eq_true]
      · have other : name ≠ e.1 := fun heq => distinct.1 (heq ▸ List.mem_map.2 ⟨(name, v), h, rfl⟩)
        rw [beq_false_of_ne other]
        exact ih distinct.2 h
  exact along distinct (List.mem_of_getElem? h)

/-- A field that must be there is decoded from its own entry. -/
theorem require_ofEntries (distinct : (entries.map (·.1)).Nodup) (i : Nat)
    (h : entries[i]? = some (name, v)) :
    (Fields.ofEntries p entries).require name d = d p v.toReading := by
  rw [Fields.require, lookup_ofEntries distinct i h]
  rfl

/-- A field that may be missing is decoded from its own entry too. -/
theorem optional_ofEntries (distinct : (entries.map (·.1)).Nodup) (i : Nat)
    (h : entries[i]? = some (name, v)) :
    (Fields.ofEntries p entries).optional name d = decodeOption d p v.toReading := by
  rw [Fields.optional, Fields.get?, lookup_ofEntries distinct i h]
  change ((decodeOption d p v.toReading).map some).map (·.getD none) = _
  cases decodeOption d p v.toReading <;> rfl

end

section
variable {α : Type} {shape : Shape} {p q : Place} {r : Reading} {fields : Fields} {name : String}
  {d : Decoder α}

/-- The fields of a structure stand one level further in. -/
theorem place_of_fieldsOf (h : shape.fieldsOf p r = .ok fields) : p.inside = .ok fields.place := by
  unfold Shape.fieldsOf at h
  split at h
  · obtain ⟨q, hq, h⟩ := bind_eq_ok_iff.1 h
    obtain ⟨found, -, h⟩ := bind_eq_ok_iff.1 h
    split at h
    · cases h
      exact hq
    · cases h
  · obtain ⟨q, hq, h⟩ := bind_eq_ok_iff.1 h
    obtain ⟨found, -, h⟩ := bind_eq_ok_iff.1 h
    cases h
    exact hq
  · cases h

/-- In a text there is less room further in, but there is some. -/
theorem room_of_inside (streamed : p.streamed = true) (h : p.inside = .ok q) :
    q.streamed = true ∧ 0 < q.room ∧ q.room + 1 = p.room := by
  unfold Place.inside at h
  rw [if_neg (by simp [streamed])] at h
  split at h
  · cases h
  · cases h
    exact ⟨streamed, by dsimp only; omega, by dsimp only; omega⟩

/-- A field that has a value was decoded from some reading inside the structure. -/
theorem exists_of_require {a : α} (h : fields.require name d = .ok a) :
    ∃ r, d fields.place r = .ok a := by
  unfold Fields.require at h
  split at h
  · exact ⟨_, h⟩
  · cases h

theorem exists_of_optional {a : α} (h : fields.optional name d = .ok (some a)) :
    ∃ r, d fields.place r = .ok a := by
  unfold Fields.optional Fields.get? at h
  obtain ⟨b, hb, heq⟩ := map_eq_ok_iff.1 h
  split at hb
  · obtain ⟨c, hc, rfl⟩ := map_eq_ok_iff.1 hb
    obtain rfl : c = some a := heq
    unfold decodeOption at hc
    split at hc
    · cases hc
    · obtain ⟨a', ha, heq⟩ := map_eq_ok_iff.1 hc
      cases heq
      exact ⟨_, ha⟩
  · cases hb
    cases heq

end

end EventRelay.Json
