import EventRelay.Proofs.Settings.Layers

/-!
# Documents as layers

A document is plain if it maps the names of sections to mappings of the names of their fields to
values. The layer of such a document gives the values that stand in it (`Layer.ofNode_plain`): a
field that the document does not name keeps what stands below, also in a section that the document
names.
-/

namespace EventRelay

namespace Yaml.Node

open Settings (Field Section)

def value? : Node → Option Scalar
  | .bool b => some (.bool b)
  | .int n => some (.int n)
  | .real digits => (Binary64.read? digits.toList).map .real
  | .text s => some (.text s)
  | _ => none

def isName (name : String) : Node → Bool
  | .text n => n = name
  | _ => false

/-- The value of the last pair of a mapping that has a name as its key. -/
def under? (n : Node) (name : String) : Option Node :=
  match n with
  | .mapping pairs => (pairs.reverse.find? fun p => p.1.isName name).map (·.2)
  | _ => none

/-- The value that a root gives for a field. -/
def given? (root : Node) (f : Field) : Option Scalar :=
  ((root.under? f.home.name).bind (·.under? f.name)).bind value?

/-- Whether a node is a mapping whose keys are names that are accepted with their values. -/
def isMapping (accepts : String → Node → Bool) : Node → Bool
  | .mapping pairs => pairs.all fun p =>
    match p.1 with
    | .text name => accepts name p.2
    | _ => false
  | _ => false

def isSection (home : Section) : Node → Bool :=
  isMapping fun name n => home.fields.any (·.name = name) && n.value?.isSome

/-- Whether a node maps sections to mappings of their fields to values. -/
def isPlain : Node → Bool :=
  isMapping fun name n => Section.all.any fun home => home.name = name && n.isSection home

section
variable {accepts : String → Node → Bool} {n : Node}

/-- The check of a mapping says what a mapping is. -/
theorem isMapping_iff : n.isMapping accepts = true ↔
    ∃ pairs, n = .mapping pairs ∧
      ∀ p ∈ pairs, ∃ name, p.1 = .text name ∧ accepts name p.2 = true := by
  constructor
  · intro h
    cases n with
    | mapping pairs =>
      refine ⟨pairs, rfl, fun p hp => ?_⟩
      have accepted := List.all_eq_true.1 h p hp
      split at accepted
      · exact ⟨_, ‹_›, accepted⟩
      · cases accepted
    | _ => cases h
  · rintro ⟨pairs, rfl, h⟩
    refine List.all_eq_true.2 fun p hp => ?_
    obtain ⟨name, key, accepted⟩ := h p hp
    simpa only [key] using accepted

theorem isName_iff {name : String} : n.isName name = true ↔ n = .text name := by
  cases n <;> simp [isName]

/-- What is found under a name is one of the values that were checked. -/
theorem accepts_of_under? (h : n.isMapping accepts = true) {name : String} {m : Node}
    (found : n.under? name = some m) : accepts name m = true := by
  obtain ⟨pairs, rfl, each⟩ := isMapping_iff.1 h
  obtain ⟨p, hp, rfl⟩ := Option.map_eq_some_iff.1 found
  obtain ⟨name', key, accepted⟩ := each p (List.mem_reverse.1 (List.mem_of_find?_eq_some hp))
  have same : p.1 = .text name := isName_iff.1 (by simpa using List.find?_some hp)
  obtain rfl : name' = name := Node.text.inj (key.symm.trans same)
  exact accepted

theorem exists_section {name : String}
    (h : (Section.all.any fun home => home.name = name && n.isSection home) = true) :
    ∃ home : Section, home.name = name ∧ n.isSection home = true := by
  obtain ⟨home, -, accepted⟩ := List.any_eq_true.1 h
  obtain ⟨name, fields⟩ := Bool.and_eq_true_iff.1 accepted
  exact ⟨home, of_decide_eq_true name, fields⟩

end

mutual
/-- Nodes that are the same are equal. -/
theorem eq_of_same {a b : Node} (h : same a b = true) : a = b := by
  cases a <;> cases b <;> simp only [same, Bool.false_eq_true, beq_iff_eq] at h
  case null.null => rfl
  case bool.bool => rw [h]
  case int.int => rw [h]
  case real.real => rw [h]
  case text.text => rw [h]
  case sequence.sequence => rw [eq_of_sameItems h]
  case mapping.mapping => rw [eq_of_sameEntries h]
  case unusable.unusable => rfl

/-- Lists of nodes that compare as the same are equal. -/
theorem eq_of_sameItems {xs ys : List Node} (h : sameItems xs ys = true) : xs = ys := by
  cases xs <;> cases ys <;> simp only [sameItems, Bool.false_eq_true, Bool.and_eq_true] at h
  case nil.nil => rfl
  case cons.cons => rw [eq_of_same h.1, eq_of_sameItems h.2]

theorem eq_of_sameEntries {xs ys : List (Node × Node)} (h : sameEntries xs ys = true) :
    xs = ys := by
  cases xs <;> cases ys <;> simp only [sameEntries, Bool.false_eq_true, Bool.and_eq_true] at h
  case nil.nil => rfl
  case cons.cons x xs y ys =>
    obtain ⟨⟨key, value⟩, rest⟩ := h
    rw [eq_of_sameEntries rest, Prod.ext (eq_of_same key) (eq_of_same value)]
end

end Yaml.Node

namespace Layer

open Settings (Field Section)
open Yaml (Node)

variable {origin : Option String}

/-- A node that gives a value stands for the setting of this value. -/
theorem ofNode_of_value? {n : Node} {v : Scalar} (h : n.value? = some v) :
    ofNode origin n = .ok (.scalar v origin) := by
  cases n with
  | real digits =>
    obtain ⟨x, read, rfl⟩ := Option.map_eq_some_iff.1 h
    simp [ofNode, read]
  | bool _ | int _ | text _ =>
    cases h
    rfl
  | _ => cases h

/-- The entries that pairs stand for, one after the other, as far as they stand for any. -/
def pairEntries (origin : Option String) (pairs : List (Node × Node)) : List (String × Setting) :=
  pairs.filterMap fun p =>
    match p.1, ofNode origin p.2 with
    | .text name, .ok s => some (name, s)
    | _, _ => none

theorem pairEntries_cons {name : String} {n : Node} {s : Setting} (h : ofNode origin n = .ok s)
    (pairs : List (Node × Node)) :
    pairEntries origin ((.text name, n) :: pairs) = (name, s) :: pairEntries origin pairs := by
  simp [pairEntries, h]

/-- Every key is a name, and every value stands for a setting. -/
def Readable (origin : Option String) (pairs : List (Node × Node)) : Prop :=
  ∀ p ∈ pairs, ∃ name s, p.1 = .text name ∧ ofNode origin p.2 = .ok s

/-- Readable pairs set their entries one after the other and fail nowhere. -/
theorem Readable.ofPairs_eq {pairs : List (Node × Node)} (h : Readable origin pairs)
    (es : List (String × Setting)) :
    ofPairs origin es pairs = .ok (Setting.setEntries (pairEntries origin pairs) es) := by
  induction pairs generalizing es with
  | nil => rfl
  | cons p pairs ih =>
    obtain ⟨k, n⟩ := p
    obtain ⟨name, s, rfl, read⟩ := h (k, n) List.mem_cons_self
    rw [ofPairs, nameOf, ok_bind, read, ok_bind, ih fun p hp => h p (.tail _ hp),
      pairEntries_cons read]
    rfl

/-- A name in readable pairs has the setting of the first node under it. -/
theorem Readable.lookup_pairEntries {pairs : List (Node × Node)} (h : Readable origin pairs)
    (name : String) :
    (pairEntries origin pairs).lookup name =
      ((pairs.find? fun p => p.1.isName name).map (·.2)).bind
        fun n => (ofNode origin n).toOption := by
  induction pairs with
  | nil => rfl
  | cons p pairs ih =>
    obtain ⟨k, n⟩ := p
    obtain ⟨name', s, rfl, read⟩ := h (k, n) List.mem_cons_self
    rw [pairEntries_cons read, List.lookup_cons, List.find?_cons, Node.isName]
    by_cases same : name = name'
    · subst same
      simp [read, Except.toOption]
    · rw [beq_eq_false_iff_ne.2 same, decide_eq_false (Ne.symm same),
        ih fun p hp => h p (.tail _ hp)]

/-- What is known of the table that a mapping stands for. -/
theorem ofNode_mapping {accepts : String → Node → Bool} {n : Node}
    (h : n.isMapping accepts = true)
    (read : ∀ name m, accepts name m = true → ∃ s, ofNode origin m = .ok s) :
    ∃ es, ofNode origin n = .ok (.table es origin) ∧ Setting.Distinct es ∧
      (∀ e ∈ es, ∃ m, accepts e.1 m = true ∧ ofNode origin m = .ok e.2) ∧
      ∀ name, es.lookup name = (n.under? name).bind fun m => (ofNode origin m).toOption := by
  obtain ⟨pairs, rfl, each⟩ := Node.isMapping_iff.1 h
  have readable : Readable origin pairs := by
    intro p hp
    obtain ⟨name, key, accepted⟩ := each p hp
    obtain ⟨s, value⟩ := read name p.2 accepted
    exact ⟨name, s, key, value⟩
  have readable' : Readable origin pairs.reverse := fun p hp => readable p (List.mem_reverse.1 hp)
  have none_yet : Setting.Distinct [] := List.nodup_nil
  refine ⟨Setting.setEntries (pairEntries origin pairs) [], ?_,
    Setting.distinct_setEntries _ none_yet, fun e he => ?_, fun name => ?_⟩
  · rw [ofNode, readable.ofPairs_eq, ok_bind]
  · rcases Setting.mem_setEntries he with he | he
    · obtain ⟨p, hp, he⟩ := List.mem_filterMap.1 he
      obtain ⟨name, key, accepted⟩ := each p hp
      obtain ⟨s, value⟩ := read name p.2 accepted
      simp only [key, value, Option.some.injEq] at he
      subst he
      exact ⟨p.2, accepted, value⟩
    · cases he
  · have reversed : (pairEntries origin pairs).reverse = pairEntries origin pairs.reverse :=
      List.filterMap_reverse.symm
    rw [Setting.lookup_setEntries, reversed, readable'.lookup_pairEntries]
    exact Option.or_none

/-- A section of a document sets the fields that it gives a value for, wherever it is laid over. -/
theorem ofNode_section {home : Section} {n : Node} (h : n.isSection home = true) :
    ∃ es, ofNode origin n = .ok (.table es origin) ∧
      ∀ below name, ((Setting.table es origin).laidOver below).get? name =
        (((n.under? name).bind (·.value?)).map (.scalar · origin)).or
          (below.bind (·.get? name)) := by
  have value : ∀ name m, (home.fields.any (·.name = name) && m.value?.isSome) = true →
      ∃ v, m.value? = some v ∧ ofNode origin m = .ok (.scalar v origin) := by
    intro name m accepted
    obtain ⟨v, hv⟩ := Option.isSome_iff_exists.1 (Bool.and_eq_true_iff.1 accepted).2
    exact ⟨v, hv, ofNode_of_value? hv⟩
  obtain ⟨es, eq, distinct, each, entry⟩ := @ofNode_mapping origin _ n h fun name m accepted =>
    let ⟨_, _, read⟩ := value name m accepted
    ⟨_, read⟩
  have lower : ∀ e ∈ es, Text.lower e.1 = e.1 := by
    intro e he
    obtain ⟨m, accepted, -⟩ := each e he
    obtain ⟨f, -, name⟩ := List.any_eq_true.1 (Bool.and_eq_true_iff.1 accepted).1
    exact of_decide_eq_true name ▸ f.lower_name
  refine ⟨es, eq, fun below name => ?_⟩
  rw [Setting.laidOver, Setting.get?_allLaidOver distinct lower, entry]
  have under : (below.getD .emptyTable).get? name = below.bind (·.get? name) := by
    cases below <;> rfl
  rw [under]
  cases found : n.under? name with
  | none => rfl
  | some m =>
    obtain ⟨v, hv, read⟩ := value name m (Node.accepts_of_under? h found)
    simp only [Option.bind_some, read, hv, Except.toOption, Option.map_some, Setting.laidOver]

/-- Entries whose names are no paths are laid over a tree like those of a table. -/
theorem laidOver_eq {es : List (String × Setting)}
    (names : ∀ e ∈ es, Path.ofName e.1 = ⟨e.1, []⟩) (tree : Setting) :
    laidOver ⟨es⟩ tree = .ok (Setting.allLaidOver es tree) := by
  induction es generalizing tree with
  | nil => rfl
  | cons e es ih =>
    obtain ⟨name, s⟩ := e
    have first : (Path.ofName name).setAt s tree = .ok
        (tree.set (Text.lower name) (s.laidOver (tree.get? (Text.lower name)))) := by
      rw [names _ List.mem_cons_self]
      rfl
    have rest := ih (fun e he => names e (.tail _ he))
      (tree.set (Text.lower name) (s.laidOver (tree.get? (Text.lower name))))
    rw [laidOver, List.foldlM_cons, first, Setting.allLaidOver]
    exact rest

/-- A plain document is a layer that gives its values. -/
theorem ofNode_plain {root : Node} (plain : root.isPlain = true) :
    ∃ es, ofNode origin root = .ok (.table es origin) ∧ Gives ⟨es⟩ root.given? := by
  obtain ⟨es, eq, distinct, each, entry⟩ := @ofNode_mapping origin _ root plain fun _ _ accepted =>
    let ⟨_, _, fields⟩ := Node.exists_section accepted
    let ⟨_, read, _⟩ := ofNode_section fields
    ⟨_, read⟩
  have known : ∀ e ∈ es, ∃ home : Section, home.name = e.1 ∧ e.2.IsTable := by
    intro e he
    obtain ⟨n, accepted, read⟩ := each e he
    obtain ⟨home, name, fields⟩ := Node.exists_section accepted
    obtain ⟨es', read', -⟩ := @ofNode_section origin _ _ fields
    exact ⟨home, name, es', origin, Except.ok.inj (read.symm.trans read')⟩
  have lower : ∀ e ∈ es, Text.lower e.1 = e.1 := by
    intro e he
    obtain ⟨home, name, -⟩ := known e he
    exact name ▸ home.lower_name
  have names : ∀ e ∈ es, Path.ofName e.1 = ⟨e.1, []⟩ := by
    intro e he
    obtain ⟨home, name, -⟩ := known e he
    exact name ▸ home.ofName_name
  refine ⟨es, eq, fun tree below h => ⟨_, laidOver_eq names tree, ⟨?_, ?_⟩, fun f => ?_⟩⟩
  · exact Setting.isTable_allLaidOver es h.table
  · intro home t found
    rw [Setting.get?_allLaidOver distinct lower] at found
    cases here : es.lookup home.name with
    | none =>
      rw [here] at found
      exact h.sections home t found
    | some s =>
      rw [here] at found
      obtain ⟨before, after, rfl, -⟩ := List.lookup_eq_some_iff.1 here
      obtain ⟨-, -, table⟩ := known (home.name, s) (by simp)
      exact Option.some.inj found ▸ table.laidOver (h.sections home)
  · rw [Setting.at?, Setting.get?_allLaidOver distinct lower, entry, Node.given?]
    cases found : root.under? f.home.name with
    | none => exact h.value f
    | some n =>
      obtain ⟨home, name, fields⟩ := Node.exists_section (Node.accepts_of_under? plain found)
      obtain rfl := Section.name_injective name
      obtain ⟨es', read, overlay⟩ := @ofNode_section origin _ _ fields
      simp only [Option.bind_some, read, Except.toOption, Option.map_some, Option.some_or, overlay]
      cases (n.under? f.name).bind (·.value?) with
      | none => exact h.value f
      | some v => exact ⟨origin, rfl⟩

end Layer
end EventRelay
