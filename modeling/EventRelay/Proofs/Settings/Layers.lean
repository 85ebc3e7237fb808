import EventRelay.Launch
import EventRelay.Proofs.Settings.Fields
import Mathlib.Data.List.Nodup

/-!
# Layers that give values for fields

A tree shows which values are given for fields (`Setting.Shows`): each of them stands in the entry
of its field, and the entries of the other fields are missing. A layer that gives values of its own
(`Layer.Gives`) may be laid over every such tree, and what shows then is the values of the layer
and, for the other fields, the values from below. So the last value of a field shows when several
layers are laid over each other (`Layer.tree_shows`).

Two facts are behind this. Tables are joined entry by entry (`Setting.get?_allLaidOver`), and a path
leads to one field and past all others (`Setting.at?_setField`). From the second one it follows that
the variables of the environment are such a layer (`Layer.ofEnvironment_gives`).
-/

namespace EventRelay

/-! ## Entries -/

section
variable {α : Type} {es : List (String × α)} {name : String}

theorem lookup_eq_none (fresh : name ∉ es.map Prod.fst) : es.lookup name = none := by
  rw [List.lookup_eq_none_iff]
  intro e he
  simpa using fun same => fresh (List.mem_map.2 ⟨e, he, same.symm⟩)

/-- Where all names are different, the first entry of a name is the last one. -/
theorem lookup_reverse (distinct : (es.map Prod.fst).Nodup) :
    es.reverse.lookup name = es.lookup name := by
  induction es with
  | nil => rfl
  | cons e es ih =>
    obtain ⟨n, v⟩ := e
    have ⟨fresh, rest⟩ := List.nodup_cons.1 distinct
    rw [List.reverse_cons, List.lookup_append, ih rest]
    by_cases same : name = n
    · subst same
      simp [lookup_eq_none fresh]
    · simp [List.lookup_cons, beq_eq_false_iff_ne.2 same]

end

namespace Setting

/-! ## Tables over each other -/

/-- Entries of which no two have the same name. -/
def Distinct (es : List (String × Setting)) : Prop := (es.map Prod.fst).Nodup

theorem mem_setEntry {name : String} {value : Setting} {es : List (String × Setting)}
    {e : String × Setting} (h : e ∈ setEntry name value es) : e = (name, value) ∨ e ∈ es := by
  induction es with
  | nil => exact .inl (List.mem_singleton.1 h)
  | cons first es ih =>
    obtain ⟨n, v⟩ := first
    rw [setEntry] at h
    split at h
    · rcases List.mem_cons.1 h with rfl | h
      · exact .inl (by simp [*])
      · exact .inr (List.mem_cons_of_mem _ h)
    · rcases List.mem_cons.1 h with rfl | h
      · exact .inr List.mem_cons_self
      · exact (ih h).imp_right (List.mem_cons_of_mem _)

/-- Setting an entry never makes a name come twice. -/
theorem distinct_setEntry {es : List (String × Setting)} (h : Distinct es) (name : String)
    (value : Setting) : Distinct (setEntry name value es) := by
  induction es with
  | nil => exact List.nodup_singleton name
  | cons first es ih =>
    obtain ⟨n, v⟩ := first
    have ⟨fresh, rest⟩ := List.nodup_cons.1 h
    rw [setEntry]
    split
    · exact h
    · rename_i ne
      refine List.nodup_cons.2 ⟨fun mem => ?_, ih rest⟩
      obtain ⟨e, he, same⟩ := List.mem_map.1 mem
      rcases mem_setEntry he with rfl | he
      · exact ne same.symm
      · exact fresh (List.mem_map.2 ⟨e, he, same⟩)

def setEntries (new es : List (String × Setting)) : List (String × Setting) :=
  new.foldl (fun es e => setEntry e.1 e.2 es) es

theorem mem_setEntries {new es : List (String × Setting)} {e : String × Setting}
    (h : e ∈ setEntries new es) : e ∈ new ∨ e ∈ es := by
  induction new generalizing es with
  | nil => exact .inr h
  | cons first new ih =>
    rcases ih h with h | h
    · exact .inl (.tail _ h)
    · rcases mem_setEntry h with rfl | h
      · exact .inl List.mem_cons_self
      · exact .inr h

/-- Setting entries one after the other never makes a name come twice. -/
theorem distinct_setEntries (new : List (String × Setting)) {es : List (String × Setting)}
    (h : Distinct es) : Distinct (setEntries new es) := by
  induction new generalizing es with
  | nil => exact h
  | cons first new ih => exact ih (distinct_setEntry h ..)

/-- The last entry of a name counts. -/
theorem lookup_setEntries (new es : List (String × Setting)) (name : String) :
    (setEntries new es).lookup name = (new.reverse.lookup name).or (es.lookup name) := by
  induction new generalizing es with
  | nil => rfl
  | cons first new ih =>
    obtain ⟨n, v⟩ := first
    have step : (setEntry n v es).lookup name =
        ([(n, v)].lookup name).or (es.lookup name) := by
      by_cases same : name = n
      · subst same
        simp [lookup_setEntry_self]
      · simp [lookup_setEntry_of_ne v es same, List.lookup_cons, beq_eq_false_iff_ne.2 same]
    calc (setEntries new (setEntry n v es)).lookup name
      _ = (new.reverse.lookup name).or ((setEntry n v es).lookup name) := ih _
      _ = ((new.reverse ++ [(n, v)]).lookup name).or (es.lookup name) := by
        rw [step, List.lookup_append, Option.or_assoc]
      _ = _ := by rw [List.reverse_cons]

/-- Whatever an entry is set in is a table afterwards. -/
theorem isTable_set (s : Setting) (name : String) (value : Setting) :
    (s.set name value).IsTable := by
  cases s <;> exact ⟨_, _, rfl⟩

theorem isTable_allLaidOver (es : List (String × Setting)) {below : Setting}
    (table : below.IsTable) : (allLaidOver es below).IsTable := by
  induction es generalizing below with
  | nil => exact table
  | cons e es ih => exact ih (isTable_set ..)

/-- A table that is laid over tables is a table. -/
theorem IsTable.laidOver {s : Setting} (h : s.IsTable) {below : Option Setting}
    (tables : ∀ t, below = some t → t.IsTable) : (s.laidOver below).IsTable := by
  obtain ⟨es, origin, rfl⟩ := h
  refine isTable_allLaidOver es ?_
  cases below with
  | none => exact ⟨[], none, rfl⟩
  | some t => exact tables t rfl

/-- **Tables are joined.** When entries are laid over a table, each one is laid over the entry of
its name, and the other entries of the table stay as they are. -/
theorem get?_allLaidOver {es : List (String × Setting)} (distinct : Distinct es)
    (lower : ∀ e ∈ es, Text.lower e.1 = e.1) (below : Setting) (name : String) :
    (allLaidOver es below).get? name =
      ((es.lookup name).map (laidOver · (below.get? name))).or (below.get? name) := by
  induction es generalizing below with
  | nil => rfl
  | cons e es ih =>
    obtain ⟨n, v⟩ := e
    have ⟨fresh, rest⟩ := List.nodup_cons.1 distinct
    rw [allLaidOver, lower _ List.mem_cons_self, ih rest fun e he => lower e (.tail _ he)]
    by_cases same : name = n
    · subst same
      simp [lookup_eq_none fresh]
    · rw [get?_set_of_ne _ _ same, List.lookup_cons, beq_eq_false_iff_ne.2 same]

end Setting

/-! ## Names -/

namespace Settings

/-- The name of a section in lower case is itself. -/
theorem Section.lower_name (section_ : Section) : Text.lower section_.name = section_.name := by
  cases section_ <;> decide +kernel

theorem Section.ofName_name (section_ : Section) :
    Path.ofName section_.name = ⟨section_.name, []⟩ := by
  cases section_ <;> decide +kernel

theorem Section.name_injective {a b : Section} (h : a.name = b.name) : a = b := by
  cases a <;> cases b <;> first | rfl | exact absurd h (by decide)

namespace Field

theorem lower_name (f : Field) : Text.lower f.name = f.name := by
  cases f <;> decide +kernel

/-- A field is known by its section and its name in it. -/
theorem ext_names {f g : Field} (home : f.home = g.home) (name : f.name = g.name) : f = g := by
  revert home name
  cases f <;> cases g <;> decide

def path (f : Field) : String := f.home.name ++ "." ++ f.name

/-- The path of a field leads to its section and there to the field. -/
theorem ofName_path (f : Field) : Path.ofName f.path = ⟨f.home.name, [.entry f.name]⟩ := by
  cases f <;> decide +kernel

/-- Different fields have different paths. -/
theorem path_injective {f g : Field} (h : f.path = g.path) : f = g := by
  have same : (⟨f.home.name, [.entry f.name]⟩ : Path) = ⟨g.home.name, [.entry g.name]⟩ := by
    rw [← ofName_path, ← ofName_path, h]
  obtain ⟨home, name⟩ := Path.mk.inj same
  exact ext_names (Section.name_injective home) (Step.entry.inj (List.cons.inj name).1)

/-- **The variable of a field sets this field.** -/
theorem variableName?_variableName (f : Field) :
    Layer.variableName? f.variableName = some f.path := by
  cases f <;> decide +kernel

/-- Different fields have different variables. -/
theorem variableName_injective {f g : Field} (h : f.variableName = g.variableName) : f = g := by
  have path : some f.path = some g.path := by
    rw [← variableName?_variableName, ← variableName?_variableName, h]
  exact path_injective (Option.some.inj path)

end Field

/-- The variable that names a file sets no field. -/
theorem variableName?_fileVariable : Layer.variableName? fileVariable = none := by
  decide +kernel

/-- The variable with the filter of the journal sets no field. -/
theorem variableName?_filterVariable : Layer.variableName? Launch.filterVariable = none := by
  decide +kernel

end Settings

/-! ## What a tree shows -/

namespace Setting

def setField (tree : Setting) (f : Settings.Field) (s : Setting) : Setting :=
  tree.set f.home.name (((tree.get? f.home.name).getD .emptyTable).set f.name s)

/-- Setting a field changes this field and no other. -/
theorem at?_setField (tree : Setting) (f g : Settings.Field) (s : Setting) :
    (tree.setField f s).at? g = if g = f then some s else tree.at? g := by
  by_cases home : g.home = f.home
  · have fields : (tree.setField f s).at? g =
        (((tree.get? f.home.name).getD .emptyTable).set f.name s).get? g.name := by
      rw [at?, setField, home, get?_set_self, Option.bind_some]
    by_cases same : g.name = f.name
    · rw [fields, same, get?_set_self, if_pos (Settings.Field.ext_names home same)]
    · rw [fields, get?_set_of_ne _ _ same, if_neg fun h => same (congrArg _ h), at?, home]
      cases tree.get? f.home.name <;> rfl
  · have apart : g.home.name ≠ f.home.name := fun h => home (Settings.Section.name_injective h)
    rw [at?, setField, get?_set_of_ne _ _ apart, if_neg fun h => home (congrArg _ h)]
    rfl

/-- Setting something at the path of a field sets the field. -/
theorem setAt_path (f : Settings.Field) (v : Scalar) (origin : Option String) (tree : Setting) :
    (Path.ofName f.path).setAt (.scalar v origin) tree =
      .ok (tree.setField f (.scalar v origin)) := by
  rw [Settings.Field.ofName_path]
  simp only [Path.setAt, Path.placeAt, Settings.Section.lower_name, Settings.Field.lower_name,
    ok_bind, laidOver, Option.getD_some, setField]

theorem Sectioned.set {tree t : Setting} (h : tree.Sectioned) (section_ : Settings.Section)
    (table : t.IsTable) : (tree.set section_.name t).Sectioned where
  table := isTable_set ..
  sections other t' found := by
    by_cases same : other.name = section_.name
    · rw [same, get?_set_self] at found
      exact Option.some.inj found ▸ table
    · rw [get?_set_of_ne _ _ same] at found
      exact h.sections other t' found

/-- A tree of sections stays one when a field is set. -/
theorem Sectioned.setField {tree : Setting} (h : tree.Sectioned) (f : Settings.Field)
    (s : Setting) : (tree.setField f s).Sectioned :=
  h.set f.home (isTable_set ..)

/-- A tree holds the values that are given for fields, and nothing for the other fields. -/
structure Shows (tree : Setting) (given : Settings.Field → Option Scalar) : Prop
    extends tree.Sectioned where
  value : ∀ f, ∃ origin, tree.at? f = (given f).map (.scalar · origin)

theorem shows_emptyTable : emptyTable.Shows fun _ => none where
  table := ⟨[], none, rfl⟩
  sections := nofun
  value _ := ⟨none, rfl⟩

end Setting

/-- A layer gives values for fields: it can be laid over every tree, and these are the fields that
it changes. -/
def Layer.Gives (layer : Layer) (given : Settings.Field → Option Scalar) : Prop :=
  ∀ tree below, tree.Shows below →
    ∃ tree', layer.laidOver tree = .ok tree' ∧ tree'.Shows fun f => (given f).or (below f)

theorem Layer.empty_gives : empty.Gives fun _ => none :=
  fun tree _ h => ⟨tree, rfl, h⟩

/-- Layers that give values make up a tree, in which the last value of a field stands. -/
theorem Layer.tree_shows {layers : List (Layer × (Settings.Field → Option Scalar))}
    (gives : ∀ l ∈ layers, l.1.Gives l.2) :
    ∃ tree, Layer.tree (layers.map fun l => .ok l.1) = .ok tree ∧
      tree.Shows fun f => layers.foldl (fun below l => (l.2 f).or below) none := by
  suffices laid_over : ∀ tree below, tree.Shows below →
      ∃ tree', (layers.map fun l => Except.ok l.1).foldlM
          (fun tree layer => layer.bind (·.laidOver tree)) tree = .ok tree' ∧
        tree'.Shows fun f => layers.foldl (fun below l => (l.2 f).or below) (below f) from
    laid_over _ _ Setting.shows_emptyTable
  induction layers with
  | nil => exact fun tree below h => ⟨tree, rfl, h⟩
  | cons l layers ih =>
    intro tree below h
    obtain ⟨first, laid, shows⟩ := gives l List.mem_cons_self tree below h
    obtain ⟨last, rest, shows⟩ := ih (fun l h => gives l (.tail _ h)) first _ shows
    refine ⟨last, ?_, shows⟩
    rw [List.map_cons, List.foldlM_cons]
    change l.1.laidOver tree >>= _ = _
    rw [laid]
    exact rest

/-! ## The environment -/

namespace Layer

open Settings (Field Section)

variable {environment : List (String × String)}

/-- The value that variables give for a field. -/
def givenByVariables (environment : List (String × String)) (f : Field) : Option Scalar :=
  (environment.lookup f.variableName).map variableValue

/-- Every variable that sets something is the variable of a field. -/
def KnownVariables (environment : List (String × String)) : Prop :=
  ∀ v ∈ environment, (variableName? v.1).isSome → ∃ f : Field, v.1 = f.variableName

def variableEntries (environment : List (String × String)) : List (String × Setting) :=
  environment.filterMap fun v =>
    (variableName? v.1).map fun name =>
      (name, .scalar (variableValue v.2) (some environmentOrigin))

theorem variableEntries_cons (name text : String) (environment : List (String × String)) :
    variableEntries ((name, text) :: environment) =
      ((variableName? name).map fun path =>
        (path, Setting.scalar (variableValue text) (some environmentOrigin))).toList ++
      variableEntries environment := by
  rw [variableEntries, List.filterMap_cons]
  cases variableName? name <;> rfl

/-- The layer of an environment sets what its variables stand for, in their order. -/
theorem ofEnvironment_eq (environment : List (String × String)) :
    ofEnvironment environment = ⟨Setting.setEntries (variableEntries environment) []⟩ := by
  unfold ofEnvironment
  refine congrArg Layer.mk ?_
  generalize ([] : List (String × Setting)) = es
  induction environment generalizing es with
  | nil => rfl
  | cons v environment ih =>
    obtain ⟨name, text⟩ := v
    rw [List.foldl_cons, ih, variableEntries_cons]
    dsimp only
    cases variableName? name <;> rfl

theorem KnownVariables.tail {v : String × String} (h : KnownVariables (v :: environment)) :
    KnownVariables environment :=
  fun v hv => h v (.tail _ hv)

/-- Variables that are known set values of fields. -/
theorem KnownVariables.mem_variableEntries (h : KnownVariables environment)
    {e : String × Setting} (he : e ∈ variableEntries environment) :
    ∃ (f : Field) (v : Scalar) (origin : Option String), e = (f.path, .scalar v origin) := by
  obtain ⟨v, hv, he⟩ := List.mem_filterMap.1 he
  obtain ⟨name, hname, rfl⟩ := Option.map_eq_some_iff.1 he
  obtain ⟨f, hf⟩ := h v hv (hname ▸ rfl)
  rw [hf, Field.variableName?_variableName] at hname
  exact ⟨f, _, _, by rw [Option.some.inj hname]⟩

/-- What variables set at the path of a field is what they give for it. -/
theorem KnownVariables.lookup_variableEntries (h : KnownVariables environment) (f : Field) :
    (variableEntries environment).lookup f.path =
      (givenByVariables environment f).map (.scalar · (some environmentOrigin)) := by
  induction environment with
  | nil => rfl
  | cons v environment ih =>
    obtain ⟨name, text⟩ := v
    have rest := ih h.tail
    rw [variableEntries_cons, List.lookup_append, rest, givenByVariables, givenByVariables,
      List.lookup_cons]
    by_cases same : f.variableName = name
    · rw [← same, Field.variableName?_variableName]
      simp
    · -- A variable of another name sets nothing or another field.
      have other : ∀ path, variableName? name = some path → f.path ≠ path := by
        rintro path found rfl
        obtain ⟨g, hg⟩ := h (name, text) List.mem_cons_self (found ▸ rfl)
        rw [show name = g.variableName from hg, Field.variableName?_variableName] at found
        exact same (Field.path_injective (Option.some.inj found) ▸ hg.symm)
      rw [beq_eq_false_iff_ne.2 same]
      cases found : variableName? name with
      | none => rfl
      | some path => simp [List.lookup_cons, beq_eq_false_iff_ne.2 (other path found)]

/-- Entries for different fields are laid over a tree one after the other. -/
theorem laidOver_fields {es : List (String × Setting)} (distinct : Setting.Distinct es)
    (fields : ∀ e ∈ es, ∃ (f : Field) (v : Scalar) (origin : Option String),
      e = (f.path, .scalar v origin)) {tree : Setting} (h : tree.Sectioned) :
    ∃ tree', laidOver ⟨es⟩ tree = .ok tree' ∧ tree'.Sectioned ∧
      ∀ f : Field, tree'.at? f = (es.lookup f.path).or (tree.at? f) := by
  induction es generalizing tree with
  | nil => exact ⟨tree, rfl, h, fun _ => rfl⟩
  | cons e es ih =>
    obtain ⟨g, v, origin, rfl⟩ := fields e List.mem_cons_self
    have ⟨fresh, distinct⟩ := List.nodup_cons.1 distinct
    obtain ⟨tree', laid, sectioned, shows⟩ := ih distinct (fun e he => fields e (.tail _ he))
      (h.setField g (.scalar v origin))
    refine ⟨tree', ?_, sectioned, fun f => ?_⟩
    · rw [laidOver, List.foldlM_cons, Setting.setAt_path]
      exact laid
    · rw [shows, Setting.at?_setField, List.lookup_cons]
      by_cases same : f = g
      · subst same
        simp [lookup_eq_none fresh]
      · have apart : f.path ≠ g.path := fun h => same (Field.path_injective h)
        rw [beq_eq_false_iff_ne.2 apart, if_neg same]

/-- The entries of fields are a layer that gives the values in them. -/
theorem Gives.of_fields (origin : Option String) {es : List (String × Setting)}
    (distinct : Setting.Distinct es)
    (fields : ∀ e ∈ es, ∃ (f : Field) (v : Scalar) (origin : Option String),
      e = (f.path, .scalar v origin)) {given : Field → Option Scalar}
    (values : ∀ f : Field, es.lookup f.path = (given f).map (.scalar · origin)) :
    Gives ⟨es⟩ given := by
  intro tree below h
  obtain ⟨tree', laid, sectioned, shows⟩ := laidOver_fields distinct fields h.toSectioned
  refine ⟨tree', laid, sectioned, fun f => ?_⟩
  rw [shows, values]
  cases given f with
  | none => exact h.value f
  | some v => exact ⟨origin, rfl⟩

/-- The variables of fields are a layer that gives their values. -/
theorem ofEnvironment_gives (distinct : (environment.map Prod.fst).Nodup)
    (known : KnownVariables environment) :
    (ofEnvironment environment).Gives (givenByVariables environment) := by
  rw [ofEnvironment_eq]
  have none_yet : Setting.Distinct [] := List.nodup_nil
  refine .of_fields (some environmentOrigin) (Setting.distinct_setEntries _ none_yet)
    (fun e he => ?_) (fun f => ?_)
  · rcases Setting.mem_setEntries he with he | he
    · exact known.mem_variableEntries he
    · cases he
  · have reversed : (variableEntries environment).reverse = variableEntries environment.reverse :=
      List.filterMap_reverse.symm
    have known' : KnownVariables environment.reverse :=
      fun v hv => known v (List.mem_reverse.1 hv)
    rw [Setting.lookup_setEntries, reversed, known'.lookup_variableEntries, givenByVariables,
      lookup_reverse distinct]
    exact Option.or_none

end Layer
end EventRelay
