import EventRelay.Proofs.Settings.Documents
import EventRelay.Settings.Folder

/-!
# The last layer that sets a field decides

Settings come from up to three files and from the environment. `Settings.load_takes_last_given` says
what becomes of them, whichever of the layers are present: every field has the value that the last
layer gives for it, or its default if no layer gives one, and what comes of it is accepted or
refused as a whole. The fields of a section come from different layers independently of each other.
-/

namespace EventRelay

/-! ## Files -/

def Yaml.onlyRoot? : Except Yaml.Fault (List Yaml.Node) → Option Yaml.Node
  | .ok [root] => some root
  | _ => none

/-- Whether the roots of a text are those of a layer: none, or a plain one. -/
def Yaml.arePlain : Except Yaml.Fault (List Yaml.Node) → Bool
  | .ok [] => true
  | .ok [root] => root.isPlain
  | _ => false

/-- The value that a file gives for a field. -/
def FoundFile.given? (file : FoundFile) (f : Settings.Field) : Option Scalar :=
  (Yaml.onlyRoot? (Yaml.documents file.text)).bind (·.given? f)

/-- Whether a file holds a plain document, or none at all. -/
def FoundFile.isPlain (file : FoundFile) : Bool := Yaml.arePlain (Yaml.documents file.text)

namespace Settings

variable {find : String → Option FoundFile} {path : Option String}
  {environment : List (String × String)}

/-- A plain file makes a layer that gives what the file gives. -/
theorem ofFile_gives {file : FoundFile} (h : file.isPlain = true) :
    ∃ layer, ofFile file = .ok layer ∧ layer.Gives file.given? := by
  unfold FoundFile.isPlain at h
  have given : file.given? =
      fun f => (Yaml.onlyRoot? (Yaml.documents file.text)).bind (·.given? f) := rfl
  rw [given, ofFile, Layer.ofDocument]
  cases documents : Yaml.documents file.text with
  | error fault =>
    rw [documents] at h
    cases h
  | ok roots =>
    rw [documents] at h
    match roots with
    | [] => exact ⟨.empty, rfl, Layer.empty_gives⟩
    | [root] =>
      obtain ⟨es, eq, gives⟩ := @Layer.ofNode_plain (some file.name) root h
      exact ⟨⟨es⟩, by simp only [eq], gives⟩
    | _ :: _ :: _ => cases h

/-- The value that a file gives for a field, if a file is named and found. -/
def givenByFile (find : String → Option FoundFile) (name : Option String) (f : Field) :
    Option Scalar :=
  (name.bind find).bind (·.given? f)

/-- A file that may be missing gives its values, or none if it is missing. -/
theorem optionalFile_gives {name : String}
    (plain : ∀ file, find name = some file → file.isPlain = true) :
    ∃ layer, optionalFile find name = .ok layer ∧ layer.Gives (givenByFile find (some name)) := by
  unfold optionalFile givenByFile
  rw [Option.bind_some]
  cases found : find name with
  | none => exact ⟨.empty, rfl, Layer.empty_gives⟩
  | some file => exact ofFile_gives (plain file found)

/-- A file that is required gives its values if it is there. -/
theorem requiredFile_gives {name : Option String}
    (present : ∀ n, name = some n → (find n).isSome)
    (plain : ∀ n file, name = some n → find n = some file → file.isPlain = true) :
    ∃ layer, requiredFile find name = .ok layer ∧ layer.Gives (givenByFile find name) := by
  cases name with
  | none => exact ⟨.empty, rfl, Layer.empty_gives⟩
  | some n =>
    obtain ⟨file, found⟩ := Option.isSome_iff_exists.1 (present n rfl)
    unfold requiredFile givenByFile
    simp only [found, Option.bind_some]
    exact ofFile_gives (plain n file rfl found)

/-! ## All layers together -/

/-- The value that is given for a field: that of the last layer that sets it. -/
def given (find : String → Option FoundFile) (path : Option String)
    (environment : List (String × String)) (f : Field) : Option Scalar :=
  (Layer.givenByVariables environment f).or <|
    (givenByFile find (environment.lookup fileVariable) f).or <|
      (givenByFile find path f).or <|
        givenByFile find (some usualFile) f

/-- Every field is what is given for it, or its default if nothing is given. -/
def Follows (s : Settings) (given : Field → Option Scalar) : Prop :=
  ∀ f : Field, f.resolve? (given f) = some (f.get s)

def checked (s : Settings) : Except LoadError Settings :=
  match s.validate with
  | .ok () => .ok s
  | .error e => .error (.invalid e)

/-- The files that are named are there, and the files that are there are plain. No two variables
have the same name, and all that could set something belong to fields. The values that count can be
converted. -/
structure Loadable (find : String → Option FoundFile) (path : Option String)
    (environment : List (String × String)) : Prop where
  present : ∀ name, path = some name ∨ environment.lookup fileVariable = some name →
    (find name).isSome
  plain : ∀ name file,
    name = usualFile ∨ path = some name ∨ environment.lookup fileVariable = some name →
      find name = some file → file.isPlain = true
  distinct : (environment.map Prod.fst).Nodup
  known : Layer.KnownVariables environment
  convertible : ∀ f : Field, (f.resolve? (given find path environment f)).isSome

/-- What can be loaded makes up a tree that shows the last value given for each field. -/
theorem Loadable.exists_tree (h : Loadable find path environment) :
    ∃ tree, Layer.tree (layers find path environment) = .ok tree ∧
      tree.Shows (given find path environment) := by
  obtain ⟨usual, eq₁, gives₁⟩ := optionalFile_gives fun file => h.plain usualFile file (.inl rfl)
  obtain ⟨second, eq₂, gives₂⟩ := requiredFile_gives (fun n hn => h.present n (.inl hn))
    fun n file hn => h.plain n file (.inr (.inl hn))
  obtain ⟨third, eq₃, gives₃⟩ := requiredFile_gives (fun n hn => h.present n (.inr hn))
    fun n file hn => h.plain n file (.inr (.inr hn))
  have gives₄ := Layer.ofEnvironment_gives h.distinct h.known
  let all : List (Layer × (Field → Option Scalar)) :=
    [(usual, givenByFile find (some usualFile)), (second, givenByFile find path),
      (third, givenByFile find (environment.lookup fileVariable)),
      (.ofEnvironment environment, Layer.givenByVariables environment)]
  have gives : ∀ l ∈ all, l.1.Gives l.2 := by
    simp only [all, List.forall_mem_cons]
    exact ⟨gives₁, gives₂, gives₃, gives₄, List.forall_mem_nil _⟩
  obtain ⟨tree, eq, shows⟩ := Layer.tree_shows gives
  refine ⟨tree, ?_, ?_⟩
  · rw [layers, eq₁, eq₂, eq₃]
    exact eq
  · convert shows using 2 with f
    simp [all, given]

/-- Loading ends with settings that follow what is given, if they are accepted. -/
theorem Loadable.exists_load_eq (h : Loadable find path environment) :
    ∃ s, load find path environment = checked s ∧ s.Follows (given find path environment) := by
  obtain ⟨tree, eq, shows⟩ := h.exists_tree
  let s := ofFields fun f => (f.resolve? (given find path environment f)).get (h.convertible f)
  have follows : s.Follows (given find path environment) := by
    intro f
    rw [get_ofFields, Option.some_get]
  have read : ofSetting tree = .ok s := by
    refine (ofSetting_eq_ok_iff shows.toSectioned).2 fun f => ?_
    obtain ⟨origin, there⟩ := shows.value f
    have follows := follows f
    rw [there]
    cases set : given find path environment f with
    | none =>
      rw [set] at follows
      exact (Option.some.inj follows).symm
    | some v =>
      rw [set] at follows
      exact Field.convert_of_read? follows origin
  refine ⟨s, ?_, follows⟩
  rw [load, ofLayers, eq, ok_bind, read, ok_bind]
  rfl

/-! ## One variable more -/

/-- No field is set by the variable that names a file. -/
theorem fileVariable_ne_variableName (f : Field) : fileVariable ≠ f.variableName := by
  intro same
  have sets := f.variableName?_variableName
  rw [← same, variableName?_fileVariable] at sets
  cases sets

/-- A variable sets its own field only. -/
theorem given_cons (f : Field) (text : String) (g : Field) :
    given find path ((f.variableName, text) :: environment) g =
      if g = f then some (Layer.variableValue text) else given find path environment g := by
  rw [given, given, Layer.givenByVariables, Layer.givenByVariables, List.lookup_cons,
    List.lookup_cons, beq_eq_false_iff_ne.2 (fileVariable_ne_variableName f)]
  by_cases same : g = f
  · simp [same]
  · rw [beq_eq_false_iff_ne.2 fun h => same (Field.variableName_injective h), if_neg same]

/-- A variable that was not set can be, with a text that its field understands. -/
theorem Loadable.cons (h : Loadable find path environment) {f : Field} {text : String}
    (unset : f.variableName ∉ environment.map Prod.fst)
    (converted : (f.read? (Layer.variableValue text)).isSome) :
    Loadable find path ((f.variableName, text) :: environment) := by
  have same : ((f.variableName, text) :: environment).lookup fileVariable =
      environment.lookup fileVariable := by
    rw [List.lookup_cons, beq_eq_false_iff_ne.2 (fileVariable_ne_variableName f)]
  constructor
  case present => exact fun name named => h.present name (same ▸ named)
  case plain => exact fun name file named => h.plain name file (same ▸ named)
  case distinct => exact List.nodup_cons.2 ⟨unset, h.distinct⟩
  case known =>
    intro v hv sets
    rcases List.mem_cons.1 hv with rfl | hv
    · exact ⟨f, rfl⟩
    · exact h.known v hv sets
  case convertible =>
    intro g
    rw [given_cons]
    split
    · rename_i here
      exact here ▸ converted
    · exact h.convertible g

/-- What is given for a field determines it. -/
theorem Follows.get_eq {s s' : Settings} {given given' : Field → Option Scalar}
    (h : s.Follows given) (h' : s'.Follows given') {f : Field} (same : given' f = given f) :
    f.get s' = f.get s := by
  have there := h' f
  rw [same, h f] at there
  exact (Option.some.inj there).symm

/-- What is given for the fields determines the settings. -/
theorem Follows.unique {s s' : Settings} {given : Field → Option Scalar} (h : s.Follows given)
    (h' : s'.Follows given) : s' = s :=
  ext_get fun _ => h.get_eq h' rfl

/-- Variables that set nothing may be left out. -/
theorem ofEnvironment_filter {keeps : String × String → Bool}
    (idle : ∀ v, keeps v = false → Layer.variableName? v.1 = none)
    (environment : List (String × String)) :
    Layer.ofEnvironment (environment.filter keeps) = Layer.ofEnvironment environment := by
  suffices entries : Layer.variableEntries (environment.filter keeps) =
      Layer.variableEntries environment by
    rw [Layer.ofEnvironment_eq, Layer.ofEnvironment_eq, entries]
  induction environment with
  | nil => rfl
  | cons v environment ih =>
    obtain ⟨name, text⟩ := v
    rw [List.filter_cons, Layer.variableEntries_cons]
    cases kept : keeps (name, text) with
    | true => rw [if_pos rfl, Layer.variableEntries_cons, ih]
    | false => rw [if_neg nofun, ih, idle (name, text) kept]; rfl

/-- **The last layer that sets a field decides.** Loading gives the settings back, or the error with
which they are refused, in which every field is what the last of the four layers gives for it, or
its default if none does. If the environment sets one field more, that field is what the variable
gives, and all others are as before. The variables that name a file and the filter of the journal
set nothing. -/
theorem load_takes_last_given (h : Loadable find path environment) :
    (∃ s, load find path environment = checked s ∧ s.Follows (given find path environment) ∧
      ∀ (f : Field) (text : String), f.variableName ∉ environment.map Prod.fst →
        (f.read? (Layer.variableValue text)).isSome →
        ∃ s', load find path ((f.variableName, text) :: environment) = checked s' ∧
          f.read? (Layer.variableValue text) = some (f.get s') ∧
          ∀ g : Field, g ≠ f → g.get s' = g.get s) ∧
    Layer.ofEnvironment
        (environment.filter fun v => v.1 ≠ fileVariable && v.1 ≠ Launch.filterVariable) =
      Layer.ofEnvironment environment := by
  obtain ⟨s, loaded, follows⟩ := h.exists_load_eq
  refine ⟨⟨s, loaded, follows, fun f text unset converted => ?_⟩, ofEnvironment_filter ?_ _⟩
  · obtain ⟨s', loaded', follows'⟩ := (h.cons unset converted).exists_load_eq
    refine ⟨s', loaded', ?_, fun g other => ?_⟩
    · have here := follows' f
      rw [given_cons, if_pos rfl] at here
      exact here
    · exact follows.get_eq follows' (by rw [given_cons, if_neg other])
  · intro v dropped
    simp only [Bool.and_eq_false_iff, decide_eq_false_iff_not, ne_eq, not_not] at dropped
    rcases dropped with named | named
    · rw [named]
      exact variableName?_fileVariable
    · rw [named]
      exact variableName?_filterVariable

/-! ## A relay with all layers -/

def mixedUsual : Yaml.Node :=
  .mapping [(.text "dispatcher",
    .mapping [(.text "batch_size", .int 3), (.text "worker_id", .text "east")])]

def mixedBase : Yaml.Node :=
  .mapping [(.text "dispatcher",
    .mapping [(.text "batch_size", .int 4), (.text "tick_interval_secs", .int 20)])]

def mixedLocal : Yaml.Node :=
  .mapping [(.text "policy", .mapping [(.text "max_attempts", .int 4)]),
    (.text "dispatcher", .mapping [(.text "batch_size", .int 5)])]

def mixedFolder : Folder := ⟨[
  ("relay.yaml", "dispatcher:\n  batch_size: 3\n  worker_id: east\n"),
  ("base.yaml", "dispatcher:\n  batch_size: 4\n  tick_interval_secs: 20\n"),
  ("local.yaml", "policy:\n  max_attempts: 4\ndispatcher:\n  batch_size: 5\n")]⟩

def mixedEnvironment : List (String × String) :=
  [(fileVariable, "local"), (Launch.filterVariable, "debug"),
    ("OUTBOX_RELAY__DISPATCHER__RETENTION_DAYS", "30")]

def mixed : Settings where
  dispatcher := ⟨5, 20, 60, 300, 5000, 3600, 30, some "east"⟩
  policy := ⟨4, 5000, 300000⟩
  store := .default
  broker := .default

theorem find?_mixedFolder {name : String} {root : Yaml.Node}
    (h : ((mixedFolder.find? name).any fun file =>
      (Yaml.onlyRoot? (Yaml.documents file.text)).any (·.same root) && file.isPlain) = true) :
    ∃ file, mixedFolder.find? name = some file ∧ file.isPlain = true ∧
      file.given? = root.given? := by
  cases found : mixedFolder.find? name with
  | none =>
    rw [found] at h
    cases h
  | some file =>
    rw [found, Option.any_some, Bool.and_eq_true] at h
    obtain ⟨same, plain⟩ := h
    refine ⟨file, rfl, plain, funext fun f => ?_⟩
    rw [FoundFile.given?]
    cases read : Yaml.onlyRoot? (Yaml.documents file.text) with
    | none =>
      rw [read] at same
      cases same
    | some n =>
      rw [read, Option.any_some] at same
      rw [Option.bind_some, Yaml.Node.eq_of_same same]

/-- The folder and the environment give the mixed settings together: the variable beats the named
file, this beats the one that the relay is started with, and that beats the usual one. -/
theorem load_takes_last_given_mixed :
    Loadable mixedFolder.find? (some "base") mixedEnvironment ∧
    load mixedFolder.find? (some "base") mixedEnvironment = .ok mixed := by
  obtain ⟨usual, found₁, plain₁, given₁⟩ :=
    @find?_mixedFolder usualFile mixedUsual (by decide +kernel)
  obtain ⟨base, found₂, plain₂, given₂⟩ :=
    @find?_mixedFolder "base" mixedBase (by decide +kernel)
  obtain ⟨loc, found₃, plain₃, given₃⟩ :=
    @find?_mixedFolder "local" mixedLocal (by decide +kernel)
  have last : ∀ f, given mixedFolder.find? (some "base") mixedEnvironment f =
      (Layer.givenByVariables mixedEnvironment f).or
        ((mixedLocal.given? f).or ((mixedBase.given? f).or (mixedUsual.given? f))) := by
    intro f
    have named : mixedEnvironment.lookup fileVariable = some "local" := rfl
    rw [given, named]
    simp only [givenByFile, Option.bind_some, found₁, found₂, found₃, given₁, given₂, given₃]
  have follows : mixed.Follows (given mixedFolder.find? (some "base") mixedEnvironment) := by
    intro f
    rw [last]
    cases f <;> decide +kernel
  have loadable : Loadable mixedFolder.find? (some "base") mixedEnvironment := by
    constructor
    case present =>
      rintro name (⟨⟨⟩⟩ | ⟨⟨⟩⟩)
      · rw [found₂]
        rfl
      · rw [found₃]
        rfl
    case plain =>
      rintro name file (rfl | ⟨⟨⟩⟩ | ⟨⟨⟩⟩) found
      · exact Option.some.inj (found₁.symm.trans found) ▸ plain₁
      · exact Option.some.inj (found₂.symm.trans found) ▸ plain₂
      · exact Option.some.inj (found₃.symm.trans found) ▸ plain₃
    case distinct => decide
    case known =>
      rintro v hv sets
      rcases List.mem_cons.1 hv with rfl | hv
      · rw [variableName?_fileVariable] at sets
        cases sets
      rcases List.mem_cons.1 hv with rfl | hv
      · rw [variableName?_filterVariable] at sets
        cases sets
      obtain rfl := List.mem_singleton.1 hv
      exact ⟨.retentionDays, by decide +kernel⟩
    case convertible =>
      intro f
      rw [follows f]
      rfl
  obtain ⟨⟨s, loaded, follows', -⟩, -⟩ := load_takes_last_given loadable
  refine ⟨loadable, ?_⟩
  rw [loaded, follows.unique follows']
  decide +kernel

end Settings
end EventRelay
