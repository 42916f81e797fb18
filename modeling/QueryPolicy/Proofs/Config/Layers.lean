import Mathlib.Data.List.Forall2
import QueryPolicy.Config.Load
import QueryPolicy.Proofs.Config.Merge
import QueryPolicy.Proofs.Except
import QueryPolicy.Proofs.NameSet

/-!
# The layers of a configuration

Each of the four keys has one value: that of the environment, or else that of the file, or else
none. A configuration can be loaded exactly when the file is a document and these values have the
types of their entries, and then it holds what they denote. Nothing else in either source matters.
-/

namespace QueryPolicy.Config

/-! ## What values denote -/

/-- A string, or a single character as one. -/
inductive Value.IsText : Value → String → Prop
  | string (s : String) : IsText (.string s) s
  | character (c : Char) : IsText (.character c) c.toString

/-- An array of strings, as the set of these. -/
inductive Value.IsNames : Value → NameSet → Prop
  | array {items : List Value} {texts : List String} {names : NameSet}
      (hitems : List.Forall₂ IsText items texts) (hnames : ∀ x, x ∈ names ↔ x ∈ texts) :
      IsNames (.array items) names

/-- The entries hold what the values of their keys denote. An entry whose key has no value is
absent, or empty if it is a blacklist. -/
@[mk_iff]
structure Reads (value? : String → Option Value) (c : Config) : Prop where
  group : Option.Rel Value.IsNames (value? "aggregation_group") c.aggregationGroup
  labelValue : Option.Rel Value.IsText (value? "aggregation_label_value") c.aggregationLabelValue
  aggregators : ∃ names?, Option.Rel Value.IsNames (value? "blacklisted_aggregators") names? ∧
    c.blacklistedAggregators = names?.getD ∅
  functions : ∃ names?, Option.Rel Value.IsNames (value? "blacklisted_functions") names? ∧
    c.blacklistedFunctions = names?.getD ∅

/-- The values of all keys have the types of their entries. -/
structure WellTyped (value? : String → Option Value) : Prop where
  group : ∀ v, value? "aggregation_group" = some v → ∃ names, v.IsNames names
  labelValue : ∀ v, value? "aggregation_label_value" = some v → ∃ text, v.IsText text
  aggregators : ∀ v, value? "blacklisted_aggregators" = some v → ∃ names, v.IsNames names
  functions : ∀ v, value? "blacklisted_functions" = some v → ∃ names, v.IsNames names

theorem exists_rel_iff {α : Type} {Is : Value → α → Prop} {o : Option Value} :
    (∃ a?, Option.Rel Is o a?) ↔ ∀ v, o = some v → ∃ a, Is v a := by
  cases o with
  | none => exact iff_of_true ⟨none, .none⟩ fun v h => by cases h
  | some v =>
      constructor
      · rintro ⟨a?, h⟩ w ⟨⟩
        cases h with
        | some h => exact ⟨_, h⟩
      · intro h
        obtain ⟨a, ha⟩ := h v rfl
        exact ⟨some a, .some ha⟩

theorem exists_reads_iff {value? : String → Option Value} :
    (∃ c, Reads value? c) ↔ WellTyped value? := by
  constructor
  · rintro ⟨c, h⟩
    obtain ⟨aggregators, haggregators, -⟩ := h.aggregators
    obtain ⟨functions, hfunctions, -⟩ := h.functions
    exact ⟨exists_rel_iff.1 ⟨_, h.group⟩, exists_rel_iff.1 ⟨_, h.labelValue⟩,
      exists_rel_iff.1 ⟨_, haggregators⟩, exists_rel_iff.1 ⟨_, hfunctions⟩⟩
  · intro h
    obtain ⟨group, hgroup⟩ := exists_rel_iff.2 h.group
    obtain ⟨labelValue, hlabelValue⟩ := exists_rel_iff.2 h.labelValue
    obtain ⟨aggregators, haggregators⟩ := exists_rel_iff.2 h.aggregators
    obtain ⟨functions, hfunctions⟩ := exists_rel_iff.2 h.functions
    exact ⟨⟨group, labelValue, aggregators.getD ∅, functions.getD ∅⟩, hgroup, hlabelValue,
      ⟨aggregators, haggregators, rfl⟩, ⟨functions, hfunctions, rfl⟩⟩

/-! ## Reading a dictionary -/

theorem readString_eq_ok {path : List String} {v : Value} {s : String} :
    readString path v = .ok s ↔ v.IsText s := by
  constructor
  · intro h
    cases v with
    | string s => cases h; exact .string s
    | character c => cases h; exact .character c
    | _ => cases h
  · intro h
    cases h <;> rfl

theorem readItems_eq_ok {path : List String} {i : Nat} {items : List Value} {texts : List String} :
    readItems path i items = .ok texts ↔ List.Forall₂ Value.IsText items texts := by
  induction items generalizing i texts with
  | nil => cases texts <;> simp [readItems]
  | cons v items ih =>
      cases texts <;> simp [readItems, Except.bind_eq_ok, readString_eq_ok, ih]

theorem readSet_eq_ok {path : List String} {v : Value} {names : NameSet} :
    readSet path v = .ok names ↔ v.IsNames names := by
  constructor
  · intro h
    cases v with
    | array items =>
        rw [readSet, Except.map_eq_ok] at h
        obtain ⟨texts, hitems, rfl⟩ := h
        exact .array (readItems_eq_ok.1 hitems) fun x => NameSet.mem_ofList
    | _ => cases h
  · rintro ⟨hitems, hnames⟩
    rw [readSet, Except.map_eq_ok]
    refine ⟨_, readItems_eq_ok.2 hitems, NameSet.ext fun x => ?_⟩
    rw [NameSet.mem_ofList, hnames]

theorem readEntry_eq_ok {α : Type} {Is : Value → α → Prop}
    {read : List String → Value → Except LoadError α}
    (hread : ∀ path v a, read path v = .ok a ↔ Is v a) {d : Dict} {key : String} {a? : Option α} :
    readEntry d key read = .ok a? ↔ Option.Rel Is (d.lookup key) a? := by
  rw [readEntry]
  cases d.lookup key with
  | none => cases a? <;> simp
  | some v => cases a? <;> simp [Except.map_eq_ok, hread]

theorem ofDict_eq_ok {d : Dict} {c : Config} : ofDict d = .ok c ↔ Reads (d.lookup ·) c := by
  have hset : ∀ path v names, readSet path v = .ok names ↔ v.IsNames names :=
    fun _ _ _ => readSet_eq_ok
  have hstring : ∀ path v s, readString path v = .ok s ↔ v.IsText s := fun _ _ _ => readString_eq_ok
  simp only [ofDict, Except.bind_eq_ok, readEntry_eq_ok hset, readEntry_eq_ok hstring]
  constructor
  · rintro ⟨group, hgroup, labelValue, hlabelValue, aggregators, haggregators, functions,
      hfunctions, h⟩
    cases h
    exact ⟨hgroup, hlabelValue, ⟨aggregators, haggregators, rfl⟩, ⟨functions, hfunctions, rfl⟩⟩
  · rintro ⟨hgroup, hlabelValue, ⟨aggregators, haggregators, h⟩, ⟨functions, hfunctions, h'⟩⟩
    exact ⟨_, hgroup, _, hlabelValue, aggregators, haggregators, functions, hfunctions, by
      rw [← h, ← h']⟩

/-! ## Values of two sources -/

section

variable {α : Type} {Is : Value → α → Prop}

/-- Of two dictionaries neither is an entry, and any other value replaces the earlier one. -/
theorem is_merge (hdict : ∀ entries a, ¬ Is (.dict entries) a) {old new : Value} {a : α} :
    Is (old.merge new) a ↔ Is new a := by
  cases new with
  | dict entries =>
      refine iff_of_false ?_ (hdict entries a)
      cases old <;> exact hdict _ a
  | _ => exact Iff.rfl

theorem rel_overlay (hdict : ∀ entries a, ¬ Is (.dict entries) a) {old new : Option Value}
    {a? : Option α} : Option.Rel Is (overlay old new) a? ↔ Option.Rel Is (new.or old) a? := by
  cases new with
  | none => cases old <;> exact Iff.rfl
  | some v =>
      cases old with
      | none => exact Iff.rfl
      | some w => cases a? <;> simp [overlay, is_merge hdict]

theorem rel_unique {o : Option Value} {a? a?' : Option α} (h : Option.Rel Is o a?)
    (h' : Option.Rel Is o a?') (hunique : ∀ v a a', Is v a → Is v a' → a = a') : a? = a?' := by
  cases h with
  | none =>
      cases h'
      rfl
  | some h =>
      cases h' with
      | some h' => rw [hunique _ _ _ h h']

end

theorem Value.IsText.unique {v : Value} {s s' : String} (h : v.IsText s) (h' : v.IsText s') :
    s = s' := by
  cases h <;> cases h' <;> rfl

theorem Value.IsNames.unique {v : Value} {names names' : NameSet} (h : v.IsNames names)
    (h' : v.IsNames names') : names = names' := by
  have hread : readSet [] v = .ok names := readSet_eq_ok.2 h
  rw [readSet_eq_ok.2 h'] at hread
  cases hread
  rfl

/-! ## Sources -/

/-- Either the path names no file, or the file is a document. -/
def Files.HasDocument (files : Files) (path : String) : Prop :=
  ∀ text, files.find? path = some text → ∃ d, Toml.parse? text = some d

/-- The value of a top-level key in the document at a path. -/
def Files.value? (files : Files) (path key : String) : Option Value :=
  ((files.find? path).bind Toml.parse?).bind (·.lookup key)

/-- The value of a key in all sources: that of the environment, or else that of the file. -/
def World.value? (world : World) (path key : String) : Option Value :=
  (world.environment.value? key).or (world.files.value? path key)

theorem fileDict_eq_ok {files : Files} {path : String} (h : files.HasDocument path) :
    ∃ d, fileDict files path = .ok d ∧ ∀ key, d.lookup key = files.value? path key := by
  cases hfind : files.find? path with
  | none => exact ⟨[], by simp [fileDict, hfind], fun key => by simp [Files.value?, hfind]⟩
  | some text =>
      obtain ⟨d, hd⟩ := h text hfind
      exact ⟨d, by simp [fileDict, hfind, hd], fun key => by simp [Files.value?, hfind, hd]⟩

theorem fileDict_eq_error {files : Files} {path : String} (h : ¬ files.HasDocument path) :
    fileDict files path = .error .invalidFile := by
  rw [Files.HasDocument] at h
  push Not at h
  obtain ⟨text, hfind, hparse⟩ := h
  cases hd : Toml.parse? text with
  | none => simp [fileDict, hfind, hd]
  | some d => exact absurd hd (hparse d)

theorem loadFrom_eq_error {files : Files} {path : String} (h : ¬ files.HasDocument path)
    (env : Environment) : loadFrom ⟨files, env⟩ path = .error .invalidFile := by
  rw [loadFrom, fileDict_eq_error h]
  rfl

/-- The keys that entries are read from. -/
def entryKeys : List String :=
  ["aggregation_group", "aggregation_label_value", "blacklisted_aggregators",
    "blacklisted_functions"]

theorem reads_congr {value? value?' : String → Option Value} {c : Config}
    (hnames : ∀ key ∈ entryKeys, ∀ a?, Option.Rel Value.IsNames (value? key) a? ↔
      Option.Rel Value.IsNames (value?' key) a?)
    (htext : ∀ key ∈ entryKeys, ∀ a?, Option.Rel Value.IsText (value? key) a? ↔
      Option.Rel Value.IsText (value?' key) a?) : Reads value? c ↔ Reads value?' c := by
  have hkeys : "aggregation_group" ∈ entryKeys ∧ "aggregation_label_value" ∈ entryKeys ∧
      "blacklisted_aggregators" ∈ entryKeys ∧ "blacklisted_functions" ∈ entryKeys := by
    decide
  obtain ⟨hgroup, hlabelValue, haggregators, hfunctions⟩ := hkeys
  simp only [reads_iff, hnames _ hgroup, htext _ hlabelValue, hnames _ haggregators,
    hnames _ hfunctions]

theorem loadFrom_eq_ok_iff {world : World} {path : String} {c : Config} :
    loadFrom world path = .ok c ↔ world.files.HasDocument path ∧
      Reads (fun key => (world.environment.toDict.lookup key).or (world.files.value? path key))
        c := by
  by_cases h : world.files.HasDocument path
  · obtain ⟨d, hd, hlookup⟩ := fileDict_eq_ok h
    have hload : loadFrom world path = ofDict (d.merge world.environment.toDict) := by
      rw [loadFrom, hd]
      rfl
    rw [hload, ofDict_eq_ok, and_iff_right h]
    simp only [Dict.lookup_merge (Environment.distinct_toDict _), hlookup]
    refine reads_congr (fun key _ names? => rel_overlay ?_) (fun key _ text? => rel_overlay ?_)
    · rintro entries a ⟨⟩
    · rintro entries a ⟨⟩
  · rw [loadFrom_eq_error h world.environment]
    simp [h]

theorem loadFrom_eq_ok {world : World} {path : String} {c : Config}
    (hsep : world.environment.Separate) :
    loadFrom world path = .ok c ↔
      world.files.HasDocument path ∧ Reads (world.value? path) c := by
  rw [loadFrom_eq_ok_iff]
  simp only [Environment.lookup_toDict_eq_value? hsep]
  rfl

/-! ## Loading -/

/-- Two configurations that differ in no entry but that of a key. -/
structure AgreeExcept (key : String) (c c' : Config) : Prop where
  group : key ≠ "aggregation_group" → c.aggregationGroup = c'.aggregationGroup
  labelValue : key ≠ "aggregation_label_value" →
    c.aggregationLabelValue = c'.aggregationLabelValue
  aggregators : key ≠ "blacklisted_aggregators" →
    c.blacklistedAggregators = c'.blacklistedAggregators
  functions : key ≠ "blacklisted_functions" → c.blacklistedFunctions = c'.blacklistedFunctions

theorem Reads.agreeExcept {value? value?' : String → Option Value} {c c' : Config} {key : String}
    (h : Reads value? c) (h' : Reads value?' c') (hvalue : ∀ k, k ≠ key → value?' k = value? k) :
    AgreeExcept key c c' := by
  obtain ⟨aggregators, haggregators, hc⟩ := h.aggregators
  obtain ⟨aggregators', haggregators', hc'⟩ := h'.aggregators
  obtain ⟨functions, hfunctions, hd⟩ := h.functions
  obtain ⟨functions', hfunctions', hd'⟩ := h'.functions
  refine ⟨fun hkey => ?_, fun hkey => ?_, fun hkey => ?_, fun hkey => ?_⟩
  · have hgroup' := hvalue _ hkey.symm ▸ h'.group
    exact rel_unique h.group hgroup' fun _ _ _ => Value.IsNames.unique
  · have hlabelValue' := hvalue _ hkey.symm ▸ h'.labelValue
    exact rel_unique h.labelValue hlabelValue' fun _ _ _ => Value.IsText.unique
  · rw [hvalue _ hkey.symm] at haggregators'
    rw [hc, hc', rel_unique haggregators haggregators' fun _ _ _ => Value.IsNames.unique]
  · rw [hvalue _ hkey.symm] at hfunctions'
    rw [hd, hd', rel_unique hfunctions hfunctions' fun _ _ _ => Value.IsNames.unique]

theorem agreeExcept_of_set {world : World} {path name text key : String} {c c' : Config}
    (hname : Environment.keyPath? name = some [key]) (h : loadFrom world path = .ok c)
    (h' : loadFrom ⟨world.files, world.environment.set name text⟩ path = .ok c') :
    AgreeExcept key c c' := by
  have hreads := (loadFrom_eq_ok_iff.1 h).2
  have hreads' := (loadFrom_eq_ok_iff.1 h').2
  refine hreads.agreeExcept hreads' fun k hk => ?_
  simp only [Environment.lookup_toDict_set hname hk]

/-- When no two variables spell one key, or a key inside the other's, a configuration is loaded
exactly when the file, if there is one, is a document and the value of each key has the type of its
entry. The configuration then holds what these values denote, whatever other keys the sources set. A
file that is no document is an error in every environment. What a file says matters only for entries
that no variable sets, and to set the variable of one entry leaves the others alone. -/
theorem loadFrom_layers (world : World) (path : String) (hsep : world.environment.Separate) :
    ((∃ c, loadFrom world path = .ok c) ↔
      world.files.HasDocument path ∧ WellTyped (world.value? path)) ∧
    (∀ c, loadFrom world path = .ok c ↔
      world.files.HasDocument path ∧ Reads (world.value? path) c) ∧
    (¬ world.files.HasDocument path →
      ∀ env, loadFrom ⟨world.files, env⟩ path = .error .invalidFile) ∧
    (∀ files : Files, world.files.HasDocument path → files.HasDocument path →
      (∀ key ∈ entryKeys, world.environment.value? key = none →
        files.value? path key = world.files.value? path key) →
      ∀ c, loadFrom ⟨files, world.environment⟩ path = .ok c ↔ loadFrom world path = .ok c) ∧
    ∀ name text key, Environment.keyPath? name = some [key] → ∀ c c',
      loadFrom world path = .ok c →
      loadFrom ⟨world.files, world.environment.set name text⟩ path = .ok c' →
      AgreeExcept key c c' := by
  refine ⟨?_, fun c => loadFrom_eq_ok hsep, loadFrom_eq_error,
    fun files hworld hfiles hsame c => ?_, fun name text key hname c c' => agreeExcept_of_set hname⟩
  · simp only [loadFrom_eq_ok hsep, exists_and_left, exists_reads_iff]
  · have hvalue : ∀ key ∈ entryKeys,
        World.value? ⟨files, world.environment⟩ path key = world.value? path key := by
      intro key hkey
      rw [World.value?, World.value?]
      cases henv : world.environment.value? key with
      | none => rw [hsame key hkey henv]
      | some v => rfl
    have hload : loadFrom ⟨files, world.environment⟩ path = .ok c ↔ files.HasDocument path ∧
        Reads (World.value? ⟨files, world.environment⟩ path) c :=
      loadFrom_eq_ok hsep
    rw [hload, loadFrom_eq_ok hsep, and_iff_right hworld, and_iff_right hfiles]
    exact reads_congr (fun key hkey _ => by rw [hvalue key hkey])
      fun key hkey _ => by rw [hvalue key hkey]

/-- A file that cannot be loaded on its own, under a variable that replaces the value at fault. -/
theorem loadFrom_layers_masked_value :
    let files : Files := ⟨["srv"], [(["promval.toml"],
      "aggregation_label_value = \"gold\"\nblacklisted_functions = 42\n")]⟩
    let env : Environment :=
      [("PROMVAL__BLACKLISTED_FUNCTIONS", "[rate, abs, rate]"), ("PROMVAL__OTHER__KEY", "1")]
    let c : Config :=
      { aggregationLabelValue := some "gold", blacklistedFunctions := .ofList ["abs", "rate"] }
    env.Separate ∧ (∀ c, loadFrom ⟨files, []⟩ defaultFile ≠ .ok c) ∧
      loadFrom ⟨files, env⟩ defaultFile = .ok c ∧ files.HasDocument defaultFile ∧
      Reads (World.value? ⟨files, env⟩ defaultFile) c ∧
      ∀ text c', loadFrom ⟨files, env.set "PROMVAL__BLACKLISTED_FUNCTIONS" text⟩ defaultFile =
        .ok c' → AgreeExcept "blacklisted_functions" c c' := by
  intro files env c
  have hfunctions : Environment.keyPath? "PROMVAL__BLACKLISTED_FUNCTIONS" =
      some ["blacklisted_functions"] := by
    decide +kernel
  have hother : Environment.keyPath? "PROMVAL__OTHER__KEY" = some ["other", "key"] := by
    decide +kernel
  have hsep : env.Separate := by
    refine List.pairwise_pair.2 fun p q hp hq => ?_
    rw [hfunctions] at hp
    rw [hother] at hq
    cases hp
    cases hq
    decide
  have halone : (loadFrom ⟨files, []⟩ defaultFile).toOption = none := by decide +kernel
  have hload : loadFrom ⟨files, env⟩ defaultFile = .ok c :=
    Except.toOption_eq_some.1 (by decide +kernel)
  obtain ⟨-, hok, -, -, hset⟩ := loadFrom_layers ⟨files, env⟩ defaultFile hsep
  refine ⟨hsep, fun c hc => ?_, hload, ((hok c).1 hload).1, ((hok c).1 hload).2, fun text c' hc' =>
    hset _ text _ hfunctions c c' hload hc'⟩
  rw [Except.toOption_eq_some.2 hc] at halone
  cases halone

end QueryPolicy.Config
