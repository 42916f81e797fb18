import QueryPolicy.Config.Load
import QueryPolicy.Proofs.Except

/-!
# The configuration that a process keeps

A process asks for its configuration again and again while files and variables change, and loads
configurations for other purposes in between. What it keeps is settled by the first of its requests
that could be met, and by nothing before or after it.
-/

namespace QueryPolicy.Config

/-- A request for the configuration that the process keeps, or for one that is loaded afresh. -/
inductive Request
  | kept
  | load
  | loadFrom (path : String)
  deriving DecidableEq

/-- A request in the state of files and environment in which it is made. -/
abbrev Occasion := World × Request

namespace Kept

/-! ## One request -/

/-- The answer to a request, and what the process keeps after it. -/
def respond (kept : Kept) : Occasion → Except LoadError Config × Kept
  | (world, .kept) => kept.get world
  | (world, .load) => (load world, kept)
  | (world, .loadFrom path) => (loadFrom world path, kept)

/-- What a call by itself offers to keep. -/
def offer? : Occasion → Option Config
  | (world, .kept) => (load world).toOption
  | (_, .load) => none
  | (_, .loadFrom _) => none

theorem get_of_some {kept : Kept} {c : Config} (h : kept.config = some c) (world : World) :
    kept.get world = (.ok c, kept) := by
  rw [get, h]

theorem get_of_none {kept : Kept} (h : kept.config = none) (world : World) :
    kept.get world = (load world, ⟨(load world).toOption⟩) := by
  obtain ⟨config⟩ := kept
  cases h
  rw [get]
  cases load world <;> rfl

/-- A call can fill an empty place, and it never changes what is there. -/
theorem config_respond (kept : Kept) (call : Occasion) :
    (kept.respond call).2.config = kept.config.or (offer? call) := by
  obtain ⟨world, request⟩ := call
  cases request with
  | kept =>
      rw [respond, offer?]
      cases h : kept.config with
      | none => rw [get_of_none h, Option.none_or]
      | some c => rw [get_of_some h, h, Option.some_or]
  | load => rw [respond, offer?, Option.or_none]
  | loadFrom path => rw [respond, offer?, Option.or_none]

/-! ## Series of requests -/

/-- The answers to a series of requests, each with what the process keeps after it. -/
def run : Kept → List Occasion → List (Except LoadError Config × Kept)
  | _, [] => []
  | kept, call :: calls => kept.respond call :: run (kept.respond call).2 calls

/-- What the process keeps after a series of requests. -/
def after (kept : Kept) (calls : List Occasion) : Kept :=
  calls.foldl (fun kept call => (kept.respond call).2) kept

/-- A process keeps what it has, or else the first configuration that a call offers. -/
theorem config_after (kept : Kept) (calls : List Occasion) :
    (kept.after calls).config = kept.config.or (calls.findSome? offer?) := by
  induction calls generalizing kept with
  | nil => rw [after, List.foldl_nil, List.findSome?_nil, Option.or_none]
  | cons call calls ih =>
      have hstep : kept.after (call :: calls) = (kept.respond call).2.after calls := rfl
      rw [hstep, ih, config_respond, Option.or_assoc, List.findSome?_cons]
      cases offer? call <;> rfl

theorem getElem?_run (kept : Kept) (calls : List Occasion) (i : Nat) :
    (kept.run calls)[i]? = calls[i]?.map (kept.after (calls.take i)).respond := by
  induction calls generalizing kept i with
  | nil => rw [run, List.getElem?_nil, List.getElem?_nil, Option.map_none]
  | cons call calls ih =>
      cases i with
      | zero => rfl
      | succ i => exact ih (kept.respond call).2 i

theorem length_run (kept : Kept) (calls : List Occasion) :
    (kept.run calls).length = calls.length := by
  induction calls generalizing kept with
  | nil => rfl
  | cons call calls ih => rw [run, List.length_cons, List.length_cons, ih]

/-! ## The first success -/

/-- The requests for the kept configuration before a place all fail to load one. -/
def NoneLoadsBefore (calls : List Occasion) (k : Nat) : Prop :=
  ∀ j < k, ∀ world, calls[j]? = some (world, .kept) → ∃ e, load world = .error e

/-- The first request for the kept configuration that finds one to load. -/
structure FirstSuccess (calls : List Occasion) (k : Nat) (world : World) (c : Config) : Prop where
  request : calls[k]? = some (world, .kept)
  loads : load world = .ok c
  earlier : NoneLoadsBefore calls k

theorem findSome?_take_eq_none {calls : List Occasion} {k : Nat} (h : NoneLoadsBefore calls k) :
    (calls.take k).findSome? offer? = none := by
  rw [List.findSome?_eq_none_iff]
  rintro ⟨world, request⟩ hmem
  cases request with
  | kept =>
      obtain ⟨j, hj⟩ := List.mem_iff_getElem?.1 hmem
      rw [List.getElem?_take] at hj
      split at hj
      · rename_i hlt
        obtain ⟨e, he⟩ := h j hlt world hj
        rw [offer?, he]
        rfl
      · cases hj
  | load => rfl
  | loadFrom path => rfl

theorem config_after_take_eq_none {calls : List Occasion} {k : Nat} (h : NoneLoadsBefore calls k) :
    (Kept.after {} (calls.take k)).config = none := by
  rw [config_after, findSome?_take_eq_none h]
  rfl

theorem config_after_take_eq_some {calls : List Occasion} {k i : Nat} {world : World} {c : Config}
    (h : FirstSuccess calls k world c) (hki : k < i) :
    (Kept.after {} (calls.take i)).config = some c := by
  -- The calls are those before `k`, which offer nothing, then call `k` itself, then any others.
  obtain ⟨n, rfl⟩ := Nat.exists_eq_add_of_lt hki
  have hdrop : calls.drop k = (world, .kept) :: calls.drop (k + 1) := by
    rw [List.drop_eq_getElem?_toList_append, h.request]
    rfl
  rw [config_after, Nat.add_assoc, List.take_add, List.findSome?_append,
    findSome?_take_eq_none h.earlier, hdrop, List.take_succ_cons, List.findSome?_cons, offer?,
    h.loads]
  rfl

/-! ## Requests among loads -/

/-- The states in which the kept configuration is asked for. -/
def keptWorlds (calls : List Occasion) : List World :=
  (calls.filter (·.2 = .kept)).map (·.1)

/-- The answers of a run that were given to requests for the kept configuration. -/
def keptAnswers (calls : List Occasion) (responses : List (Except LoadError Config × Kept)) :
    List (Except LoadError Config) :=
  ((calls.zip responses).filter (·.1.2 = .kept)).map (·.2.1)

/-- Loads between the requests for the kept configuration do not show in their answers. -/
theorem keptAnswers_run (kept : Kept) (calls : List Occasion) :
    keptAnswers calls (kept.run calls) = kept.getAll (keptWorlds calls) := by
  induction calls generalizing kept with
  | nil => rfl
  | cons call calls ih =>
      obtain ⟨world, request⟩ := call
      cases request with
      | kept => exact congrArg (List.cons (kept.get world).1) (ih (kept.get world).2)
      | load => exact ih kept
      | loadFrom path => exact ih kept

/-- Until the first request that finds a configuration, each request fails as loading does in its
own state and leaves nothing to keep. That request and all later ones get the configuration that was
loaded then, whatever files and environment have become. Loads in between answer for their own
state, keep nothing and change no answer to a request. -/
theorem run_settled_by_first_success (calls : List Occasion) :
    (run {} calls).length = calls.length ∧
    (∀ n, NoneLoadsBefore calls n → ∀ i < n, ∀ world, calls[i]? = some (world, .kept) →
      ∃ e, load world = .error e ∧ (run {} calls)[i]? = some (.error e, ⟨none⟩)) ∧
    (∀ k world c, FirstSuccess calls k world c → ∀ i, k ≤ i → ∀ world',
      calls[i]? = some (world', .kept) → (run {} calls)[i]? = some (.ok c, ⟨some c⟩)) ∧
    (∀ (i : Nat) world, calls[i]? = some (world, .load) →
      (run {} calls)[i]? = some (load world, after {} (calls.take i))) ∧
    (∀ (i : Nat) world path, calls[i]? = some (world, .loadFrom path) →
      (run {} calls)[i]? = some (loadFrom world path, after {} (calls.take i))) ∧
    keptAnswers calls (run {} calls) = getAll {} (keptWorlds calls) := by
  refine ⟨length_run {} calls, fun n hnone i hi world hcall => ?_,
    fun k world c hfirst i hki world' hcall => ?_, fun i world hcall => ?_,
    fun i world path hcall => ?_, keptAnswers_run {} calls⟩
  · obtain ⟨e, he⟩ := hnone i hi world hcall
    have hempty : (Kept.after {} (calls.take i)).config = none :=
      config_after_take_eq_none fun j hj => hnone j (Nat.lt_trans hj hi)
    refine ⟨e, he, ?_⟩
    rw [getElem?_run, hcall, Option.map_some, respond, get_of_none hempty, he]
    rfl
  · rw [getElem?_run, hcall, Option.map_some, respond]
    rcases Nat.eq_or_lt_of_le hki with rfl | hlt
    · cases hfirst.request.symm.trans hcall
      rw [get_of_none (config_after_take_eq_none hfirst.earlier), hfirst.loads]
      rfl
    · have hset := config_after_take_eq_some hfirst hlt
      rw [get_of_some hset, ← hset]
  · rw [getElem?_run, hcall, Option.map_some, respond]
  · rw [getElem?_run, hcall, Option.map_some, respond]

/-- A file that is no configuration, a load from another one, a good file, and then again the bad
one and a third: the process keeps what the good file said. -/
theorem run_settled_by_first_success_changing_files :
    let holding (text : String) : World := ⟨⟨["srv"], [(["srv", "promval.toml"], text),
      (["srv", "other.toml"], "aggregation_label_value = \"gold\"\n")]⟩, []⟩
    let bad := holding "blacklisted_functions = 42\n"
    let good := holding "blacklisted_functions = [\"rate\"]\n"
    let later := holding "blacklisted_functions = [\"abs\"]\n"
    let c : Config := { blacklistedFunctions := .ofList ["rate"] }
    let calls : List Occasion := [(bad, .kept), (bad, .loadFrom "other.toml"), (good, .kept),
      (later, .load), (bad, .kept), (later, .kept)]
    FirstSuccess calls 2 good c ∧ (∃ e, (run {} calls)[0]? = some (.error e, ⟨none⟩)) ∧
      (run {} calls)[2]? = some (.ok c, ⟨some c⟩) ∧ (run {} calls)[4]? = some (.ok c, ⟨some c⟩) ∧
      (run {} calls)[5]? = some (.ok c, ⟨some c⟩) ∧ load later ≠ .ok c := by
  intro holding bad good later c calls
  have hbad : (load bad).toOption = none := by decide +kernel
  have hgood : (load good).toOption = some c := by decide +kernel
  have hlater : (load later).toOption ≠ some c := by decide +kernel
  have hfails : ∃ e, load bad = .error e := by
    cases h : load bad with
    | error e => exact ⟨e, rfl⟩
    | ok c => rw [h] at hbad; cases hbad
  have hfirst : FirstSuccess calls 2 good c := by
    refine ⟨rfl, Except.toOption_eq_some.1 hgood, fun j hj world hcall => ?_⟩
    match j, hj with
    | 0, _ => cases hcall; exact hfails
    | 1, _ => cases hcall
  obtain ⟨-, hbefore, hafter, -⟩ := run_settled_by_first_success calls
  obtain ⟨e, -, hzero⟩ := hbefore 2 hfirst.earlier 0 (by decide) bad rfl
  exact ⟨hfirst, ⟨e, hzero⟩, hafter 2 good c hfirst 2 (by decide) good rfl,
    hafter 2 good c hfirst 4 (by decide) bad rfl, hafter 2 good c hfirst 5 (by decide) later rfl,
    fun h => hlater (Except.toOption_eq_some.2 h)⟩

end Kept

end QueryPolicy.Config
