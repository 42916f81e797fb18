import Mathlib.Data.List.Nodup
import QueryPolicy.Config.Environment

/-!
# Merging sources

In a merged dictionary a key has the value of the later source over that of the earlier one, and
only dictionaries leave something of the earlier value. The variables of an environment are merged
one after the other; when none spells a key of another, or a key inside it, each has its say.
-/

namespace QueryPolicy.Config

/-! ## Dictionaries -/

/-- The value of a key that is set, or not, in an earlier source and in a later one. -/
def overlay : (old new : Option Value) → Option Value
  | old, none => old
  | none, some new => some new
  | some old, some new => some (old.merge new)

namespace Dict

/-- Each key occurs once. -/
def Distinct (d : Dict) : Prop := (d.map Prod.fst).Nodup

theorem lookup_cons {α : Type} (d : List (String × α)) (key k : String) (a : α) :
    ((key, a) :: d).lookup k = if k = key then some a else d.lookup k := by
  by_cases hk : k = key
  · simp [hk]
  · simp [List.lookup_cons, hk, beq_eq_false_iff_ne.2 hk]

theorem lookup_put {α : Type} (d : List (String × α)) (key k : String) (a : α) :
    (put d key a).lookup k = if k = key then some a else d.lookup k := by
  induction d with
  | nil => rw [put, lookup_cons]
  | cons entry d ih =>
      obtain ⟨k', b⟩ := entry
      by_cases hk' : k' = key
      · simp only [put, hk', if_true, lookup_cons]
        split <;> rfl
      · simp only [put, hk', if_false, lookup_cons, ih]
        by_cases hk : k = key
        · simp [hk, Ne.symm hk']
        · simp [hk]

theorem mem_keys_put {d : Dict} {key k : String} {v : Value} :
    k ∈ (put d key v).map Prod.fst ↔ k = key ∨ k ∈ d.map Prod.fst := by
  induction d with
  | nil => simp [put]
  | cons entry d ih =>
      obtain ⟨k', w⟩ := entry
      by_cases hk' : k' = key
      · simp [put, hk']
      · simp only [put, hk', if_false, List.map_cons, List.mem_cons, ih]
        exact or_left_comm

theorem Distinct.put {d : Dict} (h : d.Distinct) (key : String) (v : Value) :
    Distinct (Dict.put d key v) := by
  induction d with
  | nil => simp [Dict.put, Distinct]
  | cons entry d ih =>
      obtain ⟨k', w⟩ := entry
      obtain ⟨hnew, hd⟩ := List.nodup_cons.1 h
      by_cases hk' : k' = key
      · subst hk'
        simpa [Dict.put, Distinct] using h
      · simp only [Dict.put, hk', if_false]
        refine List.nodup_cons.2 ⟨fun hmem => ?_, ih hd⟩
        rcases mem_keys_put.1 hmem with hkey | hold
        · exact hk' hkey
        · exact hnew hold

theorem lookup_mergeEntry (d : Dict) (key k : String) (v : Value) :
    (Value.mergeEntry d (key, v)).lookup k =
      if k = key then overlay (d.lookup k) (some v) else d.lookup k := by
  rw [Value.mergeEntry]
  by_cases hk : k = key
  · subst hk
    cases hd : d.lookup k <;> simp [lookup_put, overlay]
  · cases d.lookup key <;> simp [lookup_put, hk]

theorem lookup_merge {d' : Dict} (h : d'.Distinct) (d : Dict) (key : String) :
    (d.merge d').lookup key = overlay (d.lookup key) (d'.lookup key) := by
  rw [merge]
  induction d' generalizing d with
  | nil => rw [Value.mergeEntries, List.lookup_nil, overlay]
  | cons entry d' ih =>
      obtain ⟨k, v⟩ := entry
      obtain ⟨hk, hd'⟩ := List.nodup_cons.1 h
      rw [Value.mergeEntries, ih hd', lookup_mergeEntry, lookup_cons]
      by_cases hkey : key = k
      · -- The key does not occur again, so nothing is merged over its value.
        have hnone : d'.lookup key = none := by
          rw [List.lookup_eq_none_iff]
          rintro entry hentry
          have hne : key ≠ entry.1 := fun heq =>
            hk (List.mem_map.2 ⟨entry, hentry, by rw [← heq, hkey]⟩)
          simpa using hne
        simp [hkey ▸ hnone, hkey, overlay]
      · simp [hkey]

theorem Distinct.merge {d : Dict} (h : d.Distinct) (d' : Dict) : (d.merge d').Distinct := by
  rw [Dict.merge]
  induction d' generalizing d with
  | nil => rwa [Value.mergeEntries]
  | cons entry d' ih =>
      obtain ⟨k, v⟩ := entry
      rw [Value.mergeEntries]
      refine ih ?_
      rw [Value.mergeEntry]
      split
      · exact h.put k _
      · exact h.put k _

end Dict

/-! ## Variables -/

namespace Environment

variable {env : Environment} {key : String}

/-- No two variables spell the same key, or a key and one inside it. -/
def Separate (env : Environment) : Prop :=
  env.Pairwise fun x y => ∀ p q, keyPath? x.1 = some p → keyPath? y.1 = some q →
    ¬ p <+: q ∧ ¬ q <+: p

/-- The table that one variable gives to a key, if it spells a key inside it. -/
def tableAt? (key : String) (x : String × String) : Option Dict :=
  match keyPath? x.1 with
  | some (k :: k' :: keys) =>
    if k = key then some [(k', Value.nest keys (Inline.ofText x.2))] else none
  | _ => none

/-- The value that the variables give to a key: that of the variable which spells it, or else the
table of those which spell keys inside it. -/
def value? (env : Environment) (key : String) : Option Value :=
  match env.find? (keyPath? ·.1 = some [key]) with
  | some x => some (Inline.ofText x.2)
  | none =>
    match env.filterMap (tableAt? key) with
    | [] => none
    | table :: tables => some (.dict (tables.foldl Dict.merge table))

/-- The value of a key after one more variable. -/
def said (key : String) (o : Option Value) (x : String × String) : Option Value :=
  overlay o ((dictOfVariable x).lookup key)

theorem distinct_dictOfVariable (x : String × String) : (dictOfVariable x).Distinct := by
  rw [dictOfVariable]
  split <;> simp [Dict.Distinct]

theorem distinct_toDict (env : Environment) : env.toDict.Distinct := by
  have hfold : ∀ d : Dict, d.Distinct →
      (env.foldl (fun d x => d.merge (dictOfVariable x)) d).Distinct := by
    induction env with
    | nil => exact fun _ h => h
    | cons x env ih => exact fun d h => ih _ (h.merge _)
  exact hfold [] List.nodup_nil

/-- What the variables say about a key, each over those before it. -/
theorem lookup_toDict (env : Environment) (key : String) :
    env.toDict.lookup key = env.foldl (said key) none := by
  have hfold : ∀ d : Dict, (env.foldl (fun d x => d.merge (dictOfVariable x)) d).lookup key =
      env.foldl (said key) (d.lookup key) := by
    induction env with
    | nil => exact fun _ => rfl
    | cons x env ih =>
        intro d
        rw [List.foldl_cons, ih, List.foldl_cons, said,
          Dict.lookup_merge (distinct_dictOfVariable x)]
  exact hfold []

theorem lookup_dictOfVariable_eq_none {x : String × String}
    (h : ∀ path, keyPath? x.1 = some path → path.head? ≠ some key) :
    (dictOfVariable x).lookup key = none := by
  rw [dictOfVariable]
  split
  · rename_i k keys hpath
    have hk : key ≠ k := fun heq => h _ hpath (by rw [heq, List.head?_cons])
    rw [Dict.lookup_cons, if_neg hk, List.lookup_nil]
  · rfl

theorem lookup_dictOfVariable_of_spells {x : String × String} (h : keyPath? x.1 = some [key]) :
    (dictOfVariable x).lookup key = some (Inline.ofText x.2) := by
  simp [dictOfVariable, h, Value.nest]

theorem lookup_dictOfVariable_of_not_spells {x : String × String} (h : keyPath? x.1 ≠ some [key]) :
    (dictOfVariable x).lookup key = (tableAt? key x).map .dict := by
  rw [dictOfVariable, tableAt?]
  rcases hpath : keyPath? x.1 with _ | _ | ⟨k, _ | ⟨k', keys⟩⟩
  · rfl
  · rfl
  · have hk : key ≠ k := fun heq => h (by rw [hpath, heq])
    rw [Dict.lookup_cons, if_neg hk]
    rfl
  · simp only [Value.nest, Dict.lookup_cons, List.lookup_nil]
    by_cases hk : key = k
    · simp [hk]
    · simp [hk, Ne.symm hk]

theorem foldl_said_eq_self {env : Environment} {o : Option Value}
    (h : ∀ x ∈ env, (dictOfVariable x).lookup key = none) : env.foldl (said key) o = o := by
  induction env with
  | nil => rfl
  | cons x env ih =>
      rw [List.foldl_cons, said, h x List.mem_cons_self, overlay]
      exact ih fun y hy => h y (List.mem_cons_of_mem x hy)

theorem foldl_said_dict {env : Environment} (h : ∀ x ∈ env, keyPath? x.1 ≠ some [key])
    (d : Dict) : env.foldl (said key) (some (.dict d)) =
      some (.dict ((env.filterMap (tableAt? key)).foldl Dict.merge d)) := by
  induction env generalizing d with
  | nil => rfl
  | cons x env ih =>
      have henv := ih fun y hy => h y (List.mem_cons_of_mem x hy)
      rw [List.foldl_cons, said, lookup_dictOfVariable_of_not_spells (h x List.mem_cons_self),
        List.filterMap_cons]
      cases tableAt? key x with
      | none => exact henv d
      | some table => exact henv (d.merge table)

theorem foldl_said_none {env : Environment} (h : ∀ x ∈ env, keyPath? x.1 ≠ some [key]) :
    env.foldl (said key) none =
      match env.filterMap (tableAt? key) with
      | [] => none
      | table :: tables => some (.dict (tables.foldl Dict.merge table)) := by
  induction env with
  | nil => rfl
  | cons x env ih =>
      have htail : ∀ y ∈ env, keyPath? y.1 ≠ some [key] :=
        fun y hy => h y (List.mem_cons_of_mem x hy)
      rw [List.foldl_cons, said, lookup_dictOfVariable_of_not_spells (h x List.mem_cons_self),
        List.filterMap_cons]
      cases tableAt? key x with
      | none => exact ih htail
      | some table => exact foldl_said_dict htail table

theorem Separate.head?_ne {x y : String × String} {path : List String}
    (h : ∀ p q, keyPath? x.1 = some p → keyPath? y.1 = some q → ¬ p <+: q ∧ ¬ q <+: p)
    (hx : keyPath? x.1 = some [key]) (hy : keyPath? y.1 = some path) : path.head? ≠ some key := by
  intro hhead
  obtain ⟨keys, rfl⟩ := List.head?_eq_some_iff.1 hhead
  exact (h _ _ hx hy).1 ⟨keys, rfl⟩

/-- In a separate environment the value of a key comes from the variable that spells it, or from
those that spell keys inside it. -/
theorem lookup_toDict_eq_value? (h : env.Separate) (key : String) :
    env.toDict.lookup key = env.value? key := by
  rw [lookup_toDict, value?]
  cases hfind : env.find? (keyPath? ·.1 = some [key]) with
  | none =>
      refine foldl_said_none fun x hx => ?_
      simpa using List.find?_eq_none.1 hfind x hx
  | some x =>
      obtain ⟨hspells, before, after, rfl, -⟩ := List.find?_eq_some_iff_append.1 hfind
      rw [decide_eq_true_iff] at hspells
      obtain ⟨-, hafter, hbefore⟩ := List.pairwise_append.1 h
      -- All other variables leave the key alone.
      have hleft : ∀ y ∈ before, (dictOfVariable y).lookup key = none := by
        intro y hy
        refine lookup_dictOfVariable_eq_none fun path hpath => ?_
        exact Separate.head?_ne
          (fun p q hp hq => (hbefore y hy x List.mem_cons_self q p hq hp).symm) hspells hpath
      have hright : ∀ y ∈ after, (dictOfVariable y).lookup key = none := by
        intro y hy
        refine lookup_dictOfVariable_eq_none fun path hpath => ?_
        exact Separate.head?_ne ((List.pairwise_cons.1 hafter).1 y hy) hspells hpath
      rw [List.foldl_append, foldl_said_eq_self hleft, List.foldl_cons, said,
        lookup_dictOfVariable_of_spells hspells, foldl_said_eq_self hright, overlay]

/-- Setting a variable that spells one key leaves the other keys alone. -/
theorem lookup_toDict_set {name text : String} (h : keyPath? name = some [key]) {k : String}
    (hk : k ≠ key) (env : Environment) :
    (env.set name text).toDict.lookup k = env.toDict.lookup k := by
  have hnone : ∀ text, (dictOfVariable (name, text)).lookup k = none := by
    intro text
    refine lookup_dictOfVariable_eq_none fun path hpath => ?_
    rw [h] at hpath
    cases hpath
    simpa using Ne.symm hk
  have hfold : ∀ o : Option Value,
      (env.set name text).foldl (said k) o = env.foldl (said k) o := by
    induction env with
    | nil => exact fun o => by rw [set, List.foldl_cons, said, hnone, overlay, List.foldl_nil]
    | cons x env ih =>
        intro o
        rw [set]
        split
        · rename_i hx
          obtain ⟨name', text'⟩ := x
          cases hx
          rw [List.foldl_cons, List.foldl_cons, said, said, hnone, hnone]
        · rw [List.foldl_cons, List.foldl_cons, ih]
  rw [lookup_toDict, lookup_toDict, hfold]

end Environment

end QueryPolicy.Config
