import QueryPolicy.Proofs.Config.Grammar
import QueryPolicy.Proofs.Config.Layers

/-!
# The variable of the label value

What a variable says is a value before it is an entry. The label value of a file is replaced by what
the variable's text denotes, if that is a text, and by the text itself only if it denotes nothing
else. A text that denotes any other value is an error, whatever the file says.
-/

namespace QueryPolicy.Config

/-! ## A single variable -/

/-- Variables that spell no key say nothing. -/
theorem Environment.toDict_filter (env : Environment) :
    toDict (env.filter fun x => (keyPath? x.1).isSome) = env.toDict := by
  have hfold : ∀ d : Dict,
      (env.filter fun x => (keyPath? x.1).isSome).foldl (fun d x => d.merge (dictOfVariable x)) d =
        env.foldl (fun d x => d.merge (dictOfVariable x)) d := by
    induction env with
    | nil => exact fun _ => rfl
    | cons x env ih =>
        intro d
        rw [List.filter_cons]
        split
        · exact ih _
        · rename_i hnone
          have hempty : d.merge (dictOfVariable x) = d := by
            rw [dictOfVariable, Option.not_isSome_iff_eq_none.1 hnone]
            rfl
          rw [List.foldl_cons, hempty, ih]
  exact hfold []

theorem Environment.toDict_of_only {env : Environment} {name text key : String}
    (hname : keyPath? name = some [key])
    (h : env.filter (fun x => (keyPath? x.1).isSome) = [(name, text)]) :
    env.toDict = [(key, Inline.ofText text)] := by
  rw [← toDict_filter, h]
  simp [toDict, dictOfVariable, hname, Value.nest, Dict.merge, Value.mergeEntries,
    Value.mergeEntry, Dict.put]

/-- A text is no dictionary, so nothing of it is left under another value. -/
theorem Value.IsText.merge {old : Value} {text : String} (h : old.IsText text) (new : Value) :
    old.merge new = new := by
  cases h <;> cases new <;> rfl

theorem overlay_of_rel {old : Option Value} {text? : Option String}
    (h : Option.Rel Value.IsText old text?) (new : Value) : overlay old (some new) = some new := by
  cases h with
  | none => rfl
  | some h => rw [overlay, h.merge]

/-! ## One entry -/

/-- With another label value, a dictionary is read like before but for that entry. -/
theorem ofDict_of_labelValue {d d' : Dict} {v : Value} {c : Config} (h : ofDict d = .ok c)
    (hvalue : d'.lookup "aggregation_label_value" = some v)
    (hothers : ∀ key, key ≠ "aggregation_label_value" → d'.lookup key = d.lookup key) :
    ofDict d' = (readString ["aggregation_label_value"] v).map fun text =>
      { c with aggregationLabelValue := some text } := by
  have hentry : ∀ key, key ≠ "aggregation_label_value" →
      readEntry d' key readSet = readEntry d key readSet := by
    intro key hkey
    rw [readEntry, readEntry, hothers key hkey]
  simp only [ofDict, Except.bind_eq_ok] at h
  obtain ⟨group, hgroup, labelValue, -, aggregators, haggregators, functions, hfunctions, h⟩ := h
  cases h
  have hlabelValue : readEntry d' "aggregation_label_value" readString =
      (readString ["aggregation_label_value"] v).map some := by
    rw [readEntry, hvalue]
  rw [ofDict, hentry _ (by decide), hgroup, hlabelValue, hentry _ (by decide), haggregators,
    hentry _ (by decide), hfunctions]
  cases readString ["aggregation_label_value"] v <;> rfl

/-- When the file can be loaded on its own, the variable of the label value decides that entry. -/
theorem load_of_only {files : Files} {env : Environment} {name text : String} {c : Config}
    (hfile : load ⟨files, []⟩ = .ok c)
    (hname : Environment.keyPath? name = some ["aggregation_label_value"])
    (h : env.filter (fun x => (Environment.keyPath? x.1).isSome) = [(name, text)]) :
    load ⟨files, env⟩ = (readString ["aggregation_label_value"] (Inline.ofText text)).map
      fun text => { c with aggregationLabelValue := some text } := by
  rw [load, loadFrom, Except.bind_eq_ok] at hfile
  obtain ⟨d, hd, hc⟩ := hfile
  have hload : load ⟨files, env⟩ = ofDict (d.merge [("aggregation_label_value",
      Inline.ofText text)]) := by
    rw [load, loadFrom, hd, Environment.toDict_of_only hname h]
    rfl
  have hlookup : ∀ key, (d.merge [("aggregation_label_value", Inline.ofText text)]).lookup key =
      if key = "aggregation_label_value" then
        overlay (d.lookup key) (some (Inline.ofText text)) else d.lookup key :=
    fun key => Dict.lookup_mergeEntry d _ key _
  rw [hload]
  refine ofDict_of_labelValue (d := d) hc ?_ fun key hkey => ?_
  · -- The file's value is a text or missing, so nothing of it is merged with the variable's.
    rw [hlookup, if_pos rfl]
    exact overlay_of_rel (ofDict_eq_ok.1 hc).labelValue _
  · rw [hlookup, if_neg hkey]

/-! ## Loading -/

theorem readString_eq_error {path : List String} {v : Value} (h : ∀ text, ¬ v.IsText text) :
    readString path v = .error (.invalidType path v .string) := by
  cases v with
  | string s => exact absurd (.string s) (h s)
  | character c => exact absurd (.character c) (h _)
  | _ => rfl

/-- Let a file be absent or loaded well on its own, and the variable of the label value be the only
one that spells a key. Then a configuration with exactly the variable's text is loaded if and only
if the text denotes nothing or itself. A text that denotes another text, such as one in quotes or
with blanks around it, gives that one; a text that denotes a number, a truth value, an array or a
table is an error at the entry. The other entries are those of the file. -/
theorem load_labelValue_variable (files : Files) (env : Environment) (text : String) (c : Config)
    (hfile : load ⟨files, []⟩ = .ok c)
    (honly : env.filter (fun x => (Environment.keyPath? x.1).isSome) =
      [("PROMVAL__AGGREGATION_LABEL_VALUE", text)]) :
    (load ⟨files, env⟩ = .ok { c with aggregationLabelValue := some text } ↔
      ∀ v, Inline.Denotes text v → v.IsText text) ∧
    (∀ v text', Inline.Denotes text v → v.IsText text' →
      load ⟨files, env⟩ = .ok { c with aggregationLabelValue := some text' }) ∧
    ∀ v, Inline.Denotes text v → (∀ text', ¬ v.IsText text') →
      load ⟨files, env⟩ = .error (.invalidType ["aggregation_label_value"] v .string) := by
  have hload := load_of_only hfile (by decide +kernel) honly
  refine ⟨⟨fun h v hv => ?_, fun h => ?_⟩, fun v text' hv htext => ?_, fun v hv hnone => ?_⟩
  · rw [hload, Inline.ofText_of_denotes hv, Except.map_eq_ok] at h
    obtain ⟨text', hread, heq⟩ := h
    cases heq
    exact readString_eq_ok.1 hread
  · have hread : (Inline.ofText text).IsText text := by
      by_cases hdenotes : ∃ v, Inline.Denotes text v
      · obtain ⟨v, hv⟩ := hdenotes
        rw [Inline.ofText_of_denotes hv]
        exact h v hv
      · rw [Inline.ofText_of_not_denotes (not_exists.1 hdenotes)]
        exact .string text
    rw [hload, readString_eq_ok.2 hread]
    rfl
  · rw [hload, Inline.ofText_of_denotes hv, readString_eq_ok.2 htext]
    rfl
  · rw [hload, Inline.ofText_of_denotes hv, readString_eq_error hnone]
    rfl

/-- A file with a label value and a blacklist, under a variable that replaces the first: by its own
text, by what stands in its quotes, or not at all, since it is an array. -/
theorem load_labelValue_variable_over_file :
    let files : Files := ⟨["srv"], [(["srv", "promval.toml"],
      "aggregation_label_value = \"important\"\nblacklisted_functions = [\"rate\"]\n")]⟩
    let env (text : String) : Environment :=
      [("HOME", "/"), ("PROMVAL__AGGREGATION_LABEL_VALUE", text), ("PROMVAL__", "1")]
    let c (text : String) : Config :=
      { aggregationLabelValue := some text, blacklistedFunctions := .ofList ["rate"] }
    load ⟨files, []⟩ = .ok (c "important") ∧
      load ⟨files, env "critical"⟩ = .ok (c "critical") ∧
      (∀ v, Inline.Denotes "critical" v → v.IsText "critical") ∧
      load ⟨files, env "'x'"⟩ = .ok (c "x") ∧
      load ⟨files, env "[]"⟩ =
        .error (.invalidType ["aggregation_label_value"] (.array []) .string) := by
  intro files env c
  have hfile : load ⟨files, []⟩ = .ok (c "important") :=
    Except.toOption_eq_some.1 (by decide +kernel)
  have hcritical : load ⟨files, env "critical"⟩ = .ok (c "critical") :=
    Except.toOption_eq_some.1 (by decide +kernel)
  have honly : ∀ text, (env text).filter (fun x => (Environment.keyPath? x.1).isSome) =
      [("PROMVAL__AGGREGATION_LABEL_VALUE", text)] := by
    intro text
    have hhome : Environment.keyPath? "HOME" = none := by decide +kernel
    have hkey : Environment.keyPath? "PROMVAL__AGGREGATION_LABEL_VALUE" =
        some ["aggregation_label_value"] := by
      decide +kernel
    have hempty : Environment.keyPath? "PROMVAL__" = none := by decide +kernel
    simp [env, hhome, hkey, hempty]
  have hblank : Inline.Blank [] := by simp [Inline.Blank]
  have hquoted : Inline.Denotes "'x'" (.character 'x') :=
    @Inline.Padded.delimited [] _ [] _ hblank (.character 'x') hblank
  have harray : Inline.Denotes "[]" (.array []) :=
    @Inline.Padded.delimited [] _ [] _ hblank (.array .close) hblank
  obtain ⟨hself, -, -⟩ := load_labelValue_variable files _ _ _ hfile (honly "critical")
  obtain ⟨-, htext, -⟩ := load_labelValue_variable files _ _ _ hfile (honly "'x'")
  obtain ⟨-, -, hother⟩ := load_labelValue_variable files _ _ _ hfile (honly "[]")
  exact ⟨hfile, hcritical, hself.1 hcritical, htext _ _ hquoted (.character 'x'),
    hother _ harray (by rintro text ⟨⟩)⟩

/-- Without a file, a variable that is a number cannot be loaded, and of one with a blank before it
the blank is lost. -/
theorem load_labelValue_number :
    let files : Files := ⟨["srv"], []⟩
    let env (text : String) : Environment := [("PROMVAL__AGGREGATION_LABEL_VALUE", text)]
    load ⟨files, []⟩ = .ok {} ∧ (∀ c, load ⟨files, env "1"⟩ ≠ .ok c) ∧
      load ⟨files, env " gold"⟩ = .ok { aggregationLabelValue := some "gold" } := by
  intro files env
  have hnumber : (load ⟨files, env "1"⟩).toOption = none := by decide +kernel
  refine ⟨Except.toOption_eq_some.1 (by decide +kernel), fun c hc => ?_,
    Except.toOption_eq_some.1 (by decide +kernel)⟩
  rw [Except.toOption_eq_some.2 hc] at hnumber
  cases hnumber

end QueryPolicy.Config
