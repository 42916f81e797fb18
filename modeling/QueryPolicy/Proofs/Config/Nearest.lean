import Mathlib.Data.List.Infix
import QueryPolicy.Config.Load
import QueryPolicy.Proofs.Except

/-!
# The nearest configuration file

The configuration file is the one in the working directory, or else in the nearest directory above
that has one. All other files have no influence, but a file of any directory above can have, as long
as none is nearer.
-/

namespace QueryPolicy.Config

namespace Files

variable {files : Files}

/-- The content of the configuration file in a directory. -/
def configIn? (files : Files) (dir : Location) : Option String :=
  files.contents.lookup (dir ++ [defaultFile])

/-- A directory has a configuration file and none between it and the working directory has one. -/
structure Nearest (files : Files) (dir : Location) (text : String) : Prop where
  above : dir <+: files.workingDirectory
  content : files.configIn? dir = some text
  between : ∀ d, dir <+: d → d <+: files.workingDirectory → d ≠ dir → files.configIn? d = none

theorem mem_upwards {d dir : Location} : d ∈ upwards dir ↔ d <+: dir := by
  simp only [upwards, List.mem_map, List.mem_range]
  constructor
  · rintro ⟨n, -, rfl⟩
    exact List.take_prefix _ _
  · intro h
    have hlength := h.length_le
    refine ⟨dir.length - d.length, by omega, ?_⟩
    rw [Nat.sub_sub_self hlength]
    exact (List.prefix_iff_eq_take.1 h).symm

/-- The way upwards goes from longer places to shorter ones. -/
theorem pairwise_upwards (dir : Location) :
    (upwards dir).Pairwise fun a b => b.length < a.length := by
  rw [upwards, List.pairwise_map]
  refine List.pairwise_lt_range.imp_of_mem fun {m n} _ hn hlt => ?_
  have hle := List.mem_range.1 hn
  simp only [List.length_take]
  omega

theorem find?_defaultFile (files : Files) :
    files.find? defaultFile = (upwards files.workingDirectory).findSome? files.configIn? := by
  have hparts : pathParts defaultFile = [defaultFile] := by decide
  have hlast : defaultFile.toList.getLast? ≠ some '/' := by decide
  have hhead : defaultFile.toList.head? ≠ some '/' := by decide
  rw [find?, if_neg hlast, if_neg hhead, hparts]
  rfl

theorem find?_defaultFile_eq_none :
    files.find? defaultFile = none ↔
      ∀ dir, dir <+: files.workingDirectory → files.configIn? dir = none := by
  simp only [find?_defaultFile, List.findSome?_eq_none_iff, mem_upwards]

theorem exists_nearest {text : String} (h : files.find? defaultFile = some text) :
    ∃ dir, files.Nearest dir text := by
  rw [find?_defaultFile, List.findSome?_eq_some_iff] at h
  obtain ⟨nearer, dir, farther, hsplit, hdir, hnearer⟩ := h
  have hmem : ∀ d, d <+: files.workingDirectory ↔ d ∈ nearer ++ dir :: farther := by
    intro d
    rw [← hsplit, mem_upwards]
  refine ⟨dir, (hmem dir).2 (by simp), hdir, fun d hbelow habove hne => ?_⟩
  rcases List.mem_append.1 ((hmem d).1 habove) with hd | hd
  · exact hnearer d hd
  · -- What comes later on the way upwards is shorter, so it is not below.
    have hpairwise := pairwise_upwards files.workingDirectory
    rw [hsplit, List.pairwise_append, List.pairwise_cons] at hpairwise
    rcases List.mem_cons.1 hd with heq | hd
    · exact absurd heq hne
    · have hshorter := hpairwise.2.1.1 d hd
      have hlonger := hbelow.length_le
      omega

theorem Nearest.unique {dir dir' : Location} {text text' : String} (h : files.Nearest dir text)
    (h' : files.Nearest dir' text') : text = text' := by
  have hsame : ∀ {dir dir' text text'}, files.Nearest dir text → files.Nearest dir' text' →
      dir <+: dir' → text = text' := by
    intro dir dir' text text' h h' hprefix
    by_cases heq : dir' = dir
    · subst heq
      exact Option.some.inj (h.content.symm.trans h'.content)
    · have hnone := h.between dir' hprefix h'.above heq
      rw [h'.content] at hnone
      cases hnone
  rcases Nat.le_total dir.length dir'.length with hle | hle
  · exact hsame h h' (List.prefix_of_prefix_length_le h.above h'.above hle)
  · exact (hsame h' h (List.prefix_of_prefix_length_le h'.above h.above hle)).symm

theorem Nearest.find? {dir : Location} {text : String} (h : files.Nearest dir text) :
    files.find? defaultFile = some text := by
  cases hfind : files.find? defaultFile with
  | none =>
      rw [find?_defaultFile_eq_none] at hfind
      have hnone := hfind dir h.above
      rw [h.content] at hnone
      cases hnone
  | some text' =>
      obtain ⟨dir', h'⟩ := exists_nearest hfind
      rw [h.unique h']

theorem find?_congr {files' : Files} (hdir : files'.workingDirectory = files.workingDirectory)
    (hsame : ∀ dir, dir <+: files.workingDirectory → files'.configIn? dir = files.configIn? dir) :
    files'.find? defaultFile = files.find? defaultFile := by
  cases hfind : files.find? defaultFile with
  | none =>
      rw [find?_defaultFile_eq_none] at hfind ⊢
      intro dir habove
      rw [hdir] at habove
      rw [hsame dir habove, hfind dir habove]
  | some text =>
      obtain ⟨dir, h⟩ := exists_nearest hfind
      have h' : files'.Nearest dir text := by
        refine ⟨hdir ▸ h.above, hsame dir h.above ▸ h.content, fun d hbelow habove hne => ?_⟩
        rw [hdir] at habove
        rw [hsame d habove, h.between d hbelow habove hne]
      exact h'.find?

end Files

/-- Files matter through the one that is found. -/
theorem load_congr {files files' : Files} (h : files.find? defaultFile = files'.find? defaultFile)
    (env : Environment) : load ⟨files, env⟩ = load ⟨files', env⟩ := by
  simp only [load, loadFrom, fileDict, h]

/-- A layout whose only file, if any, is the configuration file in the working directory. -/
def onlyConfig (dir : Location) (text? : Option String) : Files :=
  ⟨dir, text?.toList.map fun text => (dir ++ [defaultFile], text)⟩

theorem find?_onlyConfig (dir : Location) (text? : Option String) :
    (onlyConfig dir text?).find? defaultFile = text? := by
  cases text? with
  | none =>
      rw [Files.find?_defaultFile_eq_none]
      exact fun d _ => rfl
  | some text =>
      refine Files.Nearest.find? ⟨List.prefix_rfl, ?_, fun d hbelow habove hne => ?_⟩
      · simp [Files.configIn?, onlyConfig]
      · exact absurd (habove.eq_of_length (Nat.le_antisymm habove.length_le hbelow.length_le)) hne

/-- A configuration is loaded as if the nearest configuration file, from the working directory
upwards, were the only file and stood in the working directory. So files have no influence exactly
when there is no such file, or when that one has none there; and two layouts that agree on the
configuration files of the working directory and the directories above load alike. -/
theorem load_nearest (files : Files) (env : Environment) :
    (load ⟨files, env⟩ = load ⟨onlyConfig files.workingDirectory none, env⟩ ↔
      ∀ dir text, files.Nearest dir text →
        load ⟨onlyConfig files.workingDirectory (some text), env⟩ =
          load ⟨onlyConfig files.workingDirectory none, env⟩) ∧
    (∀ dir text, files.Nearest dir text →
      load ⟨files, env⟩ = load ⟨onlyConfig files.workingDirectory (some text), env⟩) ∧
    ∀ files' : Files, files'.workingDirectory = files.workingDirectory →
      (∀ dir, dir <+: files.workingDirectory → files'.configIn? dir = files.configIn? dir) →
      load ⟨files', env⟩ = load ⟨files, env⟩ := by
  have hnearest : ∀ dir text, files.Nearest dir text →
      load ⟨files, env⟩ = load ⟨onlyConfig files.workingDirectory (some text), env⟩ := by
    intro dir text h
    refine load_congr ?_ env
    rw [h.find?, find?_onlyConfig]
  refine ⟨⟨fun h dir text hdir => ?_, fun h => ?_⟩, hnearest, fun files' hdir hsame => ?_⟩
  · rw [← hnearest dir text hdir, h]
  · cases hfind : files.find? defaultFile with
    | none =>
        refine load_congr ?_ env
        rw [hfind, find?_onlyConfig]
    | some text =>
        obtain ⟨dir, hdir⟩ := Files.exists_nearest hfind
        rw [hnearest dir text hdir, h dir text hdir]
  · exact load_congr (Files.find?_congr hdir hsame) env

/-- Of the files at the root and in `srv` the nearer one is loaded; the one in `srv/web`, which is
no document, is not looked at. -/
theorem load_nearest_two_above :
    let text := "blacklisted_functions = [\"rate\"]"
    let files : Files :=
      ⟨["srv", "app"], [(["promval.toml"], "aggregation_label_value = \"gold\""),
        (["srv", "promval.toml"], text), (["srv", "web", "promval.toml"], "?")]⟩
    files.Nearest ["srv"] text ∧
      load ⟨files, []⟩ = load ⟨onlyConfig ["srv", "app"] (some text), []⟩ := by
  intro text files
  have hnearest : files.Nearest ["srv"] text := by
    refine ⟨by decide, by decide, fun d hbelow habove hne => ?_⟩
    have hd : d ∈ [["srv", "app"], ["srv"], []] := Files.mem_upwards.2 habove
    simp only [List.mem_cons, List.not_mem_nil, or_false] at hd
    rcases hd with rfl | rfl | rfl
    · decide
    · exact absurd rfl hne
    · exact absurd hbelow (by decide)
  exact ⟨hnearest, (load_nearest files []).2.1 _ _ hnearest⟩

/-- A file in the directory above is loaded when the working directory has none. -/
theorem load_file_above :
    let files : Files :=
      ⟨["srv", "app"], [(["srv", "promval.toml"], "blacklisted_functions = [\"rate\"]")]⟩
    files.configIn? files.workingDirectory = none ∧
      load ⟨files, []⟩ = .ok { blacklistedFunctions := .ofList ["rate"] } ∧
      load ⟨onlyConfig files.workingDirectory none, []⟩ = .ok {} := by
  intro files
  exact ⟨by decide, Except.toOption_eq_some.1 (by decide +kernel),
    Except.toOption_eq_some.1 (by decide +kernel)⟩

end QueryPolicy.Config
