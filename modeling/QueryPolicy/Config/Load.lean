import QueryPolicy.Config.Basic
import QueryPolicy.Config.Environment
import QueryPolicy.Config.Files
import QueryPolicy.Config.Toml.Reader

/-!
# Loading the configuration

The file comes first and the environment overrides it key by key. What no source sets keeps its
default, and what no entry reads is ignored.
-/

namespace QueryPolicy.Config

/-! ## Errors -/

/-- What an entry of the configuration has to be. -/
inductive Expected
  | sequence | string
  deriving DecidableEq

/-- The name of an expectation in messages. -/
def Expected.name : Expected → String
  | sequence => "a sequence"
  | string => "a string"

/-- Why no configuration can be loaded. -/
inductive LoadError
  /-- The file is no document. -/
  | invalidFile
  /-- The value at a path has the wrong type. -/
  | invalidType (path : List String) (found : Value) (expected : Expected)

namespace LoadError

/-- The path of keys and indices to the value at fault. -/
def path : LoadError → List String
  | invalidFile => []
  | invalidType path _ _ => path

/-- The message, where there is one of a fixed wording. -/
def message? : LoadError → Option String
  | invalidFile => none
  | invalidType _ found expected =>
    some ("invalid type: found " ++ found.describe ++ ", expected " ++ expected.name)

end LoadError

/-! ## Entries -/

/-- A string; a single character counts as one. -/
def readString (path : List String) (v : Value) : Except LoadError String :=
  match v with
  | .string s => .ok s
  | .character c => .ok c.toString
  | _ => .error (.invalidType path v .string)

/-- The strings of an array, from an index on. -/
def readItems (path : List String) (index : Nat) : List Value → Except LoadError (List String)
  | [] => .ok []
  | v :: vs => do
    let s ← readString (path ++ [Nat.repr index]) v
    let rest ← readItems path (index + 1) vs
    .ok (s :: rest)

/-- The set of the strings of an array. -/
def readSet (path : List String) (v : Value) : Except LoadError NameSet :=
  match v with
  | .array items => (readItems path 0 items).map NameSet.ofList
  | _ => .error (.invalidType path v .sequence)

/-- The entry of a key, if it is set. -/
def readEntry {α : Type} (d : Dict) (key : String)
    (read : List String → Value → Except LoadError α) : Except LoadError (Option α) :=
  match d.lookup key with
  | none => .ok none
  | some v => (read [key] v).map some

/-- The configuration of a dictionary. Keys are read in alphabetical order, which decides the error
that is reported. -/
def ofDict (d : Dict) : Except LoadError Config := do
  let group ← readEntry d "aggregation_group" readSet
  let labelValue ← readEntry d "aggregation_label_value" readString
  let aggregators ← readEntry d "blacklisted_aggregators" readSet
  let functions ← readEntry d "blacklisted_functions" readSet
  .ok
    { aggregationGroup := group
      aggregationLabelValue := labelValue
      blacklistedAggregators := aggregators.getD ∅
      blacklistedFunctions := functions.getD ∅ }

/-! ## Sources -/

/-- What a process sees: its files and its environment. -/
structure World where
  files : Files
  environment : Environment

/-- The dictionary of a file, if one is found. -/
def fileDict (files : Files) (path : String) : Except LoadError Dict :=
  match files.find? path with
  | none => .ok []
  | some text =>
    match Toml.parse? text with
    | some d => .ok d
    | none => .error .invalidFile

/-- Loads the configuration with the file at a path. -/
def loadFrom (world : World) (path : String) : Except LoadError Config := do
  let d ← fileDict world.files path
  ofDict (d.merge world.environment.toDict)

/-- The name of the configuration file. -/
def defaultFile : String := "promval.toml"

/-- Loads the configuration with the default file. -/
def load (world : World) : Except LoadError Config := loadFrom world defaultFile

/-- The record written when a configuration is loaded. -/
def loadedRecord (c : Config) : LogRecord :=
  ⟨.debug, "Loaded policy configuration: " ++ c.render⟩

/-! ## The configuration of a process -/

/-- The configuration that a process keeps, once it has been loaded. -/
structure Kept where
  config : Option Config := none

/-- The configuration of the process: the kept one, or one loaded now, which is then kept. A failure
is not kept. -/
def Kept.get (kept : Kept) (world : World) : Except LoadError Config × Kept :=
  match kept.config with
  | some c => (.ok c, kept)
  | none =>
    match load world with
    | .ok c => (.ok c, ⟨some c⟩)
    | .error e => (.error e, kept)

/-- The answers to a series of requests, each made in its own state of files and environment. -/
def Kept.getAll : Kept → List World → List (Except LoadError Config)
  | _, [] => []
  | kept, world :: worlds =>
    let (answer, kept) := kept.get world
    answer :: getAll kept worlds

end QueryPolicy.Config
