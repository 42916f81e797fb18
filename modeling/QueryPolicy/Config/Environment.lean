import QueryPolicy.Config.Inline
import QueryPolicy.Text.Split

/-!
# Environment variables

A variable with the right beginning sets the key that the rest of its name spells: two underscores
divide the names of nested tables.
-/

namespace QueryPolicy.Config

/-- The variables of a process, in the order in which they are read. -/
abbrev Environment := List (String × String)

namespace Environment

/-- What the names of configuration variables begin with, in any case of letters. -/
def nameStart : String := "PROMVAL__"

/-- A name in lower case. -/
def lowerCase (cs : List Char) : List Char := cs.map Char.toLower

/-- Replaces each two underscores by a point, from left to right. -/
def pointsForUnderscores : List Char → List Char
  | '_' :: '_' :: cs => '.' :: pointsForUnderscores cs
  | c :: cs => c :: pointsForUnderscores cs
  | [] => []

/-- The path of keys that a variable sets; `none` if its name begins otherwise or leaves a key
empty. White space around the name, and around what follows its beginning, does not count. -/
def keyPath? (name : String) : Option (List String) :=
  let cs := lowerCase (Text.trim name.toList)
  let start := lowerCase nameStart.toList
  if start.isPrefixOf cs then
    let keys := Text.split '.' (pointsForUnderscores (Text.trim (cs.drop start.length)))
    if keys.all (!·.isEmpty) then some (keys.map String.ofList) else none
  else none

/-- The keys that one variable sets. -/
def dictOfVariable (entry : String × String) : Dict :=
  match keyPath? entry.1 with
  | some (key :: keys) => [(key, Value.nest keys (Inline.ofText entry.2))]
  | _ => []

/-- The keys that all variables set, later ones over earlier ones. -/
def toDict (env : Environment) : Dict :=
  env.foldl (fun d entry => d.merge (dictOfVariable entry)) []

/-- Sets a variable. One that is set already keeps its place, a new one is read last. -/
def set (env : Environment) (name value : String) : Environment :=
  match env with
  | [] => [(name, value)]
  | entry :: rest =>
    if entry.1 = name then (name, value) :: rest else entry :: set rest name value

end Environment

end QueryPolicy.Config
