import QueryPolicy.Number.Decimal
import QueryPolicy.Text.Quoted

/-!
# Values of configuration sources

What files and environment variables hold before it is read as a configuration. Dictionaries of a
later source are merged into those of an earlier one key by key; any other value replaces.
-/

namespace QueryPolicy.Config

/-- A value of a configuration source. -/
inductive Value
  | bool (b : Bool)
  | unsigned (n : Nat)
  | signed (n : Int)
  | float (x : Binary64)
  | character (c : Char)
  | string (s : String)
  | array (items : List Value)
  | dict (entries : List (String × Value))

/-- The entries of a dictionary. Each key occurs once. -/
abbrev Dict := List (String × Value)

/-- Sets the entry of a key: in its place if there is one, else at the end. -/
def Dict.put {α : Type} (entries : List (String × α)) (key : String) (a : α) :
    List (String × α) :=
  match entries with
  | [] => [(key, a)]
  | (k, b) :: rest => if k = key then (key, a) :: rest else (k, b) :: put rest key a

namespace Value

mutual

/-- The value of a key that has `old` in an earlier source and this one in a later source. -/
def merge (old : Value) : Value → Value
  | dict entries =>
    match old with
    | dict oldEntries => dict (mergeEntries oldEntries entries)
    | _ => dict entries
  | new => new

/-- Merges entries, one after the other. -/
def mergeEntries (old : Dict) : Dict → Dict
  | [] => old
  | e :: es => mergeEntries (mergeEntry old e) es

/-- Merges one entry. -/
def mergeEntry (old : Dict) : String × Value → Dict
  | (key, new) =>
    match old.lookup key with
    | some v => Dict.put old key (merge v new)
    | none => Dict.put old key new

end

/-- What a value is, in messages; a single character is a string there. -/
def describe : Value → String
  | bool b => "bool " ++ if b then "true" else "false"
  | unsigned n => "unsigned int `" ++ Nat.repr n ++ "`"
  | signed n => "signed int `" ++ Int.repr n ++ "`"
  | float x => "float `" ++ x.toText ++ "`"
  | character c => "string " ++ Text.quote c.toString
  | string s => "string " ++ Text.quote s
  | array _ => "sequence"
  | dict _ => "map"

/-- The dictionary with a single value under a path of keys. -/
def nest (path : List String) (v : Value) : Value :=
  match path with
  | [] => v
  | key :: rest => dict [(key, nest rest v)]

end Value

/-- The entries of two sources, where the later one overrides. -/
def Dict.merge (old new : Dict) : Dict := Value.mergeEntries old new

end QueryPolicy.Config
