import QueryPolicy.Config.Value

/-!
# Tables of TOML

Tables come about by a header, as parents of one, or by points in a key. How one came about decides
what may still be added to it.
-/

namespace QueryPolicy.Config.Toml

/-- How a table came about. -/
inductive TableKind
  /-- By a header of its own. -/
  | defined
  /-- As a parent in a header. -/
  | parent
  /-- By points in a key. -/
  | dotted
  deriving DecidableEq

/-- What a key of a table holds: a value, a table, or an array of tables. -/
inductive Item
  | value (v : Value)
  | table (kind : TableKind) (entries : List (String × Item))
  | tables (elements : List (List (String × Item)))

/-- The entries of a table. -/
abbrev Entries := List (String × Item)

namespace Item

mutual

/-- An item as a value. -/
def toValue : Item → Value
  | value v => v
  | table _ entries => .dict (toDict entries)
  | tables elements => .array (toArray elements)

/-- Entries as a dictionary. -/
def toDict : Entries → Dict
  | [] => []
  | e :: es => toEntry e :: toDict es

/-- An entry of a dictionary. -/
def toEntry : String × Item → String × Value
  | (key, item) => (key, toValue item)

/-- The tables of an array as values. -/
def toArray : List Entries → List Value
  | [] => []
  | es :: rest => .dict (toDict es) :: toArray rest

end

end Item

/-- Changes the table at the end of a path, given how it came about. Tables that are missing on the
way are created; a path leads into the last element of an array of tables and not through values. A
path in a key does not lead through tables that have a header. -/
def descend (inKey : Bool) (change : TableKind → Entries → Option Entries) :
    (kind : TableKind) → (path : List String) → Entries → Option Entries
  | kind, [], es => change kind es
  | _, key :: path, es =>
    match es.lookup key with
    | none =>
      let kind : TableKind := if inKey then .dotted else .parent
      (descend inKey change kind path []).map fun inner => Dict.put es key (.table kind inner)
    | some (.value _) => none
    | some (.table kind inner) =>
      if inKey && kind = .defined then none
      else
        (descend inKey change kind path inner).map fun inner => Dict.put es key (.table kind inner)
    | some (.tables elements) =>
      match elements.getLast? with
      | none => none
      | some last =>
        (descend inKey change .defined path last).map fun last =>
          Dict.put es key (.tables (elements.dropLast ++ [last]))

/-- Defines a table by its header. A table that is there already must be the parent of another. -/
def define (key : String) (_ : TableKind) (es : Entries) : Option Entries :=
  match es.lookup key with
  | none => some (Dict.put es key (.table .defined []))
  | some (.table .parent inner) => some (Dict.put es key (.table .defined inner))
  | some _ => none

/-- Adds an empty table to an array of tables. -/
def extend (key : String) (_ : TableKind) (es : Entries) : Option Entries :=
  match es.lookup key with
  | none => some (Dict.put es key (.tables [[]]))
  | some (.tables elements) => some (Dict.put es key (.tables (elements ++ [[]])))
  | some _ => none

/-- Sets a key that is not there yet. Through points in its path a key reaches only tables that came
about by points, and without them only others. -/
def assignHere (points : Bool) (key : String) (v : Value) (kind : TableKind) (es : Entries) :
    Option Entries :=
  if (kind = .dotted) ≠ points then none
  else if (es.lookup key).isSome then none
  else some (Dict.put es key (.value v))

/-- Splits the last key off a path. -/
def splitLast? (path : List String) : Option (List String × String) :=
  path.getLast?.map (path.dropLast, ·)

/-- Sets the key at the end of a path of keys, from a table. -/
def assign (path : List String) (v : Value) (kind : TableKind) (es : Entries) : Option Entries :=
  match splitLast? path with
  | none => none
  | some (parents, key) => descend true (assignHere (!parents.isEmpty) key v) kind parents es

/-! ## Documents -/

/-- A line of a document. -/
inductive Statement
  | header (path : List String)
  | arrayHeader (path : List String)
  | assignment (path : List String) (v : Value)

/-- A document in progress: its tables, and the path of the table that lines are added to. -/
structure Document where
  root : Entries := []
  current : List String := []

/-- The document after a line; `none` if the line contradicts those before it. -/
def Document.add (d : Document) (s : Statement) : Option Document :=
  match s with
  | .header path =>
    (splitLast? path).bind fun (parents, key) =>
      (descend false (define key) .defined parents d.root).map (⟨·, path⟩)
  | .arrayHeader path =>
    (splitLast? path).bind fun (parents, key) =>
      (descend false (extend key) .defined parents d.root).map (⟨·, path⟩)
  | .assignment path v =>
    (descend false (assign path v) .defined d.current d.root).map (⟨·, d.current⟩)

/-- The dictionary of the lines of a document. -/
def dictOfStatements? (statements : List Statement) : Option Dict :=
  (statements.foldlM Document.add {}).map fun d => Item.toDict d.root

/-- The dictionary of the assignments in a table on one line. -/
def dictOfAssignments? (assignments : List (List String × Value)) : Option Dict :=
  (assignments.foldlM (fun es (path, v) => assign path v .defined es) []).map Item.toDict

end QueryPolicy.Config.Toml
