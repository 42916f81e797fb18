import QueryPolicy.Config.Toml.Scalar
import QueryPolicy.Config.Toml.Table
import QueryPolicy.Config.Toml.Text
import QueryPolicy.Text.Rest

/-!
# Reading TOML

A text is read into lines and these into one dictionary. Nothing is said about why a text is no
document.
-/

namespace QueryPolicy.Config.Toml

/-- Characters of a comment: all but controls. -/
def isCommentChar (c : Char) : Bool := isPlain c

/-- The length of blanks, line ends and comments at the start of a text; `comment` says whether it
starts inside a comment. -/
def layoutLength : (comment : Bool) → List Char → Nat
  | _, [] => 0
  | _, '\n' :: cs => layoutLength false cs + 1
  | _, '\r' :: '\n' :: cs => layoutLength false cs + 2
  | true, c :: cs => if isCommentChar c then layoutLength true cs + 1 else 0
  | false, c :: cs =>
    if c == '#' then layoutLength true cs + 1
    else if isBlank c then layoutLength false cs + 1 else 0

/-- How deep arrays and tables on one line may be nested, and how many keys a path may have. -/
def nestingLimit : Nat := 79

/-- A path of keys that is not too long. -/
def path? (cs : List Char) : Reading (List String) :=
  (keyPath? cs).filter fun (path, _) => path.length ≤ nestingLimit

mutual

/-- The value at the start of a text; `room` says how many levels of nesting are left. -/
def value? (room : Nat) (cs : List Char) : Reading Value :=
  match room, cs with
  | 0, '[' :: _ => none
  | 0, '\x7b' :: _ => none
  | room + 1, '[' :: rest =>
    let n := layoutLength false rest
    (items? room (rest.drop n)).map fun (vs, k) => (.array vs, k + n + 1)
  | room + 1, '\x7b' :: rest =>
    let n := blankLength rest
    match assignments? room true (rest.drop n) with
    | none => none
    | some (as, k) => (dictOfAssignments? as).map fun d => (.dict d, k + n + 1)
  | _, cs =>
    if cs.head? = some '\x22' || cs.head? = some '\x27' then
      (string? cs).map fun (s, n) => (.string s, n)
    else scalar? cs
termination_by 6 * cs.length
decreasing_by all_goals grind [→ Text.length_lt_of_drop_eq_cons]

/-- The items of an array after the layout that follows its bracket or a comma, with the closing
bracket. -/
def items? (room : Nat) (cs : List Char) : Reading (List Value) :=
  match cs with
  | ']' :: _ => some ([], 1)
  | cs =>
    match value? room cs with
    | none => none
    | some (v, n) =>
      let n := n + layoutLength false (cs.drop n)
      match _ : cs.drop n with
      | ']' :: _ => some ([v], n + 1)
      | ',' :: rest =>
        let k := layoutLength false rest
        (items? room (rest.drop k)).map fun (vs, j) => (v :: vs, j + k + n + 1)
      | _ => none
termination_by 6 * cs.length + 1
decreasing_by all_goals grind [→ Text.length_lt_of_drop_eq_cons]

/-- The assignments of a table on one line, after its brace and blanks, with the closing brace;
`first` says whether the table may end here. -/
def assignments? (room : Nat) (first : Bool) (cs : List Char) :
    Reading (List (List String × Value)) :=
  match cs with
  | '\x7d' :: _ => if first then some ([], 1) else none
  | cs =>
    match assignment? room cs with
    | none => none
    | some (a, n) =>
      let n := n + blankLength (cs.drop n)
      match _ : cs.drop n with
      | '\x7d' :: _ => some ([a], n + 1)
      | ',' :: rest =>
        let k := blankLength rest
        (assignments? room false (rest.drop k)).map fun (as, j) => (a :: as, j + k + n + 1)
      | _ => none
termination_by 6 * cs.length + 2
decreasing_by all_goals grind [→ Text.length_lt_of_drop_eq_cons]

/-- A path of keys, an equals sign and a value. -/
def assignment? (room : Nat) (cs : List Char) : Reading (List String × Value) :=
  match path? cs with
  | none => none
  | some (path, n) =>
    match _ : cs.drop n with
    | '=' :: rest =>
      let k := blankLength rest
      (value? room (rest.drop k)).map fun (v, j) => ((path, v), j + k + n + 1)
    | _ => none
termination_by 6 * cs.length + 1
decreasing_by all_goals grind [→ Text.length_lt_of_drop_eq_cons]

end

/-- The length of the end of a line: blanks, an optional comment, and a line end or the end of the
text. -/
def lineEndLength? (cs : List Char) : Option Nat :=
  let blanks := blankLength cs
  let rest := cs.drop blanks
  let comment :=
    match rest with
    | '#' :: cs' => (cs'.takeWhile isCommentChar).length + 1
    | _ => 0
  match rest.drop comment with
  | [] => some (blanks + comment)
  | rest => if newlineLength rest = 0 then none else some (blanks + comment + newlineLength rest)

/-- A line other than an empty one, without its end. -/
def statement? (cs : List Char) : Reading Statement :=
  match cs with
  | '[' :: '[' :: rest =>
    match path? rest with
    | none => none
    | some (path, n) =>
      if (rest.drop n).take 2 = [']', ']'] then some (.arrayHeader path, n + 4) else none
  | '[' :: rest =>
    match path? rest with
    | none => none
    | some (path, n) =>
      if (rest.drop n).head? = some ']' then some (.header path, n + 2) else none
  | cs => (assignment? nestingLimit cs).map fun ((path, v), n) => (.assignment path v, n)

/-- The lines of a text. -/
def statements? (cs : List Char) : Option (List Statement) :=
  match _ : cs.drop (layoutLength false cs) with
  | [] => some []
  | c :: rest =>
    match statement? (c :: rest) with
    | none => none
    | some (s, n) =>
      match lineEndLength? ((c :: rest).drop n) with
      | none => none
      | some k => (statements? (rest.drop (n + k - 1))).map (s :: ·)
termination_by cs.length
decreasing_by all_goals grind [→ Text.length_lt_of_drop_eq_cons]

/-- The dictionary of a document. A byte order mark may come first. -/
def parse? (text : String) : Option Dict :=
  let cs :=
    match text.toList with
    | '\ufeff' :: cs => cs
    | cs => cs
  (statements? cs).bind dictOfStatements?

end QueryPolicy.Config.Toml
