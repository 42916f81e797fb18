import QueryPolicy.Proofs.Policy.Check

/-!
# The two blacklist policies

One looks at the names of calls, the other at the operators of aggregations. Each reports the first
blacklisted name and does not see the names that the other looks at.
-/

namespace QueryPolicy

namespace Expr

/-! ## Renaming -/

mutual

/-- The tree with every aggregation operator and every function renamed. -/
def rename (operator function : String → String) : Expr → Expr
  | aggregate op g param body =>
    aggregate (operator op) g (renameParam operator function param) (rename operator function body)
  | binary op lhs rhs => binary op (rename operator function lhs) (rename operator function rhs)
  | unary operand => unary (rename operator function operand)
  | paren inner => paren (rename operator function inner)
  | call name args => call (function name) (renameArgs operator function args)
  | subquery inner range step => subquery (rename operator function inner) range step
  | vector s => vector s
  | matrix s range => matrix s range
  | number x => number x
  | string s => string s

/-- Renaming in an optional parameter. -/
def renameParam (operator function : String → String) : Option Expr → Option Expr
  | none => none
  | some e => some (rename operator function e)

/-- Renaming in a list of arguments. -/
def renameArgs (operator function : String → String) : List Expr → List Expr
  | [] => []
  | e :: es => rename operator function e :: renameArgs operator function es

end

variable {operator function : String → String}

theorem renameArgs_eq (es : List Expr) :
    renameArgs operator function es = es.map (rename operator function) := by
  induction es with
  | nil => rfl
  | cons e es ih => rw [renameArgs, ih, List.map_cons]

theorem children_rename (e : Expr) :
    (e.rename operator function).children = e.children.map (rename operator function) := by
  cases e with
  | aggregate op g param body => cases param <;> simp [rename, renameParam, children]
  | call name args => rw [rename, children, children, renameArgs_eq]
  | _ => simp [rename, children]

theorem preorderArgs_map {f : Expr → Expr} {es : List Expr}
    (h : ∀ c ∈ es, (f c).preorder = c.preorder.map f) :
    preorderArgs (es.map f) = (preorderArgs es).map f := by
  induction es with
  | nil => rfl
  | cons e es ih =>
      rw [List.map_cons, preorderArgs, preorderArgs, List.map_append, h e (by simp),
        ih fun c hc => h c (by simp [hc])]

/-- A renamed tree is visited like the tree itself. -/
theorem preorder_rename (e : Expr) :
    (e.rename operator function).preorder = e.preorder.map (rename operator function) := by
  induction e using children_induction with
  | step e ih =>
      rw [preorder_eq, preorder_eq, children_rename, preorderArgs_map ih, List.map_cons]

end Expr

namespace Policy

/-- A policy that does not see a renaming at single nodes does not see it at all. -/
theorem check_rename {p : Policy} {operator function : String → String}
    (h : ∀ n : Expr, p.nodeViolation? (n.rename operator function) = p.nodeViolation? n)
    (e : Expr) : p.check (e.rename operator function) = p.check e := by
  have hsame : p.violation? (e.rename operator function) = p.violation? e := by
    rw [violation?_eq, violation?_eq, Expr.preorder_rename, List.findSome?_map]
    exact congrArg (e.preorder.findSome? ·) (funext h)
  rw [check, check, hsame]

/-! ## Calls -/

theorem check_function_eq_ok {blacklist : NameSet} {e : Expr} :
    (function blacklist).check e = .ok () ↔
      ∀ p name args, e.at? p = some (.call name args) → name ∉ blacklist := by
  rw [check_eq_ok]
  constructor
  · intro h p name args hn
    exact h p _ hn
  · intro h p n hn hforbidden
    cases n with
    | call name args => exact h p name args hn hforbidden
    | _ => exact hforbidden

theorem exists_of_check_function {blacklist : NameSet} {e : Expr} {v : Violation}
    (h : (function blacklist).check e = .error v) :
    ∃ p name args, e.FirstAt (function blacklist).ForbiddenAt p (.call name args) ∧
      v = .function name := by
  obtain ⟨p, n, hfirst, hnode⟩ := exists_of_check_eq_error h
  cases n with
  | call name args =>
      rw [nodeViolation?, Expr.call?, Option.bind_some, functionViolation?] at hnode
      split at hnode
      · cases hnode
        exact ⟨p, name, args, hfirst, rfl⟩
      · cases hnode
  | _ => cases hnode

/-! ## Aggregations -/

theorem check_aggregationFunction_eq_ok {blacklist : NameSet} {e : Expr} :
    (aggregationFunction blacklist).check e = .ok () ↔
      ∀ p op g param body, e.at? p = some (.aggregate op g param body) → op ∉ blacklist := by
  rw [check_eq_ok]
  constructor
  · intro h p op g param body hn
    exact h p _ hn
  · intro h p n hn hforbidden
    cases n with
    | aggregate op g param body => exact h p op g param body hn hforbidden
    | _ => exact hforbidden

theorem exists_of_check_aggregationFunction {blacklist : NameSet} {e : Expr} {v : Violation}
    (h : (aggregationFunction blacklist).check e = .error v) :
    ∃ p op g param body,
      e.FirstAt (aggregationFunction blacklist).ForbiddenAt p (.aggregate op g param body) ∧
      v = .aggregator op := by
  obtain ⟨p, n, hfirst, hnode⟩ := exists_of_check_eq_error h
  cases n with
  | aggregate op g param body =>
      rw [nodeViolation?, Expr.aggregation?, Option.bind_some, aggregatorViolation?] at hnode
      split at hnode
      · cases hnode
        exact ⟨p, op, g, param, body, hfirst, rfl⟩
      · cases hnode
  | _ => cases hnode

/-! ## Both -/

/-- Each blacklist policy accepts exactly the trees without a blacklisted name at any position and
otherwise names the first one, and no renaming of what the other policy looks at changes its
answer. -/
theorem blacklists_exact_and_blind (blacklist : List String) (e : Expr) :
    (((function (.ofList blacklist)).check e = .ok () ↔
        ∀ p name args, e.at? p = some (.call name args) → name ∉ blacklist) ∧
      ∀ v, (function (.ofList blacklist)).check e = .error v →
        v.rule = "function" ∧ ∃ p name args,
          e.FirstAt (function (.ofList blacklist)).ForbiddenAt p (.call name args) ∧
          v.message = "using blacklisted function '" ++ name ++ "'") ∧
    (((aggregationFunction (.ofList blacklist)).check e = .ok () ↔
        ∀ p op g param body, e.at? p = some (.aggregate op g param body) → op ∉ blacklist) ∧
      ∀ v, (aggregationFunction (.ofList blacklist)).check e = .error v →
        v.rule = "aggregation_function" ∧ ∃ p op g param body,
          e.FirstAt (aggregationFunction (.ofList blacklist)).ForbiddenAt p
            (.aggregate op g param body) ∧
          v.message = "using blacklisted aggregator '" ++ op ++ "'") ∧
    (∀ f, (function (.ofList blacklist)).check (e.rename f id) =
      (function (.ofList blacklist)).check e) ∧
    ∀ f, (aggregationFunction (.ofList blacklist)).check (e.rename id f) =
      (aggregationFunction (.ofList blacklist)).check e := by
  refine ⟨⟨?_, fun v hv => ?_⟩, ⟨?_, fun v hv => ?_⟩, fun f => ?_, fun f => ?_⟩
  · simp only [check_function_eq_ok, NameSet.mem_ofList]
  · obtain ⟨p, name, args, hfirst, rfl⟩ := exists_of_check_function hv
    exact ⟨rfl, p, name, args, hfirst, rfl⟩
  · simp only [check_aggregationFunction_eq_ok, NameSet.mem_ofList]
  · obtain ⟨p, op, g, param, body, hfirst, rfl⟩ := exists_of_check_aggregationFunction hv
    exact ⟨rfl, p, op, g, param, body, hfirst, rfl⟩
  · refine check_rename (fun n => ?_) e
    cases n <;> rfl
  · refine check_rename (fun n => ?_) e
    cases n <;> rfl

/-- In `count(x) > sum(count(x))`, with `count` first a call and then an aggregation, each policy
reports its own. -/
theorem blacklists_exact_and_blind_one_name :
    (∃ v, (function (.ofList ["count"])).check
        (.binary ">" (.call "count" [.vector ⟨some "x", [], []⟩])
          (.aggregate "sum" none none
            (.aggregate "count" none none (.vector ⟨some "x", [], []⟩)))) = .error v ∧
      v.rule = "function" ∧ v.message = "using blacklisted function 'count'") ∧
    ∃ v, (aggregationFunction (.ofList ["count"])).check
        (.binary ">" (.call "count" [.vector ⟨some "x", [], []⟩])
          (.aggregate "sum" none none
            (.aggregate "count" none none (.vector ⟨some "x", [], []⟩)))) = .error v ∧
      v.rule = "aggregation_function" ∧
      v.message = "using blacklisted aggregator 'count'" := by
  refine ⟨⟨.function "count", ?call, ((blacklists_exact_and_blind _ _).1.2 _ ?call).1, rfl⟩,
    ⟨.aggregator "count", ?aggregation, ((blacklists_exact_and_blind _ _).2.1.2 _ ?aggregation).1,
      rfl⟩⟩
  · rw [check, violation?_eq]
    rfl
  · rw [check, violation?_eq]
    rfl

end Policy

end QueryPolicy
