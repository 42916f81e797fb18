import QueryPolicy.Expr.Basic

/-!
# Pre-order

`Expr.preorder` lists a tree by recursion on its constructors. `Walk` visits the same nodes one
at a time and holds only the nodes still to be visited.
-/

namespace QueryPolicy

namespace Expr

mutual

/-- The nodes of a tree, each before its children and children in source order. -/
def preorder : Expr → List Expr
  | e@(aggregate _ _ param body) => e :: (preorderParam param ++ preorder body)
  | e@(binary _ lhs rhs) => e :: (preorder lhs ++ preorder rhs)
  | e@(unary operand) => e :: preorder operand
  | e@(paren inner) => e :: preorder inner
  | e@(call _ args) => e :: preorderArgs args
  | e@(subquery inner _ _) => e :: preorder inner
  | e@(vector _) => [e]
  | e@(matrix _ _) => [e]
  | e@(number _) => [e]
  | e@(string _) => [e]

/-- The nodes of an optional parameter. -/
def preorderParam : Option Expr → List Expr
  | none => []
  | some e => preorder e

/-- The nodes of a list of arguments. -/
def preorderArgs : List Expr → List Expr
  | [] => []
  | e :: es => preorder e ++ preorderArgs es

end

mutual

/-- How many nodes a tree has. -/
def size : Expr → Nat
  | aggregate _ _ param body => sizeParam param + size body + 1
  | binary _ lhs rhs => size lhs + size rhs + 1
  | unary operand => size operand + 1
  | paren inner => size inner + 1
  | call _ args => sizeArgs args + 1
  | subquery inner _ _ => size inner + 1
  | vector _ => 1
  | matrix _ _ => 1
  | number _ => 1
  | string _ => 1

/-- How many nodes an optional parameter has. -/
def sizeParam : Option Expr → Nat
  | none => 0
  | some e => size e

/-- How many nodes a list of arguments has. -/
def sizeArgs : List Expr → Nat
  | [] => 0
  | e :: es => size e + sizeArgs es

end

theorem sizeArgs_append (l l' : List Expr) : sizeArgs (l ++ l') = sizeArgs l + sizeArgs l' := by
  induction l with
  | nil => simp [sizeArgs]
  | cons e l ih => simp [sizeArgs, ih]; omega

/-- A node is one more than its children. -/
theorem size_eq (e : Expr) : e.size = sizeArgs e.children + 1 := by
  cases e with
  | aggregate op g param body => cases param <;> simp [size, sizeParam, sizeArgs, children]
  | _ => simp [size, sizeArgs, children]

end Expr

/-- A traversal in progress: the nodes whose subtrees are still to be visited, the next one
first. -/
structure Walk where
  pending : List Expr

namespace Walk

/-- How many nodes are still to be visited. -/
def remaining (w : Walk) : Nat := Expr.sizeArgs w.pending

/-- The next node, and the traversal after it: its children come before all that was pending. -/
def next? (w : Walk) : Option (Expr × Walk) :=
  match w.pending with
  | [] => none
  | e :: rest => some (e, ⟨e.children ++ rest⟩)

theorem remaining_next? {w w' : Walk} {e : Expr} (h : w.next? = some (e, w')) :
    w'.remaining + 1 = w.remaining := by
  obtain ⟨pending⟩ := w
  cases pending with
  | nil => simp [next?] at h
  | cons a rest =>
    simp only [next?, Option.some.injEq, Prod.mk.injEq] at h
    obtain ⟨rfl, rfl⟩ := h
    simp [remaining, Expr.sizeArgs_append, Expr.sizeArgs, Expr.size_eq a]
    omega

/-- All nodes that the traversal still visits, in order. -/
def toList (w : Walk) : List Expr :=
  match _ : w.next? with
  | none => []
  | some (e, w') => e :: toList w'
termination_by w.remaining
decreasing_by
  rename_i h
  have := remaining_next? h
  omega

/-- The nodes of the next `n` steps, and the traversal after them. -/
def advance : Nat → Walk → List Expr × Walk
  | 0, w => ([], w)
  | n + 1, w =>
    match w.next? with
    | none => ([], w)
    | some (e, w') =>
      let (es, w'') := advance n w'
      (e :: es, w'')

end Walk

/-- The traversal of a tree from its root. -/
def Expr.walk (e : Expr) : Walk := ⟨[e]⟩

end QueryPolicy
