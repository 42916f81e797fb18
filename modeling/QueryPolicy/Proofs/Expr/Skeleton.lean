import Mathlib.Logic.Relation
import QueryPolicy.Proofs.Expr.Context
import QueryPolicy.Proofs.NameSet

/-!
# Skeletons

The skeleton of a tree keeps its calls, the matchers of its selectors and its aggregations, and
drops all else. In pre-order it lists what the tree itself shows at its calls, selectors and
aggregations. Changes of the tree that leave its skeleton alone can be made anywhere in it, any
number of times.
-/

namespace QueryPolicy

/-- A call, the matchers of a selector, or an aggregation with the set of its labels; each with the
skeletons of what is inside it. -/
inductive Mark
  | call (name : String) (args : List Mark)
  | selector (matchers : List LabelMatcher)
  | aggregation (op : String) (labels : NameSet) (param body : List Mark)

namespace Mark

mutual

def preorder : Mark → List Mark
  | m@(call _ args) => m :: preorderAll args
  | m@(selector _) => [m]
  | m@(aggregation _ _ param body) => m :: (preorderAll param ++ preorderAll body)

def preorderAll : List Mark → List Mark
  | [] => []
  | m :: ms => preorder m ++ preorderAll ms

end

theorem preorderAll_append (ms ms' : List Mark) :
    preorderAll (ms ++ ms') = preorderAll ms ++ preorderAll ms' := by
  induction ms with
  | nil => simp [preorderAll]
  | cons m ms ih => simp [preorderAll, ih]

end Mark

namespace Expr

mutual

/-- What carries meaning for policies, in source order. -/
def skeleton : Expr → List Mark
  | aggregate op g param body =>
    [.aggregation op (Grouping.labelSet g) (skeletonParam param) (skeleton body)]
  | binary _ lhs rhs => skeleton lhs ++ skeleton rhs
  | unary operand => skeleton operand
  | paren inner => skeleton inner
  | call name args => [.call name (skeletonArgs args)]
  | vector s => [.selector s.allMatchers]
  | matrix s _ => [.selector s.allMatchers]
  | subquery inner _ _ => skeleton inner
  | number _ => []
  | string _ => []

/-- The skeleton of an optional parameter. -/
def skeletonParam : Option Expr → List Mark
  | none => []
  | some e => skeleton e

/-- The skeletons of a list of arguments, one after the other. -/
def skeletonArgs : List Expr → List Mark
  | [] => []
  | e :: es => skeleton e ++ skeletonArgs es

end

/-! ## The skeleton in pre-order -/

/-- What a node by itself contributes to a skeleton. -/
def mark? : Expr → Option Mark
  | aggregate op g param body =>
    some (.aggregation op (Grouping.labelSet g) (skeletonParam param) (skeleton body))
  | call name args => some (.call name (skeletonArgs args))
  | vector s => some (.selector s.allMatchers)
  | matrix s _ => some (.selector s.allMatchers)
  | _ => none

theorem skeleton_of_mark?_eq_none {e : Expr} (h : e.mark? = none) :
    e.skeleton = skeletonArgs e.children := by
  cases e with
  | aggregate _ _ _ _ | call _ _ | vector _ | matrix _ _ => cases h
  | _ => simp [skeleton, skeletonArgs, children]

theorem skeleton_of_mark?_eq_some {e : Expr} {m : Mark} (h : e.mark? = some m) :
    e.skeleton = [m] := by
  cases e with
  | aggregate _ _ _ _ | call _ _ | vector _ | matrix _ _ =>
      cases h
      rw [skeleton]
  | _ => cases h

theorem preorder_of_mark?_eq_some {e : Expr} {m : Mark} (h : e.mark? = some m) :
    m.preorder = m :: Mark.preorderAll (skeletonArgs e.children) := by
  cases e with
  | aggregate op g param body =>
      cases h
      cases param <;>
        simp [Mark.preorder, Mark.preorderAll, Mark.preorderAll_append, skeletonArgs, skeletonParam,
          children]
  | call _ _ | vector _ | matrix _ _ =>
      cases h
      simp [Mark.preorder, Mark.preorderAll, skeletonArgs, children]
  | _ => cases h

theorem preorderAll_skeletonArgs {es : List Expr}
    (h : ∀ c ∈ es, Mark.preorderAll c.skeleton = c.preorder.filterMap mark?) :
    Mark.preorderAll (skeletonArgs es) = (preorderArgs es).filterMap mark? := by
  induction es with
  | nil => simp [skeletonArgs, Mark.preorderAll, preorderArgs]
  | cons e es ih =>
      rw [skeletonArgs, preorderArgs, Mark.preorderAll_append, List.filterMap_append,
        h e (by simp), ih fun c hc => h c (by simp [hc])]

/-- The skeleton shows the marks of the nodes, in the order in which the nodes are visited. -/
theorem preorderAll_skeleton (e : Expr) :
    Mark.preorderAll e.skeleton = e.preorder.filterMap mark? := by
  induction e using children_induction with
  | step e ih =>
      have hchildren := preorderAll_skeletonArgs ih
      -- A node without a mark hands on the skeletons of its children, any other keeps them inside.
      rw [preorder_eq, List.filterMap_cons]
      cases hmark : e.mark? with
      | none => rw [skeleton_of_mark?_eq_none hmark, hchildren]
      | some m =>
          rw [skeleton_of_mark?_eq_some hmark, Mark.preorderAll, Mark.preorderAll, List.append_nil,
            preorder_of_mark?_eq_some hmark, hchildren]

end Expr

/-! ## Changes that leave the skeleton alone -/

theorem Expr.skeletonArgs_append (es es' : List Expr) :
    skeletonArgs (es ++ es') = skeletonArgs es ++ skeletonArgs es' := by
  induction es with
  | nil => simp [skeletonArgs]
  | cons e es ih => simp [skeletonArgs, ih]

theorem Frame.skeleton_fill {f : Frame} {x y : Expr} (h : x.skeleton = y.skeleton) :
    (f.fill x).skeleton = (f.fill y).skeleton := by
  cases f <;>
    simp [fill, Expr.skeleton, Expr.skeletonParam, Expr.skeletonArgs, Expr.skeletonArgs_append, h]

theorem Context.skeleton_fill {C : Context} {x y : Expr} (h : x.skeleton = y.skeleton) :
    (C.fill x).skeleton = (C.fill y).skeleton := by
  induction C with
  | nil => exact h
  | cons f C ih => exact Frame.skeleton_fill ih

/-- A change at the root of a tree: of parentheses, signs, subqueries, operators and their
association, literals, metric names, the boundaries of `or` groups, ranges, and of the kind, the
order and the repetitions of grouping labels. -/
inductive Rephrasing : Expr → Expr → Prop
  | paren (e : Expr) : Rephrasing (.paren e) e
  | sign (e : Expr) : Rephrasing (.unary e) e
  | subquery (e : Expr) (range : Duration) (step : Option Duration) :
      Rephrasing (.subquery e range step) e
  | operator (op op' : String) (lhs rhs : Expr) :
      Rephrasing (.binary op lhs rhs) (.binary op' lhs rhs)
  | association (op op' : String) (a b c : Expr) :
      Rephrasing (.binary op (.binary op' a b) c) (.binary op' a (.binary op b c))
  | literal (x : Binary64) (s : String) : Rephrasing (.number x) (.string s)
  | selector (s s' : Selector) (h : s.allMatchers = s'.allMatchers) :
      Rephrasing (.vector s) (.vector s')
  | range (s : Selector) (range : Duration) : Rephrasing (.matrix s range) (.vector s)
  | clause (op : String) (g g' : Option Grouping) (param : Option Expr) (body : Expr)
      (h : ∀ x, x ∈ Grouping.listed g ↔ x ∈ Grouping.listed g') :
      Rephrasing (.aggregate op g param body) (.aggregate op g' param body)

theorem Rephrasing.skeleton_eq {x y : Expr} (h : Rephrasing x y) : x.skeleton = y.skeleton := by
  cases h with
  | clause op g g' param body h =>
      have hlabels : Grouping.labelSet g = Grouping.labelSet g' :=
        NameSet.ext fun x => by rw [Grouping.mem_labelSet, Grouping.mem_labelSet, h x]
      simp [Expr.skeleton, hlabels]
  | selector s s' h => simp [Expr.skeleton, h]
  | _ => simp [Expr.skeleton]

/-- A change somewhere in a tree. -/
def Rephrased (e e' : Expr) : Prop :=
  ∃ (C : Context) (x y : Expr), Rephrasing x y ∧ e = C.fill x ∧ e' = C.fill y

/-- Any number of changes, made or taken back, keep the skeleton. -/
theorem skeleton_eq_of_rephrased {e e' : Expr} (h : Relation.EqvGen Rephrased e e') :
    e.skeleton = e'.skeleton := by
  induction h with
  | rel _ _ h =>
      obtain ⟨C, x, y, hxy, rfl, rfl⟩ := h
      exact Context.skeleton_fill hxy.skeleton_eq
  | refl _ => rfl
  | symm _ _ _ ih => exact ih.symm
  | trans _ _ _ _ _ ih ih' => exact ih.trans ih'

end QueryPolicy
