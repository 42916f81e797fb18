import QueryPolicy.Proofs.Number.Value
import QueryPolicy.Proofs.Policy.Meaning

/-!
# Equality of trees by value

Two trees are equal when they are the same up to the signs of zeros and neither holds a
not-a-number. So equality is symmetric and transitive, a tree equals itself unless it holds a
not-a-number, and what does not look at numbers cannot tell equal trees apart.
-/

namespace QueryPolicy

namespace Binary64

/-- The number itself, and the positive zero for both zeros. -/
def canonical (x : Binary64) : Binary64 := if x.isZero then ⟨0⟩ else x

theorem isZero_canonical (x : Binary64) : x.canonical.isZero = x.isZero := by
  rw [canonical]
  split
  · rename_i h
    rw [h]
    rfl
  · rfl

theorem canonical_eq_iff {x y : Binary64} :
    x.canonical = y.canonical ↔ x = y ∨ (x.isZero = true ∧ y.isZero = true) := by
  constructor
  · intro h
    have hzero : x.isZero = y.isZero := by rw [← isZero_canonical, h, isZero_canonical]
    cases hx : x.isZero with
    | true => exact Or.inr ⟨rfl, by rw [← hzero, hx]⟩
    | false =>
        simp only [canonical, ← hzero, hx] at h
        exact Or.inl h
  · rintro (rfl | ⟨hx, hy⟩)
    · rfl
    · rw [canonical, canonical, hx, hy]
      rfl

theorem valueEq_iff (x y : Binary64) :
    x.valueEq y = true ↔ x.canonical = y.canonical ∧ x.isNaN = false ∧ y.isNaN = false := by
  rw [canonical_eq_iff, valueEq]
  cases x.isNaN <;> cases y.isNaN <;> simp

end Binary64

namespace Expr

mutual

/-- The tree with each zero replaced by the positive one. -/
def canonical : Expr → Expr
  | aggregate op g param body => aggregate op g (canonicalParam param) (canonical body)
  | binary op lhs rhs => binary op (canonical lhs) (canonical rhs)
  | unary operand => unary (canonical operand)
  | paren inner => paren (canonical inner)
  | call name args => call name (canonicalArgs args)
  | subquery inner range step => subquery (canonical inner) range step
  | vector s => vector s
  | matrix s range => matrix s range
  | number x => number x.canonical
  | string s => string s

def canonicalParam : Option Expr → Option Expr
  | none => none
  | some e => some (canonical e)

def canonicalArgs : List Expr → List Expr
  | [] => []
  | e :: es => canonical e :: canonicalArgs es

end

/-- Whether a node is a literal that is a not-a-number. -/
def isNaN : Expr → Bool
  | number x => x.isNaN
  | _ => false

/-- None of the nodes is a literal that is a not-a-number. -/
def NoNaN (ns : List Expr) : Prop := ∀ n ∈ ns, n.isNaN = false

@[simp] theorem noNaN_nil : NoNaN [] := List.forall_mem_nil _

@[simp] theorem noNaN_cons {n : Expr} {ns : List Expr} :
    NoNaN (n :: ns) ↔ n.isNaN = false ∧ NoNaN ns :=
  List.forall_mem_cons

@[simp] theorem noNaN_append {ns ns' : List Expr} :
    NoNaN (ns ++ ns') ↔ NoNaN ns ∧ NoNaN ns' :=
  List.forall_mem_append

mutual

/-- Trees are equal when they have the same canonical form and hold no not-a-number. -/
theorem valueEq_iff : (a b : Expr) →
    (a.valueEq b = true ↔ a.canonical = b.canonical ∧ NoNaN a.preorder ∧ NoNaN b.preorder)
  | aggregate op g param body, b => by
      cases b with
      | aggregate op' g' param' body' =>
          simp only [valueEq, canonical, preorder, isNaN, Bool.and_eq_true, beq_iff_eq,
            aggregate.injEq, noNaN_cons, noNaN_append, true_and, valueEqParam_iff param param',
            valueEq_iff body body']
          tauto
      | _ => simp [valueEq, canonical]
  | binary op lhs rhs, b => by
      cases b with
      | binary op' lhs' rhs' =>
          simp only [valueEq, canonical, preorder, isNaN, Bool.and_eq_true, beq_iff_eq,
            binary.injEq, noNaN_cons, noNaN_append, true_and, valueEq_iff lhs lhs',
            valueEq_iff rhs rhs']
          tauto
      | _ => simp [valueEq, canonical]
  | unary a, b => by
      cases b with
      | unary b => simp [valueEq, canonical, preorder, isNaN, valueEq_iff a b]
      | _ => simp [valueEq, canonical]
  | paren a, b => by
      cases b with
      | paren b => simp [valueEq, canonical, preorder, isNaN, valueEq_iff a b]
      | _ => simp [valueEq, canonical]
  | call name args, b => by
      cases b with
      | call name' args' =>
          simp [valueEq, canonical, preorder, isNaN, valueEqArgs_iff args args', and_assoc]
      | _ => simp [valueEq, canonical]
  | subquery a range step, b => by
      cases b with
      | subquery b range' step' =>
          simp only [valueEq, canonical, preorder, isNaN, Bool.and_eq_true, beq_iff_eq,
            subquery.injEq, noNaN_cons, true_and, valueEq_iff a b]
          tauto
      | _ => simp [valueEq, canonical]
  | vector s, b => by cases b <;> simp [valueEq, canonical, preorder, isNaN]
  | matrix s range, b => by cases b <;> simp [valueEq, canonical, preorder, isNaN]
  | number x, b => by
      cases b with
      | number y => simp [valueEq, canonical, preorder, isNaN, Binary64.valueEq_iff]
      | _ => simp [valueEq, canonical]
  | string s, b => by cases b <;> simp [valueEq, canonical, preorder, isNaN]

theorem valueEqParam_iff : (a b : Option Expr) →
    (valueEqParam a b = true ↔ canonicalParam a = canonicalParam b ∧
      NoNaN (preorderParam a) ∧ NoNaN (preorderParam b))
  | none, b => by cases b <;> simp [valueEqParam, canonicalParam, preorderParam]
  | some a, b => by
      cases b with
      | none => simp [valueEqParam, canonicalParam]
      | some b => simp [valueEqParam, canonicalParam, preorderParam, valueEq_iff a b]

theorem valueEqArgs_iff : (as bs : List Expr) →
    (valueEqArgs as bs = true ↔ canonicalArgs as = canonicalArgs bs ∧
      NoNaN (preorderArgs as) ∧ NoNaN (preorderArgs bs))
  | [], bs => by cases bs <;> simp [valueEqArgs, canonicalArgs, preorderArgs]
  | a :: as, bs => by
      cases bs with
      | nil => simp [valueEqArgs, canonicalArgs]
      | cons b bs =>
          simp only [valueEqArgs, canonicalArgs, preorderArgs, Bool.and_eq_true, List.cons.injEq,
            noNaN_append, valueEq_iff a b, valueEqArgs_iff as bs]
          tauto

end

theorem noNaN_preorder {e : Expr} :
    NoNaN e.preorder ↔ ∀ p x, e.at? p = some (.number x) → x.isNaN = false := by
  constructor
  · intro h p x hx
    exact h _ (mem_preorder.2 ⟨p, hx⟩)
  · intro h n hn
    obtain ⟨p, hp⟩ := mem_preorder.1 hn
    cases n with
    | number x => exact h p x hp
    | _ => rfl

/-! ## Nodes of equal trees -/

theorem valueEqArgs_children {a b : Expr} (h : a.valueEq b = true) :
    valueEqArgs a.children b.children = true := by
  fun_cases valueEq a b with
  | case1 op g param body op' g' param' body' =>
      simp only [valueEq, Bool.and_eq_true] at h
      obtain ⟨⟨-, hparam⟩, hbody⟩ := h
      cases param <;> cases param' <;> simp_all [valueEqParam, children, valueEqArgs]
  | _ => simp_all [valueEq, children, valueEqArgs]

theorem valueEqArgs_iff_forall₂ {es es' : List Expr} :
    valueEqArgs es es' = true ↔ List.Forall₂ (fun a b => a.valueEq b = true) es es' := by
  induction es generalizing es' with
  | nil => cases es' <;> simp [valueEqArgs]
  | cons e es ih => cases es' <;> simp [valueEqArgs, ih]

theorem forall₂_preorderArgs {R : Expr → Expr → Prop} {es es' : List Expr}
    (h : List.Forall₂ R es es')
    (hnodes : ∀ c ∈ es, ∀ d, R c d → List.Forall₂ R c.preorder d.preorder) :
    List.Forall₂ R (preorderArgs es) (preorderArgs es') := by
  induction h with
  | nil => exact .nil
  | cons hcd _ ih =>
      rw [preorderArgs, preorderArgs]
      exact List.rel_append (hnodes _ List.mem_cons_self _ hcd)
        (ih fun c hc => hnodes c (List.mem_cons_of_mem _ hc))

/-- Equal trees have equal nodes at the same places of their pre-orders. -/
theorem forall₂_preorder {a b : Expr} (h : a.valueEq b = true) :
    List.Forall₂ (fun m n => m.valueEq n = true) a.preorder b.preorder := by
  -- The children of one tree are compared with those of the other, so the second tree must vary.
  induction a using children_induction generalizing b with
  | step a ih =>
      rw [preorder_eq a, preorder_eq b]
      refine .cons h (forall₂_preorderArgs (valueEqArgs_iff_forall₂.1 (valueEqArgs_children h)) ?_)
      exact fun c hc d hcd => ih c hc hcd

/-! ## The skeleton -/

mutual

theorem skeleton_canonical : (e : Expr) → e.canonical.skeleton = e.skeleton
  | aggregate op g param body => by
      rw [canonical, skeleton, skeleton, skeletonParam_canonical param, skeleton_canonical body]
  | binary op lhs rhs => by
      rw [canonical, skeleton, skeleton, skeleton_canonical lhs, skeleton_canonical rhs]
  | unary operand => by rw [canonical, skeleton, skeleton, skeleton_canonical operand]
  | paren inner => by rw [canonical, skeleton, skeleton, skeleton_canonical inner]
  | call name args => by rw [canonical, skeleton, skeleton, skeletonArgs_canonical args]
  | subquery inner range step => by rw [canonical, skeleton, skeleton, skeleton_canonical inner]
  | vector s => by rw [canonical]
  | matrix s range => by rw [canonical]
  | number x => by rw [canonical, skeleton, skeleton]
  | string s => by rw [canonical]

theorem skeletonParam_canonical : (o : Option Expr) →
    skeletonParam (canonicalParam o) = skeletonParam o
  | none => rfl
  | some e => by rw [canonicalParam, skeletonParam, skeletonParam, skeleton_canonical e]

theorem skeletonArgs_canonical : (es : List Expr) →
    skeletonArgs (canonicalArgs es) = skeletonArgs es
  | [] => rfl
  | e :: es => by
      rw [canonicalArgs, skeletonArgs, skeletonArgs, skeleton_canonical e,
        skeletonArgs_canonical es]

end

theorem skeleton_eq_of_valueEq {a b : Expr} (h : a.valueEq b = true) : a.skeleton = b.skeleton := by
  rw [← skeleton_canonical a, ((valueEq_iff a b).1 h).1, skeleton_canonical b]

/-- Equality of numbers is equality of what they stand for. Equality of trees is symmetric and
transitive, and a tree equals itself exactly when no number literal at any position is a
not-a-number. Traversals of equal trees yield equal nodes one by one, and every validator gives
equal trees the same answer. -/
theorem valueEq_respected_partial_equivalence :
    (∀ x y, valueEq (.number x) (.number y) = true ↔
      ∃ a, x.value? = some a ∧ y.value? = some a) ∧
    (∀ a b, valueEq a b = true → valueEq b a = true) ∧
    (∀ a b c, valueEq a b = true → valueEq b c = true → valueEq a c = true) ∧
    (∀ a, valueEq a a = true ↔ ∀ p x, a.at? p = some (.number x) → x.isNaN = false) ∧
    ∀ a b, valueEq a b = true →
      List.Forall₂ (fun m n => valueEq m n = true) a.walk.toList b.walk.toList ∧
      ∀ v : Validator, v.check a = v.check b := by
  refine ⟨fun x y => ?_, fun a b h => ?_, fun a b c h h' => ?_, fun a => ?_, fun a b h => ⟨?_, ?_⟩⟩
  · rw [valueEq, Binary64.valueEq_iff_value?]
  · obtain ⟨hform, ha, hb⟩ := (valueEq_iff a b).1 h
    exact (valueEq_iff b a).2 ⟨hform.symm, hb, ha⟩
  · obtain ⟨hform, ha, -⟩ := (valueEq_iff a b).1 h
    obtain ⟨hform', -, hc⟩ := (valueEq_iff b c).1 h'
    exact (valueEq_iff a c).2 ⟨hform.trans hform', ha, hc⟩
  · rw [valueEq_iff, noNaN_preorder, and_self, eq_self, true_and]
  · rw [toList_walk, toList_walk]
    exact forall₂_preorder h
  · exact Validator.check_eq_of_skeleton_eq (skeleton_eq_of_valueEq h)

/-- `topk(0, x) + 1` and `topk(-0, x) + 1` are different trees that nothing tells apart, and a
not-a-number in place of the zero makes a tree differ from itself. -/
theorem valueEq_respected_partial_equivalence_topk :
    let query (x : Binary64) : Expr := .binary "+"
      (.aggregate "topk" none (some (.number x)) (.vector ⟨some "x", [], []⟩))
      (.number ⟨0x3ff0000000000000⟩)
    let zero : Binary64 := ⟨0⟩
    let negativeZero : Binary64 := ⟨0x8000000000000000⟩
    query zero ≠ query negativeZero ∧ valueEq (query zero) (query negativeZero) = true ∧
      valueEq (query negativeZero) (query zero) = true ∧
      (∀ v : Validator, v.check (query zero) = v.check (query negativeZero)) ∧
      ¬ valueEq (query .nan) (query .nan) = true := by
  intro query zero negativeZero
  have hequal : valueEq (query zero) (query negativeZero) = true := by decide
  obtain ⟨-, hsymm, -, hself, hrespects⟩ := valueEq_respected_partial_equivalence
  refine ⟨by simp [query, zero, negativeZero], hequal, hsymm _ _ hequal, (hrespects _ _ hequal).2,
    fun h => ?_⟩
  have hnan : Binary64.nan.isNaN = false := (hself (query .nan)).1 h [0, 0] .nan rfl
  revert hnan
  decide

end Expr

end QueryPolicy
