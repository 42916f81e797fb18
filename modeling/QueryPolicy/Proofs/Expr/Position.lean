import Mathlib.Data.List.Lex
import QueryPolicy.Expr.Walk

/-!
# Positions

A position is the list of child indices that leads from the root of a tree to a node. Pre-order
lists the nodes of a tree by strictly ascending position, in lexicographic order, so the first node
that it finds for a question is the one with the least position.
-/

namespace QueryPolicy

/-- The child indices that lead from the root of a tree to a node. -/
abbrev Position := List Nat

namespace Expr

/-- The node at a position, if the tree has that position. -/
def at? : Expr → Position → Option Expr
  | e, [] => some e
  | e, i :: p => e.children[i]?.bind (at? · p)

theorem at?_append (e : Expr) (p q : Position) : e.at? (p ++ q) = (e.at? p).bind (·.at? q) := by
  induction p generalizing e with
  | nil => rfl
  | cons i p ih =>
      rw [List.cons_append, at?, at?, Option.bind_assoc]
      exact congrArg (e.children[i]?.bind ·) (funext ih)

mutual

/-- The positions of a tree, in pre-order. -/
def positions : Expr → List Position
  | aggregate _ _ param body =>
    [] :: (positionsParam param ++ (positions body).map (List.cons param.toList.length))
  | binary _ lhs rhs =>
    [] :: ((positions lhs).map (List.cons 0) ++ (positions rhs).map (List.cons 1))
  | unary operand => [] :: (positions operand).map (List.cons 0)
  | paren inner => [] :: (positions inner).map (List.cons 0)
  | call _ args => [] :: positionsFrom 0 args
  | subquery inner _ _ => [] :: (positions inner).map (List.cons 0)
  | vector _ => [[]]
  | matrix _ _ => [[]]
  | number _ => [[]]
  | string _ => [[]]

/-- The positions inside an optional parameter. -/
def positionsParam : Option Expr → List Position
  | none => []
  | some e => (positions e).map (List.cons 0)

/-- The positions inside neighbouring children, of which the first has the index `i`. -/
def positionsFrom (i : Nat) : List Expr → List Position
  | [] => []
  | e :: es => (positions e).map (List.cons i) ++ positionsFrom (i + 1) es

end

/-! ## The view by children -/

theorem preorder_eq (e : Expr) : e.preorder = e :: preorderArgs e.children := by
  cases e with
  | aggregate op g param body =>
      cases param <;> simp [preorder, preorderParam, preorderArgs, children]
  | _ => simp [preorder, preorderArgs, children]

theorem positions_eq (e : Expr) : e.positions = [] :: positionsFrom 0 e.children := by
  cases e with
  | aggregate op g param body =>
      cases param <;> simp [positions, positionsParam, positionsFrom, children]
  | _ => simp [positions, positionsFrom, children]

theorem preorderArgs_append (l l' : List Expr) :
    preorderArgs (l ++ l') = preorderArgs l ++ preorderArgs l' := by
  induction l with
  | nil => simp [preorderArgs]
  | cons e l ih => simp [preorderArgs, ih]

theorem size_le_sizeArgs {c : Expr} {es : List Expr} (h : c ∈ es) : c.size ≤ sizeArgs es := by
  induction es with
  | nil => cases h
  | cons e es ih =>
      simp only [sizeArgs]
      rcases List.mem_cons.1 h with rfl | h
      · omega
      · have := ih h
        omega

theorem size_lt_of_mem_children {c e : Expr} (h : c ∈ e.children) : c.size < e.size := by
  have := size_le_sizeArgs h
  rw [size_eq e]
  omega

/-- What holds of a tree as soon as it holds of its children holds of every tree. -/
@[elab_as_elim]
theorem children_induction {motive : Expr → Prop}
    (step : ∀ e, (∀ c ∈ e.children, motive c) → motive e) (e : Expr) : motive e :=
  step e fun c _ => children_induction step c
termination_by e.size
decreasing_by exact size_lt_of_mem_children ‹_›

/-! ## Positions are listed in order -/

theorem mem_positionsFrom {p : Position} {i : Nat} {es : List Expr} :
    p ∈ positionsFrom i es ↔ ∃ j c q, es[j]? = some c ∧ q ∈ c.positions ∧ p = (i + j) :: q := by
  induction es generalizing i with
  | nil => simp [positionsFrom]
  | cons e es ih =>
      simp only [positionsFrom, List.mem_append, List.mem_map, ih]
      constructor
      · rintro (⟨q, hq, rfl⟩ | ⟨j, c, q, hc, hq, rfl⟩)
        · exact ⟨0, e, q, rfl, hq, rfl⟩
        · exact ⟨j + 1, c, q, hc, hq, by rw [Nat.add_right_comm, Nat.add_assoc]⟩
      · rintro ⟨j, c, q, hc, hq, rfl⟩
        cases j with
        | zero => cases hc; exact Or.inl ⟨q, hq, rfl⟩
        | succ j => exact Or.inr ⟨j, c, q, hc, hq, by rw [Nat.add_right_comm, Nat.add_assoc]⟩

theorem cons_mem_positions {i : Nat} {p : Position} {e : Expr} :
    i :: p ∈ e.positions ↔ ∃ c, e.children[i]? = some c ∧ p ∈ c.positions := by
  rw [positions_eq, List.mem_cons, mem_positionsFrom]
  constructor
  · rintro (h | ⟨j, c, q, hc, hq, h⟩)
    · cases h
    · rw [Nat.zero_add, List.cons.injEq] at h
      obtain ⟨rfl, rfl⟩ := h
      exact ⟨c, hc, hq⟩
  · rintro ⟨c, hc, hp⟩
    exact Or.inr ⟨i, c, p, hc, hp, by rw [Nat.zero_add]⟩

/-- The listed positions are those that lead to a node. -/
theorem mem_positions {p : Position} {e : Expr} : p ∈ e.positions ↔ (e.at? p).isSome := by
  induction p generalizing e with
  | nil => simp [positions_eq, at?]
  | cons i p ih =>
      rw [cons_mem_positions, at?]
      cases e.children[i]? with
      | none => simp
      | some c => simp [ih]

theorem pairwise_map_cons {i : Nat} {ps : List Position} (h : ps.Pairwise (· < ·)) :
    (ps.map (List.cons i)).Pairwise (· < ·) := by
  rw [List.pairwise_map]
  exact h.imp fun hlt => List.cons_lt_cons_iff.2 (Or.inr ⟨rfl, hlt⟩)

theorem pairwise_positionsFrom {i : Nat} {es : List Expr}
    (h : ∀ c ∈ es, c.positions.Pairwise (· < ·)) : (positionsFrom i es).Pairwise (· < ·) := by
  induction es generalizing i with
  | nil => simp [positionsFrom]
  | cons e es ih =>
      rw [positionsFrom, List.pairwise_append]
      refine ⟨pairwise_map_cons (h e (by simp)), ih fun c hc => h c (by simp [hc]), ?_⟩
      intro p hp q hq
      obtain ⟨p', -, rfl⟩ := List.mem_map.1 hp
      obtain ⟨j, -, q', -, -, rfl⟩ := mem_positionsFrom.1 hq
      exact List.cons_lt_cons_iff.2 (Or.inl (by omega))

/-- Pre-order is the lexicographic order of positions. -/
theorem pairwise_positions (e : Expr) : e.positions.Pairwise (· < ·) := by
  induction e using children_induction with
  | step e ih =>
      rw [positions_eq, List.pairwise_cons]
      refine ⟨fun p hp => ?_, pairwise_positionsFrom ih⟩
      obtain ⟨j, c, q, -, -, rfl⟩ := mem_positionsFrom.1 hp
      exact List.nil_lt_cons _ _

/-! ## The nodes at the positions -/

theorem map_positionsFrom {node : Position → Option Expr} {i : Nat} {es : List Expr}
    (hnode : ∀ j c q, es[j]? = some c → node ((i + j) :: q) = c.at? q)
    (h : ∀ c ∈ es, c.positions.map c.at? = c.preorder.map some) :
    (positionsFrom i es).map node = (preorderArgs es).map some := by
  -- The lookup stays open: in the induction the first child is no longer the one with index 0.
  induction es generalizing i with
  | nil => simp [positionsFrom, preorderArgs]
  | cons e es ih =>
      have hfirst : (e.positions.map (List.cons i)).map node = e.preorder.map some := by
        rw [List.map_map, ← h e (by simp)]
        exact List.map_congr_left fun q _ => hnode 0 e q rfl
      have hrest : (positionsFrom (i + 1) es).map node = (preorderArgs es).map some := by
        refine ih (fun j c q hc => ?_) fun c hc => h c (by simp [hc])
        rw [Nat.add_right_comm, Nat.add_assoc]
        exact hnode (j + 1) c q hc
      rw [positionsFrom, preorderArgs, List.map_append, List.map_append, hfirst, hrest]

/-- Pre-order visits the node of each position, one position after the other. -/
theorem map_at?_positions (e : Expr) : e.positions.map e.at? = e.preorder.map some := by
  induction e using children_induction with
  | step e ih =>
      have hchildren :
          (positionsFrom 0 e.children).map e.at? = (preorderArgs e.children).map some := by
        refine map_positionsFrom (fun j c q hc => ?_) ih
        rw [Nat.zero_add, at?, hc, Option.bind_some]
      rw [positions_eq, preorder_eq, List.map_cons, List.map_cons, hchildren, at?]

/-- Pre-order visits the nodes at all positions. -/
theorem mem_preorder {n e : Expr} : n ∈ e.preorder ↔ ∃ p, e.at? p = some n := by
  have hsome : n ∈ e.preorder ↔ some n ∈ e.positions.map e.at? := by
    rw [map_at?_positions, List.mem_map]
    simp
  rw [hsome, List.mem_map]
  constructor
  · rintro ⟨p, -, hp⟩
    exact ⟨p, hp⟩
  · rintro ⟨p, hp⟩
    exact ⟨p, mem_positions.2 (by rw [hp]; rfl), hp⟩

/-! ## The first node with an answer -/

theorem findSome?_of_pairwise_lt {α : Type} {ps : List Position} {f : Position → Option α} {a : α}
    (hps : ps.Pairwise (· < ·)) (h : ps.findSome? f = some a) :
    ∃ p ∈ ps, f p = some a ∧ ∀ q ∈ ps, (f q).isSome → p ≤ q := by
  obtain ⟨before, p, after, rfl, hp, hbefore⟩ := List.findSome?_eq_some_iff.1 h
  refine ⟨p, by simp, hp, fun q hq hsome => ?_⟩
  have hafter : ∀ q ∈ after, p < q := (List.pairwise_cons.1 (List.pairwise_append.1 hps).2.1).1
  rcases List.mem_append.1 hq with hq | hq
  · rw [hbefore q hq] at hsome
    cases hsome
  · rcases List.mem_cons.1 hq with rfl | hq
    · exact le_refl q
    · exact le_of_lt (hafter q hq)

theorem findSome?_preorder {α : Type} (e : Expr) (f : Expr → Option α) :
    e.preorder.findSome? f = e.positions.findSome? fun p => (e.at? p).bind f := by
  have hnodes : (e.preorder.map some).findSome? (·.bind f) = e.preorder.findSome? f := by
    rw [List.findSome?_map]
    rfl
  rw [← hnodes, ← map_at?_positions, List.findSome?_map]
  rfl

/-- Nothing is found exactly when no node has an answer. -/
theorem findSome?_preorder_eq_none {α : Type} {e : Expr} {f : Expr → Option α} :
    e.preorder.findSome? f = none ↔ ∀ p n, e.at? p = some n → f n = none := by
  rw [findSome?_preorder, List.findSome?_eq_none_iff]
  constructor
  · intro h p n hn
    have := h p (mem_positions.2 (by rw [hn]; rfl))
    rwa [hn] at this
  · intro h p _
    cases hn : e.at? p with
    | none => rfl
    | some n => exact h p n hn

/-- What is found is the answer of the node with the least position among those that have one. -/
theorem exists_of_findSome?_preorder {α : Type} {e : Expr} {f : Expr → Option α} {a : α}
    (h : e.preorder.findSome? f = some a) :
    ∃ p n, e.at? p = some n ∧ f n = some a ∧
      ∀ q m, e.at? q = some m → (f m).isSome → p ≤ q := by
  rw [findSome?_preorder] at h
  obtain ⟨p, -, hp, hleast⟩ := findSome?_of_pairwise_lt (pairwise_positions e) h
  obtain ⟨n, hn, hfn⟩ := Option.bind_eq_some_iff.1 hp
  refine ⟨p, n, hn, hfn, fun q m hm hsome => hleast q (mem_positions.2 (by rw [hm]; rfl)) ?_⟩
  rw [hm]
  exact hsome

end Expr

end QueryPolicy
