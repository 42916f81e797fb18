import QueryPolicy.Proofs.Expr.Position

/-!
# Traversals visit in pre-order

The nodes that a traversal holds are a forest, and what it still visits is the pre-order of that
forest. A step takes the first node of this list away, so after any number of calls the rest of the
traversal is known. Calls to several traversals do not disturb each other.
-/

namespace QueryPolicy

namespace Walk

/-! ## One step -/

theorem next?_eq_none {w : Walk} : w.next? = none ↔ w.pending = [] := by
  obtain ⟨pending⟩ := w
  cases pending <;> simp [next?]

theorem next?_eq_some {w w' : Walk} {e : Expr} :
    w.next? = some (e, w') ↔ ∃ rest, w.pending = e :: rest ∧ w' = ⟨e.children ++ rest⟩ := by
  obtain ⟨pending⟩ := w
  cases pending with
  | nil => simp [next?]
  | cons a rest =>
      simp only [next?, Option.some.injEq, Prod.mk.injEq, List.cons.injEq]
      constructor
      · rintro ⟨rfl, rfl⟩
        exact ⟨rest, ⟨rfl, rfl⟩, rfl⟩
      · rintro ⟨_, ⟨rfl, rfl⟩, rfl⟩
        exact ⟨rfl, rfl⟩

/-- A step takes the first node away from the pre-order of the pending forest. -/
theorem preorderArgs_next? {w w' : Walk} {e : Expr} (h : w.next? = some (e, w')) :
    Expr.preorderArgs w.pending = e :: Expr.preorderArgs w'.pending := by
  obtain ⟨rest, hpending, rfl⟩ := next?_eq_some.1 h
  rw [hpending, Expr.preorderArgs, Expr.preorder_eq, Expr.preorderArgs_append, List.cons_append]

/-! ## Whole runs -/

/-- A traversal visits the pending forest in pre-order. -/
theorem toList_eq (w : Walk) : w.toList = Expr.preorderArgs w.pending := by
  fun_induction toList w with
  | case1 w h => rw [next?_eq_none.1 h, Expr.preorderArgs]
  | case2 w e w' h ih => rw [preorderArgs_next? h, ih]

theorem toList_next? {w w' : Walk} {e : Expr} (h : w.next? = some (e, w')) :
    w.toList = e :: w'.toList := by
  rw [toList_eq, toList_eq, preorderArgs_next? h]

theorem next?_eq_none_iff_toList {w : Walk} : w.next? = none ↔ w.toList = [] := by
  cases h : w.next? with
  | none => simp [toList_eq, next?_eq_none.1 h, Expr.preorderArgs]
  | some p => simp [toList_next? h]

/-- The nodes of `n` steps are the first `n`. -/
theorem advance_fst (n : Nat) (w : Walk) : (w.advance n).1 = w.toList.take n := by
  induction n generalizing w with
  | zero => simp [advance]
  | succ n ih =>
      rw [advance]
      cases h : w.next? with
      | none => simp [next?_eq_none_iff_toList.1 h]
      | some p => simp [toList_next? h, ih]

/-- After `n` steps all but the first `n` nodes are left. -/
theorem toList_advance (n : Nat) (w : Walk) : (w.advance n).2.toList = w.toList.drop n := by
  induction n generalizing w with
  | zero => simp [advance]
  | succ n ih =>
      rw [advance]
      cases h : w.next? with
      | none => simp [next?_eq_none_iff_toList.1 h]
      | some p => simp [toList_next? h, ih]

theorem next?_advance_eq_none {n : Nat} {w : Walk} :
    (w.advance n).2.next? = none ↔ w.toList.length ≤ n := by
  rw [next?_eq_none_iff_toList, toList_advance, List.drop_eq_nil_iff]

/-! ## Several traversals -/

/-- A call: the node that it yields, if there is one, and the traversal that it leaves. A call to a
finished traversal leaves it as it is. -/
def call (w : Walk) : Option Expr × Walk :=
  match w.next? with
  | none => (none, w)
  | some (e, w') => (some e, w')

theorem call_fst (w : Walk) : w.call.1 = w.toList[0]? := by
  rw [call]
  cases h : w.next? with
  | none => simp [next?_eq_none_iff_toList.1 h]
  | some p => simp [toList_next? h]

theorem toList_call (w : Walk) : w.call.2.toList = w.toList.drop 1 := by
  rw [call]
  cases h : w.next? with
  | none => simp [next?_eq_none_iff_toList.1 h]
  | some p => simp [toList_next? h]

/-- The answers to a series of calls, each of which goes to one of several traversals. -/
def callEach {ι : Type} [DecidableEq ι] (ws : ι → Walk) : List ι → List (ι × Option Expr)
  | [] => []
  | i :: schedule =>
    (i, (ws i).call.1) :: callEach (fun j => if j = i then (ws i).call.2 else ws j) schedule

/-- Those of the answers that were given by one traversal. -/
def answersOf {ι : Type} [DecidableEq ι] (i : ι) (answers : List (ι × Option Expr)) :
    List (Option Expr) :=
  (answers.filter (·.1 = i)).map (·.2)

theorem answersOf_cons_self {ι : Type} [DecidableEq ι] (i : ι) (answer : Option Expr)
    (answers : List (ι × Option Expr)) :
    answersOf i ((i, answer) :: answers) = answer :: answersOf i answers := by
  simp [answersOf]

theorem answersOf_cons_of_ne {ι : Type} [DecidableEq ι] {i j : ι} (h : j ≠ i)
    (answer : Option Expr) (answers : List (ι × Option Expr)) :
    answersOf i ((j, answer) :: answers) = answersOf i answers := by
  simp [answersOf, h]

/-- Each traversal answers as if it were alone: with its nodes in order, and with none from then
on. -/
theorem answersOf_callEach {ι : Type} [DecidableEq ι] (ws : ι → Walk) (schedule : List ι) (i : ι) :
    answersOf i (callEach ws schedule) =
      (List.range (schedule.count i)).map fun k => (ws i).toList[k]? := by
  induction schedule generalizing ws with
  | nil => simp [callEach, answersOf]
  | cons j schedule ih =>
      rw [callEach]
      -- Either the call goes to this traversal, or it leaves this one as it is.
      by_cases hj : j = i
      · subst hj
        rw [answersOf_cons_self, ih, if_pos rfl, toList_call, call_fst, List.count_cons_self,
          List.range_succ_eq_map, List.map_cons, List.map_map]
        simp [Function.comp_def]
      · rw [answersOf_cons_of_ne hj, ih, if_neg (Ne.symm hj), List.count_cons_of_ne hj]

end Walk

namespace Expr

theorem toList_walk (e : Expr) : e.walk.toList = e.preorder := by
  rw [Walk.toList_eq, walk, preorderArgs, preorderArgs, List.append_nil]

/-- A traversal yields the pre-order of its tree, and with it each position once and in ascending
order. After any number of calls it has yielded the first nodes and still yields all others, a
finished one stays finished, and any number of traversals of one tree, each with its own number of
calls behind it, go on independently of each other. -/
theorem walk_refines_preorder (e : Expr) :
    e.walk.toList = e.preorder ∧
    (e.walk.toList.map some = e.positions.map e.at? ∧ e.positions.Pairwise (· < ·) ∧
      ∀ p, p ∈ e.positions ↔ (e.at? p).isSome) ∧
    (∀ n, (e.walk.advance n).1 = e.preorder.take n ∧
      (e.walk.advance n).2.toList = e.preorder.drop n ∧
      ((e.walk.advance n).2.next? = none ↔ e.preorder.length ≤ n)) ∧
    (∀ n k, (e.walk.advance n).2.next? = none → (e.walk.advance (n + k)).2.next? = none) ∧
    ∀ (ι : Type) [DecidableEq ι] (steps : ι → Nat) (schedule : List ι) (i : ι),
      Walk.answersOf i (Walk.callEach (fun j => (e.walk.advance (steps j)).2) schedule) =
        (List.range (schedule.count i)).map fun k => e.preorder[steps i + k]? := by
  refine ⟨toList_walk e, ⟨?_, pairwise_positions e, fun p => mem_positions⟩, fun n => ?_, ?_, ?_⟩
  · rw [toList_walk, map_at?_positions]
  · rw [Walk.advance_fst, Walk.toList_advance, Walk.next?_advance_eq_none, toList_walk]
    exact ⟨rfl, rfl, Iff.rfl⟩
  · intro n k h
    rw [Walk.next?_advance_eq_none] at h ⊢
    omega
  · intro ι _ steps schedule i
    rw [Walk.answersOf_callEach, Walk.toList_advance, toList_walk]
    simp only [List.getElem?_drop]

end Expr

end QueryPolicy
