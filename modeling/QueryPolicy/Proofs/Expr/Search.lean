import Mathlib.Data.List.Forall2
import Mathlib.Data.List.Infix
import QueryPolicy.Proofs.Expr.Matcher

/-!
# Searches find everything once

A search lists nodes by ascending position: all that pass its test, and no other. The searches for
aggregations and calls list the parts of the nodes that the search by the matching test lists. The
search for matchers goes through their places in order, and what it finds in a subtree stands
together in what it finds in the whole tree.
-/

namespace QueryPolicy

def Aggregation.toExpr (a : Aggregation) : Expr := .aggregate a.op a.grouping a.param a.body

def Call.toExpr (c : Call) : Expr := .call c.name c.args

namespace Expr

/-! ## Nodes by position -/

/-- Exactly the nodes with a property, one for each position, by ascending position. -/
def Lists (e : Expr) (P : Expr → Prop) (nodes : List Expr) : Prop :=
  ∃ ps : List Position, ps.Pairwise (· < ·) ∧ (∀ p, p ∈ ps ↔ ∃ n, e.at? p = some n ∧ P n) ∧
    List.Forall₂ (fun p n => e.at? p = some n) ps nodes

/-- Pre-order and the list of positions go side by side. -/
theorem forall₂_positions (e : Expr) :
    List.Forall₂ (fun p n => e.at? p = some n) e.positions e.preorder := by
  have hnodes : List.Forall₂ Eq (e.positions.map e.at?) (e.preorder.map some) :=
    List.forall₂_eq_eq_eq ▸ map_at?_positions e
  rwa [List.forall₂_map_left_iff, List.forall₂_map_right_iff] at hnodes

theorem filterMap_preorder {α : Type} (e : Expr) (f : Expr → Option α) :
    e.preorder.filterMap f = e.positions.filterMap fun p => (e.at? p).bind f := by
  have hnodes : (e.preorder.map some).filterMap (·.bind f) = e.preorder.filterMap f := by
    rw [List.filterMap_map]
    rfl
  rw [← hnodes, ← map_at?_positions, List.filterMap_map]
  rfl

theorem lists_findAll (e : Expr) {test : Expr → Bool} {P : Expr → Prop}
    (h : ∀ n, test n = true ↔ P n) : e.Lists P (e.findAll test) := by
  refine ⟨e.positions.filter fun p => (e.at? p).any test, (pairwise_positions e).filter _,
    fun p => ?_, ?_⟩
  · rw [List.mem_filter, mem_positions]
    cases e.at? p <;> simp [h]
  · rw [findAll, toList_walk]
    exact List.rel_filter (fun p n hn => by simp [hn]) (forall₂_positions e)

/-! ## Aggregations and calls -/

theorem aggregation?_eq_some {n : Expr} {a : Aggregation} :
    n.aggregation? = some a ↔ n = a.toExpr := by
  obtain ⟨op, g, param, body⟩ := a
  cases n <;> simp [aggregation?, Aggregation.toExpr]

theorem call?_eq_some {n : Expr} {c : Call} : n.call? = some c ↔ n = c.toExpr := by
  obtain ⟨name, args⟩ := c
  cases n <;> simp [call?, Call.toExpr]

theorem isAggregation_iff {n : Expr} :
    n.isAggregation = true ↔ ∃ a : Aggregation, n = a.toExpr := by
  simp only [isAggregation, Option.isSome_iff_exists, aggregation?_eq_some]

theorem isAnyCall_iff {n : Expr} : n.isAnyCall = true ↔ ∃ c : Call, n = c.toExpr := by
  simp only [isAnyCall, Option.isSome_iff_exists, call?_eq_some]

theorem isCall_iff {n : Expr} {name : String} :
    n.isCall name = true ↔ ∃ c : Call, n = c.toExpr ∧ c.name = name := by
  cases n with
  | call name' args =>
      simp only [isCall, beq_iff_eq]
      constructor
      · intro h
        exact ⟨⟨name', args⟩, rfl, h⟩
      · rintro ⟨c, hc, rfl⟩
        cases hc
        rfl
  | _ => simp [isCall, Call.toExpr]

/-- A list of parts gives back the elements that have such parts. -/
theorem filter_eq_map_filterMap {α β : Type} {test : α → Bool} {parts? : α → Option β}
    {whole : β → α} (hparts : ∀ a b, parts? a = some b → a = whole b)
    (htest : ∀ a, test a = (parts? a).isSome) (l : List α) :
    l.filter test = (l.filterMap parts?).map whole := by
  rw [List.map_filterMap, ← List.filterMap_eq_filter]
  refine List.filterMap_congr fun a _ => ?_
  cases h : parts? a with
  | none => simp [Option.guard, htest, h]
  | some b => simp [Option.guard, htest, h, ← hparts a b h]

theorem findAll_isAggregation (e : Expr) :
    e.findAll isAggregation = e.aggregations.map Aggregation.toExpr :=
  filter_eq_map_filterMap (fun _ _ => aggregation?_eq_some.1) (fun _ => rfl) _

theorem findAll_isAnyCall (e : Expr) : e.findAll isAnyCall = e.calls.map Call.toExpr :=
  filter_eq_map_filterMap (fun _ _ => call?_eq_some.1) (fun _ => rfl) _

theorem findAll_isCall (e : Expr) (name : String) :
    e.findAll (isCall name) = (e.callsNamed name).map Call.toExpr := by
  rw [callsNamed, calls, List.filter_filterMap]
  refine filter_eq_map_filterMap (fun n c h => ?_) (fun n => ?_) _
  · exact call?_eq_some.1 (Option.filter_eq_some_iff.1 h).1
  · cases n with
    | call name' args => rw [isCall, call?, Option.isSome_filter]; rfl
    | _ => rfl

end Expr

/-! ## Places of matchers -/

/-- By position of the selector, then by group, then by place in the group. -/
instance : LT MatcherPlace where
  lt a b := a.selector < b.selector ∨ a.selector = b.selector ∧
    (a.group < b.group ∨ a.group = b.group ∧ a.index < b.index)

theorem forall₂_range {α : Type} (l : List α) :
    List.Forall₂ (fun i a => l[i]? = some a) (List.range l.length) l := by
  rw [List.forall₂_iff_get]
  simp

namespace Selector

/-- The places of the matchers of a selector that stands at a position. -/
def places (p : Position) (s : Selector) : List MatcherPlace :=
  (List.range s.groups.length).flatMap fun k =>
    (List.range (s.groups[k]?.getD []).length).map (MatcherPlace.mk p k)

/-- The matcher that a selector has at a place. -/
def matcherAt? (s : Selector) (o : MatcherPlace) : Option LabelMatcher :=
  s.groups[o.group]?.bind (·[o.index]?)

theorem forall₂_places (p : Position) (s : Selector) :
    List.Forall₂ (fun o m => o.selector = p ∧ s.matcherAt? o = some m) (s.places p)
      s.allMatchers := by
  -- Groups go with their numbers, and the matchers of a group with their places in it.
  rw [← flatten_groups, ← List.flatMap_id']
  refine List.rel_flatMap (forall₂_range s.groups) fun k ms hms => ?_
  rw [hms, Option.getD_some, List.forall₂_map_left_iff]
  exact (forall₂_range ms).imp fun i m hm => ⟨rfl, by rw [matcherAt?, hms, Option.bind_some, hm]⟩

theorem mem_places {p : Position} {s : Selector} {o : MatcherPlace} :
    o ∈ s.places p ↔ o.selector = p ∧ (s.matcherAt? o).isSome := by
  obtain ⟨q, k, i⟩ := o
  simp only [places, matcherAt?, List.mem_flatMap, List.mem_map, List.mem_range,
    MatcherPlace.mk.injEq]
  constructor
  · rintro ⟨k, hk, i, hi, rfl, rfl, rfl⟩
    rw [List.getElem?_eq_getElem hk, Option.getD_some] at hi
    exact ⟨rfl, by simp [hk, hi]⟩
  · rintro ⟨rfl, h⟩
    cases hms : s.groups[k]? with
    | none => simp [hms] at h
    | some ms =>
        have hi : i < ms.length := by simpa [hms] using h
        exact ⟨k, (List.getElem?_eq_some_iff.1 hms).1, i, by rwa [hms, Option.getD_some], rfl, rfl,
          rfl⟩

theorem pairwise_places (p : Position) (s : Selector) : (s.places p).Pairwise (· < ·) := by
  rw [places, List.pairwise_flatMap]
  constructor
  · intro k _
    rw [List.pairwise_map]
    exact List.pairwise_lt_range.imp fun hi => Or.inr ⟨rfl, Or.inr ⟨rfl, hi⟩⟩
  · refine List.pairwise_lt_range.imp fun {k k'} hk a ha b hb => ?_
    obtain ⟨i, -, rfl⟩ := List.mem_map.1 ha
    obtain ⟨j, -, rfl⟩ := List.mem_map.1 hb
    exact Or.inr ⟨rfl, Or.inl hk⟩

end Selector

namespace Expr

/-- The selector at a position, if one stands there. -/
def selectorAt? (e : Expr) (p : Position) : Option Selector := (e.at? p).bind selector?

theorem mem_positions_of_selectorAt? {e : Expr} {p : Position} (h : (e.selectorAt? p).isSome) :
    p ∈ e.positions := by
  obtain ⟨s, hs⟩ := Option.isSome_iff_exists.1 h
  obtain ⟨n, hn, -⟩ := Option.bind_eq_some_iff.1 hs
  exact mem_positions.2 (by rw [hn]; rfl)

theorem matcherAt?_eq_bind (e : Expr) (o : MatcherPlace) :
    e.matcherAt? o = (e.selectorAt? o.selector).bind (·.matcherAt? o) := rfl

/-- The places of all matchers, selector by selector. -/
def matcherPlaces (e : Expr) : List MatcherPlace :=
  e.positions.flatMap fun p => (e.selectorAt? p).toList.flatMap (Selector.places p)

/-- The matchers of a node, each with the node's selector. -/
def ownMatchers (n : Expr) : List (LabelMatcher × Selector) :=
  n.selector?.toList.flatMap fun s => s.allMatchers.map (·, s)

theorem matchers_eq_flatMap (e : Expr) : e.matchers = e.preorder.flatMap ownMatchers := by
  rw [matchers, toList_walk, List.filterMap_eq_flatMap_toList, List.flatMap_assoc]
  rfl

theorem forall₂_matcherPlaces (e : Expr) :
    List.Forall₂ (fun o found => e.matcherAt? o = some found.1 ∧
      e.selectorAt? o.selector = some found.2) e.matcherPlaces e.matchers := by
  rw [matchers_eq_flatMap]
  refine List.rel_flatMap (forall₂_positions e) fun p n hn => ?_
  rw [selectorAt?, hn, Option.bind_some, ownMatchers]
  cases hs : n.selector? with
  | none => exact List.Forall₂.nil
  | some s =>
      rw [Option.toList_some, List.flatMap_singleton, List.flatMap_singleton,
        List.forall₂_map_right_iff]
      refine (s.forall₂_places p).imp fun o m h => ?_
      obtain ⟨rfl, hm⟩ := h
      have hselector : e.selectorAt? o.selector = some s := by
        rw [selectorAt?, hn, Option.bind_some, hs]
      exact ⟨by rw [matcherAt?_eq_bind, hselector, Option.bind_some, hm], hselector⟩

theorem mem_matcherPlaces {e : Expr} {o : MatcherPlace} :
    o ∈ e.matcherPlaces ↔ (e.matcherAt? o).isSome := by
  simp only [matcherPlaces, List.mem_flatMap, Option.mem_toList, Selector.mem_places]
  rw [matcherAt?_eq_bind]
  constructor
  · rintro ⟨p, -, s, hs, rfl, hm⟩
    rwa [hs, Option.bind_some]
  · intro hm
    obtain ⟨m, hbind⟩ := Option.isSome_iff_exists.1 hm
    obtain ⟨s, hs, hmatcher⟩ := Option.bind_eq_some_iff.1 hbind
    exact ⟨o.selector, mem_positions_of_selectorAt? (by rw [hs]; rfl), s, hs, rfl,
      by rw [hmatcher]; rfl⟩

theorem pairwise_matcherPlaces (e : Expr) : e.matcherPlaces.Pairwise (· < ·) := by
  rw [matcherPlaces, List.pairwise_flatMap]
  constructor
  · intro p _
    cases e.selectorAt? p with
    | none => exact List.Pairwise.nil
    | some s =>
        rw [Option.toList_some, List.flatMap_singleton]
        exact s.pairwise_places p
  · refine (pairwise_positions e).imp fun {p q} hpq a ha b hb => ?_
    obtain ⟨s, -, hs⟩ := List.mem_flatMap.1 ha
    obtain ⟨t, -, ht⟩ := List.mem_flatMap.1 hb
    refine Or.inl ?_
    rwa [(Selector.mem_places.1 hs).1, (Selector.mem_places.1 ht).1]

/-- The matchers are those of the selectors, one selector after the other by ascending position. -/
theorem matchers_eq_of_positions (e : Expr) :
    e.matchers = ((e.positions.filter fun p => (e.selectorAt? p).isSome).filterMap
      e.selectorAt?).flatMap fun s => (s.matchers ++ s.orMatchers.flatten).map (·, s) := by
  have hselectors : (e.positions.filter fun p => (e.selectorAt? p).isSome).filterMap e.selectorAt? =
      e.positions.filterMap e.selectorAt? := by
    rw [List.filterMap_filter]
    refine List.filterMap_congr fun p _ => ?_
    cases e.selectorAt? p <;> rfl
  rw [matchers, toList_walk, filterMap_preorder, hselectors]
  rfl

/-! ## Subtrees -/

theorem preorder_infix_preorderArgs {c : Expr} {es : List Expr} (h : c ∈ es) :
    c.preorder <:+: preorderArgs es := by
  obtain ⟨before, after, rfl⟩ := List.append_of_mem h
  rw [preorderArgs_append, preorderArgs, ← List.append_assoc]
  exact ⟨preorderArgs before, preorderArgs after, rfl⟩

/-- The nodes of a subtree are visited one after the other. -/
theorem preorder_infix_of_at? {e t : Expr} {p : Position} (h : e.at? p = some t) :
    t.preorder <:+: e.preorder := by
  induction p generalizing e with
  | nil =>
      cases h
      exact List.infix_rfl
  | cons i p ih =>
      obtain ⟨c, hc, ht⟩ := Option.bind_eq_some_iff.1 h
      have hchild : c.preorder <:+: preorderArgs e.children :=
        preorder_infix_preorderArgs (List.mem_of_getElem? hc)
      rw [preorder_eq e]
      exact (ih ht).trans (hchild.trans (List.suffix_cons e _).isInfix)

theorem matchers_infix_of_at? {e t : Expr} {p : Position} (h : e.at? p = some t) :
    t.matchers <:+: e.matchers := by
  rw [matchers_eq_flatMap, matchers_eq_flatMap]
  exact (preorder_infix_of_at? h).flatMap ownMatchers

/-! ## All searches -/

/-- Every search lists exactly the nodes that pass its test, by ascending position. Aggregations,
calls and the calls of one function are the parts of what the tests for them list, and none is
missed. The matchers are those of the selectors in order of position, plain matchers before
alternatives: one for each place, with the selector that stands there. Those of a subtree are a
segment of them. -/
theorem searches_find_all (e : Expr) (name : String) :
    (∀ test, e.Lists (test · = true) (e.findAll test)) ∧
    (e.findAll isAggregation = e.aggregations.map Aggregation.toExpr ∧
      e.Lists (fun n => ∃ a : Aggregation, n = a.toExpr) (e.findAll isAggregation)) ∧
    (e.findAll isAnyCall = e.calls.map Call.toExpr ∧
      e.Lists (fun n => ∃ c : Call, n = c.toExpr) (e.findAll isAnyCall)) ∧
    (e.findAll (isCall name) = (e.callsNamed name).map Call.toExpr ∧
      e.Lists (fun n => ∃ c : Call, n = c.toExpr ∧ c.name = name) (e.findAll (isCall name))) ∧
    (∃ ps : List Position, ps.Pairwise (· < ·) ∧ (∀ p, p ∈ ps ↔ (e.selectorAt? p).isSome) ∧
      e.matchers = (ps.filterMap e.selectorAt?).flatMap fun s =>
        (s.matchers ++ s.orMatchers.flatten).map (·, s)) ∧
    (∃ places : List MatcherPlace, places.Pairwise (· < ·) ∧
      (∀ o, o ∈ places ↔ (e.matcherAt? o).isSome) ∧
      List.Forall₂ (fun o found => e.matcherAt? o = some found.1 ∧
        e.selectorAt? o.selector = some found.2) places e.matchers) ∧
    ∀ p t, e.at? p = some t → t.matchers <:+: e.matchers := by
  refine ⟨fun test => e.lists_findAll fun n => Iff.rfl,
    ⟨e.findAll_isAggregation, e.lists_findAll fun n => isAggregation_iff⟩,
    ⟨e.findAll_isAnyCall, e.lists_findAll fun n => isAnyCall_iff⟩,
    ⟨e.findAll_isCall name, e.lists_findAll fun n => isCall_iff⟩,
    ⟨_, (pairwise_positions e).filter _, fun p => ?_, e.matchers_eq_of_positions⟩,
    ⟨e.matcherPlaces, e.pairwise_matcherPlaces, fun o => mem_matcherPlaces,
      e.forall₂_matcherPlaces⟩,
    fun p t => matchers_infix_of_at?⟩
  rw [List.mem_filter, and_iff_right_iff_imp]
  exact mem_positions_of_selectorAt?

/-- In `sum(x{a="1" or b="2"}) / rate(y{c="3"}[5m])` the last matcher is the one below `rate`. -/
theorem searches_find_all_rate :
    let x : Selector := ⟨some "x", [], [[⟨"a", .equal, "1"⟩], [⟨"b", .equal, "2"⟩]]⟩
    let y : Selector := ⟨some "y", [⟨"c", .equal, "3"⟩], []⟩
    let rate : Expr := .call "rate" [.matrix y ⟨300000000000⟩]
    let e : Expr := .binary "/" (.aggregate "sum" none none (.vector x)) rate
    e.at? [1] = some rate ∧ rate.matchers = [(⟨"c", .equal, "3"⟩, y)] ∧
      e.matchers = [(⟨"a", .equal, "1"⟩, x), (⟨"b", .equal, "2"⟩, x), (⟨"c", .equal, "3"⟩, y)] ∧
      rate.matchers <:+: e.matchers := by
  intro x y rate e
  have hrate : e.at? [1] = some rate := rfl
  refine ⟨hrate, ?_, ?_, (searches_find_all e "rate").2.2.2.2.2.2 [1] rate hrate⟩
  · rw [matchers_eq_flatMap]
    rfl
  · rw [matchers_eq_flatMap]
    rfl

end Expr

end QueryPolicy
