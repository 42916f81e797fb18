import QueryPolicy.Expr.Search
import QueryPolicy.Proofs.Expr.Walk

/-!
# Places of matchers

A matcher stands in a group of a selector. The search for matchers goes through the selectors by
position, through the groups of a selector in order, and through each group, so what it finds first
has the least place.
-/

namespace QueryPolicy

/-- The groups of a selector: its plain matchers, then the alternatives. -/
def Selector.groups (s : Selector) : List (List LabelMatcher) := s.matchers :: s.orMatchers

theorem Selector.flatten_groups (s : Selector) : s.groups.flatten = s.allMatchers := rfl

/-- Where a matcher stands: the position of its selector, the number of its group and its place in
the group. -/
structure MatcherPlace where
  selector : Position
  group : Nat
  index : Nat

/-- By position of the selector, then by group, then by place in the group. -/
instance : LE MatcherPlace where
  le a b := a.selector < b.selector ∨ a.selector = b.selector ∧
    (a.group < b.group ∨ a.group = b.group ∧ a.index ≤ b.index)

namespace Expr

/-- The matcher at a place, if there is one. -/
def matcherAt? (e : Expr) (o : MatcherPlace) : Option LabelMatcher :=
  ((e.at? o.selector).bind selector?).bind fun s =>
    s.groups[o.group]?.bind fun ms => ms[o.index]?

theorem matcherAt?_eq_some {e : Expr} {o : MatcherPlace} {m : LabelMatcher} :
    e.matcherAt? o = some m ↔ ∃ n s ms, e.at? o.selector = some n ∧ n.selector? = some s ∧
      s.groups[o.group]? = some ms ∧ ms[o.index]? = some m := by
  simp only [matcherAt?, Option.bind_eq_some_iff]
  constructor
  · rintro ⟨s, ⟨n, hn, hs⟩, ms, hms, hm⟩
    exact ⟨n, s, ms, hn, hs, hms, hm⟩
  · rintro ⟨n, s, ms, hn, hs, hms, hm⟩
    exact ⟨s, ⟨n, hn, hs⟩, ms, hms, hm⟩

/-! ## The first element with an answer -/

theorem findSome?_filterMap {α β γ : Type} (l : List α) (f : α → Option β) (g : β → Option γ) :
    (l.filterMap f).findSome? g = l.findSome? fun a => (f a).bind g := by
  rw [← List.head?_filterMap, ← List.head?_filterMap, List.filterMap_filterMap]

theorem exists_getElem?_of_findSome? {α β : Type} {l : List α} {f : α → Option β} {b : β}
    (h : l.findSome? f = some b) :
    ∃ (i : Nat) (a : α), l[i]? = some a ∧ f a = some b ∧
      ∀ (j : Nat) (c : α), l[j]? = some c → (f c).isSome → i ≤ j := by
  obtain ⟨before, a, after, rfl, ha, hbefore⟩ := List.findSome?_eq_some_iff.1 h
  refine ⟨before.length, a, by simp, ha, fun j c hc hsome => ?_⟩
  by_cases hj : j < before.length
  · rw [List.getElem?_append_left hj] at hc
    rw [hbefore c (List.mem_of_getElem? hc)] at hsome
    cases hsome
  · omega

/-! ## The first matcher that passes a test -/

/-- The first matcher of a node that passes a test. -/
def firstMatcher? (test : LabelMatcher → Bool) (n : Expr) : Option LabelMatcher :=
  n.selector?.bind fun s => s.groups.findSome? (List.find? test)

theorem isSome_firstMatcher? {e n : Expr} {test : LabelMatcher → Bool} {o : MatcherPlace}
    {m : LabelMatcher} (hm : e.matcherAt? o = some m) (hn : e.at? o.selector = some n)
    (htest : test m = true) : (firstMatcher? test n).isSome := by
  obtain ⟨n', s, ms, hn', hs, hms, hmem⟩ := matcherAt?_eq_some.1 hm
  rw [hn] at hn'
  cases hn'
  rw [firstMatcher?, hs, Option.bind_some, List.findSome?_isSome_iff]
  exact ⟨ms, List.mem_of_getElem? hms, List.find?_isSome.2 ⟨m, List.mem_of_getElem? hmem, htest⟩⟩

theorem find?_matchers (e : Expr) (test : LabelMatcher → Bool) :
    (e.matchers.find? (test ∘ Prod.fst)).map Prod.fst =
      e.preorder.findSome? (firstMatcher? test) := by
  have hall : e.matchers.map Prod.fst =
      (e.preorder.filterMap selector?).flatMap fun s => s.groups.flatten := by
    simp [matchers, toList_walk, List.map_flatMap, Function.comp_def, Selector.flatten_groups]
  rw [← List.find?_map, hall, List.find?_flatMap, findSome?_filterMap]
  simp only [List.find?_flatten]
  rfl

/-- Nothing is found exactly when no matcher passes the test. -/
theorem find?_matchers_eq_none {e : Expr} {test : LabelMatcher → Bool} :
    e.matchers.find? (test ∘ Prod.fst) = none ↔
      ∀ o m, e.matcherAt? o = some m → test m = false := by
  rw [← Option.map_eq_none_iff, find?_matchers, findSome?_preorder_eq_none]
  constructor
  · intro h o m hm
    obtain ⟨n, s, ms, hn, -⟩ := matcherAt?_eq_some.1 hm
    cases htest : test m with
    | false => rfl
    | true =>
        have := isSome_firstMatcher? hm hn htest
        rw [h _ _ hn] at this
        cases this
  · intro h p n hn
    cases hs : n.selector? with
    | none => rw [firstMatcher?, hs, Option.bind_none]
    | some s =>
        rw [firstMatcher?, hs, Option.bind_some, List.findSome?_eq_none_iff]
        intro ms hms
        obtain ⟨k, hk⟩ := List.mem_iff_getElem?.1 hms
        rw [List.find?_eq_none]
        intro m hm
        obtain ⟨i, hi⟩ := List.mem_iff_getElem?.1 hm
        rw [h ⟨p, k, i⟩ m (matcherAt?_eq_some.2 ⟨n, s, ms, hn, hs, hk, hi⟩)]
        exact Bool.false_ne_true

/-- What is found is the matcher with the least place among those that pass the test. -/
theorem exists_of_find?_matchers {e : Expr} {test : LabelMatcher → Bool}
    {found : LabelMatcher × Selector} (h : e.matchers.find? (test ∘ Prod.fst) = some found) :
    ∃ o, e.matcherAt? o = some found.1 ∧ test found.1 = true ∧
      ∀ o' m, e.matcherAt? o' = some m → test m = true → o ≤ o' := by
  have hfirst := find?_matchers e test
  rw [h, Option.map_some] at hfirst
  obtain ⟨q, n, hn, hfound, hleast⟩ := exists_of_findSome?_preorder hfirst.symm
  obtain ⟨s, hs, hgroup⟩ := Option.bind_eq_some_iff.1 hfound
  obtain ⟨k, ms, hms, hfind, hleastGroup⟩ := exists_getElem?_of_findSome? hgroup
  rw [List.find?_eq_findSome?_guard] at hfind
  obtain ⟨i, m, hm, hguard, hleastIndex⟩ := exists_getElem?_of_findSome? hfind
  obtain ⟨rfl, htest⟩ := Option.guard_eq_some_iff.1 hguard
  refine ⟨⟨q, k, i⟩, matcherAt?_eq_some.2 ⟨n, s, ms, hn, hs, hms, hm⟩, htest, ?_⟩
  -- The selectors, the groups and the matchers of a group were searched one inside the other.
  rintro ⟨q', k', i'⟩ m' hm' htest'
  obtain ⟨n', s', ms', hn', hs', hms', hmem'⟩ := matcherAt?_eq_some.1 hm'
  rcases lt_or_eq_of_le (hleast q' n' hn' (isSome_firstMatcher? hm' hn' htest')) with hlt | rfl
  · exact Or.inl hlt
  · rw [hn] at hn'
    cases hn'
    rw [hs] at hs'
    cases hs'
    refine Or.inr ⟨rfl, ?_⟩
    have hk := hleastGroup k' ms' hms'
      (List.find?_isSome.2 ⟨m', List.mem_of_getElem? hmem', htest'⟩)
    rcases Nat.lt_or_eq_of_le hk with hlt | rfl
    · exact Or.inl hlt
    · rw [hms] at hms'
      cases hms'
      exact Or.inr ⟨rfl, hleastIndex i' m' hmem' (by simp [Option.guard, htest'])⟩

end Expr

end QueryPolicy
