import QueryPolicy.Proofs.Expr.Matcher

/-!
# Trees with a hole

A frame is a node that lacks one child, and a context is the frames from the root of a tree down to
a hole. Every position of a tree is the hole of a context. What occurs in a filled context occurs in
the context or in what was put into the hole.
-/

namespace QueryPolicy

/-- A node with a hole in place of one child. -/
inductive Frame
  | aggregateParam (op : String) (grouping : Option Grouping) (body : Expr)
  | aggregateBody (op : String) (grouping : Option Grouping) (param : Option Expr)
  | binaryLeft (op : String) (rhs : Expr)
  | binaryRight (op : String) (lhs : Expr)
  | unary
  | paren
  | callArg (name : String) (before after : List Expr)
  | subquery (range : Duration) (step : Option Duration)

namespace Frame

def fill : Frame → Expr → Expr
  | aggregateParam op g body, e => .aggregate op g (some e) body
  | aggregateBody op g param, e => .aggregate op g param e
  | binaryLeft op rhs, e => .binary op e rhs
  | binaryRight op lhs, e => .binary op lhs e
  | unary, e => .unary e
  | paren, e => .paren e
  | callArg name before after, e => .call name (before ++ e :: after)
  | subquery range step, e => .subquery e range step

/-- The children on the left of the hole. -/
def before : Frame → List Expr
  | aggregateBody _ _ param => param.toList
  | binaryRight _ lhs => [lhs]
  | callArg _ before _ => before
  | _ => []

/-- The children on the right of the hole. -/
def after : Frame → List Expr
  | aggregateParam _ _ body => [body]
  | binaryLeft _ rhs => [rhs]
  | callArg _ _ after => after
  | _ => []

@[simp] theorem children_fill (f : Frame) (e : Expr) :
    (f.fill e).children = f.before ++ e :: f.after := by
  cases f <;> simp [fill, before, after, Expr.children]

@[simp] theorem selector?_fill (f : Frame) (e : Expr) : (f.fill e).selector? = none := by
  cases f <;> rfl

/-- Every child stands in a frame. -/
theorem exists_fill_of_mem_children {c e : Expr} (h : c ∈ e.children) :
    ∃ f : Frame, f.fill c = e := by
  cases e with
  | aggregate op g param body =>
      rcases List.mem_append.1 h with hparam | hbody
      · cases Option.mem_toList.1 hparam
        exact ⟨aggregateParam op g body, rfl⟩
      · cases List.mem_singleton.1 hbody
        exact ⟨aggregateBody op g param, rfl⟩
  | binary op lhs rhs =>
      rcases List.mem_cons.1 h with rfl | hrhs
      · exact ⟨binaryLeft op rhs, rfl⟩
      · cases List.mem_singleton.1 hrhs
        exact ⟨binaryRight op lhs, rfl⟩
  | unary operand =>
      cases List.mem_singleton.1 h
      exact ⟨unary, rfl⟩
  | paren inner =>
      cases List.mem_singleton.1 h
      exact ⟨paren, rfl⟩
  | call name args =>
      obtain ⟨before, after, rfl⟩ := List.append_of_mem h
      exact ⟨callArg name before after, rfl⟩
  | subquery inner range step =>
      cases List.mem_singleton.1 h
      exact ⟨subquery range step, rfl⟩
  | vector _ | matrix _ _ | number _ | string _ => cases h

end Frame

/-- A tree with a hole: the frames from the root to the hole. -/
abbrev Context := List Frame

def Context.fill (C : Context) (e : Expr) : Expr := C.foldr Frame.fill e

namespace Context

@[simp] theorem fill_nil (e : Expr) : Context.fill [] e = e := rfl

@[simp] theorem fill_cons (f : Frame) (C : Context) (e : Expr) :
    Context.fill (f :: C) e = f.fill (C.fill e) := rfl

/-- Every position is the hole of a context. -/
theorem exists_fill_of_at? {e n : Expr} {q : Position} (h : e.at? q = some n) :
    ∃ C : Context, C.fill n = e := by
  induction q generalizing e with
  | nil =>
      cases h
      exact ⟨[], rfl⟩
  | cons i q ih =>
      obtain ⟨c, hc, hn⟩ := Option.bind_eq_some_iff.1 h
      obtain ⟨C, hC⟩ := ih hn
      obtain ⟨f, hf⟩ := Frame.exists_fill_of_mem_children (List.mem_of_getElem? hc)
      exact ⟨f :: C, by rw [fill_cons, hC, hf]⟩

end Context

/-! ## Matchers of a filled context -/

theorem Selector.mem_allMatchers {s : Selector} {m : LabelMatcher} :
    m ∈ s.allMatchers ↔ ∃ (k i : Nat) (ms : List LabelMatcher),
      s.groups[k]? = some ms ∧ ms[i]? = some m := by
  rw [← flatten_groups, List.mem_flatten]
  constructor
  · rintro ⟨ms, hms, hm⟩
    obtain ⟨k, hk⟩ := List.mem_iff_getElem?.1 hms
    obtain ⟨i, hi⟩ := List.mem_iff_getElem?.1 hm
    exact ⟨k, i, ms, hk, hi⟩
  · rintro ⟨k, i, ms, hk, hi⟩
    exact ⟨ms, List.mem_of_getElem? hk, List.mem_of_getElem? hi⟩

namespace Expr

/-- A matcher occurs somewhere in a tree. -/
def HasMatcher (e : Expr) (m : LabelMatcher) : Prop := ∃ o, e.matcherAt? o = some m

/-- A matcher occurs in the selector of the root or in a child. -/
theorem hasMatcher_iff {e : Expr} {m : LabelMatcher} :
    e.HasMatcher m ↔ (∃ s, e.selector? = some s ∧ m ∈ s.allMatchers) ∨
      ∃ c ∈ e.children, c.HasMatcher m := by
  constructor
  · rintro ⟨⟨q, k, i⟩, ho⟩
    obtain ⟨n, s, ms, hn, hs, hms, hm⟩ := matcherAt?_eq_some.1 ho
    cases q with
    | nil =>
        cases hn
        exact Or.inl ⟨s, hs, Selector.mem_allMatchers.2 ⟨k, i, ms, hms, hm⟩⟩
    | cons j q =>
        obtain ⟨c, hc, hn⟩ := Option.bind_eq_some_iff.1 hn
        refine Or.inr ⟨c, List.mem_of_getElem? hc, ⟨q, k, i⟩, ?_⟩
        exact matcherAt?_eq_some.2 ⟨n, s, ms, hn, hs, hms, hm⟩
  · rintro (⟨s, hs, hm⟩ | ⟨c, hc, ⟨q, k, i⟩, ho⟩)
    · obtain ⟨k, i, ms, hms, hm⟩ := Selector.mem_allMatchers.1 hm
      exact ⟨⟨[], k, i⟩, matcherAt?_eq_some.2 ⟨e, s, ms, rfl, hs, hms, hm⟩⟩
    · obtain ⟨n, s, ms, hn, hs, hms, hm⟩ := matcherAt?_eq_some.1 ho
      obtain ⟨j, hj⟩ := List.mem_iff_getElem?.1 hc
      refine ⟨⟨j :: q, k, i⟩, matcherAt?_eq_some.2 ⟨n, s, ms, ?_, hs, hms, hm⟩⟩
      rw [at?, hj, Option.bind_some]
      exact hn

theorem not_hasMatcher_number (x : Binary64) (m : LabelMatcher) : ¬ (number x).HasMatcher m := by
  rw [hasMatcher_iff]
  simp [selector?, children]

end Expr

theorem Frame.hasMatcher_fill {f : Frame} {e : Expr} {m : LabelMatcher} :
    (f.fill e).HasMatcher m ↔ e.HasMatcher m ∨ ∃ c ∈ f.before ++ f.after, c.HasMatcher m := by
  rw [Expr.hasMatcher_iff, selector?_fill, children_fill]
  simp only [List.mem_append, List.mem_cons]
  grind

/-- A number in the hole leaves the matchers of the context. -/
theorem Context.hasMatcher_fill {C : Context} {e : Expr} (x : Binary64) {m : LabelMatcher} :
    (C.fill e).HasMatcher m ↔ e.HasMatcher m ∨ (C.fill (.number x)).HasMatcher m := by
  induction C with
  | nil => simp [Expr.not_hasMatcher_number]
  | cons f C ih =>
      rw [fill_cons, fill_cons, Frame.hasMatcher_fill, Frame.hasMatcher_fill, ih, or_assoc]

end QueryPolicy
