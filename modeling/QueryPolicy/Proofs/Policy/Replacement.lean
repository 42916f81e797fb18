import QueryPolicy.Proofs.Expr.Context
import QueryPolicy.Proofs.Policy.Check

/-!
# Checking a tree piece by piece

A tree is accepted exactly when its root is and every child is. A sub-expression can therefore be
judged apart from the tree around it, with a number left in its place. Only the label value policy
asks for more: the aggregations whose body holds the sub-expression keep the labels of its matchers.
-/

namespace QueryPolicy.Policy

/-- A tree is accepted when nothing is forbidden at the root and every child is accepted. -/
theorem check_eq_ok_iff_children {p : Policy} {e : Expr} :
    p.check e = .ok () ↔ ¬ p.ForbiddenAt e ∧ ∀ c ∈ e.children, p.check c = .ok () := by
  constructor
  · intro h
    refine ⟨check_eq_ok.1 h [] e rfl, fun c hc => check_eq_ok.2 fun q n hn => ?_⟩
    obtain ⟨i, hi⟩ := List.mem_iff_getElem?.1 hc
    refine check_eq_ok.1 h (i :: q) n ?_
    rw [Expr.at?, hi, Option.bind_some]
    exact hn
  · rintro ⟨hroot, hchildren⟩
    refine check_eq_ok.2 fun q n hn => ?_
    cases q with
    | nil =>
        cases hn
        exact hroot
    | cons i q =>
        obtain ⟨c, hc, hn⟩ := Option.bind_eq_some_iff.1 hn
        exact check_eq_ok.1 (hchildren c (List.mem_of_getElem? hc)) q n hn

@[simp] theorem check_number (p : Policy) (x : Binary64) : p.check (.number x) = .ok () := by
  refine check_eq_ok_iff_children.2 ⟨?_, fun c hc => ?_⟩
  · cases p <;> exact id
  · cases hc

theorem check_frame_eq_ok {p : Policy} {f : Frame} {e : Expr} :
    p.check (f.fill e) = .ok () ↔ ¬ p.ForbiddenAt (f.fill e) ∧ p.check e = .ok () ∧
      ∀ c ∈ f.before ++ f.after, p.check c = .ok () := by
  rw [check_eq_ok_iff_children, f.children_fill]
  simp only [List.mem_append, List.mem_cons]
  grind

/-- What a frame asks of the expression in its hole: the label value policy wants the matchers of
the body of an aggregation covered. -/
def FitsUnder : Policy → Frame → Expr → Prop
  | aggregationLabelValue value, .aggregateBody _ g _, e =>
    ∀ m, e.HasMatcher m → ¬ m.Uncovered value (Grouping.listed g)
  | _, _, _ => True

theorem forbiddenAt_aggregate {value op : String} {g : Option Grouping} {param : Option Expr}
    {body : Expr} : (aggregationLabelValue value).ForbiddenAt (.aggregate op g param body) ↔
      ∃ m, body.HasMatcher m ∧ m.Uncovered value (Grouping.listed g) := by
  constructor
  · rintro ⟨o, m, hm, huncovered⟩
    exact ⟨m, ⟨o, hm⟩, huncovered⟩
  · rintro ⟨m, ⟨o, hm⟩, huncovered⟩
    exact ⟨o, m, hm, huncovered⟩

/-- A frame forbids around `x` what it forbids around `y`, and the matchers that are in `x` because
of `e`. -/
theorem not_forbiddenAt_frame {p : Policy} {f : Frame} {x y e : Expr}
    (h : ∀ m, x.HasMatcher m ↔ e.HasMatcher m ∨ y.HasMatcher m) :
    ¬ p.ForbiddenAt (f.fill x) ↔ ¬ p.ForbiddenAt (f.fill y) ∧ p.FitsUnder f e := by
  cases p with
  | aggregationLabelValue value =>
      cases f with
      | aggregateBody op g param =>
          simp only [Frame.fill, forbiddenAt_aggregate, FitsUnder, h]
          constructor
          · intro hx
            refine ⟨?_, fun m hm huncovered => hx ⟨m, Or.inl hm, huncovered⟩⟩
            rintro ⟨m, hm, huncovered⟩
            exact hx ⟨m, Or.inr hm, huncovered⟩
          · rintro ⟨hy, he⟩ ⟨m, hm | hm, huncovered⟩
            · exact he m hm huncovered
            · exact hy ⟨m, hm, huncovered⟩
      | _ => simp [Frame.fill, ForbiddenAt, FitsUnder]
  | _ => cases f <;> simp [Frame.fill, ForbiddenAt, FitsUnder]

/-- A filled context is accepted exactly when what fills it is accepted and fits under every frame,
and the context is accepted with a number in the hole. -/
theorem check_fill_eq_ok {p : Policy} {C : Context} {e : Expr} (x : Binary64) :
    p.check (C.fill e) = .ok () ↔ p.check e = .ok () ∧ p.check (C.fill (.number x)) = .ok () ∧
      ∀ f ∈ C, p.FitsUnder f e := by
  induction C with
  | nil => simp
  | cons f C ih =>
      have hroot : ¬ p.ForbiddenAt (f.fill (Context.fill C e)) ↔
          ¬ p.ForbiddenAt (f.fill (Context.fill C (.number x))) ∧ p.FitsUnder f e :=
        not_forbiddenAt_frame fun m => Context.hasMatcher_fill x
      -- The siblings of the hole are the same in both trees, so only the root and the hole differ.
      rw [Context.fill_cons, Context.fill_cons, check_frame_eq_ok, check_frame_eq_ok, hroot, ih,
        List.forall_mem_cons]
      constructor
      · rintro ⟨⟨hx, hf⟩, ⟨he, hC, hfits⟩, hsiblings⟩
        exact ⟨he, ⟨hx, hC, hsiblings⟩, hf, hfits⟩
      · rintro ⟨he, ⟨hx, hC, hsiblings⟩, hf, hfits⟩
        exact ⟨⟨hx, hf⟩, ⟨he, hC, hfits⟩, hsiblings⟩

theorem fitsUnder_of_mem {p : Policy} {names : NameSet} (f : Frame) (e : Expr)
    (h : p ∈ [aggregationGroup names, aggregationFunction names, function names]) :
    p.FitsUnder f e := by
  simp only [List.mem_cons, List.not_mem_nil, or_false] at h
  rcases h with rfl | rfl | rfl <;> exact trivial

theorem forall_fitsUnder_iff {value : String} {C : Context} {e : Expr} :
    (∀ f ∈ C, (aggregationLabelValue value).FitsUnder f e) ↔
      ∀ o m, e.matcherAt? o = some m → (m.op = .equal ∨ m.op = .regexMatch) → m.value = value →
        ∀ op g param, .aggregateBody op g param ∈ C → m.name ∈ Grouping.listed g := by
  constructor
  · intro h o m hm hop hvalue op g param hmem
    refine Classical.not_not.1 fun hname => h _ hmem m ⟨o, hm⟩ ?_
    exact ⟨hop, hvalue, hname⟩
  · intro h f hf
    cases f with
    | aggregateBody op g param =>
        rintro m ⟨o, hm⟩ ⟨hop, hvalue, hname⟩
        exact hname (h o m hm hop hvalue op g param hf)
    | _ => exact trivial

/-- An expression in a context is accepted exactly when the expression is and the context is with a
number in its place; the label value policy asks in addition that every aggregation of the context
with the hole in its body keeps the label of each matcher of the expression that selects the value.
So every sub-expression of an accepted tree is accepted. -/
theorem check_replacement (C : Context) (e : Expr) (x : Binary64) :
    (∀ names, ∀ p ∈ [aggregationGroup names, aggregationFunction names, function names],
      (p.check (C.fill e) = .ok () ↔
        p.check e = .ok () ∧ p.check (C.fill (.number x)) = .ok ())) ∧
    (∀ value, (aggregationLabelValue value).check (C.fill e) = .ok () ↔
      (aggregationLabelValue value).check e = .ok () ∧
      (aggregationLabelValue value).check (C.fill (.number x)) = .ok () ∧
      ∀ o m, e.matcherAt? o = some m → (m.op = .equal ∨ m.op = .regexMatch) → m.value = value →
        ∀ op g param, .aggregateBody op g param ∈ C → m.name ∈ Grouping.listed g) ∧
    ∀ (p : Policy) (q : Position) (n : Expr),
      e.at? q = some n → p.check e = .ok () → p.check n = .ok () := by
  refine ⟨fun names p hp => ?_, fun value => ?_, fun p q n hn he => ?_⟩
  · rw [check_fill_eq_ok x]
    constructor
    · rintro ⟨he, hC, -⟩
      exact ⟨he, hC⟩
    · rintro ⟨he, hC⟩
      exact ⟨he, hC, fun f _ => fitsUnder_of_mem f e hp⟩
  · rw [check_fill_eq_ok x, forall_fitsUnder_iff]
  · obtain ⟨D, rfl⟩ := Context.exists_fill_of_at? hn
    exact ((check_fill_eq_ok x).1 he).1

/-- In `topk(max by (pod) (y{pod="v"}), x)` the selector `y{pod="v"}` stands in the body of `max`
and in the parameter of `topk`, which keeps no label: it fits, and so does the parameter by
itself. -/
theorem check_replacement_topk :
    let inner : Expr := .aggregate "max" (some (.byLabels ["pod"])) none
      (.vector ⟨some "y", [⟨"pod", .equal, "v"⟩], []⟩)
    let whole : Expr := .aggregate "topk" none (some inner) (.vector ⟨some "x", [], []⟩)
    (function (.ofList ["rate"])).check whole = .ok () ∧
      (aggregationLabelValue "v").check whole = .ok () ∧
      (aggregationLabelValue "v").check inner = .ok () := by
  intro inner whole
  have hlaw := check_replacement
    [.aggregateParam "topk" none (.vector ⟨some "x", [], []⟩),
      .aggregateBody "max" (some (.byLabels ["pod"])) none]
    (.vector ⟨some "y", [⟨"pod", .equal, "v"⟩], []⟩) default
  have hwhole := (hlaw.2.1 "v").2 ⟨by cbv, by cbv, ?_⟩
  · refine ⟨(hlaw.1 (.ofList ["rate"]) _ (by simp)).2 ⟨by cbv, by cbv⟩, hwhole, ?_⟩
    exact (check_replacement [] _ default).2.2 _ [0] _ rfl hwhole
  · intro o m hm _ _ op g param hframe
    have hpod : m = ⟨"pod", .equal, "v"⟩ := by
      simpa [Expr.selector?, Expr.children, Selector.allMatchers] using
        Expr.hasMatcher_iff.1 ⟨o, hm⟩
    simp only [List.mem_cons, List.not_mem_nil, or_false, reduceCtorEq, false_or,
      Frame.aggregateBody.injEq] at hframe
    obtain ⟨-, rfl, -⟩ := hframe
    subst hpod
    decide

end QueryPolicy.Policy
