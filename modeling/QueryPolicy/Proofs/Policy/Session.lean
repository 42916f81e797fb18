import QueryPolicy.Policy.Session
import QueryPolicy.Proofs.Policy.Validation

/-!
# Sets that grow

Which trees a set accepts depends on the policies in it and not on how they are arranged; only the
report depends on their order. While a set is worked on it grows at its end, so a rejection stays as
it is, and what was accepted can only be rejected by what was added.
-/

namespace QueryPolicy

/-! ## The same policies -/

/-- The same rule with the same parameter, sets being compared by their members. -/
inductive Policy.SameAs : Policy → Policy → Prop
  | aggregationGroup {s t : NameSet} (h : ∀ x, x ∈ s ↔ x ∈ t) :
      SameAs (.aggregationGroup s) (.aggregationGroup t)
  | aggregationLabelValue (value : String) :
      SameAs (.aggregationLabelValue value) (.aggregationLabelValue value)
  | aggregationFunction {s t : NameSet} (h : ∀ x, x ∈ s ↔ x ∈ t) :
      SameAs (.aggregationFunction s) (.aggregationFunction t)
  | function {s t : NameSet} (h : ∀ x, x ∈ s ↔ x ∈ t) : SameAs (.function s) (.function t)

theorem Policy.sameAs_iff {p q : Policy} : p.SameAs q ↔ p = q := by
  constructor
  · intro h
    cases h with
    | aggregationGroup h | aggregationFunction h | function h => rw [NameSet.ext h]
    | aggregationLabelValue value => rfl
  · rintro rfl
    cases p with
    | aggregationGroup s => exact .aggregationGroup fun x => Iff.rfl
    | aggregationLabelValue value => exact .aggregationLabelValue value
    | aggregationFunction s => exact .aggregationFunction fun x => Iff.rfl
    | function s => exact .function fun x => Iff.rfl

/-- Two sets hold the same policies, in whatever order, number and nesting. -/
structure PolicySet.SameLeaves (s t : PolicySet) : Prop where
  left : ∀ p ∈ s.toValidator.leaves, ∃ q ∈ t.toValidator.leaves, p.SameAs q
  right : ∀ q ∈ t.toValidator.leaves, ∃ p ∈ s.toValidator.leaves, p.SameAs q

theorem PolicySet.SameLeaves.mem_iff {s t : PolicySet} (h : s.SameLeaves t) (p : Policy) :
    p ∈ s.toValidator.leaves ↔ p ∈ t.toValidator.leaves := by
  constructor
  · intro hp
    obtain ⟨q, hq, hsame⟩ := h.left p hp
    rwa [Policy.sameAs_iff.1 hsame]
  · intro hp
    obtain ⟨q, hq, hsame⟩ := h.right p hp
    rwa [← Policy.sameAs_iff.1 hsame]

namespace Validator

variable {v w : Validator} {e : Expr}

theorem check_eq_ok_congr (h : ∀ p, p ∈ v.leaves ↔ p ∈ w.leaves) :
    v.check e = .ok () ↔ w.check e = .ok () := by
  simp only [check_eq_ok, h]

/-- A policy that alone rejects is the one that is reported. -/
theorem check_eq_error_of_only {p : Policy} {violation : Violation} (hp : p ∈ v.leaves)
    (hrejects : p.check e = .error violation)
    (honly : ∀ q ∈ v.leaves, q.check e ≠ .ok () → q = p) : v.check e = .error violation := by
  cases hcheck : v.check e with
  | ok =>
      rw [check_eq_ok.1 hcheck p hp] at hrejects
      cases hrejects
  | error violation' =>
      obtain ⟨before, q, after, hleaves, -, hq⟩ := check_eq_error.1 hcheck
      have hmem : q ∈ v.leaves := by
        rw [hleaves]
        exact List.mem_append_right before List.mem_cons_self
      have hqp : q = p := honly q hmem (by rw [hq]; simp)
      rw [← hrejects, ← hqp, hq]

/-! ## More members -/

theorem checkAll_append_of_error {members added : List Validator} {violation : Violation}
    (h : checkAll members e = .error violation) :
    checkAll (members ++ added) e = .error violation := by
  obtain ⟨before, m, after, rfl, hbefore, hm⟩ := checkAll_eq_error.1 h
  refine checkAll_eq_error.2 ⟨before, m, after ++ added, ?_, hbefore, hm⟩
  rw [List.append_assoc, List.cons_append]

/-- Members that accept do not show in front of others. -/
theorem checkAll_append_of_ok {members added : List Validator}
    (h : checkAll members e = .ok ()) : checkAll (members ++ added) e = checkAll added e := by
  induction members with
  | nil => rfl
  | cons m members ih =>
      rw [checkAll_eq_ok] at h
      rw [List.cons_append, checkAll, h m List.mem_cons_self]
      exact ih (checkAll_eq_ok.2 fun m' hm' => h m' (List.mem_cons_of_mem m hm'))

end Validator

/-! ## Steps -/

namespace Step

/-- The step forgets the set that is there. -/
def StartsOver : Step → Prop
  | clear => True
  | configure _ => True
  | push _ => False
  | validate _ => False
  | check _ => False

/-- The validator that a step adds. -/
def pushed? : Step → Option Validator
  | push v => some v
  | _ => none

end Step

namespace PolicySet

/-- The members that a series of steps adds, in order. -/
def added (steps : List Step) : List Validator := steps.filterMap Step.pushed?

theorem members_after {step : Step} (h : ¬ step.StartsOver) (s : PolicySet) :
    (s.after step).members = s.members ++ step.pushed?.toList := by
  cases step with
  | clear | configure => exact absurd trivial h
  | push v => rfl
  | validate text | check e => exact (List.append_nil _).symm

theorem members_afterAll {steps : List Step} (h : ∀ step ∈ steps, ¬ step.StartsOver)
    (s : PolicySet) : (s.afterAll steps).members = s.members ++ added steps := by
  induction steps generalizing s with
  | nil => exact (List.append_nil _).symm
  | cons step steps ih =>
      have hrest := ih (fun st hst => h st (List.mem_cons_of_mem step hst)) (s.after step)
      rw [afterAll, List.foldl_cons, ← afterAll, hrest, members_after (h step List.mem_cons_self),
        List.append_assoc]
      cases hpushed : step.pushed? with
      | none => rw [added, added, List.filterMap_cons_none hpushed]; rfl
      | some v => rw [added, added, List.filterMap_cons_some hpushed]; rfl

theorem afterAll_append (s : PolicySet) (steps steps' : List Step) :
    s.afterAll (steps ++ steps') = (s.afterAll steps).afterAll steps' :=
  List.foldl_append

variable {steps : List Step} {s : PolicySet} {e : Expr}

theorem check_afterAll_of_error {v : Violation} (h : ∀ step ∈ steps, ¬ step.StartsOver)
    (hcheck : s.check e = .error v) : (s.afterAll steps).check e = .error v := by
  rw [check, toValidator, Validator.check] at hcheck ⊢
  rw [members_afterAll h]
  exact Validator.checkAll_append_of_error hcheck

theorem check_afterAll_of_ok (h : ∀ step ∈ steps, ¬ step.StartsOver)
    (hcheck : s.check e = .ok ()) :
    (s.afterAll steps).check e = Validator.checkAll (added steps) e := by
  rw [check, toValidator, Validator.check] at hcheck ⊢
  rw [members_afterAll h]
  exact Validator.checkAll_append_of_ok hcheck

/-- Two sets that hold the same policies accept the same trees, and where a single policy rejects
they report it alike. Questions leave a set as it is, and a push, which gives the longer set, adds
one member at its end. After any run, as long as it does not start over, a tree that was rejected
stays so with the same violation, and one that was accepted is rejected only by the first of the
members added since that rejects it. -/
theorem leaves_decide_and_rejections_stay :
    (∀ s t : PolicySet, s.SameLeaves t → ∀ e,
      (s.check e = .ok () ↔ t.check e = .ok ()) ∧
      ∀ p ∈ s.toValidator.leaves, ∀ v, p.check e = .error v →
        (∀ q ∈ s.toValidator.leaves, q.check e ≠ .ok () → q.SameAs p) →
        s.check e = .error v ∧ t.check e = .error v) ∧
    (∀ s : PolicySet, (∀ e, s.after (.check e) = s) ∧ (∀ text, s.after (.validate text) = s) ∧
      ∀ v, (s.after (.push v)).members = s.members ++ [v]) ∧
    ∀ (s : PolicySet) (earlier later : List Step), (∀ step ∈ later, ¬ step.StartsOver) →
      (s.afterAll (earlier ++ later)).members = (s.afterAll earlier).members ++ added later ∧
      ∀ e v,
        ((s.afterAll earlier).check e = .error v →
          (s.afterAll (earlier ++ later)).check e = .error v) ∧
        ((s.afterAll earlier).check e = .ok () →
          (s.afterAll (earlier ++ later)).check e = .error v →
          ∃ before m after, added later = before ++ m :: after ∧
            (∀ m' ∈ before, m'.check e = .ok ()) ∧ m.check e = .error v) := by
  refine ⟨fun s t hsame e => ⟨Validator.check_eq_ok_congr hsame.mem_iff, ?_⟩,
    fun s => ⟨fun e => rfl, fun text => rfl, fun v => rfl⟩, fun s earlier later hlater => ?_⟩
  · intro p hp v hrejects honly
    have honly' : ∀ q ∈ s.toValidator.leaves, q.check e ≠ .ok () → q = p :=
      fun q hq hne => Policy.sameAs_iff.1 (honly q hq hne)
    refine ⟨Validator.check_eq_error_of_only hp hrejects honly', ?_⟩
    exact Validator.check_eq_error_of_only ((hsame.mem_iff p).1 hp) hrejects
      fun q hq => honly' q ((hsame.mem_iff q).2 hq)
  · rw [afterAll_append]
    refine ⟨members_afterAll hlater _, fun e v => ⟨check_afterAll_of_error hlater, ?_⟩⟩
    intro hok hrejected
    rw [check_afterAll_of_ok hlater hok] at hrejected
    exact Validator.checkAll_eq_error.1 hrejected

/-- Two arrangements of a grouping policy and a blacklist reject `sum by (job) (rate(x))` alike, and
a set that starts over with the blacklist keeps rejecting it while it grows. -/
theorem leaves_decide_and_rejections_stay_sum_rate :
    let group : Policy := .aggregationGroup (.ofList ["job"])
    let functions : Policy := .function (.ofList ["rate", "abs"])
    let functions' : Policy := .function (.ofList ["abs", "rate", "abs"])
    let s : PolicySet := ⟨[.policy group, .policy functions]⟩
    let t : PolicySet := ⟨[.set [.policy functions', .set []], .policy group, .policy functions]⟩
    let e : Expr := .aggregate "sum" (some (.byLabels ["job"])) none
      (.call "rate" [.vector ⟨some "x", [], []⟩])
    let earlier : List Step := [.push (.policy group), .clear, .push (.policy functions)]
    let later : List Step :=
      [.check e, .push (.policy (.aggregationFunction (.ofList ["sum"]))), .validate "x"]
    s.SameLeaves t ∧ s.check e = .error (.function "rate") ∧ t.check e = .error (.function "rate") ∧
      (∀ step ∈ later, ¬ step.StartsOver) ∧
      (afterAll ∅ earlier).check e = .error (.function "rate") ∧
      (afterAll ∅ (earlier ++ later)).check e = .error (.function "rate") := by
  intro group functions functions' s t e earlier later
  have hfunctions : functions.SameAs functions' := .function fun x => by
    simp only [NameSet.mem_ofList]
    grind
  have hleavesOf : s.toValidator.leaves = [group, functions] ∧
      t.toValidator.leaves = functions' :: [group, functions] := ⟨rfl, rfl⟩
  have hsame : s.SameLeaves t := by
    refine ⟨fun p hp => ⟨p, List.mem_cons_of_mem functions' hp, Policy.sameAs_iff.2 rfl⟩, ?_⟩
    rw [hleavesOf.1, hleavesOf.2]
    intro q hq
    rcases List.mem_cons.1 hq with rfl | hq
    · exact ⟨functions, by simp, hfunctions⟩
    · exact ⟨q, hq, Policy.sameAs_iff.2 rfl⟩
  have hgroup : group.check e = .ok () := by cbv
  have hrejects : functions.check e = .error (.function "rate") := by cbv
  have hearlier : (afterAll ∅ earlier).check e = .error (.function "rate") := by cbv
  have hlater : ∀ step ∈ later, ¬ step.StartsOver := by
    simp [later, Step.StartsOver]
  obtain ⟨hleaves, -, hruns⟩ := leaves_decide_and_rejections_stay
  have honly : ∀ q ∈ s.toValidator.leaves, q.check e ≠ .ok () → q.SameAs functions := by
    rw [hleavesOf.1]
    intro q hq hne
    rcases List.mem_cons.1 hq with rfl | hq
    · exact absurd hgroup hne
    · exact Policy.sameAs_iff.2 (List.mem_singleton.1 hq)
  obtain ⟨hs, ht⟩ := (hleaves s t hsame e).2 functions (by simp [hleavesOf]) _ hrejects honly
  exact ⟨hsame, hs, ht, hlater, hearlier, ((hruns ∅ earlier later hlater).2 e _).1 hearlier⟩

end PolicySet

end QueryPolicy
