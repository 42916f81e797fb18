import QueryPolicy.Proofs.Policy.Leaves

/-!
# Blacklists compose

A union of blacklists forbids at each node what one of its parts forbids there. So it accepts what
both parts accept, as a set of the two policies does. But where both reject, the union reports the
node that comes first in the tree, and the set the policy that comes first in the list.
-/

namespace QueryPolicy

namespace Expr

variable {e n m : Expr} {P Q : Expr → Prop} {p q : Position}

theorem FirstAt.unique (h : e.FirstAt P p n) (h' : e.FirstAt P q m) : p = q ∧ n = m := by
  have hpq : p = q := le_antisymm (h.2.2 q m h'.1 h'.2.1) (h'.2.2 p n h.1 h.2.1)
  subst hpq
  exact ⟨rfl, Option.some.inj (h.1.symm.trans h'.1)⟩

/-- The first node with one property is the first with either, unless the other occurs before. -/
theorem FirstAt.or_of_le (h : e.FirstAt P p n) (hQ : ∀ q m, e.at? q = some m → Q m → p ≤ q) :
    e.FirstAt (fun n => P n ∨ Q n) p n := by
  refine ⟨h.1, Or.inl h.2.1, fun q m hm hPQ => ?_⟩
  rcases hPQ with hP | hQm
  · exact h.2.2 q m hm hP
  · exact hQ q m hm hQm

end Expr

namespace Policy

theorem check_eq_error {p : Policy} {e : Expr} {v : Violation} :
    p.check e = .error v ↔ ∃ q n, e.FirstAt p.ForbiddenAt q n ∧ p.nodeViolation? n = some v := by
  refine ⟨exists_of_check_eq_error, ?_⟩
  rintro ⟨q, n, hfirst, hv⟩
  cases hcheck : p.check e with
  | ok => exact absurd hfirst.2.1 (check_eq_ok.1 hcheck q n hfirst.1)
  | error v' =>
      obtain ⟨q', n', hfirst', hv'⟩ := exists_of_check_eq_error hcheck
      obtain ⟨-, rfl⟩ := hfirst.unique hfirst'
      rw [Option.some.inj (hv.symm.trans hv')]

/-! ## Two policies in one -/

/-- At each node, a policy forbids what two others forbid, and reports it as these do. -/
structure Joins (r p q : Policy) : Prop where
  forbidden : ∀ n, r.ForbiddenAt n ↔ p.ForbiddenAt n ∨ q.ForbiddenAt n
  left : ∀ n v, p.nodeViolation? n = some v → r.nodeViolation? n = some v
  right : ∀ n v, q.nodeViolation? n = some v → r.nodeViolation? n = some v

variable {r p q : Policy} {e : Expr}

theorem Joins.symm (h : Joins r p q) : Joins r q p :=
  ⟨fun n => (h.forbidden n).trans Or.comm, h.right, h.left⟩

theorem Joins.check_eq_ok (h : Joins r p q) :
    r.check e = .ok () ↔ p.check e = .ok () ∧ q.check e = .ok () := by
  simp only [Policy.check_eq_ok, h.forbidden, not_or]
  exact ⟨fun hr => ⟨fun k n hn => (hr k n hn).1, fun k n hn => (hr k n hn).2⟩,
    fun hpq k n hn => ⟨hpq.1 k n hn, hpq.2 k n hn⟩⟩

/-- Where the first policy finds its node no later than the other could, it speaks for both. -/
theorem Joins.check_eq_error (h : Joins r p q) {k : Position} {n : Expr} {v : Violation}
    (hfirst : e.FirstAt p.ForbiddenAt k n) (hv : p.nodeViolation? n = some v)
    (hq : ∀ k' m, e.at? k' = some m → q.ForbiddenAt m → k ≤ k') : r.check e = .error v := by
  refine Policy.check_eq_error.2 ⟨k, n, ?_, h.left n v hv⟩
  rw [show r.ForbiddenAt = fun n => p.ForbiddenAt n ∨ q.ForbiddenAt n from
    funext fun n => propext (h.forbidden n)]
  exact hfirst.or_of_le hq

theorem Joins.check_of_ok (h : Joins r p q) {v : Violation} (hp : p.check e = .error v)
    (hq : q.check e = .ok ()) : r.check e = .error v := by
  obtain ⟨k, n, hfirst, hv⟩ := exists_of_check_eq_error hp
  refine h.check_eq_error hfirst hv fun k' m hm hforbidden => ?_
  exact absurd hforbidden (Policy.check_eq_ok.1 hq k' m hm)

/-! ## Unions of blacklists -/

theorem forbiddenAt_iff {p : Policy} {n : Expr} :
    p.ForbiddenAt n ↔ ∃ v, p.nodeViolation? n = some v := by
  rw [← isSome_nodeViolation?, Option.isSome_iff_exists]

/-- A family of policies that report the name of a node when their blacklist has it. -/
def IsBlacklist (policy : NameSet → Policy) : Prop :=
  ∃ (name? : Expr → Option String) (report : String → Violation), ∀ s n v,
    (policy s).nodeViolation? n = some v ↔ ∃ name, name? n = some name ∧ name ∈ s ∧ report name = v

theorem isBlacklist_function : IsBlacklist function := by
  refine ⟨fun n => n.call?.map (·.name), .function, fun s n v => ?_⟩
  cases n with
  | call name args => simp [nodeViolation?, Expr.call?, functionViolation?]
  | _ => simp [nodeViolation?, Expr.call?]

theorem isBlacklist_aggregationFunction : IsBlacklist aggregationFunction := by
  refine ⟨fun n => n.aggregation?.map (·.op), .aggregator, fun s n v => ?_⟩
  cases n with
  | aggregate op g param body => simp [nodeViolation?, Expr.aggregation?, aggregatorViolation?]
  | _ => simp [nodeViolation?, Expr.aggregation?]

theorem IsBlacklist.joins {policy : NameSet → Policy} (h : IsBlacklist policy) (s t : NameSet) :
    Joins (policy (s ∪ t)) (policy s) (policy t) := by
  obtain ⟨name?, report, hnode⟩ := h
  refine ⟨fun n => ?_, fun n v hv => ?_, fun n v hv => ?_⟩
  · simp only [forbiddenAt_iff, hnode, NameSet.mem_union]
    grind
  · obtain ⟨name, hname, hs, rfl⟩ := (hnode s n v).1 hv
    exact (hnode _ n _).2 ⟨name, hname, NameSet.mem_union.2 (Or.inl hs), rfl⟩
  · obtain ⟨name, hname, ht, rfl⟩ := (hnode t n v).1 hv
    exact (hnode _ n _).2 ⟨name, hname, NameSet.mem_union.2 (Or.inr ht), rfl⟩

/-- A longer blacklist accepts no more than a shorter one. -/
theorem IsBlacklist.check_eq_ok_of_subset {policy : NameSet → Policy} (h : IsBlacklist policy)
    {s t : NameSet} (hst : ∀ x ∈ s, x ∈ t) (ht : (policy t).check e = .ok ()) :
    (policy s).check e = .ok () := by
  have hunion : s ∪ t = t := NameSet.ext fun x => by
    rw [NameSet.mem_union]
    exact ⟨fun hx => hx.elim (hst x) id, Or.inr⟩
  rw [← hunion] at ht
  exact ((h.joins s t).check_eq_ok.1 ht).1

end Policy

/-! ## A set of two policies -/

theorem PolicySet.check_pair_eq_ok {p q : Policy} {e : Expr} :
    PolicySet.check ⟨[.policy p, .policy q]⟩ e = .ok () ↔
      p.check e = .ok () ∧ q.check e = .ok () := by
  have hleaves : (toValidator ⟨[.policy p, .policy q]⟩).leaves = [p, q] := rfl
  rw [check, Validator.check_eq_ok, hleaves]
  simp

theorem PolicySet.check_pair_eq_error {p q : Policy} {e : Expr} {v : Violation}
    (h : p.check e = .error v) : PolicySet.check ⟨[.policy p, .policy q]⟩ e = .error v :=
  Validator.check_eq_error.2 ⟨[], p, [q], rfl, by simp, h⟩

/-- The union of two blacklists accepts a tree exactly when both do, as the set of the two policies
does, and longer blacklists accept no more. If one of the two rejects, the union reports the same.
If both reject, the union reports the one whose node comes first in pre-order, and the set the one
that comes first in the set. -/
theorem Policy.blacklists_compose (policy : NameSet → Policy)
    (hpolicy : policy = .function ∨ policy = .aggregationFunction) (s t : NameSet) (e : Expr) :
    ((policy (s ∪ t)).check e = .ok () ↔
      (policy s).check e = .ok () ∧ (policy t).check e = .ok ()) ∧
    ((policy (s ∪ t)).check e = .ok () ↔
      PolicySet.check ⟨[.policy (policy s), .policy (policy t)]⟩ e = .ok ()) ∧
    ((∀ x ∈ s, x ∈ t) → (policy s).check e ≠ .ok () → (policy t).check e ≠ .ok ()) ∧
    (∀ v, (policy s).check e = .error v → (policy t).check e = .ok () →
      (policy (s ∪ t)).check e = .error v) ∧
    (∀ v, (policy s).check e = .ok () → (policy t).check e = .error v →
      (policy (s ∪ t)).check e = .error v) ∧
    ∀ v w, (policy s).check e = .error v → (policy t).check e = .error w →
      PolicySet.check ⟨[.policy (policy s), .policy (policy t)]⟩ e = .error v ∧
      ∃ p n q m, e.FirstAt (policy s).ForbiddenAt p n ∧ (policy s).nodeViolation? n = some v ∧
        e.FirstAt (policy t).ForbiddenAt q m ∧ (policy t).nodeViolation? m = some w ∧
        (p ≤ q → (policy (s ∪ t)).check e = .error v) ∧
        (q ≤ p → (policy (s ∪ t)).check e = .error w) := by
  have hblacklist : IsBlacklist policy := by
    rcases hpolicy with rfl | rfl
    · exact isBlacklist_function
    · exact isBlacklist_aggregationFunction
  have hjoins : Joins (policy (s ∪ t)) (policy s) (policy t) := hblacklist.joins s t
  refine ⟨hjoins.check_eq_ok, ?_, fun hst hs ht => hs (hblacklist.check_eq_ok_of_subset hst ht),
    fun v hs ht => hjoins.check_of_ok hs ht, fun v hs ht => hjoins.symm.check_of_ok ht hs,
    fun v w hs ht => ⟨PolicySet.check_pair_eq_error hs, ?_⟩⟩
  · rw [hjoins.check_eq_ok, PolicySet.check_pair_eq_ok]
  · obtain ⟨p, n, hp, hv⟩ := exists_of_check_eq_error hs
    obtain ⟨q, m, hq, hw⟩ := exists_of_check_eq_error ht
    refine ⟨p, n, q, m, hp, hv, hq, hw, fun hle => ?_, fun hle => ?_⟩
    · exact hjoins.check_eq_error hp hv fun k n' hn' h => le_trans hle (hq.2.2 k n' hn' h)
    · exact hjoins.symm.check_eq_error hq hw fun k n' hn' h => le_trans hle (hp.2.2 k n' hn' h)

/-- In `rate(x) + abs(y)` the second blacklist finds its function first. -/
theorem Policy.blacklists_compose_rate_abs :
    let e : Expr := .binary "+" (.call "rate" [.vector ⟨some "x", [], []⟩])
      (.call "abs" [.vector ⟨some "y", [], []⟩])
    let s : NameSet := .ofList ["abs", "ceil"]
    let t : NameSet := .ofList ["rate"]
    (function s).check e = .error (.function "abs") ∧
      (function t).check e = .error (.function "rate") ∧
      (function (s ∪ t)).check e = .error (.function "rate") ∧
      PolicySet.check ⟨[.policy (function s), .policy (function t)]⟩ e =
        .error (.function "abs") := by
  intro e s t
  have hs : (function s).check e = .error (.function "abs") := by cbv
  have ht : (function t).check e = .error (.function "rate") := by cbv
  obtain ⟨-, -, -, -, -, hboth⟩ := blacklists_compose function (Or.inl rfl) s t e
  obtain ⟨hset, p, n, q, m, hp, -, hq, -, -, hright⟩ := hboth _ _ hs ht
  refine ⟨hs, ht, hright ?_, hset⟩
  have hrate : q ≤ [0] := hq.2.2 [0] _ rfl (NameSet.mem_ofList.2 (by simp))
  -- Only the root comes before `[0]` in pre-order, and it is no call.
  cases p with
  | nil =>
      obtain ⟨hn, hforbidden, -⟩ := hp
      cases hn
      cases hforbidden
  | cons i p =>
      refine le_trans hrate (not_lt.1 fun hlt => ?_)
      rcases List.cons_lt_cons_iff.1 hlt with hi | ⟨-, hp⟩
      · exact Nat.not_lt_zero i hi
      · exact List.not_lt_nil p hp

end QueryPolicy
