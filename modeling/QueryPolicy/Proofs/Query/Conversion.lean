import Mathlib.Data.List.Forall2
import QueryPolicy.Policy.Set
import QueryPolicy.Proofs.Except
import QueryPolicy.Proofs.Expr.Position
import QueryPolicy.Query.Tree.ToExpr

/-!
# What expressions keep of query trees

A tree has no expression exactly when it has a foreign node somewhere. Otherwise the expression has
the same positions, with a node of the same kind and the same parts at each. What it leaves out are
offsets, fixed times, the modifiers of binary operations, compiled patterns and signatures, and two
trees that differ in nothing else have one expression.
-/

namespace QueryPolicy.Query

/-! ## Selectors -/

/-- The operator that stands for a test. -/
inductive MatcherTest.Keeps : MatcherTest → MatchOp → Prop
  | equal : Keeps .equal .equal
  | notEqual : Keeps .notEqual .notEqual
  | pattern (p : Pattern) : Keeps (.pattern p) .regexMatch
  | notPattern (p : Pattern) : Keeps (.notPattern p) .regexNotMatch

structure TreeMatcher.Keeps (m : TreeMatcher) (m' : LabelMatcher) : Prop where
  name : m.name = m'.name
  test : m.test.Keeps m'.op
  value : m.value = m'.value

structure TreeSelector.Keeps (s : TreeSelector) (s' : Selector) : Prop where
  name : s.name = s'.name
  matchers : List.Forall₂ TreeMatcher.Keeps s.matchers s'.matchers
  orMatchers : List.Forall₂ (List.Forall₂ TreeMatcher.Keeps) s.orMatchers s'.orMatchers

/-- The same test, up to the compiled form of a pattern. -/
inductive MatcherTest.Alike : MatcherTest → MatcherTest → Prop
  | equal : Alike .equal .equal
  | notEqual : Alike .notEqual .notEqual
  | pattern (p p' : Pattern) : Alike (.pattern p) (.pattern p')
  | notPattern (p p' : Pattern) : Alike (.notPattern p) (.notPattern p')

structure TreeMatcher.Alike (m m' : TreeMatcher) : Prop where
  name : m.name = m'.name
  test : m.test.Alike m'.test
  value : m.value = m'.value

/-- The same name and matchers; offset and fixed time do not count. -/
structure TreeSelector.Alike (s s' : TreeSelector) : Prop where
  name : s.name = s'.name
  matchers : List.Forall₂ TreeMatcher.Alike s.matchers s'.matchers
  orMatchers : List.Forall₂ (List.Forall₂ TreeMatcher.Alike) s.orMatchers s'.orMatchers

theorem MatcherTest.keeps_iff {t : MatcherTest} {op : MatchOp} : t.Keeps op ↔ t.op = op := by
  constructor
  · intro h
    cases h <;> rfl
  · rintro rfl
    cases t <;> constructor

theorem MatcherTest.alike_iff {t t' : MatcherTest} : t.Alike t' ↔ t.op = t'.op := by
  constructor
  · intro h
    cases h <;> rfl
  · intro h
    cases t <;> cases t' <;> cases h <;> constructor

theorem TreeMatcher.keeps_iff {m : TreeMatcher} {m' : LabelMatcher} :
    m.Keeps m' ↔ m.toMatcher = m' := by
  rw [toMatcher, LabelMatcher.mk.injEq, ← MatcherTest.keeps_iff]
  exact ⟨fun h => ⟨h.name, h.test, h.value⟩, fun ⟨hname, htest, hvalue⟩ => ⟨hname, htest, hvalue⟩⟩

theorem TreeMatcher.alike_iff {m m' : TreeMatcher} : m.Alike m' ↔ m.toMatcher = m'.toMatcher := by
  rw [toMatcher, toMatcher, LabelMatcher.mk.injEq, ← MatcherTest.alike_iff]
  exact ⟨fun h => ⟨h.name, h.test, h.value⟩, fun ⟨hname, htest, hvalue⟩ => ⟨hname, htest, hvalue⟩⟩

theorem forall₂_iff_map {α β γ : Type} {R : α → β → Prop} {f : α → γ} {g : β → γ}
    (h : ∀ a b, R a b ↔ f a = g b) {l : List α} {l' : List β} :
    List.Forall₂ R l l' ↔ l.map f = l'.map g := by
  induction l generalizing l' with
  | nil => cases l' <;> simp
  | cons a l ih => cases l' <;> simp [h, ih]

theorem TreeSelector.keeps_iff {s : TreeSelector} {s' : Selector} :
    s.Keeps s' ↔ s.toSelector = s' := by
  have hmatcher : ∀ m m', TreeMatcher.Keeps m m' ↔ m.toMatcher = id m' :=
    fun _ _ => TreeMatcher.keeps_iff
  have hlist : ∀ l l', List.Forall₂ TreeMatcher.Keeps l l' ↔
      l.map TreeMatcher.toMatcher = id l' := fun l l' => by
    rw [forall₂_iff_map hmatcher, List.map_id, id]
  obtain ⟨name, matchers, orMatchers⟩ := s'
  have hgroups : List.Forall₂ (List.Forall₂ TreeMatcher.Keeps) s.orMatchers orMatchers ↔
      s.orMatchers.map (·.map TreeMatcher.toMatcher) = orMatchers := by
    rw [forall₂_iff_map hlist, List.map_id]
  rw [toSelector, Selector.mk.injEq, ← hgroups]
  exact ⟨fun h => ⟨h.name, (hlist ..).1 h.matchers, h.orMatchers⟩,
    fun ⟨hname, hmatchers, hor⟩ => ⟨hname, (hlist ..).2 hmatchers, hor⟩⟩

theorem TreeSelector.alike_iff {s s' : TreeSelector} :
    s.Alike s' ↔ s.toSelector = s'.toSelector := by
  have hmatcher : ∀ m m', TreeMatcher.Alike m m' ↔ m.toMatcher = m'.toMatcher :=
    fun _ _ => TreeMatcher.alike_iff
  have hlist : ∀ l l', List.Forall₂ TreeMatcher.Alike l l' ↔
      l.map TreeMatcher.toMatcher = l'.map TreeMatcher.toMatcher :=
    fun _ _ => forall₂_iff_map hmatcher
  rw [toSelector, toSelector, Selector.mk.injEq, ← hlist, ← forall₂_iff_map hlist]
  exact ⟨fun h => ⟨h.name, h.matchers, h.orMatchers⟩,
    fun ⟨hname, hmatchers, hor⟩ => ⟨hname, hmatchers, hor⟩⟩

/-! ## Operators -/

theorem eq_of_find? {α : Type} {text : α → String} (all : List α)
    (hall : ∀ a, all.find? (text · == text a) = some a) {a b : α} (h : text a = text b) : a = b :=
  Option.some.inj ((hall a).symm.trans (h ▸ hall b))

theorem Aggregator.name_injective {op op' : Aggregator} (h : op.name = op'.name) : op = op' := by
  refine eq_of_find? all (fun op => ?_) h
  cases op <;> decide

theorem BinaryOp.render_injective {op op' : BinaryOp} (h : op.render = op'.render) : op = op' := by
  let all : List BinaryOp :=
    [add, sub, mul, div, mod, pow, atan2, eq, ne, gt, ge, lt, le, setAnd, setOr, setUnless]
  refine eq_of_find? all (fun op => ?_) h
  cases op <;> decide

namespace Tree

/-! ## Positions -/

/-- Direct children in source order; the parameter of an aggregation comes before its body. -/
def children : Tree → List Tree
  | aggregate _ _ param body => param.toList ++ [body]
  | binary _ lhs rhs _ => [lhs, rhs]
  | unary operand => [operand]
  | paren inner => [inner]
  | call _ args => args
  | subquery inner _ _ _ _ => [inner]
  | vector _ | matrix _ _ | number _ | string _ | foreign _ _ => []

/-- The node at a position, if the tree has that position. -/
def at? : Tree → Position → Option Tree
  | t, [] => some t
  | t, i :: p => t.children[i]?.bind (at? · p)

def HasForeign (t : Tree) : Prop := ∃ p name type, t.at? p = some (foreign name type)

theorem HasForeign.of_child {c t : Tree} (hc : c ∈ t.children) (h : c.HasForeign) :
    t.HasForeign := by
  obtain ⟨p, name, type, hp⟩ := h
  obtain ⟨i, hi⟩ := List.mem_iff_getElem?.1 hc
  exact ⟨i :: p, name, type, by rw [at?, hi, Option.bind_some, hp]⟩

/-! ## Nodes -/

/-- The node of an expression that stands in the place of a node of a tree. Their children are
compared in their own places. -/
inductive Keeps : Tree → Expr → Prop
  | aggregate (op : Aggregator) (g : Option Grouping) (param : Option Tree) (body : Tree)
      (param' : Option Expr) (body' : Expr) :
      Keeps (.aggregate op g param body) (.aggregate op.name g param' body')
  | binary (op : BinaryOp) (lhs rhs : Tree) (modifiers : BinaryModifiers) (lhs' rhs' : Expr) :
      Keeps (.binary op lhs rhs modifiers) (.binary op.render lhs' rhs')
  | unary (operand : Tree) (operand' : Expr) : Keeps (.unary operand) (.unary operand')
  | paren (inner : Tree) (inner' : Expr) : Keeps (.paren inner) (.paren inner')
  | call (signature : Signature) (args : List Tree) (args' : List Expr) :
      Keeps (.call signature args) (.call signature.name args')
  | vector {s : TreeSelector} {s' : Selector} (h : s.Keeps s') : Keeps (.vector s) (.vector s')
  | matrix {s : TreeSelector} {s' : Selector} (h : s.Keeps s') (range : Duration) :
      Keeps (.matrix s range) (.matrix s' range)
  | subquery (inner : Tree) (inner' : Expr) (range : Duration) (step : Option Duration)
      (offset : Option Offset) (instant : Option Instant) :
      Keeps (.subquery inner range step offset instant) (.subquery inner' range step)
  | number (x : Binary64) : Keeps (.number x) (.number x)
  | string (s : String) : Keeps (.string s) (.string s)

/-- Two nodes that differ in nothing but an offset, a fixed time, the modifiers of a binary
operation, compiled patterns or a signature. -/
inductive Alike : Tree → Tree → Prop
  | aggregate (op : Aggregator) (g : Option Grouping) (param param' : Option Tree)
      (body body' : Tree) : Alike (.aggregate op g param body) (.aggregate op g param' body')
  | binary (op : BinaryOp) (lhs rhs lhs' rhs' : Tree) (modifiers modifiers' : BinaryModifiers) :
      Alike (.binary op lhs rhs modifiers) (.binary op lhs' rhs' modifiers')
  | unary (operand operand' : Tree) : Alike (.unary operand) (.unary operand')
  | paren (inner inner' : Tree) : Alike (.paren inner) (.paren inner')
  | call {signature signature' : Signature} (h : signature.name = signature'.name)
      (args args' : List Tree) : Alike (.call signature args) (.call signature' args')
  | vector {s s' : TreeSelector} (h : s.Alike s') : Alike (.vector s) (.vector s')
  | matrix {s s' : TreeSelector} (h : s.Alike s') (range : Duration) :
      Alike (.matrix s range) (.matrix s' range)
  | subquery (inner inner' : Tree) (range : Duration) (step : Option Duration)
      (offset offset' : Option Offset) (instant instant' : Option Instant) :
      Alike (.subquery inner range step offset instant)
        (.subquery inner' range step offset' instant')
  | number (x : Binary64) : Alike (.number x) (.number x)
  | string (s : String) : Alike (.string s) (.string s)
  | foreign (name : String) (type : ValueType) : Alike (.foreign name type) (.foreign name type)

theorem Keeps.alike {u u' : Tree} {n : Expr} (h : u.Keeps n) (h' : u'.Keeps n) : u.Alike u' := by
  cases h with
  | aggregate op g param body _ _ =>
      generalize hop : op.name = name at h'
      cases h' with
      | aggregate op' _ param' body' _ _ =>
          cases Aggregator.name_injective hop
          exact .aggregate ..
  | binary op lhs rhs modifiers _ _ =>
      generalize hop : op.render = name at h'
      cases h' with
      | binary op' lhs' rhs' modifiers' _ _ =>
          cases BinaryOp.render_injective hop
          exact .binary ..
  | call signature args _ =>
      generalize hname : signature.name = name at h'
      cases h' with
      | call signature' args' _ => exact .call hname ..
  | vector h =>
      cases h' with
      | vector h' =>
          refine .vector (TreeSelector.alike_iff.2 ?_)
          rw [TreeSelector.keeps_iff.1 h, TreeSelector.keeps_iff.1 h']
  | matrix h range =>
      cases h' with
      | matrix h' =>
          refine .matrix (TreeSelector.alike_iff.2 ?_) range
          rw [TreeSelector.keeps_iff.1 h, TreeSelector.keeps_iff.1 h']
  | _ => cases h'; constructor

theorem Keeps.of_alike {u u' : Tree} {n : Expr} (h : u.Keeps n) (halike : u.Alike u') :
    u'.Keeps n := by
  cases halike with
  | call hname args args' =>
      cases h
      rw [hname]
      constructor
  | vector hs =>
      cases h with
      | vector h =>
          refine .vector (TreeSelector.keeps_iff.2 ?_)
          rw [← TreeSelector.alike_iff.1 hs, TreeSelector.keeps_iff.1 h]
  | matrix hs range =>
      cases h with
      | matrix h =>
          refine .matrix (TreeSelector.keeps_iff.2 ?_) range
          rw [← TreeSelector.alike_iff.1 hs, TreeSelector.keeps_iff.1 h]
  | foreign name type => cases h
  | _ => cases h; constructor

/-! ## Whole trees -/

/-- The same positions, with a node that keeps its parts at each. -/
def Mirrors (t : Tree) (e : Expr) : Prop := ∀ p, Option.Rel Keeps (t.at? p) (e.at? p)

/-- The same positions, with nodes at each that differ in nothing but what expressions leave out. -/
def AlikeThroughout (t t' : Tree) : Prop := ∀ p, Option.Rel Alike (t.at? p) (t'.at? p)

theorem forall₂_iff_getElem? {α β : Type} {R : α → β → Prop} {l : List α} {l' : List β} :
    List.Forall₂ R l l' ↔ ∀ i : Nat, Option.Rel R l[i]? l'[i]? := by
  induction l generalizing l' with
  | nil =>
      cases l' with
      | nil => simp
      | cons b l' => exact iff_of_false (by simp) fun h => by simpa using h 0
  | cons a l ih =>
      cases l' with
      | nil => exact iff_of_false (by simp) fun h => by simpa using h 0
      | cons b l' =>
          rw [List.forall₂_cons, ih]
          constructor
          · rintro ⟨hab, hrest⟩ (_ | i)
            · exact .some hab
            · exact hrest i
          · intro h
            exact ⟨Option.rel_some_some.1 (h 0), fun i => h (i + 1)⟩

theorem forall₂_congr_mem {α β : Type} {R S : α → β → Prop} {l : List α} {l' : List β}
    (h : ∀ b ∈ l', ∀ a, R a b ↔ S a b) : List.Forall₂ R l l' ↔ List.Forall₂ S l l' := by
  induction l' generalizing l with
  | nil => simp
  | cons b l' ih =>
      cases l with
      | nil => simp
      | cons a l =>
          rw [List.forall₂_cons, List.forall₂_cons, h b (by simp),
            ih fun c hc => h c (by simp [hc])]

theorem rel_mirrors_iff {o : Option Tree} {o' : Option Expr} :
    Option.Rel Mirrors o o' ↔
      ∀ p, Option.Rel Keeps (o.bind (at? · p)) (o'.bind (Expr.at? · p)) := by
  cases o with
  | none =>
      cases o' with
      | none => exact iff_of_true .none fun _ => .none
      | some e => exact iff_of_false (by simp) fun h => by cases h []
  | some t =>
      cases o' with
      | none => exact iff_of_false (by simp) fun h => by cases h []
      | some e => exact Option.rel_some_some

theorem mirrors_iff {t : Tree} {e : Expr} :
    t.Mirrors e ↔ t.Keeps e ∧ List.Forall₂ Mirrors t.children e.children := by
  simp only [forall₂_iff_getElem?, rel_mirrors_iff]
  constructor
  · intro h
    exact ⟨Option.rel_some_some.1 (h []), fun i p => h (i :: p)⟩
  · rintro ⟨hroot, hchildren⟩ (_ | ⟨i, p⟩)
    · exact .some hroot
    · exact hchildren i p

/-! ## Conversion -/

theorem toExprParam_eq_ok {o : Option Tree} {o' : Option Expr} :
    toExprParam o = .ok o' ↔ Option.Rel (fun t e => t.toExpr = .ok e) o o' := by
  cases o with
  | none => cases o' <;> simp [toExprParam]
  | some t => cases o' <;> simp [toExprParam, Except.bind_eq_ok]

theorem toExprArgs_eq_ok {ts : List Tree} {es : List Expr} :
    toExprArgs ts = .ok es ↔ List.Forall₂ (fun t e => t.toExpr = .ok e) ts es := by
  induction ts generalizing es with
  | nil => cases es <;> simp [toExprArgs]
  | cons t ts ih => cases es <;> simp [toExprArgs, Except.bind_eq_ok, ih]

theorem forall₂_param {α β : Type} {R : α → β → Prop} {o : Option α} {o' : Option β} {a : α}
    {b : β} : List.Forall₂ R (o.toList ++ [a]) (o'.toList ++ [b]) ↔ Option.Rel R o o' ∧ R a b := by
  cases o <;> cases o' <;> simp

theorem toExpr_eq_ok_iff_children {t : Tree} {e : Expr} :
    t.toExpr = .ok e ↔
      t.Keeps e ∧ List.Forall₂ (fun c d => c.toExpr = .ok d) t.children e.children := by
  constructor
  · intro h
    cases t with
    | aggregate op g param body =>
        simp only [toExpr, Except.bind_eq_ok] at h
        obtain ⟨param', hparam, body', hbody, h⟩ := h
        cases h
        exact ⟨.aggregate .., forall₂_param.2 ⟨toExprParam_eq_ok.1 hparam, hbody⟩⟩
    | binary op lhs rhs modifiers =>
        simp only [toExpr, Except.bind_eq_ok] at h
        obtain ⟨lhs', hlhs, rhs', hrhs, h⟩ := h
        cases h
        exact ⟨.binary .., .cons hlhs (.cons hrhs .nil)⟩
    | unary operand =>
        simp only [toExpr, Except.bind_eq_ok] at h
        obtain ⟨operand', hoperand, h⟩ := h
        cases h
        exact ⟨.unary .., .cons hoperand .nil⟩
    | paren inner =>
        simp only [toExpr, Except.bind_eq_ok] at h
        obtain ⟨inner', hinner, h⟩ := h
        cases h
        exact ⟨.paren .., .cons hinner .nil⟩
    | call signature args =>
        simp only [toExpr, Except.bind_eq_ok] at h
        obtain ⟨args', hargs, h⟩ := h
        cases h
        exact ⟨.call .., toExprArgs_eq_ok.1 hargs⟩
    | subquery inner range step offset instant =>
        simp only [toExpr, Except.bind_eq_ok] at h
        obtain ⟨inner', hinner, h⟩ := h
        cases h
        exact ⟨.subquery .., .cons hinner .nil⟩
    | vector s =>
        cases h
        exact ⟨.vector (TreeSelector.keeps_iff.2 rfl), .nil⟩
    | matrix s range =>
        cases h
        exact ⟨.matrix (TreeSelector.keeps_iff.2 rfl) range, .nil⟩
    | number x => cases h; exact ⟨.number x, .nil⟩
    | string s => cases h; exact ⟨.string s, .nil⟩
    | foreign name type => cases h
  · rintro ⟨hroot, hchildren⟩
    cases hroot with
    | aggregate op g param body param' body' =>
        obtain ⟨hparam, hbody⟩ := forall₂_param.1 hchildren
        simp [toExpr, Except.bind_eq_ok, toExprParam_eq_ok.2 hparam, hbody]
    | call signature args args' =>
        have hargs : toExprArgs args = .ok args' := toExprArgs_eq_ok.2 hchildren
        simp [toExpr, Except.bind_eq_ok, hargs]
    | vector h => rw [toExpr, TreeSelector.keeps_iff.1 h]
    | matrix h range => rw [toExpr, TreeSelector.keeps_iff.1 h]
    | number x => rw [toExpr]
    | string s => rw [toExpr]
    | _ => simp_all [toExpr, Except.bind_eq_ok, children, Expr.children]

/-- The expression of a tree is the one that mirrors it. -/
theorem toExpr_eq_ok {t : Tree} {e : Expr} : t.toExpr = .ok e ↔ t.Mirrors e := by
  induction e using Expr.children_induction generalizing t with
  | step e ih =>
      rw [toExpr_eq_ok_iff_children, mirrors_iff]
      exact and_congr_right fun _ => forall₂_congr_mem fun d hd _ => ih d hd

mutual

theorem hasForeign_of_toExpr {err : Error} :
    (t : Tree) → t.toExpr = .error err → err = .unsupportedExpression ∧ t.HasForeign
  | aggregate op g param body, h => by
      rw [toExpr, Except.bind_eq_error] at h
      simp only [Except.bind_ok_eq_error] at h
      rcases h with hparam | ⟨_, -, hbody⟩
      · obtain ⟨herr, c, hc, hforeign⟩ := hasForeign_of_toExprParam param hparam
        exact ⟨herr, hforeign.of_child (List.mem_append_left _ (Option.mem_toList.2 hc))⟩
      · obtain ⟨herr, hforeign⟩ := hasForeign_of_toExpr body hbody
        exact ⟨herr, hforeign.of_child (by simp [children])⟩
  | binary op lhs rhs modifiers, h => by
      rw [toExpr, Except.bind_eq_error] at h
      simp only [Except.bind_ok_eq_error] at h
      rcases h with hlhs | ⟨_, -, hrhs⟩
      · obtain ⟨herr, hforeign⟩ := hasForeign_of_toExpr lhs hlhs
        exact ⟨herr, hforeign.of_child (by simp [children])⟩
      · obtain ⟨herr, hforeign⟩ := hasForeign_of_toExpr rhs hrhs
        exact ⟨herr, hforeign.of_child (by simp [children])⟩
  | unary operand, h => by
      rw [toExpr, Except.bind_ok_eq_error] at h
      obtain ⟨herr, hforeign⟩ := hasForeign_of_toExpr operand h
      exact ⟨herr, hforeign.of_child (by simp [children])⟩
  | paren inner, h => by
      rw [toExpr, Except.bind_ok_eq_error] at h
      obtain ⟨herr, hforeign⟩ := hasForeign_of_toExpr inner h
      exact ⟨herr, hforeign.of_child (by simp [children])⟩
  | call signature args, h => by
      rw [toExpr, Except.bind_ok_eq_error] at h
      obtain ⟨herr, c, hc, hforeign⟩ := hasForeign_of_toExprArgs args h
      exact ⟨herr, hforeign.of_child hc⟩
  | subquery inner range step offset instant, h => by
      rw [toExpr, Except.bind_ok_eq_error] at h
      obtain ⟨herr, hforeign⟩ := hasForeign_of_toExpr inner h
      exact ⟨herr, hforeign.of_child (by simp [children])⟩
  | foreign name type, h => by
      cases h
      exact ⟨rfl, [], name, type, rfl⟩
  | vector _, h | matrix _ _, h | number _, h | string _, h => by cases h

theorem hasForeign_of_toExprParam {err : Error} :
    (o : Option Tree) → toExprParam o = .error err →
      err = .unsupportedExpression ∧ ∃ c ∈ o, c.HasForeign
  | none, h => by cases h
  | some t, h => by
      rw [toExprParam, Except.bind_ok_eq_error] at h
      obtain ⟨herr, hforeign⟩ := hasForeign_of_toExpr t h
      exact ⟨herr, t, rfl, hforeign⟩

theorem hasForeign_of_toExprArgs {err : Error} :
    (ts : List Tree) → toExprArgs ts = .error err →
      err = .unsupportedExpression ∧ ∃ c ∈ ts, c.HasForeign
  | [], h => by cases h
  | t :: ts, h => by
      rw [toExprArgs, Except.bind_eq_error] at h
      simp only [Except.bind_ok_eq_error] at h
      rcases h with ht | ⟨_, -, hts⟩
      · obtain ⟨herr, hforeign⟩ := hasForeign_of_toExpr t ht
        exact ⟨herr, t, by simp, hforeign⟩
      · obtain ⟨herr, c, hc, hforeign⟩ := hasForeign_of_toExprArgs ts hts
        exact ⟨herr, c, by simp [hc], hforeign⟩

end

theorem Mirrors.not_hasForeign {t : Tree} {e : Expr} (h : t.Mirrors e) : ¬ t.HasForeign := by
  rintro ⟨p, name, type, hp⟩
  have hnode := h p
  rw [hp] at hnode
  generalize e.at? p = o at hnode
  cases hnode with
  | some hkeeps => cases hkeeps

theorem exists_toExpr_eq_error {t : Tree} : (∃ err, t.toExpr = .error err) ↔ t.HasForeign := by
  constructor
  · rintro ⟨err, h⟩
    exact (hasForeign_of_toExpr t h).2
  · intro hforeign
    cases h : t.toExpr with
    | error err => exact ⟨err, rfl⟩
    | ok e => exact absurd hforeign (toExpr_eq_ok.1 h).not_hasForeign

theorem exists_toExpr_eq_ok {t : Tree} (h : ¬ t.HasForeign) : ∃ e, t.toExpr = .ok e := by
  cases ht : t.toExpr with
  | error err => exact absurd (exists_toExpr_eq_error.1 ⟨err, ht⟩) h
  | ok e => exact ⟨e, rfl⟩

/-! ## Trees with one expression -/

theorem Mirrors.alikeThroughout {t t' : Tree} {e : Expr} (h : t.Mirrors e) (h' : t'.Mirrors e) :
    t.AlikeThroughout t' := by
  intro p
  have hp := h p
  have hp' := h' p
  generalize t.at? p = o, t'.at? p = o', e.at? p = n at hp hp' ⊢
  cases hp with
  | none =>
      cases hp'
      exact .none
  | some hkeeps =>
      cases hp' with
      | some hkeeps' => exact .some (hkeeps.alike hkeeps')

theorem Mirrors.of_alikeThroughout {t t' : Tree} {e : Expr} (h : t.Mirrors e)
    (halike : t.AlikeThroughout t') : t'.Mirrors e := by
  intro p
  have hp := h p
  have hp' := halike p
  generalize t.at? p = o, t'.at? p = o', e.at? p = n at hp hp' ⊢
  cases hp with
  | none =>
      cases hp'
      exact .none
  | some hkeeps =>
      cases hp' with
      | some hnodes => exact .some (hkeeps.of_alike hnodes)

/-- A tree has no expression exactly when a foreign node stands at some position, and then the
message says so. Otherwise its expression is the one with the same positions and, at each, a node of
the same kind with the same operator, name, literal, range, step, grouping clause and matchers. Two
trees without foreign nodes have one expression exactly when they differ in nothing but offsets,
fixed times, modifiers of binary operations, compiled patterns and signatures, so no validator can
tell them apart. -/
theorem toExpr_keeps_all_but_modifiers (t : Tree) :
    ((∃ err, t.toExpr = .error err) ↔ ∃ p name type, t.at? p = some (.foreign name type)) ∧
    (∀ err, t.toExpr = .error err → err.message = "unsupported expression") ∧
    (∀ e, t.toExpr = .ok e ↔ ∀ p, Option.Rel Keeps (t.at? p) (e.at? p)) ∧
    ∀ t' : Tree, ¬ t.HasForeign → ¬ t'.HasForeign →
      ((∃ e, t.toExpr = .ok e ∧ t'.toExpr = .ok e) ↔
        ∀ p, Option.Rel Alike (t.at? p) (t'.at? p)) ∧
      ((∀ p, Option.Rel Alike (t.at? p) (t'.at? p)) →
        ∀ v : Validator, t.toExpr.map v.check = t'.toExpr.map v.check) := by
  refine ⟨exists_toExpr_eq_error, fun err h => ?_, fun e => toExpr_eq_ok, fun t' ht _ => ?_⟩
  · obtain ⟨rfl, -⟩ := hasForeign_of_toExpr t h
    rfl
  · have hconvert : t.AlikeThroughout t' → ∃ e, t.toExpr = .ok e ∧ t'.toExpr = .ok e := by
      intro halike
      obtain ⟨e, he⟩ := exists_toExpr_eq_ok ht
      exact ⟨e, he, toExpr_eq_ok.2 ((toExpr_eq_ok.1 he).of_alikeThroughout halike)⟩
    refine ⟨⟨fun ⟨e, he, he'⟩ => ?_, hconvert⟩, fun halike v => ?_⟩
    · exact (toExpr_eq_ok.1 he).alikeThroughout (toExpr_eq_ok.1 he')
    · obtain ⟨e, he, he'⟩ := hconvert halike
      rw [he, he']

/-- `sum by (a, a) (rate(x{b=~"c"}[5m] offset 1m)) + on (a) y` and
`sum by (a, a) (rate(x{b=~"c"}[5m])) + y`, where the compiled patterns differ too. -/
theorem toExpr_keeps_all_but_modifiers_offset :
    let rate : Signature := ⟨"rate", [.matrix], false, .vector⟩
    let query (p : Pattern) (offset : Option Offset) (matching : Option VectorMatching) : Tree :=
      .binary .add
        (.aggregate .sum (some (.byLabels ["a", "a"])) none
          (.call rate [.matrix ⟨some "x", [⟨"b", .pattern p, "c"⟩], [], offset, none⟩
            ⟨300000000000⟩]))
        (.vector ⟨some "y", [], [], none, none⟩) ⟨false, matching⟩
    let t := query (.literal ['c']) (some ⟨false, ⟨60000000000⟩⟩) (some ⟨true, ["a"], none⟩)
    let t' := query .empty none none
    t ≠ t' ∧ ¬ t.HasForeign ∧ ¬ t'.HasForeign ∧ (∀ p, Option.Rel Alike (t.at? p) (t'.at? p)) ∧
      ∀ v : Validator, t.toExpr.map v.check = t'.toExpr.map v.check := by
  intro rate query t t'
  have hnative : ∀ p offset matching, ¬ (query p offset matching).HasForeign := by
    intro p offset matching hforeign
    obtain ⟨err, h⟩ := exists_toExpr_eq_error.2 hforeign
    cases h
  obtain ⟨-, -, -, hsame⟩ := toExpr_keeps_all_but_modifiers t
  obtain ⟨halike, hverdicts⟩ := hsame t' (hnative _ _ _) (hnative _ _ _)
  have hmodifiers : ∀ p, Option.Rel Alike (t.at? p) (t'.at? p) := halike.1 ⟨_, rfl, rfl⟩
  exact ⟨by simp [t, t', query], hnative _ _ _, hnative _ _ _, hmodifiers, hverdicts hmodifiers⟩

end Tree

end QueryPolicy.Query
