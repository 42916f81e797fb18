import QueryPolicy.Policy.Validate
import QueryPolicy.Proofs.Policy.Leaves

/-!
# Validation of texts

A text is parsed before any member of a set is asked, and members write no records. Yet a set
answers as its members would one by one, and whatever its size and nesting it leaves one record, or
none when the text is no query.
-/

namespace QueryPolicy

/-! ## Texts of queries -/

namespace Query

variable {text : String}

theorem parse_of_lexicalError {cause : LexicalError} (h : tokens text = .error cause) :
    parse text = .error (.lexical cause) := by
  rw [parse, treeOf, phraseOf, h]
  rfl

theorem parse_of_no_tokens (h : tokens text = .ok [.endOfInput]) :
    parse text = .error .noExpression := by
  rw [parse, treeOf, phraseOf, h]
  rfl

theorem Phrase.ofTokens?_endOfInput : Phrase.ofTokens? [.endOfInput] = none := by
  cbv

theorem parse_of_phrase {ts : List Token} {p : Phrase} {e : Expr} (htokens : tokens text = .ok ts)
    (hphrase : Phrase.ofTokens? ts = some p) (he : (Tree.ofPhrase p >>= Tree.toExpr) = .ok e) :
    parse text = .ok e := by
  have hts : ts ≠ [.endOfInput] := by
    rintro rfl
    rw [Phrase.ofTokens?_endOfInput] at hphrase
    cases hphrase
  have hp : phraseOf text = .ok p := by
    simp only [phraseOf, htokens, if_neg hts, hphrase]
  rw [parse, treeOf, hp]
  exact he

end Query

/-! ## One validator -/

namespace Outcome

variable {check : Expr → Except Violation Unit} {passed : LogRecord}
  {rejected : Violation → LogRecord} {text : String} {e : Expr}

theorem ofText_malformed {err : Query.Error} (h : Query.parse text = .error err) :
    ofText check passed rejected text = ⟨.error (.ofError err), []⟩ := by
  rw [ofText, h]

theorem ofText_passed (h : Query.parse text = .ok e) (hcheck : check e = .ok ()) :
    ofText check passed rejected text = ⟨.ok (), [passed]⟩ := by
  simp only [ofText, h, hcheck]

theorem ofText_rejected {v : Violation} (h : Query.parse text = .ok e)
    (hcheck : check e = .error v) :
    ofText check passed rejected text = ⟨.error (.ofViolation v), [rejected v]⟩ := by
  simp only [ofText, h, hcheck]

end Outcome

namespace Validator

variable {v : Validator} {text : String} {e : Expr}

/-- What the record of an accepted query says. -/
def passedText : Validator → String
  | policy p => "Query passed " ++ p.name ++ " policy"
  | set members => "Query passed " ++ Nat.repr members.length ++ " policies"

theorem validate_malformed {err : Query.Error} (h : Query.parse text = .error err) :
    v.validate text = ⟨.error (.malformed err.message), []⟩ := by
  cases v with
  | policy p => exact Outcome.ofText_malformed h
  | set members => exact Outcome.ofText_malformed h

theorem validate_passed (h : Query.parse text = .ok e) (hcheck : v.check e = .ok ()) :
    v.validate text = ⟨.ok (), [⟨.debug, v.passedText⟩]⟩ := by
  cases v with
  | policy p =>
      rw [check] at hcheck
      exact Outcome.ofText_passed h hcheck
  | set members => exact Outcome.ofText_passed h hcheck

theorem rule_of_check {violation : Violation} (h : v.check e = .error violation) :
    ∃ p ∈ v.leaves, violation.rule = p.name := by
  obtain ⟨before, p, after, hleaves, -, hp⟩ := check_eq_error.1 h
  refine ⟨p, ?_, Policy.rule_of_violation? (Policy.violation?_eq_some.2 hp)⟩
  rw [hleaves]
  exact List.mem_append_right before List.mem_cons_self

/-- A policy signs its record with its own name and a set with the rule of the violation, which is
the same. -/
theorem validate_rejected {violation : Violation} (h : Query.parse text = .ok e)
    (hcheck : v.check e = .error violation) :
    v.validate text = ⟨.error (.rejected violation.rule violation.message),
      [⟨.info, "Query rejected by " ++ violation.rule ++ " policy: " ++ violation.message⟩]⟩ := by
  cases v with
  | policy p =>
      obtain ⟨q, hq, hrule⟩ := rule_of_check hcheck
      rw [leaves, List.mem_singleton] at hq
      subst hq
      rw [check] at hcheck
      rw [validate, Policy.validate, Outcome.ofText_rejected h hcheck, ← hrule]
      rfl
  | set members => exact Outcome.ofText_rejected h hcheck

theorem validate_eq_ok :
    (v.validate text).result = .ok () ↔ ∃ e, Query.parse text = .ok e ∧ v.check e = .ok () := by
  cases h : Query.parse text with
  | error err => simp [validate_malformed h]
  | ok e =>
      cases hcheck : v.check e with
      | ok => simp [validate_passed h hcheck, hcheck]
      | error violation => simp [validate_rejected h hcheck, hcheck]

theorem validate_eq_error {f : Failure} :
    (v.validate text).result = .error f ↔
      (∃ err, Query.parse text = .error err ∧ f = .malformed err.message) ∨
      ∃ e violation, Query.parse text = .ok e ∧ v.check e = .error violation ∧
        f = .rejected violation.rule violation.message := by
  cases h : Query.parse text with
  | error err => simp [validate_malformed h, eq_comm]
  | ok e =>
      cases hcheck : v.check e with
      | ok => simp [validate_passed h hcheck, hcheck]
      | error violation => simp [validate_rejected h hcheck, hcheck, eq_comm]

/-- A text that is no query gets the parser's message from every validator and leaves no record.
Any other is accepted or rejected as its expression is, with one record: a policy that accepts gives
its name and a set the number of its members, and a rejection gives rule and message of the
violation, which is one of a policy of the validator. -/
theorem validate_outcome (text : String) :
    (∀ err, Query.parse text = .error err → ∀ v : Validator,
      v.validate text = ⟨.error (.malformed err.message), []⟩) ∧
    ∀ e, Query.parse text = .ok e → ∀ v : Validator,
      ((v.validate text).result = .ok () ↔ v.check e = .ok ()) ∧
      (v.check e = .ok () → ∃ words, (v.validate text).log = [⟨.debug, words⟩] ∧
        (∀ p, v = .policy p → words = "Query passed " ++ p.name ++ " policy") ∧
        ∀ members, v = .set members →
          words = "Query passed " ++ Nat.repr members.length ++ " policies") ∧
      ∀ violation, v.check e = .error violation →
        v.validate text = ⟨.error (.rejected violation.rule violation.message),
          [⟨.info, "Query rejected by " ++ violation.rule ++ " policy: " ++ violation.message⟩]⟩ ∧
        ∃ p ∈ v.leaves, violation.rule = p.name := by
  refine ⟨fun err h v => validate_malformed h, fun e h v => ⟨?_, fun hcheck => ?_, ?_⟩⟩
  · simp [validate_eq_ok, h]
  · refine ⟨v.passedText, by rw [validate_passed h hcheck], ?_, ?_⟩
    · rintro p rfl
      rfl
    · rintro members rfl
      rfl
  · intro violation hcheck
    exact ⟨validate_rejected h hcheck, rule_of_check hcheck⟩

/-- The set `[[], [aggregator, function]]` rejects `pi()` by its second policy and writes a single
record; of the empty text it writes none. -/
theorem validate_outcome_nested :
    let v : Validator := .set [.set [], .set [.policy (.aggregationFunction (.ofList ["sum"])),
      .policy (.function (.ofList ["pi"]))]]
    v.validate "" = ⟨.error (.malformed "no expression found in input"), []⟩ ∧
    v.validate "pi()" =
      ⟨.error (.rejected "function" "using blacklisted function 'pi'"),
        [⟨.info, "Query rejected by function policy: using blacklisted function 'pi'"⟩]⟩ := by
  intro v
  have hempty : Query.parse "" = .error .noExpression :=
    Query.parse_of_no_tokens (by decide +kernel)
  have htokens : Query.tokens "pi()" = .ok [.word .identifier "pi", .mark .leftParen,
      .mark .rightParen, .endOfInput] := by decide +kernel
  have hparse : Query.parse "pi()" = .ok (.call "pi" []) :=
    Query.parse_of_phrase (p := .call "pi" []) htokens (by cbv) rfl
  have hcheck : v.check (.call "pi" []) = .error (.function "pi") := by cbv
  exact ⟨(validate_outcome "").1 _ hempty v,
    (((validate_outcome "pi()").2 _ hparse v).2.2 _ hcheck).1⟩

end Validator

/-! ## The members of a set -/

namespace Validator

variable {members : List Validator} {e : Expr}

theorem findSome?_leavesAll (f : Policy → Option Violation) (vs : List Validator) :
    (leavesAll vs).findSome? f = vs.findSome? (·.leaves.findSome? f) := by
  induction vs with
  | nil => rfl
  | cons v vs ih =>
      rw [leavesAll, List.findSome?_append, List.findSome?_cons, ih]
      cases v.leaves.findSome? f <;> rfl

theorem checkAll_eq_ok : checkAll members e = .ok () ↔ ∀ m ∈ members, m.check e = .ok () := by
  simp only [checkAll_eq_verdict, check_eq_verdict, verdict_eq_ok, findSome?_leavesAll,
    List.findSome?_eq_none_iff]

theorem checkAll_eq_error {violation : Violation} :
    checkAll members e = .error violation ↔ ∃ before m after, members = before ++ m :: after ∧
      (∀ m' ∈ before, m'.check e = .ok ()) ∧ m.check e = .error violation := by
  simp only [checkAll_eq_verdict, check_eq_verdict, verdict_eq_ok, verdict_eq_error,
    findSome?_leavesAll]
  rw [List.findSome?_eq_some_iff]
  simp only [and_comm]

theorem validate_set_eq_ok {text : String} (hne : members ≠ []) :
    ((set members).validate text).result = .ok () ↔
      ∀ m ∈ members, (m.validate text).result = .ok () := by
  rw [validate_eq_ok]
  constructor
  · rintro ⟨e, h, hcheck⟩ m hm
    rw [check, checkAll_eq_ok] at hcheck
    exact validate_eq_ok.2 ⟨e, h, hcheck m hm⟩
  · intro hall
    -- Without a member nothing would say that the text is a query.
    obtain ⟨m, ms, rfl⟩ := List.exists_cons_of_ne_nil hne
    obtain ⟨e, h, -⟩ := validate_eq_ok.1 (hall m List.mem_cons_self)
    refine ⟨e, h, ?_⟩
    rw [check, checkAll_eq_ok]
    intro m' hm'
    obtain ⟨e', h', hcheck⟩ := validate_eq_ok.1 (hall m' hm')
    cases h.symm.trans h'
    exact hcheck

theorem validate_set_eq_error {text : String} {f : Failure} (hne : members ≠ []) :
    ((set members).validate text).result = .error f ↔ ∃ before m after,
      members = before ++ m :: after ∧ (∀ m' ∈ before, (m'.validate text).result = .ok ()) ∧
      (m.validate text).result = .error f := by
  constructor
  · intro hf
    rcases validate_eq_error.1 hf with ⟨err, h, rfl⟩ | ⟨e, violation, h, hcheck, rfl⟩
    · obtain ⟨m, ms, hm⟩ := List.exists_cons_of_ne_nil hne
      exact ⟨[], m, ms, hm, by simp, validate_eq_error.2 (.inl ⟨err, h, rfl⟩)⟩
    · rw [check, checkAll_eq_error] at hcheck
      obtain ⟨before, m, after, hm, hbefore, hrejects⟩ := hcheck
      exact ⟨before, m, after, hm, fun m' hm' => validate_eq_ok.2 ⟨e, h, hbefore m' hm'⟩,
        validate_eq_error.2 (.inr ⟨e, violation, h, hrejects, rfl⟩)⟩
  · rintro ⟨before, m, after, hm, hbefore, hf⟩
    rcases validate_eq_error.1 hf with ⟨err, h, rfl⟩ | ⟨e, violation, h, hrejects, rfl⟩
    · exact validate_eq_error.2 (.inl ⟨err, h, rfl⟩)
    · have hcheck : (set members).check e = .error violation := by
        rw [check, checkAll_eq_error]
        refine ⟨before, m, after, hm, fun m' hm' => ?_, hrejects⟩
        obtain ⟨e', h', hok⟩ := validate_eq_ok.1 (hbefore m' hm')
        cases h.symm.trans h'
        exact hok
      exact validate_eq_error.2 (.inr ⟨e, violation, h, hcheck, rfl⟩)

theorem check_of_leaves_eq_nil {v : Validator} (h : v.leaves = []) : v.check e = .ok () := by
  rw [check_eq_ok, h]
  simp

end Validator

/-- A set that has a member accepts a text exactly when each member does by itself, and otherwise
fails as the first member that fails. A set without policies, in whatever sets it holds, accepts
every query, and its failures are those of every validator. -/
theorem PolicySet.validate_agrees_with_members (s : PolicySet) (text : String) :
    (s.members ≠ [] →
      ((s.validate text).result = .ok () ↔ ∀ m ∈ s.members, (m.validate text).result = .ok ()) ∧
      ∀ f, (s.validate text).result = .error f ↔ ∃ before m after,
        s.members = before ++ m :: after ∧
        (∀ m' ∈ before, (m'.validate text).result = .ok ()) ∧
        (m.validate text).result = .error f) ∧
    (s.toValidator.leaves = [] →
      ((s.validate text).result = .ok () ↔ ∃ e, Query.parse text = .ok e) ∧
      ∀ f, (s.validate text).result = .error f ↔ ∃ err, Query.parse text = .error err ∧
        f = .malformed err.message ∧ ∀ v : Validator, (v.validate text).result = .error f) := by
  have hs : s.validate text = s.toValidator.validate text := rfl
  refine ⟨fun hne => ?_, fun hleaves => ?_⟩
  · exact ⟨Validator.validate_set_eq_ok hne, fun f => Validator.validate_set_eq_error hne⟩
  · have hcheck : ∀ e, s.toValidator.check e = .ok () :=
      fun e => Validator.check_of_leaves_eq_nil hleaves
    rw [hs]
    refine ⟨by simp [Validator.validate_eq_ok, hcheck], fun f => ⟨fun hf => ?_, ?_⟩⟩
    · rcases Validator.validate_eq_error.1 hf with ⟨err, h, rfl⟩ | ⟨e, violation, -, hrejects, -⟩
      · exact ⟨err, h, rfl, fun v => by rw [Validator.validate_malformed h]⟩
      · rw [hcheck] at hrejects
        cases hrejects
    · rintro ⟨err, h, rfl, hall⟩
      exact hall _

/-- On `sum(up)` the first two of four members accept, the third rejects, and its failure is that of
the set, although the fourth rejects for a reason of its own. A set of sets without policies accepts
`sum(up)`, and fails on `sum(` as every validator does. -/
theorem PolicySet.validate_agrees_with_members_nested :
    let accepting : List Validator := [.set [], .set [.policy (.function (.ofList ["rate"]))]]
    let aggregator : Validator := .set [.set [], .policy (.aggregationFunction (.ofList ["sum"]))]
    let group : Validator := .policy (.aggregationGroup (.ofList ["job"]))
    let s : PolicySet := ⟨accepting ++ aggregator :: [group]⟩
    let hollow : PolicySet := ⟨[.set [], .set [.set []]]⟩
    let f : Failure := .rejected "aggregation_function" "using blacklisted aggregator 'sum'"
    let unclosed : Failure := .malformed "unclosed left parenthesis"
    (accepting ≠ [] ∧ (∀ m ∈ accepting, (m.validate "sum(up)").result = .ok ()) ∧
      (PolicySet.validate ⟨accepting⟩ "sum(up)").result = .ok ()) ∧
    (s.members ≠ [] ∧ (aggregator.validate "sum(up)").result = .error f ∧
      (group.validate "sum(up)").result ≠ .error f ∧ (s.validate "sum(up)").result = .error f) ∧
    hollow.toValidator.leaves = [] ∧ (hollow.validate "sum(up)").result = .ok () ∧
      (hollow.validate "sum(").result = .error unclosed ∧
      ∀ v : Validator, (v.validate "sum(").result = .error unclosed := by
  intro accepting aggregator group s hollow f unclosed
  have htokens : Query.tokens "sum(up)" = .ok [.word (.keyword (.aggregator .sum)) "sum",
      .mark .leftParen, .word .identifier "up", .mark .rightParen, .endOfInput] := by
    decide +kernel
  have hparse : Query.parse "sum(up)" =
      .ok (.aggregate "sum" none none (.vector ⟨some "up", [], []⟩)) :=
    Query.parse_of_phrase (p := .aggregate .sum none [some (.vector "up" none)]) htokens (by cbv)
      rfl
  have hunclosed : Query.parse "sum(" = .error (.lexical .unclosedParen) :=
    Query.parse_of_lexicalError (by decide +kernel)
  have haccepting : ∀ m ∈ accepting, (m.validate "sum(up)").result = .ok () := by
    intro m hm
    refine Validator.validate_eq_ok.2 ⟨_, hparse, ?_⟩
    rcases List.mem_pair.1 hm with rfl | rfl <;> cbv
  have haggregator : (aggregator.validate "sum(up)").result = .error f :=
    Validator.validate_eq_error.2 (.inr ⟨_, .aggregator "sum", hparse, by cbv, rfl⟩)
  have hgroup : (group.validate "sum(up)").result ≠ .error f := by
    have hcheck : group.check (.aggregate "sum" none none (.vector ⟨some "up", [], []⟩)) =
        .error (.grouping "sum" ∅ (.ofList ["job"])) := by cbv
    rw [Validator.validate_rejected hparse hcheck]
    simp [f, Violation.rule]
  obtain ⟨haccepted, -⟩ := validate_agrees_with_members ⟨accepting⟩ "sum(up)"
  obtain ⟨hmembers, -⟩ := validate_agrees_with_members s "sum(up)"
  obtain ⟨-, hquery⟩ := validate_agrees_with_members hollow "sum(up)"
  obtain ⟨-, hnone⟩ := validate_agrees_with_members hollow "sum("
  have hne : accepting ≠ [] := List.cons_ne_nil _ _
  have hset : (hollow.validate "sum(").result = .error unclosed :=
    (Validator.validate_eq_error (v := hollow.toValidator)).2 (.inl ⟨_, hunclosed, rfl⟩)
  obtain ⟨err, -, -, hall⟩ := ((hnone rfl).2 _).1 hset
  refine ⟨⟨hne, haccepting, (haccepted hne).1.2 haccepting⟩,
    ⟨List.cons_ne_nil _ _, haggregator, hgroup, ?_⟩, rfl, (hquery rfl).1.2 ⟨_, hparse⟩, hset, hall⟩
  exact ((hmembers (List.cons_ne_nil _ _)).2 f).2
    ⟨accepting, aggregator, [group], rfl, haccepting, haggregator⟩

end QueryPolicy
