import QueryPolicy.Expr.Basic
import QueryPolicy.Proofs.Text.Quoted
import QueryPolicy.Proofs.Text.Run

/-!
# The written form of a label matcher

A matcher is written as its name, its operator and its quoted value. When no sign of an operator
stands in the name, the first such sign ends it, and then the quoted value ends the operator: the
text determines all three.
-/

namespace QueryPolicy

/-- The characters that operators begin with. -/
def MatchOp.isSign (c : Char) : Bool := c == '=' || c == '!'

theorem MatchOp.render_cons (op : MatchOp) :
    ∃ sign rest, op.render.toList = sign :: rest ∧ isSign sign = true := by
  cases op
  · exact ⟨'=', [], rfl, rfl⟩
  · exact ⟨'!', ['='], rfl, rfl⟩
  · exact ⟨'=', ['~'], rfl, rfl⟩
  · exact ⟨'!', ['~'], rfl, rfl⟩

theorem MatchOp.length_render (op : MatchOp) :
    1 ≤ op.render.toList.length ∧ op.render.toList.length ≤ 2 := by
  cases op <;> simp [render]

/-- An operator ends where the mark of the value begins. -/
theorem MatchOp.render_inj {op op' : MatchOp} {rest rest' : List Char}
    (h : op.render.toList ++ '\x22' :: rest = op'.render.toList ++ '\x22' :: rest') :
    op = op' ∧ rest = rest' := by
  cases op <;> cases op' <;> simp_all [render]

namespace LabelMatcher

theorem toList_renderBy (obscure : Char → Bool) (m : LabelMatcher) :
    (m.renderBy obscure).toList = m.name.toList ++ (m.op.render.toList ++
      '\x22' :: (Text.escapeChars obscure '\x22' m.value.toList ++ ['\x22'])) := by
  rw [renderBy, Text.quoteBy, String.toList_append, String.toList_append, String.toList_ofList,
    List.append_assoc, Text.quoteChars]

/-- A name without signs of operators is what stands before the first of them. -/
theorem name_append_inj {name name' rest rest' : List Char} {op op' : MatchOp}
    (hname : ∀ c ∈ name, MatchOp.isSign c = false) (hname' : ∀ c ∈ name', MatchOp.isSign c = false)
    (h : name ++ (op.render.toList ++ rest) = name' ++ (op'.render.toList ++ rest')) :
    name = name' ∧ op.render.toList ++ rest = op'.render.toList ++ rest' := by
  have hbefore : ∀ (name rest : List Char) (op : MatchOp), (∀ c ∈ name, MatchOp.isSign c = false) →
      (name ++ (op.render.toList ++ rest)).takeWhile (!MatchOp.isSign ·) = name := by
    intro name rest op hname
    refine Text.takeWhile_append_of_stop (by simpa using hname) fun c hc => ?_
    obtain ⟨sign, signs, hop, hsign⟩ := op.render_cons
    rw [hop] at hc
    cases hc
    rw [hsign, Bool.not_true]
  have heq : name = name' := by
    rw [← hbefore name rest op hname, h, hbefore name' rest' op' hname']
  subst heq
  exact ⟨rfl, List.append_cancel_left h⟩

/-- Whatever characters are spelled by code points, matchers whose names have no sign of an operator
are told apart by their texts. The value stands between two marks; a mark between these comes after
an odd number of backslashes, and no line end, tab or null occurs. -/
theorem renderBy_unambiguous :
    (∀ (obscure obscure' : Char → Bool) (m m' : LabelMatcher),
      (∀ c ∈ m.name.toList, c ≠ '=' ∧ c ≠ '!') → (∀ c ∈ m'.name.toList, c ≠ '=' ∧ c ≠ '!') →
      m.renderBy obscure = m'.renderBy obscure' →
      m.name = m'.name ∧ m.op = m'.op ∧ m.value = m'.value) ∧
    ∀ (obscure : Char → Bool) (m : LabelMatcher), ∃ body : List Char,
      m.renderBy obscure =
        m.name ++ m.op.render ++ String.ofList ('\x22' :: (body ++ ['\x22'])) ∧
      (∀ before after, body = before ++ '\x22' :: after →
        Text.backslashesAtEnd ('\x22' :: before) % 2 = 1) ∧
      ∀ c ∈ '\x22' :: (body ++ ['\x22']), c ∉ ['\n', '\r', '\t', '\x00'] := by
  constructor
  · intro obscure obscure' m m' hname hname' h
    have hsign : ∀ {name : String}, (∀ c ∈ name.toList, c ≠ '=' ∧ c ≠ '!') →
        ∀ c ∈ name.toList, MatchOp.isSign c = false := by
      intro name hname c hc
      simpa [MatchOp.isSign] using hname c hc
    rw [← String.toList_inj, toList_renderBy, toList_renderBy] at h
    obtain ⟨hn, hrest⟩ := name_append_inj (hsign hname) (hsign hname') h
    obtain ⟨hop, hquoted⟩ := MatchOp.render_inj hrest
    exact ⟨String.toList_inj.1 hn, hop, String.toList_inj.1 (Text.escapeChars_inj hquoted).1⟩
  · intro obscure m
    refine ⟨Text.escapeChars obscure '\x22' m.value.toList, rfl, fun before after hbody => ?_, ?_⟩
    · rw [← List.singleton_append, Text.backslashesAtEnd_append (by decide)]
      exact Text.backslashesAtEnd_before_mark hbody
    · intro c hc
      simp only [List.mem_cons, List.mem_append, List.not_mem_nil, or_false] at hc
      rcases hc with rfl | hc | rfl
      · decide
      · exact Text.not_control_of_mem_escapeChars hc
      · decide

/-- The escape of a new line, spelled in the value of `job`, is told from a new line there and from
the same value to be matched as a pattern, even when letters are spelled by code points in the first
text only. -/
theorem renderBy_unambiguous_new_line :
    let m : LabelMatcher := ⟨"job", .equal, "\x5cn"⟩
    let newLine : LabelMatcher := ⟨"job", .equal, "\n"⟩
    let pattern : LabelMatcher := ⟨"job", .regexMatch, "\x5cn"⟩
    (∀ c ∈ "job".toList, c ≠ '=' ∧ c ≠ '!') ∧
      (m.renderBy Char.isAlpha ≠ newLine.renderBy fun _ => false) ∧
      m.renderBy Char.isAlpha ≠ pattern.renderBy fun _ => false := by
  intro m newLine pattern
  have hname : ∀ c ∈ "job".toList, c ≠ '=' ∧ c ≠ '!' := by simp
  refine ⟨hname, fun h => ?_, fun h => ?_⟩
  · have hvalue := (renderBy_unambiguous.1 _ _ m newLine hname hname h).2.2
    exact absurd hvalue (by decide)
  · have hop := (renderBy_unambiguous.1 _ _ m pattern hname hname h).2.1
    exact absurd hop (by decide)

end LabelMatcher

end QueryPolicy
