import QueryPolicy.Config.Inline
import QueryPolicy.Proofs.Text.Run

/-!
# Quoted texts and keys of inline values

What quoted texts and keys stand for, stated by rules that do not mention the readers. The readers
follow them: what they take from the front of a text is what a rule admits, and they take it
whatever comes after.
-/

namespace QueryPolicy.Config.Inline

/-! ## Rules -/

/-- Blanks only. -/
def Blank (cs : List Char) : Prop := ∀ c ∈ cs, isBlank c = true

/-- The text does not begin with a blank. -/
def NoBlankFirst (cs : List Char) : Prop := ∀ c, cs.head? = some c → isBlank c = false

/-- A character that stands for itself between quotation marks. -/
def IsVerbatim (c : Char) : Prop := isPlain c = true ∧ c ≠ '\x22' ∧ c ≠ '\x5c'

/-- Only characters that stand for themselves. -/
def Verbatim (cs : List Char) : Prop := ∀ c ∈ cs, IsVerbatim c

/-- The characters of a quoted text with the closing mark, and what they stand for. -/
inductive QuotedChars : List Char → List Char → Prop
  | close : QuotedChars ['\x22'] []
  | verbatim {c : Char} {cs text : List Char} (hc : IsVerbatim c) (hcs : QuotedChars cs text) :
      QuotedChars (c :: cs) (c :: text)
  | escape {c e : Char} {digits cs text : List Char}
      (he : escaped? c digits = some (e, digits.length)) (hcs : QuotedChars cs text) :
      QuotedChars ('\x5c' :: c :: (digits ++ cs)) (e :: text)

/-- A quoted text after its opening mark. What stands before a first escape is cut to as many bytes
as it has characters. -/
inductive Quoted : List Char → String → Prop
  | verbatim {start : List Char} (hstart : Verbatim start) :
      Quoted (start ++ ['\x22']) (String.ofList start)
  | escaped {start cs text : List Char} (hstart : Verbatim start)
      (hcs : QuotedChars ('\x5c' :: cs) text) :
      Quoted (start ++ '\x5c' :: cs)
        (String.ofList (Text.takeBytes start.length start ++ text))

/-- The key of an entry. -/
inductive Key : List Char → String → Prop
  | bare {name : List Char} (hne : name ≠ []) (hname : ∀ c ∈ name, isKeyChar c = true) :
      Key name (String.ofList name)
  | quoted {cs : List Char} {text : String} (hcs : Quoted cs text) : Key ('\x22' :: cs) text

/-- The key of an entry with the equals sign after it and blanks around it. -/
inductive KeyAndEquals : List Char → String → Prop
  | mk {before cs after : List Char} {key : String} (hbefore : Blank before) (hcs : Key cs key)
      (hafter : Blank after) : KeyAndEquals (before ++ (cs ++ (after ++ ['=']))) key

/-- The front of a text, of a given length, is admitted by a rule. -/
def Takes {α : Type} (Rule : List Char → α → Prop) (cs : List Char) (a : α) (n : Nat) : Prop :=
  ∃ p rest, cs = p ++ rest ∧ p.length = n ∧ Rule p a

/-! ## Quoted texts -/

theorem hexCharacter?_congr {k : Nat} {cs cs' : List Char} (h : cs'.take k = cs.take k)
    (hcs : k ≤ cs.length) (hcs' : k ≤ cs'.length) : hexCharacter? k cs' = hexCharacter? k cs := by
  simp only [hexCharacter?, hcs, hcs', h, if_true]

theorem le_of_hexCharacter? {k : Nat} {cs : List Char} {e : Char}
    (h : hexCharacter? k cs = some e) : k ≤ cs.length := by
  rw [hexCharacter?] at h
  split at h
  · assumption
  · cases h

/-- An escape depends on no more than the characters it takes. -/
theorem escaped?_congr {c e : Char} {cs : List Char} {n : Nat} (h : escaped? c cs = some (e, n)) :
    n ≤ cs.length ∧ ∀ cs' : List Char, n ≤ cs'.length → cs'.take n = cs.take n →
      escaped? c cs' = some (e, n) := by
  have hhex : ∀ k, (hexCharacter? k cs).map (·, k) = some (e, n) → n ≤ cs.length ∧
      ∀ cs' : List Char, n ≤ cs'.length → cs'.take n = cs.take n →
        (hexCharacter? k cs').map (·, k) = some (e, n) := by
    intro k hk
    obtain ⟨e', he, heq⟩ := Option.map_eq_some_iff.1 hk
    cases heq
    refine ⟨le_of_hexCharacter? he, fun cs' hlength htake => ?_⟩
    rw [hexCharacter?_congr htake (le_of_hexCharacter? he) hlength, he, Option.map_some]
  unfold escaped? at h ⊢
  split at h
  case h_8 => exact hhex 4 h
  case h_9 => exact hhex 8 h
  case h_10 => cases h
  all_goals
    cases h
    exact ⟨Nat.zero_le _, fun _ _ _ => rfl⟩

theorem quotedChars?_sound {cs text : List Char} {n : Nat}
    (h : quotedChars? cs = some (text, n)) : Takes QuotedChars cs text n := by
  fun_induction quotedChars? cs generalizing text n with
  | case1 => cases h
  | case2 rest =>
      cases h
      exact ⟨['\x22'], rest, rfl, rfl, .close⟩
  | case3 => cases h
  | case4 => cases h
  | case5 c cs e k he ih =>
      obtain ⟨⟨text', n'⟩, hread, heq⟩ := Option.map_eq_some_iff.1 h
      cases heq
      obtain ⟨p, rest, hcs, hlength, hp⟩ := ih hread
      obtain ⟨hle, hcongr⟩ := escaped?_congr he
      have htaken : (cs.take k).length = k := List.length_take_of_le hle
      have hescape : escaped? c (cs.take k) = some (e, (cs.take k).length) := by
        rw [htaken]
        exact hcongr _ (Nat.le_of_eq htaken.symm) (by rw [List.take_take, Nat.min_self])
      refine ⟨_, rest, ?_, ?_, .escape hescape hp⟩
      · rw [List.cons_append, List.cons_append, List.append_assoc, ← hcs, List.take_append_drop]
      · simp only [List.length_cons, List.length_append, htaken]
        omega
  | case6 c cs hmark hlast hbackslash hplain ih =>
      obtain ⟨⟨text', n'⟩, hread, heq⟩ := Option.map_eq_some_iff.1 h
      cases heq
      have hne : c ≠ '\x5c' := by
        intro hc
        cases cs with
        | nil => exact hlast hc rfl
        | cons x xs => exact hbackslash x xs hc rfl
      obtain ⟨p, rest, rfl, rfl, hp⟩ := ih hread
      exact ⟨c :: p, rest, rfl, rfl, .verbatim ⟨hplain, hmark, hne⟩ hp⟩
  | case7 => cases h

theorem quotedChars?_complete {p text : List Char} (h : QuotedChars p text) (rest : List Char) :
    quotedChars? (p ++ rest) = some (text, p.length) := by
  induction h with
  | close => rw [List.singleton_append, quotedChars?, List.length_singleton]
  | @verbatim c cs text hc hcs ih =>
      obtain ⟨hplain, hmark, hbackslash⟩ := hc
      rw [List.cons_append, quotedChars?, if_pos hplain, ih, Option.map_some, List.length_cons]
      · exact hmark
      · exact fun hc _ => hbackslash hc
      · exact fun _ _ hc _ => hbackslash hc
  | @escape c e digits cs text he hcs ih =>
      have hescape : escaped? c (digits ++ (cs ++ rest)) = some (e, digits.length) :=
        (escaped?_congr he).2 _ (by simp) (by simp)
      rw [List.cons_append, List.cons_append, List.append_assoc, quotedChars?, hescape]
      simp only [List.drop_left, ih, Option.map_some, List.length_cons, List.length_append]
      congr 2
      omega

/-- A quoted text is verbatim up to its end or to its first escape. -/
theorem QuotedChars.split {p text : List Char} (h : QuotedChars p text) :
    ∃ start, Verbatim start ∧
      (p = start ++ ['\x22'] ∧ text = start ∨
        ∃ q text', p = start ++ '\x5c' :: q ∧ QuotedChars ('\x5c' :: q) text' ∧
          text = start ++ text') := by
  cases h with
  | close => exact ⟨[], by simp [Verbatim], Or.inl ⟨rfl, rfl⟩⟩
  | escape he hcs => exact ⟨[], by simp [Verbatim], Or.inr ⟨_, _, rfl, .escape he hcs, rfl⟩⟩
  | @verbatim c cs text hc hcs =>
      obtain ⟨start, hstart, hsplit⟩ := hcs.split
      refine ⟨c :: start, by simpa [Verbatim] using ⟨hc, hstart⟩, ?_⟩
      rcases hsplit with ⟨rfl, rfl⟩ | ⟨q, text', rfl, hq, rfl⟩
      · exact Or.inl ⟨rfl, rfl⟩
      · exact Or.inr ⟨q, text', rfl, hq, rfl⟩

theorem QuotedChars.verbatim_append {start p text : List Char} (hstart : Verbatim start)
    (h : QuotedChars p text) : QuotedChars (start ++ p) (start ++ text) := by
  induction start with
  | nil => exact h
  | cons c start ih =>
      obtain ⟨hc, hstart⟩ := List.forall_mem_cons.1 hstart
      exact .verbatim hc (ih hstart)

theorem quoted?_append {start : List Char} (hstart : Verbatim start) {c : Char}
    (hc : c = '\x22' ∨ c = '\x5c') (cs : List Char) :
    quoted? (start ++ c :: cs) = (quotedChars? (start ++ c :: cs)).map fun (text, n) =>
      (String.ofList ((if c = '\x5c' then Text.takeBytes start.length start else start) ++
        text.drop start.length), n) := by
  have htake : (start ++ c :: cs).takeWhile (fun c => c != '\x5c' && c != '\x22') = start := by
    refine Text.takeWhile_append_of_stop (fun x hx => ?_) ?_
    · obtain ⟨-, hmark, hbackslash⟩ := hstart x hx
      simp [hmark, hbackslash]
    · rintro x ⟨⟩
      rcases hc with rfl | rfl <;> decide
  simp only [quoted?, htake, List.drop_left, List.head?_cons, Option.some.injEq]

theorem quoted?_complete {p : List Char} {text : String} (h : Quoted p text) (rest : List Char) :
    quoted? (p ++ rest) = some (text, p.length) := by
  cases h with
  | @verbatim start hstart =>
      have hread := quotedChars?_complete (.verbatim_append hstart .close) rest
      rw [List.append_assoc, List.singleton_append] at hread ⊢
      rw [quoted?_append hstart (Or.inl rfl), hread]
      simp
  | @escaped start cs text hstart hcs =>
      have hread := quotedChars?_complete (.verbatim_append hstart hcs) rest
      rw [List.append_assoc, List.cons_append] at hread ⊢
      rw [quoted?_append hstart (Or.inr rfl), hread]
      simp

theorem quoted?_sound {cs : List Char} {text : String} {n : Nat}
    (h : quoted? cs = some (text, n)) : Takes Quoted cs text n := by
  have hread : ∃ chars, quotedChars? cs = some (chars, n) := by
    rw [quoted?] at h
    obtain ⟨⟨chars, n'⟩, hread, heq⟩ := Option.map_eq_some_iff.1 h
    cases heq
    exact ⟨chars, hread⟩
  obtain ⟨chars, hread⟩ := hread
  obtain ⟨p, rest, rfl, rfl, hp⟩ := quotedChars?_sound hread
  have hquoted : ∃ text', Quoted p text' := by
    obtain ⟨start, hstart, ⟨rfl, -⟩ | ⟨q, text', rfl, hq, -⟩⟩ := hp.split
    · exact ⟨_, .verbatim hstart⟩
    · exact ⟨_, .escaped hstart hq⟩
  obtain ⟨text', htext'⟩ := hquoted
  -- The text of the rule is the one that was read, for the reader reads what the rule admits.
  rw [quoted?_complete htext' rest] at h
  cases h
  exact ⟨p, rest, rfl, rfl, htext'⟩

/-! ## Blanks and keys -/

theorem blankLength_append {before cs : List Char} (hbefore : Blank before)
    (hcs : NoBlankFirst cs) : blankLength (before ++ cs) = before.length := by
  rw [blankLength, Text.takeWhile_append_of_stop hbefore hcs]

theorem NoBlankFirst.append {cs rest : List Char} (h : NoBlankFirst cs)
    (hrest : NoBlankFirst rest) : NoBlankFirst (cs ++ rest) := by
  cases cs with
  | nil => exact hrest
  | cons c cs => exact h

theorem blankLength_eq_zero {cs : List Char} (h : NoBlankFirst cs) : blankLength cs = 0 :=
  @blankLength_append [] cs (by simp [Blank]) h

theorem exists_blanks (cs : List Char) :
    ∃ before rest, cs = before ++ rest ∧ Blank before ∧ NoBlankFirst rest :=
  Text.exists_front isBlank cs

/-- The separators are no blanks, and no blank is a character of a key. -/
theorem isBlank_cases {c : Char} (h : isBlank c = true) :
    isSeparator c = false ∧ isKeyChar c = false := by
  simp only [isBlank, Bool.or_eq_true, beq_iff_eq] at h
  rcases h with (((rfl | rfl) | rfl) | rfl) | rfl <;> decide

theorem key?_bare {name rest : List Char} (hne : name ≠ []) (hname : ∀ c ∈ name, isKeyChar c = true)
    (hrest : ∀ c, rest.head? = some c → isKeyChar c = false) :
    key? (name ++ rest) = some (String.ofList name, name.length) := by
  have htake := Text.takeWhile_append_of_stop hname hrest
  obtain ⟨c, name, rfl⟩ := List.exists_cons_of_ne_nil hne
  have hmark : c ≠ '\x22' := by
    rintro rfl
    exact absurd (hname _ List.mem_cons_self) (by decide)
  rw [List.cons_append] at htake ⊢
  rw [key?]
  · simp [htake]
  · exact fun cs h => hmark (List.cons.inj h).1

theorem key?_complete {p : List Char} {key : String} (h : Key p key) {rest : List Char}
    (hrest : ∀ c, rest.head? = some c → isKeyChar c = false) :
    key? (p ++ rest) = some (key, p.length) := by
  cases h with
  | quoted hcs =>
      rw [List.cons_append, key?, quoted?_complete hcs]
      rfl
  | bare hne hname => exact key?_bare hne hname hrest

theorem key?_sound {cs : List Char} {key : String} {n : Nat} (h : key? cs = some (key, n)) :
    Takes Key cs key n := by
  by_cases hmark : ∃ rest, cs = '\x22' :: rest
  · obtain ⟨rest, rfl⟩ := hmark
    rw [key?] at h
    obtain ⟨⟨text, k⟩, hread, heq⟩ := Option.map_eq_some_iff.1 h
    cases heq
    obtain ⟨p, rest, rfl, rfl, hp⟩ := quoted?_sound hread
    exact ⟨'\x22' :: p, rest, rfl, rfl, .quoted hp⟩
  · rw [key?] at h
    · split at h
      · cases h
      · rename_i hempty
        cases h
        refine ⟨_, _, List.takeWhile_append_dropWhile.symm, rfl, .bare ?_ fun c hc => ?_⟩
        · simpa using hempty
        · exact List.all_eq_true.1 List.all_takeWhile c hc
    · exact fun rest hcs => hmark ⟨rest, hcs⟩

theorem Key.head {p : List Char} {key : String} (h : Key p key) :
    ∃ c cs, p = c :: cs ∧ isBlank c = false ∧ c ≠ '\x7d' := by
  cases h with
  | quoted hcs => exact ⟨_, _, rfl, by decide, by decide⟩
  | bare hne hname =>
      obtain ⟨c, name, rfl⟩ := List.exists_cons_of_ne_nil hne
      have hc := hname c List.mem_cons_self
      refine ⟨c, name, rfl, ?_, ?_⟩
      · cases hblank : isBlank c with
        | false => rfl
        | true =>
            rw [(isBlank_cases hblank).2] at hc
            cases hc
      · rintro rfl
        exact absurd hc (by decide)

theorem keyAndEquals?_complete {p : List Char} {key : String} (h : KeyAndEquals p key)
    (rest : List Char) : keyAndEquals? (p ++ rest) = some (key, p.length) := by
  cases h with
  | @mk before cs after key hbefore hcs hafter =>
      have htext : before ++ (cs ++ (after ++ ['='])) ++ rest =
          before ++ (cs ++ (after ++ '=' :: rest)) := by
        simp
      have hnext : ∀ c, (after ++ '=' :: rest).head? = some c → isKeyChar c = false := by
        intro c hc
        cases after with
        | nil =>
            cases hc
            decide
        | cons x after =>
            cases hc
            exact (isBlank_cases (hafter c List.mem_cons_self)).2
      have hfirst : NoBlankFirst (cs ++ (after ++ '=' :: rest)) := by
        obtain ⟨c, cs, rfl, hc, -⟩ := hcs.head
        rintro x ⟨⟩
        exact hc
      have hequals : NoBlankFirst ('=' :: rest) := by
        rintro x ⟨⟩
        decide
      rw [htext, keyAndEquals?]
      simp only [blankLength_append hbefore hfirst, List.drop_left, key?_complete hcs hnext,
        blankLength_append hafter hequals, ← List.drop_drop, List.head?_cons, if_true,
        List.length_append, List.length_singleton, Nat.add_assoc]

theorem keyAndEquals?_sound {cs : List Char} {key : String} {n : Nat}
    (h : keyAndEquals? cs = some (key, n)) : Takes KeyAndEquals cs key n := by
  obtain ⟨before, tail, rfl, hbefore, htail⟩ := exists_blanks cs
  simp only [keyAndEquals?, blankLength_append hbefore htail, List.drop_left] at h
  split at h
  · cases h
  · rename_i key' k hkey
    obtain ⟨p, rest, rfl, rfl, hp⟩ := key?_sound hkey
    obtain ⟨after, rest, rfl, hafter, hrest⟩ := exists_blanks rest
    simp only [blankLength_append hafter hrest, ← List.drop_drop, List.drop_left] at h
    split at h
    · rename_i hequals
      obtain ⟨rest, rfl⟩ := List.head?_eq_some_iff.1 hequals
      cases h
      exact ⟨_, rest, by simp, by simp [Nat.add_assoc], .mk hbefore hp hafter⟩
    · cases h

end QueryPolicy.Config.Inline
