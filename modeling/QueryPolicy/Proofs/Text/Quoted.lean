import QueryPolicy.Number.Decimal
import QueryPolicy.Text.Quoted

/-!
# Quoted text can be read back

What is written for a character begins with a backslash or is the character itself, and no such
beginning is shared by two characters, whatever class of characters is spelled by code points. So a
quoted text determines the text between the marks and what follows it. Inside the marks every mark
has a backslash of its own before it.
-/

namespace QueryPolicy.Text

/-! ## What is written for a character -/

/-- The characters with a short escape, each with what follows the backslash. -/
def shortEscapes : List (Char × Char) :=
  [('\x00', '0'), ('\t', 't'), ('\r', 'r'), ('\n', 'n'), ('\x5c', '\x5c'), ('\x22', '\x22')]

/-- A character is written by its short escape, or, if it has none, by its code point or as it
is. -/
theorem escapeChar_cases (obscure : Char → Bool) (c : Char) :
    (∃ k, (c, k) ∈ shortEscapes ∧ escapeChar obscure '\x22' c = ['\x5c', k]) ∨
    ((∀ k, (c, k) ∉ shortEscapes) ∧
      (escapeChar obscure '\x22' c = codePointEscape c ∨ escapeChar obscure '\x22' c = [c])) := by
  by_cases hshort : c ∈ shortEscapes.map Prod.fst
  · refine Or.inl ?_
    simp only [shortEscapes, List.map_cons, List.map_nil, List.mem_cons, List.not_mem_nil,
      or_false] at hshort
    rcases hshort with rfl | rfl | rfl | rfl | rfl | rfl
    · exact ⟨'0', by decide, rfl⟩
    · exact ⟨'t', by decide, rfl⟩
    · exact ⟨'r', by decide, rfl⟩
    · exact ⟨'n', by decide, rfl⟩
    · exact ⟨'\x5c', by decide, rfl⟩
    · exact ⟨'\x22', by decide, rfl⟩
  · refine Or.inr ⟨fun k hk => hshort (List.mem_map.2 ⟨_, hk, rfl⟩), ?_⟩
    simp only [shortEscapes, List.map_cons, List.map_nil, List.mem_cons, List.not_mem_nil,
      or_false, not_or] at hshort
    obtain ⟨h0, ht, hr, hn, hbackslash, hmark⟩ := hshort
    simp only [escapeChar, h0, ht, hr, hn, hbackslash, hmark, if_false]
    split
    · exact Or.inl rfl
    · exact Or.inr rfl

/-- Escapes make a text no shorter. -/
theorem length_le_length_escapeChars (obscure : Char → Bool) (cs : List Char) :
    cs.length ≤ (escapeChars obscure '\x22' cs).length := by
  have hchar : ∀ c, 1 ≤ (escapeChar obscure '\x22' c).length := by
    intro c
    rcases escapeChar_cases obscure c with ⟨k, -, hescape⟩ | ⟨-, hescape | hescape⟩
    · simp [hescape]
    · simp [hescape, codePointEscape]
    · simp [hescape]
  induction cs with
  | nil => exact Nat.zero_le _
  | cons c cs ih =>
      have hc := hchar c
      rw [escapeChars] at ih ⊢
      rw [List.flatMap_cons, List.length_append, List.length_cons]
      omega

/-! ## Hexadecimal digits -/

theorem digitValue?_digitChar {d : Nat} (h : d < 16) : digitValue? d.digitChar = some d := by
  have hall : ∀ d : Fin 16, digitValue? (Nat.digitChar d) = some d := by decide
  exact hall ⟨d, h⟩

/-- The digits of a base are those of the numbers below it. -/
theorem exists_of_mem_toDigits {b n : Nat} {x : Char} (hb : 1 < b) (h : x ∈ Nat.toDigits b n) :
    ∃ d < b, x = d.digitChar := by
  induction n using Nat.strongRecOn with
  | ind n ih =>
      by_cases hn : n < b
      · rw [Nat.toDigits_of_lt_base hn, List.mem_singleton] at h
        exact ⟨n, hn, h⟩
      · rw [Nat.toDigits_of_base_le hb (Nat.le_of_not_lt hn), List.mem_append,
          List.mem_singleton] at h
        rcases h with hquotient | hlast
        · exact ih (n / b) (Nat.div_lt_self (by omega) hb) hquotient
        · exact ⟨n % b, Nat.mod_lt n (by omega), hlast⟩

theorem mem_hexDigits {c x : Char} (h : x ∈ hexDigits c) : x ∈ "0123456789abcdef".toList := by
  obtain ⟨d, hd, rfl⟩ := exists_of_mem_toDigits (by decide) h
  have hall : ∀ d : Fin 16, Nat.digitChar d ∈ "0123456789abcdef".toList := by decide
  exact hall ⟨d, hd⟩

/-- Reads hexadecimal digits after a number up to the closing brace. -/
def codePoint? (n : Nat) : List Char → Option (Char × List Char)
  | [] => none
  | '\x7d' :: rest => some (Char.ofNat n, rest)
  | d :: rest => codePoint? (n * 16 + (digitValue? d).getD 0) rest

theorem codePoint?_cons {d : Char} (h : d ≠ '\x7d') (n : Nat) (rest : List Char) :
    codePoint? n (d :: rest) = codePoint? (n * 16 + (digitValue? d).getD 0) rest := by
  rw [codePoint?]
  exact h

theorem codePoint?_toDigits (n : Nat) (rest : List Char) :
    codePoint? 0 (Nat.toDigits 16 n ++ rest) = codePoint? n rest := by
  have hdigit : ∀ d < 16, ∀ k rest,
      codePoint? k (d.digitChar :: rest) = codePoint? (k * 16 + d) rest := by
    intro d hd k rest
    rw [codePoint?_cons (Nat.digitChar_ne _ rfl), digitValue?_digitChar hd, Option.getD_some]
  induction n using Nat.strongRecOn generalizing rest with
  | ind n ih =>
      by_cases hn : n < 16
      · rw [Nat.toDigits_of_lt_base hn, List.singleton_append, hdigit n hn, Nat.zero_mul,
          Nat.zero_add]
      · rw [Nat.toDigits_of_base_le (by decide) (Nat.le_of_not_lt hn), List.append_assoc,
          ih (n / 16) (by omega), List.singleton_append, hdigit _ (by omega)]
        congr 1
        omega

/-! ## Reading back -/

/-- The character that the beginning of an escaped text stands for, and what follows it. -/
def unescapeChar? : List Char → Option (Char × List Char)
  | '\x5c' :: 'u' :: '\x7b' :: rest => codePoint? 0 rest
  | '\x5c' :: k :: rest => (shortEscapes.find? (·.2 = k)).map fun escape => (escape.1, rest)
  | '\x22' :: _ => none
  | c :: rest => some (c, rest)
  | [] => none

theorem unescapeChar?_escapeChar (obscure : Char → Bool) (c : Char) (rest : List Char) :
    unescapeChar? (escapeChar obscure '\x22' c ++ rest) = some (c, rest) := by
  rcases escapeChar_cases obscure c with ⟨k, hk, hescape⟩ | ⟨hno, hescape | hescape⟩
  · rw [hescape]
    simp only [shortEscapes, List.mem_cons, Prod.mk.injEq, List.not_mem_nil, or_false] at hk
    rcases hk with ⟨rfl, rfl⟩ | ⟨rfl, rfl⟩ | ⟨rfl, rfl⟩ | ⟨rfl, rfl⟩ | ⟨rfl, rfl⟩ | ⟨rfl, rfl⟩ <;>
      rfl
  · have hread : unescapeChar? (codePointEscape c ++ rest) =
        codePoint? 0 (Nat.toDigits 16 c.toNat ++ '\x7d' :: rest) := by
      rw [codePointEscape, hexDigits, List.append_assoc, List.append_assoc]
      rfl
    rw [hescape, hread, codePoint?_toDigits, codePoint?, Char.ofNat_toNat]
  · have hbackslash : c ≠ '\x5c' := fun h => hno '\x5c' (by subst h; decide)
    have hmark : c ≠ '\x22' := fun h => hno '\x22' (by subst h; decide)
    rw [hescape, List.singleton_append]
    simp [unescapeChar?, hbackslash]

/-- A quoted text, opened already, determines its characters and what follows it. -/
theorem escapeChars_inj {obscure obscure' : Char → Bool} {cs cs' rest rest' : List Char}
    (h : escapeChars obscure '\x22' cs ++ '\x22' :: rest =
      escapeChars obscure' '\x22' cs' ++ '\x22' :: rest') : cs = cs' ∧ rest = rest' := by
  have hmark : ∀ rest, unescapeChar? ('\x22' :: rest) = none := fun _ => rfl
  induction cs generalizing cs' with
  | nil =>
      cases cs' with
      | nil => exact ⟨rfl, (List.cons.inj h).2⟩
      | cons c' cs' =>
          have hread := congrArg unescapeChar? h
          simp [escapeChars, hmark, unescapeChar?_escapeChar] at hread
  | cons c cs ih =>
      have hread := congrArg unescapeChar? h
      cases cs' with
      | nil => simp [escapeChars, hmark, unescapeChar?_escapeChar] at hread
      | cons c' cs' =>
          simp only [escapeChars, List.flatMap_cons, List.append_assoc, unescapeChar?_escapeChar,
            Option.some.injEq, Prod.mk.injEq] at hread
          obtain ⟨rfl, hrest⟩ := hread
          obtain ⟨rfl, rfl⟩ := ih hrest
          exact ⟨rfl, rfl⟩

/-! ## Marks and controls inside -/

theorem mem_codePointEscape {c x : Char} (h : x ∈ codePointEscape c) :
    x ∈ ['\x5c', 'u', '\x7b', '\x7d'] ++ "0123456789abcdef".toList := by
  simp only [codePointEscape, List.mem_append, List.mem_cons, List.not_mem_nil, or_false] at h ⊢
  rcases h with ((rfl | rfl | rfl) | hdigit) | rfl
  · exact Or.inl (Or.inl rfl)
  · exact Or.inl (Or.inr (Or.inl rfl))
  · exact Or.inl (Or.inr (Or.inr (Or.inl rfl)))
  · exact Or.inr (mem_hexDigits hdigit)
  · exact Or.inl (Or.inr (Or.inr (Or.inr rfl)))

/-- How many backslashes a text ends in. -/
def backslashesAtEnd (cs : List Char) : Nat := (cs.reverse.takeWhile (· = '\x5c')).length

theorem backslashesAtEnd_concat {c : Char} (h : c ≠ '\x5c') (cs : List Char) :
    backslashesAtEnd (cs ++ [c]) = 0 := by
  simp [backslashesAtEnd, h]

/-- An even number of backslashes in front changes no parity. -/
theorem backslashesAtEnd_append {front : List Char} (h : backslashesAtEnd front % 2 = 0)
    (cs : List Char) : backslashesAtEnd (front ++ cs) % 2 = backslashesAtEnd cs % 2 := by
  rw [backslashesAtEnd] at h
  rw [backslashesAtEnd, backslashesAtEnd, List.reverse_append, List.takeWhile_append]
  split
  · rw [List.length_append]
    omega
  · rfl

theorem backslashesAtEnd_escapeChar (obscure : Char → Bool) (c : Char) :
    backslashesAtEnd (escapeChar obscure '\x22' c) % 2 = 0 := by
  rcases escapeChar_cases obscure c with ⟨k, hk, hescape⟩ | ⟨hno, hescape | hescape⟩
  · have hshort : ∀ e ∈ shortEscapes, backslashesAtEnd ['\x5c', e.2] % 2 = 0 := by decide
    rw [hescape, hshort _ hk]
  · rw [hescape, codePointEscape, backslashesAtEnd_concat (by decide)]
  · have hbackslash : c ≠ '\x5c' := fun h => hno '\x5c' (by subst h; decide)
    rw [hescape, ← List.nil_append [c], backslashesAtEnd_concat hbackslash]

/-- The mark is written for itself only, after one backslash. -/
theorem eq_of_mark_in_escapeChar {obscure : Char → Bool} {c : Char} {before after : List Char}
    (h : escapeChar obscure '\x22' c = before ++ '\x22' :: after) : before = ['\x5c'] := by
  have hmem : '\x22' ∈ escapeChar obscure '\x22' c := by rw [h]; simp
  rcases escapeChar_cases obscure c with ⟨k, -, hescape⟩ | ⟨hno, hescape | hescape⟩
  · rw [hescape] at h
    rcases before with _ | ⟨x, _ | ⟨y, before⟩⟩
    · simp at h
    · simp only [List.cons_append, List.cons.injEq] at h
      rw [h.1]
    · simp at h
  · rw [hescape] at hmem
    exact absurd (mem_codePointEscape hmem) (by decide)
  · rw [hescape, List.mem_singleton] at hmem
    exact absurd (by rw [← hmem]; decide) (hno '\x22')

/-- Every mark in an escaped text comes after an odd number of backslashes. -/
theorem backslashesAtEnd_before_mark {obscure : Char → Bool} {cs before after : List Char}
    (h : escapeChars obscure '\x22' cs = before ++ '\x22' :: after) :
    backslashesAtEnd before % 2 = 1 := by
  induction cs generalizing before with
  | nil => simp [escapeChars] at h
  | cons c cs ih =>
      rw [escapeChars, List.flatMap_cons, ← escapeChars, List.append_eq_append_iff] at h
      rcases h with ⟨before', rfl, hrest⟩ | ⟨ending, hchar, hrest⟩
      · rw [backslashesAtEnd_append (backslashesAtEnd_escapeChar obscure c)]
        exact ih hrest
      · cases ending with
        | nil =>
            -- A mark that begins what follows would have no backslash before it.
            have hnone : backslashesAtEnd [] % 2 = 1 := ih hrest.symm
            cases hnone
        | cons x ending =>
            obtain ⟨rfl, -⟩ := List.cons.inj hrest
            rw [eq_of_mark_in_escapeChar hchar]
            rfl

theorem not_control_of_mem_escapeChars {obscure : Char → Bool} {cs : List Char} {x : Char}
    (h : x ∈ escapeChars obscure '\x22' cs) : x ∉ ['\n', '\r', '\t', '\x00'] := by
  obtain ⟨c, -, hx⟩ := List.mem_flatMap.1 h
  rcases escapeChar_cases obscure c with ⟨k, hk, hescape⟩ | ⟨hno, hescape | hescape⟩
  · have hshort : ∀ e ∈ shortEscapes, ∀ x ∈ ['\x5c', e.2], x ∉ ['\n', '\r', '\t', '\x00'] := by
      simp [shortEscapes]
    rw [hescape] at hx
    exact hshort _ hk x hx
  · have hcode : ∀ x ∈ ['\x5c', 'u', '\x7b', '\x7d'] ++ "0123456789abcdef".toList,
        x ∉ ['\n', '\r', '\t', '\x00'] := by
      simp
    rw [hescape] at hx
    exact hcode x (mem_codePointEscape hx)
  · have hcontrol : ∀ x ∈ ['\n', '\r', '\t', '\x00'], ∃ k, (x, k) ∈ shortEscapes := by
      simp [shortEscapes]
    rw [hescape, List.mem_singleton] at hx
    subst hx
    intro hx
    obtain ⟨k, hk⟩ := hcontrol x hx
    exact hno k hk

end QueryPolicy.Text
