import QueryPolicy.Proofs.Config.InlineText

/-!
# The grammar of inline values

What texts denote, stated by rules that do not mention the readers. A reader takes from the front of
a text what a rule admits, and what a rule admits it takes when a value can end there. So a whole
text is read exactly when a rule admits it, and no text denotes two values.
-/

namespace QueryPolicy.Config.Inline

/-! ## Rules -/

/-- The text is at its end or goes on with what can follow a value. -/
def Stops (cs : List Char) : Prop := ∀ c, cs.head? = some c → c = ',' ∨ c = ']' ∨ c = '\x7d'

/-- A plain text: without separators, and begun by no mark and neither truth value. -/
structure Plain (cs : List Char) : Prop where
  noSeparator : ∀ c ∈ cs, isSeparator c = false
  noBlankFirst : NoBlankFirst cs
  noMarkFirst : cs.head? ≠ some '\x22' ∧ cs.head? ≠ some '\x27'
  noWordFirst : ¬ "true".toList <+: cs ∧ ¬ "false".toList <+: cs

mutual

/-- A value that shows where it ends. -/
inductive Delimited : List Char → Value → Prop
  | yes : Delimited "true".toList (.bool true)
  | no : Delimited "false".toList (.bool false)
  | table {cs : List Char} {es : Dict} (hcs : Entries cs es) : Delimited ('\x7b' :: cs) (.dict es)
  | array {cs : List Char} {vs : List Value} (hcs : Items cs vs) : Delimited ('[' :: cs) (.array vs)
  | quoted {cs : List Char} {text : String} (hcs : Quoted cs text) :
      Delimited ('\x22' :: cs) (.string text)
  | character (c : Char) : Delimited ['\x27', c, '\x27'] (.character c)

/-- A value with blanks around it. Those after a plain text belong to it and are trimmed. -/
inductive Padded : List Char → Value → Prop
  | delimited {before cs after : List Char} {v : Value} (hbefore : Blank before)
      (hcs : Delimited cs v) (hafter : Blank after) : Padded (before ++ (cs ++ after)) v
  | plain {before cs : List Char} (hbefore : Blank before) (hcs : Plain cs) :
      Padded (before ++ cs) (plainValue (Text.trim cs))

/-- The items of an array after its bracket, with the closing one. A comma may come last. -/
inductive Items : List Char → List Value → Prop
  | close : Items [']'] []
  | last {cs : List Char} {v : Value} (hcs : Padded cs v) (hne : cs ≠ []) : Items (cs ++ [']']) [v]
  | more {cs rest : List Char} {v : Value} {vs : List Value} (hcs : Padded cs v)
      (hrest : Items rest vs) : Items (cs ++ ',' :: rest) (v :: vs)

/-- The entries of a table after its brace, with the closing one. Of equal keys the last counts. -/
inductive Entries : List Char → Dict → Prop
  | close : Entries ['\x7d'] []
  | last {ks cs : List Char} {key : String} {v : Value} (hkey : KeyAndEquals ks key)
      (hcs : Padded cs v) : Entries (ks ++ (cs ++ ['\x7d'])) [(key, v)]
  | more {ks cs rest : List Char} {key : String} {v : Value} {es : Dict}
      (hkey : KeyAndEquals ks key) (hcs : Padded cs v) (hrest : Entries rest es) :
      Entries (ks ++ (cs ++ ',' :: rest)) (putFirst key v es)

end

/-- A whole text is a value with blanks around it. -/
def Denotes (text : String) (v : Value) : Prop := Padded text.toList v

/-! ## Values -/

theorem Stops.isSeparator {rest : List Char} (h : Stops rest) :
    ∀ c, rest.head? = some c → isSeparator c = true := by
  intro c hc
  rcases h c hc with rfl | rfl | rfl <;> decide

/-- Words without separators do not go on behind a text that a separator ends. -/
theorem prefix_of_prefix_append {word p rest : List Char}
    (hword : ∀ c ∈ word, isSeparator c = false) (hrest : Stops rest) (h : word <+: p ++ rest) :
    word <+: p := by
  obtain ⟨after, h⟩ := h
  rcases List.append_eq_append_iff.1 h with ⟨q, rfl, -⟩ | ⟨q, rfl, rfl⟩
  · exact ⟨q, rfl⟩
  · cases q with
    | nil => exact ⟨[], by simp⟩
    | cons c q =>
        have hc := hrest.isSeparator c rfl
        rw [hword c (by simp)] at hc
        cases hc

theorem plainLength_append {p rest : List Char} (hp : ∀ c ∈ p, isSeparator c = false)
    (hrest : ∀ c, rest.head? = some c → isSeparator c = true) :
    plainLength (p ++ rest) = p.length := by
  rw [plainLength, Text.takeWhile_append_of_stop (by simpa using hp) (by simpa using hrest)]

theorem exists_plain (cs : List Char) :
    ∃ p rest, cs = p ++ rest ∧ (∀ c ∈ p, isSeparator c = false) ∧
      ∀ c, rest.head? = some c → isSeparator c = true := by
  simpa using Text.exists_front (!isSeparator ·) cs

/-- A plain text and what follows it begin like no other value. -/
theorem Plain.first_ne {p rest : List Char} (hp : Plain p) (hrest : Stops rest) {c : Char}
    {cs : List Char} (h : p ++ rest = c :: cs) :
    c ≠ '\x7b' ∧ c ≠ '[' ∧ c ≠ '\x22' ∧ c ≠ '\x27' := by
  cases p with
  | nil =>
      rw [List.nil_append] at h
      subst h
      rcases hrest c rfl with rfl | rfl | rfl <;> decide
  | cons x p =>
      obtain ⟨rfl, -⟩ := List.cons.inj h
      refine ⟨?_, ?_, fun hc => hp.noMarkFirst.1 (by rw [hc, List.head?_cons]),
        fun hc => hp.noMarkFirst.2 (by rw [hc, List.head?_cons])⟩
      all_goals
        rintro rfl
        exact absurd (hp.noSeparator _ List.mem_cons_self) (by decide)

theorem bare?_plain {p rest : List Char} (hp : Plain p) (hrest : Stops rest) :
    bare? (p ++ rest) = some (plainValue (Text.trim p), p.length) := by
  have htrue : (p ++ rest).take 4 ≠ "true".toList := by
    intro h
    refine hp.noWordFirst.1 (prefix_of_prefix_append (by simp [isSeparator]) hrest ?_)
    exact List.prefix_iff_eq_take.2 h.symm
  have hfalse : (p ++ rest).take 5 ≠ "false".toList := by
    intro h
    refine hp.noWordFirst.2 (prefix_of_prefix_append (by simp [isSeparator]) hrest ?_)
    exact List.prefix_iff_eq_take.2 h.symm
  rw [bare?, if_neg htrue, if_neg hfalse, plainLength_append hp.noSeparator hrest.isSeparator,
    List.take_left]
  · exact fun _ h => (hp.first_ne hrest h).1 rfl
  · exact fun _ h => (hp.first_ne hrest h).2.1 rfl
  · exact fun _ h => (hp.first_ne hrest h).2.2.1 rfl
  · exact fun _ _ h => (hp.first_ne hrest h).2.2.2 rfl
  · exact fun _ h => (hp.first_ne hrest h).2.2.2 rfl

theorem Delimited.head {p : List Char} {v : Value} (h : Delimited p v) :
    ∃ c cs, p = c :: cs ∧ isBlank c = false ∧ c ≠ ']' := by
  cases h with
  | yes => exact ⟨'t', _, rfl, by decide, by decide⟩
  | no => exact ⟨'f', _, rfl, by decide, by decide⟩
  | table hcs => exact ⟨_, _, rfl, by decide, by decide⟩
  | array hcs => exact ⟨_, _, rfl, by decide, by decide⟩
  | quoted hcs => exact ⟨_, _, rfl, by decide, by decide⟩
  | character c => exact ⟨_, _, rfl, by decide, by decide⟩

theorem Stops.noBlankFirst {rest : List Char} (h : Stops rest) : NoBlankFirst rest := by
  intro c hc
  rcases h c hc with rfl | rfl | rfl <;> decide

/-- A value does not begin with the bracket that closes an array. -/
theorem Padded.first_ne {c : Char} {cs : List Char} {v : Value} (h : Padded (c :: cs) v) :
    c ≠ ']' := by
  have hblank : ∀ {before : List Char}, Blank (c :: before) → c ≠ ']' := by
    rintro before hbefore rfl
    exact absurd (hbefore _ List.mem_cons_self) (by decide)
  generalize htext : c :: cs = text at h
  cases h with
  | @delimited before cs' after v hbefore hcs hafter =>
      cases before with
      | nil =>
          obtain ⟨x, xs, rfl, -, hx⟩ := hcs.head
          obtain ⟨rfl, -⟩ := List.cons.inj htext
          exact hx
      | cons x before =>
          obtain ⟨rfl, -⟩ := List.cons.inj htext
          exact hblank hbefore
  | @plain before cs' hbefore hcs =>
      cases before with
      | nil =>
          rw [List.nil_append] at htext
          subst htext
          rintro rfl
          exact absurd (hcs.noSeparator _ List.mem_cons_self) (by decide)
      | cons x before =>
          obtain ⟨rfl, -⟩ := List.cons.inj htext
          exact hblank hbefore

theorem Padded.head?_append_ne {p : List Char} {v : Value} (h : Padded p v) {c : Char}
    {rest : List Char} (hne : p ≠ [] ∨ c ≠ ']') : (p ++ c :: rest).head? ≠ some ']' := by
  cases p with
  | nil =>
      rcases hne with hne | hc
      · exact absurd rfl hne
      · simpa using hc
  | cons x p => simpa using h.first_ne

/-- A key does not begin with the brace that closes a table. -/
theorem KeyAndEquals.head?_append_ne {p : List Char} {key : String} (h : KeyAndEquals p key)
    (rest : List Char) : (p ++ rest).head? ≠ some '\x7d' := by
  cases h with
  | @mk before cs after key hbefore hcs hafter =>
      cases before with
      | nil =>
          obtain ⟨c, cs, rfl, -, hc⟩ := hcs.head
          simpa using hc
      | cons c before =>
          rw [List.cons_append, List.cons_append, List.head?_cons]
          rintro ⟨⟩
          exact absurd (hbefore _ List.mem_cons_self) (by decide)

/-! ### One step of the lists -/

theorem items?_of_value? {cs : List Char} {v : Value} {n : Nat} (hfirst : cs.head? ≠ some ']')
    (hv : value? cs = some (v, n)) :
    items? cs = match cs.drop n with
      | ',' :: rest => (items? rest).map fun (vs, k) => (v :: vs, k + n + 1)
      | ']' :: _ => some ([v], n + 1)
      | _ => none := by
  rw [items?, hv]
  · simp only
    split <;> simp_all
  · rintro tail rfl
    exact hfirst rfl

theorem entries?_of_value? {cs : List Char} {key : String} {v : Value} {n k : Nat}
    (hfirst : cs.head? ≠ some '\x7d') (hkey : keyAndEquals? cs = some (key, n))
    (hv : value? (cs.drop n) = some (v, k)) :
    entries? cs = match cs.drop (n + k) with
      | ',' :: rest => (entries? rest).map fun (es, j) => (putFirst key v es, j + n + k + 1)
      | '\x7d' :: _ => some ([(key, v)], n + k + 1)
      | _ => none := by
  rw [entries?, hkey]
  · simp only [hv]
    split <;> simp_all
  · rintro tail rfl
    exact hfirst rfl

/-! ### What the rules admit is read -/

mutual

theorem Delimited.read {p : List Char} {v : Value} :
    Delimited p v → ∀ rest, bare? (p ++ rest) = some (v, p.length)
  | .yes, rest => by
      rw [bare?.eq_def, if_pos (List.take_left' (by decide))]
      rfl
  | .no, rest => by
      rw [bare?.eq_def, if_neg, if_pos (List.take_left' (by decide))]
      · rfl
      · simp
  | .table hcs, rest => by
      rw [List.cons_append, bare?, if_neg, if_neg, hcs.read rest]
      · rfl
      · simp
      · simp
  | .array hcs, rest => by
      rw [List.cons_append, bare?, if_neg, if_neg, hcs.read rest]
      · rfl
      · simp
      · simp
  | .quoted hcs, rest => by
      rw [List.cons_append, bare?, if_neg, if_neg, quoted?_complete hcs rest]
      · rfl
      · simp
      · simp
  | .character c, rest => by
      rw [List.cons_append, List.cons_append, List.singleton_append, bare?, if_neg, if_neg]
      · rfl
      · simp
      · simp

theorem Padded.read {p : List Char} {v : Value} :
    Padded p v → ∀ rest, Stops rest → value? (p ++ rest) = some (v, p.length)
  | .delimited hbefore hcs hafter, rest, hrest => by
      rename_i before cs after
      have hfirst : NoBlankFirst (cs ++ (after ++ rest)) := by
        obtain ⟨c, cs, rfl, hc, -⟩ := hcs.head
        rintro x ⟨⟩
        exact hc
      rw [List.append_assoc, List.append_assoc, value?]
      simp only [blankLength_append hbefore hfirst, List.drop_left, hcs.read, Option.map_some,
        ← List.drop_drop, blankLength_append hafter hrest.noBlankFirst, List.length_append,
        Nat.add_assoc]
  | .plain hbefore hcs, rest, hrest => by
      rename_i before cs
      have hfirst : NoBlankFirst (cs ++ rest) := hcs.noBlankFirst.append hrest.noBlankFirst
      rw [List.append_assoc, value?]
      simp only [blankLength_append hbefore hfirst, List.drop_left, bare?_plain hcs hrest,
        Option.map_some, ← List.drop_drop, blankLength_eq_zero hrest.noBlankFirst,
        List.length_append, Nat.add_zero]

theorem Items.read {p : List Char} {vs : List Value} :
    Items p vs → ∀ rest, items? (p ++ rest) = some (vs, p.length)
  | .close, rest => by
      rw [List.singleton_append, items?, List.length_singleton]
  | @Items.last cs v hcs hne, rest => by
      have hread := hcs.read (']' :: rest) (by rintro c ⟨⟩; simp)
      rw [List.append_assoc, List.singleton_append,
        items?_of_value? (hcs.head?_append_ne (.inl hne)) hread, List.drop_left]
      simp
  | @Items.more cs rest' v vs hcs hrest, rest => by
      have hread := hcs.read (',' :: (rest' ++ rest)) (by rintro c ⟨⟩; simp)
      rw [List.append_assoc, List.cons_append,
        items?_of_value? (hcs.head?_append_ne (.inr (by decide))) hread, List.drop_left]
      simp only [hrest.read rest, Option.map_some, List.length_append, List.length_cons]
      congr 2
      omega

theorem Entries.read {p : List Char} {es : Dict} :
    Entries p es → ∀ rest, entries? (p ++ rest) = some (es, p.length)
  | .close, rest => by
      rw [List.singleton_append, entries?, List.length_singleton]
  | @Entries.last ks cs key v hkey hcs, rest => by
      have hread := hcs.read ('\x7d' :: rest) (by rintro c ⟨⟩; simp)
      have hkeyRead := keyAndEquals?_complete hkey (cs ++ '\x7d' :: rest)
      have hfirst := hkey.head?_append_ne (cs ++ '\x7d' :: rest)
      rw [List.append_assoc, List.append_assoc, List.singleton_append,
        entries?_of_value? hfirst hkeyRead (by rw [List.drop_left, hread]), ← List.drop_drop,
        List.drop_left, List.drop_left]
      simp [Nat.add_assoc]
  | @Entries.more ks cs rest' key v es hkey hcs hrest, rest => by
      have hread := hcs.read (',' :: (rest' ++ rest)) (by rintro c ⟨⟩; simp)
      have hkeyRead := keyAndEquals?_complete hkey (cs ++ ',' :: (rest' ++ rest))
      have hfirst := hkey.head?_append_ne (cs ++ ',' :: (rest' ++ rest))
      rw [List.append_assoc, List.append_assoc, List.cons_append,
        entries?_of_value? hfirst hkeyRead (by rw [List.drop_left, hread]), ← List.drop_drop,
        List.drop_left, List.drop_left]
      simp only [hrest.read rest, Option.map_some, List.length_append, List.length_cons]
      congr 2
      omega

end

/-! ### What is read the rules admit -/

/-- What `bare?` takes when it takes a plain text: all up to a separator. -/
def TakesPlain (cs : List Char) (v : Value) (n : Nat) : Prop :=
  Takes (fun p v => Plain p ∧ v = plainValue (Text.trim p)) cs v n ∧ NoBlankFirst (cs.drop n)

theorem takesPlain {cs : List Char} (hblank : NoBlankFirst cs)
    (hmarks : cs.head? ≠ some '\x22' ∧ cs.head? ≠ some '\x27')
    (htrue : cs.take 4 ≠ "true".toList) (hfalse : cs.take 5 ≠ "false".toList) :
    TakesPlain cs (plainValue (Text.trim (cs.take (plainLength cs)))) (plainLength cs) := by
  obtain ⟨p, rest, rfl, hp, hrest⟩ := exists_plain cs
  rw [plainLength_append hp hrest, List.take_left]
  have hhead : ∀ {c}, p.head? = some c → (p ++ rest).head? = some c := by
    intro c hc
    rw [List.head?_append, hc, Option.some_or]
  have hplain : Plain p := by
    refine ⟨hp, fun c hc => hblank c (hhead hc), ⟨mt hhead hmarks.1, mt hhead hmarks.2⟩,
      fun h => htrue ?_, fun h => hfalse ?_⟩
    all_goals exact (List.prefix_iff_eq_take.1 (h.trans (List.prefix_append p rest))).symm
  refine ⟨⟨p, rest, rfl, rfl, hplain, rfl⟩, fun c hc => ?_⟩
  rw [List.drop_left] at hc
  cases hblank : isBlank c with
  | false => rfl
  | true =>
      have hseparator := hrest c hc
      rw [(isBlank_cases hblank).1] at hseparator
      cases hseparator

theorem takes_items_more {cs rest : List Char} {v : Value} {vs : List Value} {n k : Nat}
    (hv : Takes Padded cs v n) (hdrop : cs.drop n = ',' :: rest) (hvs : Takes Items rest vs k) :
    Takes Items cs (v :: vs) (k + n + 1) := by
  obtain ⟨p, tail, rfl, rfl, hp⟩ := hv
  obtain ⟨q, rest, rfl, rfl, hq⟩ := hvs
  rw [List.drop_left] at hdrop
  subst hdrop
  refine ⟨p ++ ',' :: q, rest, by simp, ?_, .more hp hq⟩
  simp only [List.length_append, List.length_cons]
  omega

theorem takes_items_last {cs rest : List Char} {v : Value} {n : Nat} (hv : Takes Padded cs v n)
    (hfirst : cs.head? ≠ some ']') (hdrop : cs.drop n = ']' :: rest) :
    Takes Items cs [v] (n + 1) := by
  obtain ⟨p, tail, rfl, rfl, hp⟩ := hv
  rw [List.drop_left] at hdrop
  subst hdrop
  refine ⟨p ++ [']'], rest, by simp, by simp, .last hp ?_⟩
  -- An empty last item would leave the closing bracket first.
  rintro rfl
  exact hfirst rfl

theorem takes_entries_more {cs rest : List Char} {key : String} {v : Value} {es : Dict}
    {n k j : Nat} (hkey : Takes KeyAndEquals cs key n) (hv : Takes Padded (cs.drop n) v k)
    (hdrop : cs.drop (n + k) = ',' :: rest) (hes : Takes Entries rest es j) :
    Takes Entries cs (putFirst key v es) (j + n + k + 1) := by
  obtain ⟨ks, tail, rfl, rfl, hks⟩ := hkey
  rw [List.drop_left] at hv
  obtain ⟨p, tail, rfl, rfl, hp⟩ := hv
  obtain ⟨q, rest, rfl, rfl, hq⟩ := hes
  rw [← List.drop_drop, List.drop_left, List.drop_left] at hdrop
  subst hdrop
  refine ⟨ks ++ (p ++ ',' :: q), rest, by simp, ?_, .more hks hp hq⟩
  simp only [List.length_append, List.length_cons]
  omega

theorem takes_entries_last {cs rest : List Char} {key : String} {v : Value} {n k : Nat}
    (hkey : Takes KeyAndEquals cs key n) (hv : Takes Padded (cs.drop n) v k)
    (hdrop : cs.drop (n + k) = '\x7d' :: rest) : Takes Entries cs [(key, v)] (n + k + 1) := by
  obtain ⟨ks, tail, rfl, rfl, hks⟩ := hkey
  rw [List.drop_left] at hv
  obtain ⟨p, tail, rfl, rfl, hp⟩ := hv
  rw [← List.drop_drop, List.drop_left, List.drop_left] at hdrop
  subst hdrop
  exact ⟨ks ++ (p ++ ['\x7d']), rest, by simp, by simp [Nat.add_assoc], .last hks hp⟩

-- The readers call each other in a circle. Only a list is read from a shorter text than its own, so
-- the induction is on the length of the text and assumes soundness of lists alone.

/-- The readers of lists take from a text what the rules admit. -/
def ListsSound (cs : List Char) : Prop :=
  (∀ vs n, items? cs = some (vs, n) → Takes Items cs vs n) ∧
    ∀ es n, entries? cs = some (es, n) → Takes Entries cs es n

section

variable {cs : List Char} {v : Value} {n : Nat}
  (hlists : ∀ rest : List Char, rest.length < cs.length → ListsSound rest)
include hlists

theorem bare?_sound_of (hblank : NoBlankFirst cs) (h : bare? cs = some (v, n)) :
    Takes Delimited cs v n ∨ TakesPlain cs v n := by
  fun_cases bare? cs with
  | case1 cs htake =>
      rw [bare?.eq_def, if_pos htake] at h
      cases h
      refine Or.inl ⟨_, cs.drop 4, ?_, rfl, .yes⟩
      rw [← htake, List.take_append_drop]
  | case2 cs htrue htake =>
      rw [bare?.eq_def, if_neg htrue, if_pos htake] at h
      cases h
      refine Or.inl ⟨_, cs.drop 5, ?_, rfl, .no⟩
      rw [← htake, List.take_append_drop]
  | case3 rest htrue hfalse =>
      rw [bare?, if_neg htrue, if_neg hfalse] at h
      obtain ⟨⟨es, k⟩, hread, heq⟩ := Option.map_eq_some_iff.1 h
      cases heq
      obtain ⟨p, rest, rfl, rfl, hp⟩ := (hlists rest (by simp)).2 es k hread
      exact Or.inl ⟨_, rest, rfl, rfl, .table hp⟩
  | case4 rest htrue hfalse =>
      rw [bare?, if_neg htrue, if_neg hfalse] at h
      obtain ⟨⟨vs, k⟩, hread, heq⟩ := Option.map_eq_some_iff.1 h
      cases heq
      obtain ⟨p, rest, rfl, rfl, hp⟩ := (hlists rest (by simp)).1 vs k hread
      exact Or.inl ⟨_, rest, rfl, rfl, .array hp⟩
  | case5 rest htrue hfalse =>
      rw [bare?, if_neg htrue, if_neg hfalse] at h
      obtain ⟨⟨text, k⟩, hread, heq⟩ := Option.map_eq_some_iff.1 h
      cases heq
      obtain ⟨p, rest, rfl, rfl, hp⟩ := quoted?_sound hread
      exact Or.inl ⟨_, rest, rfl, rfl, .quoted hp⟩
  | case6 c rest htrue hfalse =>
      rw [bare?, if_neg htrue, if_neg hfalse] at h
      cases h
      exact Or.inl ⟨_, rest, rfl, rfl, .character c⟩
  | case7 rest hmark htrue hfalse =>
      rw [bare?, if_neg htrue, if_neg hfalse] at h
      · cases h
      · exact hmark
  | case8 cs hbrace hbracket hquote hcharacter hmark htrue hfalse =>
      have hplain : bare? cs = some (plainValue (Text.trim (cs.take (plainLength cs))),
          plainLength cs) := by
        rw [bare?, if_neg htrue, if_neg hfalse]
        all_goals assumption
      rw [hplain] at h
      cases h
      refine Or.inr (takesPlain hblank ⟨?_, ?_⟩ htrue hfalse)
      · intro hhead
        obtain ⟨rest, hcs⟩ := List.head?_eq_some_iff.1 hhead
        exact hquote rest hcs
      · intro hhead
        obtain ⟨rest, hcs⟩ := List.head?_eq_some_iff.1 hhead
        exact hmark rest hcs

theorem value?_sound_of (h : value? cs = some (v, n)) : Takes Padded cs v n := by
  obtain ⟨before, tail, rfl, hbefore, htail⟩ := exists_blanks cs
  rw [value?] at h
  simp only [blankLength_append hbefore htail, List.drop_left] at h
  obtain ⟨⟨v', n'⟩, hread, heq⟩ := Option.map_eq_some_iff.1 h
  cases heq
  have hshorter : ∀ rest : List Char, rest.length < tail.length → ListsSound rest := by
    intro rest hrest
    exact hlists rest (by rw [List.length_append]; omega)
  rcases bare?_sound_of hshorter htail hread with
    ⟨p, rest, rfl, rfl, hp⟩ | ⟨⟨p, rest, rfl, rfl, hp, rfl⟩, hrest⟩
  · obtain ⟨after, rest, rfl, hafter, hrest⟩ := exists_blanks rest
    refine ⟨before ++ (p ++ after), rest, by simp, ?_, .delimited hbefore hp hafter⟩
    simp [← List.drop_drop, blankLength_append hafter hrest, Nat.add_assoc]
  · rw [List.drop_left] at hrest
    refine ⟨before ++ p, rest, by simp, ?_, .plain hbefore hp⟩
    simp [← List.drop_drop, blankLength_eq_zero hrest]

theorem items?_sound_of {vs : List Value} (h : items? cs = some (vs, n)) : Takes Items cs vs n := by
  by_cases hfirst : cs.head? = some ']'
  · obtain ⟨rest, rfl⟩ := List.head?_eq_some_iff.1 hfirst
    rw [items?] at h
    cases h
    exact ⟨[']'], rest, rfl, rfl, .close⟩
  · cases hread : value? cs with
    | none =>
        rw [items?, hread] at h
        · cases h
        · rintro tail rfl
          exact hfirst rfl
    | some read =>
        obtain ⟨v, k⟩ := read
        have hv := value?_sound_of hlists hread
        rw [items?_of_value? hfirst hread] at h
        split at h
        · rename_i rest hdrop
          obtain ⟨⟨vs', j⟩, hvs, heq⟩ := Option.map_eq_some_iff.1 h
          cases heq
          have hrest := (hlists rest (Text.length_lt_of_drop_eq_cons hdrop)).1 vs' j hvs
          exact takes_items_more hv hdrop hrest
        · rename_i rest hdrop
          cases h
          exact takes_items_last hv hfirst hdrop
        · cases h

theorem entries?_sound_of {es : Dict} (h : entries? cs = some (es, n)) : Takes Entries cs es n := by
  by_cases hfirst : cs.head? = some '\x7d'
  · obtain ⟨rest, rfl⟩ := List.head?_eq_some_iff.1 hfirst
    rw [entries?] at h
    cases h
    exact ⟨['\x7d'], rest, rfl, rfl, .close⟩
  · have hstep : ∃ key k v j, keyAndEquals? cs = some (key, k) ∧
        value? (cs.drop k) = some (v, j) := by
      rw [entries?] at h
      · split at h
        · cases h
        · rename_i key k hkey
          split at h
          · cases h
          · rename_i v j hread
            exact ⟨key, k, v, j, hkey, hread⟩
      · rintro tail rfl
        exact hfirst rfl
    obtain ⟨key, k, v, j, hkeyRead, hread⟩ := hstep
    have hkey := keyAndEquals?_sound hkeyRead
    have hv : Takes Padded (cs.drop k) v j := by
      refine value?_sound_of (fun rest hrest => hlists rest ?_) hread
      rw [List.length_drop] at hrest
      omega
    rw [entries?_of_value? hfirst hkeyRead hread] at h
    split at h
    · rename_i rest hdrop
      obtain ⟨⟨es', i⟩, hes, heq⟩ := Option.map_eq_some_iff.1 h
      cases heq
      have hrest := (hlists rest (Text.length_lt_of_drop_eq_cons hdrop)).2 es' i hes
      exact takes_entries_more hkey hv hdrop hrest
    · rename_i rest hdrop
      cases h
      exact takes_entries_last hkey hv hdrop
    · cases h

end

theorem listsSound (cs : List Char) : ListsSound cs :=
  ⟨fun _ _ => items?_sound_of fun rest _ => listsSound rest,
    fun _ _ => entries?_sound_of fun rest _ => listsSound rest⟩
termination_by cs.length

/-! ## Whole texts -/

theorem ofText_of_denotes {text : String} {v : Value} (h : Denotes text v) : ofText text = v := by
  have hread := h.read [] (by rintro c ⟨⟩)
  rw [List.append_nil] at hread
  simp [ofText, hread]

theorem ofText_of_not_denotes {text : String} (h : ∀ v, ¬ Denotes text v) :
    ofText text = .string text := by
  rw [ofText]
  split
  · rename_i v n hread
    rw [if_neg]
    rintro rfl
    obtain ⟨p, rest, hcs, hlength, hp⟩ := value?_sound_of (fun rest _ => listsSound rest) hread
    obtain rfl : rest = [] := by
      have htotal := congrArg List.length hcs
      rw [List.length_append] at htotal
      exact List.length_eq_zero_iff.1 (by omega)
    rw [List.append_nil] at hcs
    exact h v (by rwa [Denotes, hcs])
  · rfl

end QueryPolicy.Config.Inline
