import QueryPolicy.NameSet
import QueryPolicy.Proofs.Text.Run

/-!
# Plain names inside texts

A part of a text that lacks a certain character ends at the first place, or begins after the last
place, where that character stands. Plain names lack all the signs that messages put around them, so
a written set of plain names can be read back, and what stands before or after it as well.
-/

namespace QueryPolicy

namespace Text

/-! ## Parts that lack a character -/

theorem takeWhile_ne_append {stop : Char} {front rest : List Char} (hfront : stop ∉ front)
    (hrest : ∀ c, rest.head? = some c → c = stop) :
    (front ++ rest).takeWhile (· ≠ stop) = front := by
  refine takeWhile_append_of_stop (fun c hc => ?_) fun c hc => ?_
  · have hne : c ≠ stop := fun h => hfront (h ▸ hc)
    simp [hne]
  · simp [hrest c hc]

/-- A front that lacks a character ends at the first place of it. -/
theorem front_inj {stop : Char} {front front' rest rest' : List Char} (hfront : stop ∉ front)
    (hfront' : stop ∉ front') (h : front ++ stop :: rest = front' ++ stop :: rest') :
    front = front' ∧ rest = rest' := by
  have hfirst : ∀ {front rest : List Char}, stop ∉ front →
      (front ++ stop :: rest).takeWhile (· ≠ stop) = front :=
    fun hfront => takeWhile_ne_append hfront (by simp)
  have heq : front = front' := by rw [← hfirst hfront, h, hfirst hfront']
  subst heq
  exact ⟨rfl, (List.cons.inj (List.append_cancel_left h)).2⟩

/-- A back that lacks a character begins after the last place of it. -/
theorem back_inj {stop : Char} {front front' back back' : List Char} (hback : stop ∉ back)
    (hback' : stop ∉ back') (h : front ++ stop :: back = front' ++ stop :: back') :
    front = front' ∧ back = back' := by
  have hreverse := congrArg List.reverse h
  simp only [List.reverse_append, List.reverse_cons, List.append_assoc, List.singleton_append]
    at hreverse
  obtain ⟨hb, hf⟩ := front_inj (by simpa using hback) (by simpa using hback') hreverse
  exact ⟨List.reverse_inj.1 hf, List.reverse_inj.1 hb⟩

/-! ## Plain names -/

/-- The characters of plain names: letters and digits of ASCII, `_` and `:`. -/
def isPlain (c : Char) : Bool := c.isAlphanum || c == '_' || c == ':'

/-- A name of plain characters, at least one. -/
def IsPlainName (s : String) : Prop := s ≠ "" ∧ ∀ c ∈ s.toList, isPlain c = true

instance (s : String) : Decidable (IsPlainName s) :=
  decidable_of_iff (s ≠ "" ∧ s.toList.all isPlain = true) (by rw [IsPlainName, List.all_eq_true])

theorem IsPlainName.not_mem {s : String} {c : Char} (h : IsPlainName s) (hc : isPlain c = false) :
    c ∉ s.toList := by
  intro hmem
  rw [h.2 c hmem] at hc
  cases hc

/-! ## Lists of plain names -/

/-- What follows the first name of a list. -/
def afterFirst : List String → List Char
  | [] => []
  | b :: l => ',' :: ' ' :: (commaSeparated (b :: l)).toList

theorem toList_commaSeparated_cons (a : String) (l : List String) :
    (commaSeparated (a :: l)).toList = a.toList ++ afterFirst l := by
  cases l <;> simp [commaSeparated, afterFirst]

theorem not_mem_commaSeparated {l : List String} {c : Char} (hl : ∀ x ∈ l, IsPlainName x)
    (hc : isPlain c = false) (hseparator : c ∉ [',', ' ']) : c ∉ (commaSeparated l).toList := by
  induction l with
  | nil => simp [commaSeparated]
  | cons a l ih =>
      have hrest : c ∉ afterFirst l := by
        cases l with
        | nil => simp [afterFirst]
        | cons b l =>
            have htail := ih fun x hx => hl x (List.mem_cons_of_mem a hx)
            simp_all [afterFirst]
      rw [toList_commaSeparated_cons, List.mem_append, not_or]
      exact ⟨(hl a List.mem_cons_self).not_mem hc, hrest⟩

theorem toList_commaSeparated_ne_nil {a : String} {l : List String} (ha : IsPlainName a) :
    (commaSeparated (a :: l)).toList ≠ [] := by
  intro hempty
  rw [toList_commaSeparated_cons, List.append_eq_nil_iff, String.toList_eq_nil_iff] at hempty
  exact ha.1 hempty.1

theorem takeWhile_commaSeparated {a : String} {l : List String} (ha : IsPlainName a) :
    (commaSeparated (a :: l)).toList.takeWhile (· ≠ ',') = a.toList := by
  rw [toList_commaSeparated_cons]
  refine takeWhile_ne_append (ha.not_mem rfl) fun c hc => ?_
  cases l with
  | nil => cases hc
  | cons b l => exact (Option.some.inj hc).symm

theorem commaSeparated_eq_of_afterFirst {l l' : List String} (h : afterFirst l = afterFirst l') :
    (commaSeparated l).toList = (commaSeparated l').toList := by
  cases l with
  | nil =>
      cases l' with
      | nil => rfl
      | cons b' l' => cases h
  | cons b l =>
      cases l' with
      | nil => cases h
      | cons b' l' => exact (List.cons.inj (List.cons.inj h).2).2

/-- Plain names are read back from their list. -/
theorem commaSeparated_inj {l l' : List String} (hl : ∀ x ∈ l, IsPlainName x)
    (hl' : ∀ x ∈ l', IsPlainName x)
    (h : (commaSeparated l).toList = (commaSeparated l').toList) : l = l' := by
  have hnil : (commaSeparated []).toList = [] := by simp [commaSeparated]
  induction l generalizing l' with
  | nil =>
      cases l' with
      | nil => rfl
      | cons a' l' =>
          have ha' := hl' a' List.mem_cons_self
          exact absurd (h.symm.trans hnil) (toList_commaSeparated_ne_nil ha')
  | cons a l ih =>
      cases l' with
      | nil => exact absurd (h.trans hnil) (toList_commaSeparated_ne_nil (hl a List.mem_cons_self))
      | cons a' l' =>
          have ha : a.toList = a'.toList := by
            rw [← takeWhile_commaSeparated (hl a List.mem_cons_self), h,
              takeWhile_commaSeparated (hl' a' List.mem_cons_self)]
          cases String.toList_inj.1 ha
          rw [toList_commaSeparated_cons, toList_commaSeparated_cons] at h
          have hrest := commaSeparated_eq_of_afterFirst (List.append_cancel_left h)
          rw [ih (fun x hx => hl x (List.mem_cons_of_mem a hx))
            (fun x hx => hl' x (List.mem_cons_of_mem a hx)) hrest]

end Text

/-! ## Sets of plain names -/

namespace NameSet

open Text

variable {s t : NameSet}

/-- A set whose members are plain names. -/
def Plain (s : NameSet) : Prop := ∀ x ∈ s.toList, IsPlainName x

instance (s : NameSet) : Decidable s.Plain :=
  inferInstanceAs (Decidable (∀ x ∈ s.toList, IsPlainName x))

theorem toList_render (s : NameSet) :
    s.render.toList = '\x7b' :: ((commaSeparated s.toList).toList ++ ['\x7d']) := by
  simp [render]

theorem eq_of_commaSeparated (hs : s.Plain) (ht : t.Plain)
    (h : (commaSeparated s.toList).toList = (commaSeparated t.toList).toList) : s = t := by
  have hlists : s.toList = t.toList := commaSeparated_inj hs ht h
  cases s
  cases t
  cases hlists
  rfl

/-- A written set of plain names ends at its closing brace. -/
theorem render_append_inj (hs : s.Plain) (ht : t.Plain) {rest rest' : List Char}
    (h : s.render.toList ++ rest = t.render.toList ++ rest') : s = t ∧ rest = rest' := by
  have hbrace : ∀ {s : NameSet}, s.Plain → '\x7d' ∉ (commaSeparated s.toList).toList :=
    fun hs => not_mem_commaSeparated hs rfl (by simp)
  simp only [toList_render, List.cons_append, List.append_assoc, List.nil_append] at h
  obtain ⟨hnames, hrest⟩ := front_inj (hbrace hs) (hbrace ht) (List.cons.inj h).2
  exact ⟨eq_of_commaSeparated hs ht hnames, hrest⟩

/-- A written set of plain names begins at its opening brace. -/
theorem append_render_inj (hs : s.Plain) (ht : t.Plain) {front front' : List Char}
    (h : front ++ s.render.toList = front' ++ t.render.toList) : front = front' ∧ s = t := by
  have hbrace : ∀ {s : NameSet}, s.Plain →
      '\x7b' ∉ (commaSeparated s.toList).toList ++ ['\x7d'] := by
    intro s hs
    simpa using not_mem_commaSeparated hs (c := '\x7b') rfl (by simp)
  rw [toList_render, toList_render] at h
  obtain ⟨hfront, hnames⟩ := back_inj (hbrace hs) (hbrace ht) h
  exact ⟨hfront, eq_of_commaSeparated hs ht (List.append_cancel_right hnames)⟩

end NameSet

end QueryPolicy
