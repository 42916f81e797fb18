import Mathlib.Algebra.Ring.Nat
import Mathlib.Tactic.SplitIfs
import QueryPolicy.Text.CharSet.Bytes

/-!
# The order of texts by bytes

Texts are compared by code points. UTF-8 keeps this order: the first byte of a character tells how
many bytes follow it, more bytes begin with a greater one, and the bytes that follow are digits in
base 64, the most significant first.
-/

namespace QueryPolicy.Text

/-- The bytes of a text as it is stored, in UTF-8. -/
def utf8 (s : String) : List UInt8 := s.toByteArray.data.toList

/-- The code points of a text. -/
def codePoints (s : String) : List Nat := s.toList.map Char.toNat

/-! ## The bytes of a character -/

/-- The last `n` digits of a number in base 64, each as a byte that continues a character. -/
def continuationBytes : Nat → Nat → List UInt8
  | 0, _ => []
  | n + 1, v => .ofNat (v / 64 ^ n % 64 + 128) :: continuationBytes n v

/-- How many bytes follow the first byte of a character. -/
def following (v : Nat) : Nat :=
  if v ≤ 0x7f then 0 else if v ≤ 0x7ff then 1 else if v ≤ 0xffff then 2 else 3

/-- What the first byte has on top of the most significant digit. -/
def marker : Nat → Nat
  | 0 => 0
  | 1 => 0xc0
  | 2 => 0xe0
  | _ => 0xf0

/-- The first byte of a character. -/
def firstByte (v : Nat) : Nat := marker (following v) + v / 64 ^ following v

theorem codePoint_lt (c : Char) : c.toNat < 0x110000 := by
  rcases c.valid with h | h
  · exact Nat.lt_trans h (by decide)
  · exact h.2

theorem utf8EncodeChar_eq (c : Char) : String.utf8EncodeChar c =
    .ofNat (firstByte c.toNat) :: continuationBytes (following c.toNat) c.toNat := by
  have hc : c.val.toNat < 0x110000 := codePoint_lt c
  rw [String.utf8EncodeChar, firstByte, following, Char.toNat]
  generalize c.val.toNat = v at hc
  split_ifs with h1 h2 h3
  · simp [marker, continuationBytes]
  · have hdigit : v / 64 % 32 + 192 = 192 + v / 64 := by omega
    simp [marker, continuationBytes, hdigit]
  · have hdigit : v / 4096 % 16 + 224 = 224 + v / 4096 := by omega
    simp [marker, continuationBytes, hdigit]
  · have hdigit : v / 262144 % 8 + 240 = 240 + v / 262144 := by omega
    simp [marker, continuationBytes, hdigit]

/-! ## The order of characters -/

theorem ofNat_lt_ofNat {n m : Nat} (hn : n < 256) (hm : m < 256) :
    UInt8.ofNat n < UInt8.ofNat m ↔ n < m := by
  rw [UInt8.lt_iff_toNat_lt, UInt8.toNat_ofNat_of_lt' hn, UInt8.toNat_ofNat_of_lt' hm]

theorem continuationBytes_lt {n v w : Nat} (h : v % 64 ^ n < w % 64 ^ n) (rest rest' : List UInt8) :
    continuationBytes n v ++ rest < continuationBytes n w ++ rest' := by
  induction n with
  | zero => omega
  | succ n ih =>
      rw [Nat.mod_pow_succ, Nat.mod_pow_succ] at h
      rw [continuationBytes, continuationBytes, List.cons_append, List.cons_append,
        List.cons_lt_cons_iff, ofNat_lt_ofNat (by omega) (by omega)]
      rcases Nat.lt_trichotomy (v / 64 ^ n % 64) (w / 64 ^ n % 64) with hlt | heq | hgt
      · exact Or.inl (by omega)
      · rw [heq] at h ⊢
        exact Or.inr ⟨rfl, ih (by omega)⟩
      · have hrest : w % 64 ^ n < 64 ^ n := Nat.mod_lt w (Nat.pow_pos (by decide))
        have hdigits : 64 ^ n * (w / 64 ^ n % 64 + 1) ≤ 64 ^ n * (v / 64 ^ n % 64) :=
          Nat.mul_le_mul_left _ hgt
        rw [Nat.mul_add, Nat.mul_one] at hdigits
        omega

/-- More bytes begin with a greater byte. -/
theorem firstByte_lt_of_following_lt {v w : Nat} (hw : w < 0x110000)
    (h : following v < following w) : firstByte v < firstByte w := by
  rw [firstByte, firstByte]
  unfold following at h ⊢
  split_ifs at h ⊢ <;> simp [marker] <;> omega

theorem firstByte_lt_256 {v : Nat} (h : v < 0x110000) : firstByte v < 256 := by
  rw [firstByte]
  unfold following
  split_ifs <;> simp [marker] <;> omega

theorem following_mono {v w : Nat} (h : v < w) : following v ≤ following w := by
  unfold following
  split_ifs <;> omega

/-- The bytes of a character are less than those of a greater one, whatever follows them. -/
theorem utf8EncodeChar_append_lt {c d : Char} (h : c < d) (rest rest' : List UInt8) :
    String.utf8EncodeChar c ++ rest < String.utf8EncodeChar d ++ rest' := by
  have hnat : c.toNat < d.toNat := h
  rw [utf8EncodeChar_eq, utf8EncodeChar_eq, List.cons_append, List.cons_append,
    List.cons_lt_cons_iff,
    ofNat_lt_ofNat (firstByte_lt_256 (codePoint_lt c)) (firstByte_lt_256 (codePoint_lt d))]
  rcases Nat.lt_or_eq_of_le (following_mono hnat) with hlt | heq
  · exact Or.inl (firstByte_lt_of_following_lt (codePoint_lt d) hlt)
  · rw [firstByte, firstByte, heq]
    generalize following d.toNat = n
    rcases Nat.lt_or_eq_of_le (Nat.div_le_div_right (c := 64 ^ n) (Nat.le_of_lt hnat)) with hq | hq
    · exact Or.inl (Nat.add_lt_add_left hq _)
    · rw [hq]
      refine Or.inr ⟨rfl, continuationBytes_lt ?_ rest rest'⟩
      have hc := Nat.div_add_mod c.toNat (64 ^ n)
      have hd := Nat.div_add_mod d.toNat (64 ^ n)
      rw [hq] at hc
      omega

/-! ## The order of texts -/

theorem utf8_eq (s : String) : utf8 s = bytes s.toList := by
  have hstored : (String.ofList s.toList).toByteArray = s.toList.utf8Encode :=
    String.toByteArray_ofList
  rw [String.ofList_toList] at hstored
  rw [utf8, hstored, List.utf8Encode, List.toList_data_toByteArray, bytes]

theorem bytes_lt {cs ds : List Char} (h : cs < ds) : bytes cs < bytes ds := by
  induction cs generalizing ds with
  | nil =>
      cases ds with
      | nil => cases h
      | cons d ds =>
          rw [bytes, bytes, List.flatMap_cons, utf8EncodeChar_eq]
          exact List.nil_lt_cons _ _
  | cons c cs ih =>
      cases ds with
      | nil => cases h
      | cons d ds =>
          rw [bytes, bytes, List.flatMap_cons, List.flatMap_cons]
          rcases List.cons_lt_cons_iff.1 h with hlt | ⟨rfl, hlt⟩
          · exact utf8EncodeChar_append_lt hlt _ _
          · exact List.append_left_lt (ih hlt)

/-- What keeps the order of texts tells it, since two texts are always comparable. -/
theorem lt_iff_of_strictMono {α : Type} [LT α] [Std.Asymm (· < · : α → α → Prop)]
    {f : String → List α} (hf : ∀ s t, s < t → f s < f t) {s t : String} :
    f s < f t ↔ s < t := by
  refine ⟨fun h => Classical.not_not.1 fun hst => ?_, hf s t⟩
  by_cases hts : t < s
  · exact List.lt_asymm h (hf t s hts)
  · have heq : s = t := String.le_antisymm (String.not_lt.1 hts) (String.not_lt.1 hst)
    subst heq
    exact List.lt_irrefl _ h

/-- Texts are ordered as their bytes are. -/
theorem utf8_lt_iff {s t : String} : utf8 s < utf8 t ↔ s < t := by
  refine lt_iff_of_strictMono fun s t h => ?_
  rw [utf8_eq, utf8_eq]
  exact bytes_lt (String.lt_iff.1 h)

/-- Texts are ordered as their code points are. -/
theorem codePoints_lt_iff {s t : String} : codePoints s < codePoints t ↔ s < t := by
  refine lt_iff_of_strictMono fun s t h => ?_
  exact List.map_lt (f := Char.toNat) (fun _ _ hc => hc) (String.lt_iff.1 h)

end QueryPolicy.Text
