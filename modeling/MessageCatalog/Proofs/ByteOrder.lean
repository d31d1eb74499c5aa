import Mathlib.Tactic.SplitIfs

/-! # The order of texts by their bytes

Texts are compared character by character.  A character is encoded by the digits of its code point
to the base 64 (`spell`), the first of which is marked by how many there are.  Characters of one
width are thus in the order of their digits (`spell_lt`), and a wider character has a higher first
byte.  So a lower character has lower bytes, whatever stands behind it (`encodeChar_lt`), and
comparing texts is comparing their UTF-8 bytes (`compare_eq_lt_iff_bytes`). -/

namespace MessageCatalog.Text

/-! ### Digits to the base 64 -/

/-- What is left of a number without its last digits to the base 64. -/
def lead : Nat → Nat → Nat
  | 0, n => n
  | width + 1, n => lead width (n / 64)

/-- A number by its first digit, which is raised by a mark, and `width` digits behind it. -/
def spell (mark : Nat) : Nat → Nat → List UInt8
  | 0, n => [UInt8.ofNat (n + mark)]
  | width + 1, n => spell mark width (n / 64) ++ [UInt8.ofNat (n % 64 + 128)]

theorem ofNat_lt_ofNat {m n : Nat} (h : m < n) (hn : n < 256) : UInt8.ofNat m < UInt8.ofNat n := by
  rw [UInt8.lt_iff_toNat_lt, UInt8.toNat_ofNat', UInt8.toNat_ofNat']
  omega

theorem append_lt_append_left (front : List UInt8) {x y : List UInt8} (h : x < y) :
    front ++ x < front ++ y := by
  induction front with
  | nil => exact h
  | cons b front ih => exact List.cons_lt_cons_iff.2 (.inr ⟨rfl, ih⟩)

/-- A lower number has lower digits, whatever stands behind them. -/
theorem spell_lt {mark width m n : Nat} (h : m < n) (hn : lead width n + mark < 256)
    (x y : List UInt8) : spell mark width m ++ x < spell mark width n ++ y := by
  induction width generalizing m n x y with
  | zero =>
    have hfirst : n + mark < 256 := hn
    exact List.cons_lt_cons_iff.2 (.inl (ofNat_lt_ofNat (by omega) hfirst))
  | succ width ih =>
    rw [spell, spell, List.append_assoc, List.append_assoc]
    -- the last digits count if all others are equal
    rcases Nat.lt_or_ge (m / 64) (n / 64) with hlt | hge
    · exact ih hlt hn _ _
    · have hsame : m / 64 = n / 64 := by omega
      rw [hsame]
      apply append_lt_append_left
      exact List.cons_lt_cons_iff.2 (.inl (ofNat_lt_ofNat (by omega) (by omega)))

theorem exists_spell_eq_cons (mark width n : Nat) :
    ∃ digits, spell mark width n = UInt8.ofNat (lead width n + mark) :: digits := by
  induction width generalizing n with
  | zero => exact ⟨[], rfl⟩
  | succ width ih =>
    obtain ⟨digits, hdigits⟩ := ih (n / 64)
    exact ⟨digits ++ [UInt8.ofNat (n % 64 + 128)], by rw [spell, hdigits]; rfl⟩

/-! ### Characters -/

/-- How many bytes the encoding of a code point has behind the first. -/
def width (n : Nat) : Nat :=
  if n ≤ 0x7f then 0 else if n ≤ 0x7ff then 1 else if n ≤ 0xffff then 2 else 3

/-- What the first byte is raised by, for each width. -/
def mark : Nat → Nat
  | 0 => 0
  | 1 => 192
  | 2 => 224
  | 3 => 240
  | _ => 248

theorem width_le_width {m n : Nat} (h : m ≤ n) : width m ≤ width n := by
  unfold width
  split_ifs <;> omega

theorem width_le_three (n : Nat) : width n ≤ 3 := by
  unfold width
  split_ifs <;> omega

theorem mark_le_mark {j k : Nat} (h : j ≤ k) (hk : k ≤ 3) : mark j ≤ mark k := by
  have hall : ∀ k ≤ 3, ∀ j ≤ k, mark j ≤ mark k := by decide
  exact hall k hk j h

theorem mark_succ_width_le (n : Nat) : mark (width n + 1) ≤ 248 := by
  have hall : ∀ k ≤ 3, mark (k + 1) ≤ 248 := by decide
  exact hall _ (width_le_three n)

/-- The first byte of a width is below the mark of the next. -/
theorem lead_add_mark_lt {n : Nat} (h : n < 0x110000) :
    lead (width n) n + mark (width n) < mark (width n + 1) := by
  unfold width
  split_ifs <;> simp only [lead, mark] <;> omega

theorem toNat_lt_max (c : Char) : c.toNat < 0x110000 := by
  have hvalid := c.valid
  simp only [UInt32.isValidChar, Nat.isValidChar] at hvalid
  show c.val.toNat < _
  omega

theorem encodeChar_eq_spell (c : Char) :
    String.utf8EncodeChar c = spell (mark (width c.toNat)) (width c.toNat) c.toNat := by
  have hmax := toNat_lt_max c
  simp only [width, String.utf8EncodeChar, Char.toNat_val]
  split_ifs
  · rfl
  · have hfirst : c.toNat / 64 % 32 = c.toNat / 64 := by omega
    rw [hfirst]
    rfl
  · have hfirst : c.toNat / 4096 % 16 = c.toNat / 64 / 64 := by omega
    rw [hfirst]
    rfl
  · have hfirst : c.toNat / 262144 % 8 = c.toNat / 64 / 64 / 64 := by omega
    have hsecond : c.toNat / 4096 % 64 = c.toNat / 64 / 64 % 64 := by omega
    rw [hfirst, hsecond]
    rfl

theorem exists_encodeChar_eq_cons (c : Char) : ∃ digits, String.utf8EncodeChar c =
    UInt8.ofNat (lead (width c.toNat) c.toNat + mark (width c.toNat)) :: digits := by
  rw [encodeChar_eq_spell]
  exact exists_spell_eq_cons _ _ _

/-- A lower character has lower bytes, whatever stands behind it. -/
theorem encodeChar_lt {c d : Char} (h : c < d) (x y : List UInt8) :
    String.utf8EncodeChar c ++ x < String.utf8EncodeChar d ++ y := by
  have hlt : c.toNat < d.toNat := h
  have hwidth := width_le_width (Nat.le_of_lt hlt)
  have hc := lead_add_mark_lt (toNat_lt_max c)
  have hd := lead_add_mark_lt (toNat_lt_max d)
  have htop := mark_succ_width_le d.toNat
  rcases Nat.eq_or_lt_of_le hwidth with hsame | hwider
  · rw [encodeChar_eq_spell, encodeChar_eq_spell, hsame]
    exact spell_lt hlt (by omega) x y
  · -- the first bytes differ
    have hmark : mark (width c.toNat + 1) ≤ mark (width d.toNat) :=
      mark_le_mark hwider (width_le_three d.toNat)
    obtain ⟨digits, hdigits⟩ := exists_encodeChar_eq_cons c
    obtain ⟨digits', hdigits'⟩ := exists_encodeChar_eq_cons d
    rw [hdigits, hdigits']
    exact List.cons_lt_cons_iff.2 (.inl (ofNat_lt_ofNat (by omega) (by omega)))

/-! ### Texts -/

/-- The bytes of the UTF-8 encoding of a text. -/
def bytes (s : String) : List UInt8 := s.toUTF8.data.toList

theorem bytes_eq_flatMap (s : String) : bytes s = s.toList.flatMap String.utf8EncodeChar := by
  rw [bytes, String.toUTF8_eq_toByteArray, ← String.utf8Encode_toList, List.utf8Encode,
    List.data_toByteArray]

theorem flatMap_encodeChar_lt : ∀ {a b : List Char}, a < b →
    a.flatMap String.utf8EncodeChar < b.flatMap String.utf8EncodeChar
  | _, [], h => absurd h (List.not_lt_nil _)
  | [], d :: b, _ => by
      obtain ⟨digits, hdigits⟩ := exists_encodeChar_eq_cons d
      rw [List.flatMap_nil, List.flatMap_cons, hdigits]
      exact List.nil_lt_cons _ _
  | c :: a, d :: b, h => by
      rw [List.flatMap_cons, List.flatMap_cons]
      rcases List.cons_lt_cons_iff.1 h with hlt | ⟨rfl, hlt⟩
      · exact encodeChar_lt hlt _ _
      · exact append_lt_append_left _ (flatMap_encodeChar_lt hlt)

theorem bytes_lt_of_compare {s t : String} (h : compare s t = .lt) : bytes s < bytes t := by
  have hlt := (compareOfLessAndEq_eq_lt (x := s) (y := t)).1 h
  rw [bytes_eq_flatMap, bytes_eq_flatMap]
  exact flatMap_encodeChar_lt hlt

/-- Texts are in the order of their bytes. -/
theorem compare_eq_lt_iff_bytes {s t : String} : compare s t = .lt ↔ bytes s < bytes t := by
  refine ⟨bytes_lt_of_compare, fun h => ?_⟩
  cases hcompare : compare s t with
  | lt => rfl
  | eq =>
    rw [Std.LawfulEqOrd.eq_of_compare hcompare] at h
    exact absurd h (List.lt_irrefl _)
  | gt =>
    have hback := bytes_lt_of_compare (Std.OrientedCmp.gt_iff_lt.1 hcompare)
    exact absurd (List.lt_trans h hback) (List.lt_irrefl _)

theorem isLE_compare_iff_bytes {s t : String} :
    (compare s t).isLE = true ↔ ¬bytes t < bytes s := by
  rw [← compare_eq_lt_iff_bytes, ← Std.OrientedCmp.gt_iff_lt]
  cases compare s t <;> simp

end MessageCatalog.Text
