import Mathlib.Data.List.Infix
import MessageCatalog.Proofs.Excerpt

/-! # White space before a caret

A column may come from anywhere, so it can lie inside a character or past the end of the line.  The
line is then cut at the last boundary before it, which is searched for one byte at a time.
`Text.StepsBack` describes this search by its steps, in terms of the encoded line: it stops at the
start of a character or at the end of the line, and there is no step back from zero.

Every search ends, at the last boundary (`stepsBack_floorBoundary`, `StepsBack.le_of_isValid`), so a
cut is the longest front part of the line that fits before the column (`isLongestFront_cut`).  For
greater columns cuts are longer, and the white space for them only grows. -/

namespace MessageCatalog

namespace Text

/-! ### Boundaries of an encoded text -/

theorem utf8ByteSize_ofList (cs : List Char) : (String.ofList cs).utf8ByteSize = byteLength cs := by
  induction cs with
  | nil => rfl
  | cons c cs ih =>
    have hcons : String.ofList (c :: cs) = String.singleton c ++ String.ofList cs := by
      rw [String.singleton_eq_ofList, ← String.ofList_append, List.singleton_append]
    rw [hcons, String.utf8ByteSize_append, String.utf8ByteSize_singleton, ih, byteLength_cons]

theorem byteLength_toList (s : String) : byteLength s.toList = s.utf8ByteSize := by
  rw [← utf8ByteSize_ofList, String.ofList_toList]

theorem exists_append_of_isBoundary {cs : List Char} : ∀ {n : Nat}, isBoundary n cs = true →
    ∃ before after, cs = before ++ after ∧ byteLength before = n := by
  induction cs with
  | nil =>
    intro n h
    cases n with
    | zero => exact ⟨[], [], rfl, rfl⟩
    | succ n => simp [isBoundary] at h
  | cons c cs ih =>
    intro n h
    cases n with
    | zero => exact ⟨[], c :: cs, rfl, rfl⟩
    | succ n =>
      rw [isBoundary, Bool.and_eq_true, decide_eq_true_eq] at h
      obtain ⟨before, after, rfl, hbefore⟩ := ih h.2
      refine ⟨c :: before, after, rfl, ?_⟩
      rw [byteLength_cons, hbefore]
      omega

theorem isBoundary_byteLength {front cs : List Char} (h : front <+: cs) :
    isBoundary (byteLength front) cs = true := by
  obtain ⟨rest, rfl⟩ := h
  exact isBoundary_append front rest

/-- A boundary is a valid position of the encoded text. -/
theorem isBoundary_iff_isValid {s : String} {n : Nat} :
    isBoundary n s.toList = true ↔ String.Pos.Raw.IsValid s ⟨n⟩ := by
  rw [String.Pos.Raw.isValid_iff_exists_append]
  constructor
  · intro h
    obtain ⟨before, after, hs, rfl⟩ := exists_append_of_isBoundary h
    refine ⟨String.ofList before, String.ofList after, ?_, ?_⟩
    · rw [← String.ofList_append, ← hs, String.ofList_toList]
    · rw [← utf8ByteSize_ofList]
      rfl
  · rintro ⟨before, after, rfl, hn⟩
    obtain rfl : n = before.utf8ByteSize := congrArg String.Pos.Raw.byteIdx hn
    rw [← byteLength_toList, String.toList_append]
    exact isBoundary_append _ _

/-! ### The search for a boundary -/

/-- A search from byte `n` of a text for a boundary ends at byte `e`.  A byte at which there is none
is left for the one before it, which byte zero does not have. -/
inductive StepsBack (s : String) : Nat → Nat → Prop where
  | stop {n : Nat} (boundary : String.Pos.Raw.IsValid s ⟨n⟩) : StepsBack s n n
  | back {n e : Nat} (inside : ¬ String.Pos.Raw.IsValid s ⟨n + 1⟩) (more : StepsBack s n e) :
      StepsBack s (n + 1) e

/-- The search from any byte ends. -/
theorem stepsBack_floorBoundary (s : String) (n : Nat) :
    StepsBack s n (floorBoundary s.toList n) := by
  induction n with
  | zero => exact .stop String.Pos.Raw.isValid_zero
  | succ n ih =>
    rw [floorBoundary]
    split
    · next h => exact .stop (isBoundary_iff_isValid.1 h)
    · next h => exact .back (fun hvalid => h (isBoundary_iff_isValid.2 hvalid)) ih

namespace StepsBack

variable {s : String} {n e : Nat}

theorem isValid (h : StepsBack s n e) : String.Pos.Raw.IsValid s ⟨e⟩ := by
  induction h with
  | stop boundary => exact boundary
  | back _ _ ih => exact ih

theorem le (h : StepsBack s n e) : e ≤ n := by
  induction h with
  | stop _ => exact Nat.le_refl _
  | back _ _ ih => exact Nat.le_succ_of_le ih

/-- No boundary is passed by. -/
theorem le_of_isValid (h : StepsBack s n e) {k : Nat} (hk : String.Pos.Raw.IsValid s ⟨k⟩)
    (hle : k ≤ n) : k ≤ e := by
  induction h with
  | stop _ => exact hle
  | back inside _ ih =>
    rcases Nat.lt_or_eq_of_le hle with hlt | rfl
    · exact ih (Nat.le_of_lt_succ hlt)
    · exact absurd hk inside

end StepsBack

/-- `front` is the longest front part of the text with at most `n` bytes. -/
structure IsLongestFront (cs : List Char) (n : Nat) (front : List Char) : Prop where
  starts : front <+: cs
  fits : byteLength front ≤ n
  longest : ∀ other, other <+: cs → byteLength other ≤ n → other <+: front

end Text

namespace Caret

open Text (byteLength StepsBack IsLongestFront)

/-! ### Cuts -/

/-- A cut is a front part of the line that ends where the search for a boundary does. -/
theorem stepsBack_cut (line : String) (column : Nat) : cut line.toList column <+: line.toList ∧
    StepsBack line (min (column - 1) line.utf8ByteSize) (byteLength (cut line.toList column)) := by
  have hsearch := Text.stepsBack_floorBoundary line (min (column - 1) line.utf8ByteSize)
  obtain ⟨before, after, hline, hbefore⟩ :=
    Text.exists_append_of_isBoundary (Text.isBoundary_iff_isValid.2 hsearch.isValid)
  have hcut : cut line.toList column = before := by
    rw [cut, Text.byteLength_toList, ← hbefore, hline, Text.takeBytes_append]
  rw [hcut, hbefore]
  exact ⟨⟨after, hline.symm⟩, hsearch⟩

theorem isLongestFront_cut (line : String) (column : Nat) :
    IsLongestFront line.toList (column - 1) (cut line.toList column) := by
  obtain ⟨hfront, hsearch⟩ := stepsBack_cut line column
  refine ⟨hfront, Nat.le_trans hsearch.le (Nat.min_le_left _ _), fun other hother hfits => ?_⟩
  have hvalid := Text.isBoundary_iff_isValid.1 (Text.isBoundary_byteLength hother)
  have hbound : byteLength other ≤ line.utf8ByteSize := hvalid.le_utf8ByteSize
  exact Text.prefix_of_byteLength_le hother hfront
    (hsearch.le_of_isValid hvalid (Nat.le_min.2 ⟨hfits, hbound⟩))

theorem cut_zero (line : String) : cut line.toList 0 = [] :=
  Text.eq_nil_of_byteLength_eq_zero (Nat.le_zero.1 (isLongestFront_cut line 0).fits)

theorem cut_of_lt {line : String} {column : Nat} (h : line.utf8ByteSize < column) :
    cut line.toList column = line.toList := by
  have hcut := isLongestFront_cut line column
  have hfits : byteLength line.toList ≤ column - 1 := by
    rw [Text.byteLength_toList]
    omega
  have hline := hcut.longest _ (List.prefix_refl _) hfits
  exact hcut.starts.eq_of_length_le hline.length_le

theorem cut_mono (line : String) {a b : Nat} (h : a ≤ b) :
    cut line.toList a <+: cut line.toList b := by
  have ha := isLongestFront_cut line a
  exact (isLongestFront_cut line b).longest _ ha.starts
    (Nat.le_trans ha.fits (Nat.sub_le_sub_right h 1))

/-! ### White space for characters -/

variable (width : Char → Nat)

theorem eq_tab_or_space_of_mem_pad {c d : Char} (h : d ∈ pad width c) : d = '\t' ∨ d = ' ' := by
  unfold pad at h
  split at h
  · exact .inl (List.mem_singleton.1 h)
  · exact .inr (List.eq_of_mem_replicate h)

theorem count_tab_pad (c : Char) : (pad width c).count '\t' = if c = '\t' then 1 else 0 := by
  unfold pad
  split
  · rfl
  · exact List.count_eq_zero.2 fun h => absurd (List.eq_of_mem_replicate h) (by decide)

theorem count_tab_flatMap_pad (cs : List Char) :
    (cs.flatMap (pad width)).count '\t' = cs.count '\t' := by
  induction cs with
  | nil => rfl
  | cons c cs ih =>
    rw [List.flatMap_cons, List.count_append, count_tab_pad, ih, List.count_cons, Nat.add_comm]
    simp only [beq_iff_eq]

theorem padding_mono (line : String) {a b : Nat} (h : a ≤ b) :
    padding width line.toList a <+: padding width line.toList b :=
  (cut_mono line h).flatMap (pad width)

/-- The white space before a caret is right for every column.  The search for a boundary ends, and
the line is cut there: the cut is the longest front part of the line that fits before the column,
nothing for column zero and the whole line past its end.  The white space has only tabs and spaces,
with as many tabs as the cut, and grows with the column. -/
theorem padding_is_safe_and_monotone (line : String) :
    (∀ column,
      StepsBack line (min (column - 1) line.utf8ByteSize) (byteLength (cut line.toList column)) ∧
      IsLongestFront line.toList (column - 1) (cut line.toList column) ∧
      (∀ c ∈ padding width line.toList column, c = '\t' ∨ c = ' ') ∧
      (padding width line.toList column).count '\t' = (cut line.toList column).count '\t') ∧
    cut line.toList 0 = [] ∧
    (∀ column, line.utf8ByteSize < column → cut line.toList column = line.toList) ∧
    ∀ a b, a ≤ b → padding width line.toList a <+: padding width line.toList b := by
  refine ⟨fun column => ⟨(stepsBack_cut line column).2, isLongestFront_cut line column, ?_, ?_⟩,
    cut_zero line, fun column => cut_of_lt, fun a b => padding_mono width line⟩
  · intro c hc
    obtain ⟨d, _, hd⟩ := List.mem_flatMap.1 hc
    exact eq_tab_or_space_of_mem_pad width hd
  · exact count_tab_flatMap_pad width _

/-- A column inside a character of three bytes gives the white space before it, and the last column
of all that of the whole line. -/
theorem padding_inside_character_is_safe :
    StepsBack "\t日(" 3 1 ∧
    padding (fun _ => 2) ['\t', '日', '('] 4 = ['\t'] ∧
    (' ' ∈ padding (fun _ => 2) ['\t', '日', '('] 5 ∧ (' ' = '\t' ∨ ' ' = ' ')) ∧
    padding (fun _ => 2) ['\t', '日', '('] 4 <+: padding (fun _ => 2) ['\t', '日', '('] 5 ∧
    cut ['\t', '日', '('] 18446744073709551615 = ['\t', '日', '('] := by
  have hline : "\t日(".toList = ['\t', '日', '('] := by decide
  have hsize : "\t日(".utf8ByteSize = 5 := by decide
  obtain ⟨hall, _, hpast, hmono⟩ := padding_is_safe_and_monotone (fun _ => 2) "\t日("
  rw [hline, hsize] at hall hpast
  rw [hline] at hmono
  have hcut : cut ['\t', '日', '('] 4 = ['\t'] := by decide +kernel
  have hsearch := (hall 4).1
  rw [hcut] at hsearch
  have hspace : ' ' ∈ padding (fun _ => 2) ['\t', '日', '('] 5 := by decide +kernel
  exact ⟨hsearch, by decide +kernel, ⟨hspace, (hall 5).2.2.1 ' ' hspace⟩, hmono 4 5 (by decide),
    hpast _ (by decide)⟩

end Caret

end MessageCatalog
