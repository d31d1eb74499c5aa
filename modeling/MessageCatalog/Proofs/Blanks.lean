import MessageCatalog.Proofs.Notes

/-! # Blank lines of a comment text

`Comment.IsRaw` says which lines a comment has before blank lines are looked at, by the form of the
comment alone.  `Comment.IsNormalized` says what normalising blank lines comes to: the other lines
stay, in order; between two of them one blank line is left exactly if there were some; and there is
none anywhere else.  Both are met by the text of every list of comments
(`comment_text_normalizes_blanks`), where the lines of all comments are taken together, so that a
seam between two comments is like any other place.

A line that is not blank cuts the work in two: what stands before it and what stands behind it are
normalised apart (`collapse_append_cons`, `dropFinalBlanks_append_cons`). -/

namespace MessageCatalog.Comment

/-! ### The lines of a comment -/

/-- The text behind the marker of a line comment directs a tool: it starts with one of three words,
or with a word of letters and digits, a colon and one more of these. -/
def Directs (text : List Char) : Prop :=
  (∃ word ∈ ["line ", "extern ", "export "], word.toList <+: text) ∨
    ∃ word c rest, text = word ++ ':' :: c :: rest ∧ word ≠ [] ∧
      (∀ d ∈ word, isDirectiveChar d = true) ∧ isDirectiveChar c = true

/-- The lines of a comment as they are written. -/
inductive IsRaw : List Char → List (List Char) → Prop
  /-- A directive has none. -/
  | directive {body : List Char} : Directs body → IsRaw ('/' :: '/' :: body) []
  /-- A line comment loses its marker and a space behind it. -/
  | line {body text : List Char} : ¬Directs body →
      (body = ' ' :: text ∨ body = text ∧ text.head? ≠ some ' ') →
        IsRaw ('/' :: '/' :: body) (textLines text)
  /-- A block comment loses its two markers. -/
  | block {text : List Char} : IsRaw ('/' :: '*' :: (text ++ ['*', '/'])) (textLines text)
  /-- What has no markers stays as it is. -/
  | bare {comment : List Char} : ¬['/', '/'] <+: comment →
      (∀ text, comment ≠ '/' :: '*' :: (text ++ ['*', '/'])) → IsRaw comment (textLines comment)

/-- The first colon of a text, and what stands around it. -/
theorem takeWhile_colon {word : List Char} (h : ∀ d ∈ word, isDirectiveChar d = true)
    (rest : List Char) :
    (word ++ ':' :: rest).takeWhile (· ≠ ':') = word ∧
      (word ++ ':' :: rest).dropWhile (· ≠ ':') = ':' :: rest := by
  have hword : ∀ d ∈ word, decide (d ≠ ':') = true := by
    intro d hd
    rw [decide_eq_true_eq]
    rintro rfl
    exact absurd (h _ hd) (by decide)
  rw [List.takeWhile_append_of_pos hword, List.dropWhile_append_of_pos hword]
  simp

theorem isDirective_iff {text : List Char} : isDirective text = true ↔ Directs text := by
  rw [isDirective, Directs, Bool.or_eq_true, List.any_eq_true]
  refine or_congr (by simp only [List.isPrefixOf_iff_prefix]) ?_
  constructor
  · intro h
    have hsplit := List.takeWhile_append_dropWhile (p := (· ≠ ':')) (l := text)
    have hcolon := List.head?_dropWhile_not (· ≠ ':') text
    split at h
    · rename_i colon c rest hdrop
      rw [hdrop] at hsplit hcolon
      simp only [Bool.and_eq_true, List.all_eq_true] at h
      obtain ⟨⟨hne, hword⟩, hc⟩ := h
      obtain rfl : colon = ':' := by simpa using hcolon
      exact ⟨_, c, rest, hsplit.symm, by simpa using hne, hword, hc⟩
    · cases h
  · rintro ⟨word, c, rest, rfl, hne, hword, hc⟩
    obtain ⟨htake, hdrop⟩ := takeWhile_colon hword (c :: rest)
    rw [htake, hdrop]
    simp [hne, hc, List.all_eq_true.2 hword]

theorem dropSpace_eq_iff {body text : List Char} :
    dropSpace body = text ↔ body = ' ' :: text ∨ body = text ∧ text.head? ≠ some ' ' := by
  unfold dropSpace
  split
  · rename_i rest
    constructor
    · rintro rfl
      exact .inl rfl
    · rintro (h | ⟨rfl, h⟩)
      · exact (List.cons.inj h).2
      · exact absurd rfl h
  · rename_i hspace
    constructor
    · rintro rfl
      refine .inr ⟨rfl, fun h => ?_⟩
      obtain ⟨rest, rfl⟩ := List.head?_eq_some_iff.1 h
      exact hspace rest rfl
    · rintro (rfl | ⟨rfl, _⟩)
      · exact absurd rfl (hspace text)
      · rfl

theorem dropMarkers_block (text : List Char) :
    dropMarkers ('/' :: '*' :: (text ++ ['*', '/'])) = text := by
  simp [dropMarkers]

theorem dropMarkers_bare {comment : List Char}
    (h : ∀ text, comment ≠ '/' :: '*' :: (text ++ ['*', '/'])) : dropMarkers comment = comment := by
  unfold dropMarkers
  split
  · rename_i rest
    refine if_neg fun hmarker => ?_
    obtain ⟨back, hback⟩ := List.isPrefixOf_iff_prefix.1 hmarker
    apply h back.reverse
    rw [← List.reverse_reverse rest, ← hback]
    simp
  · rfl

/-- The lines of a comment are those that its form gives it. -/
theorem isRaw_iff {comment : List Char} {lines : List (List Char)} :
    IsRaw comment lines ↔ lines = rawLines comment := by
  constructor
  · intro h
    cases h with
    | directive hdirects => rw [rawLines, if_pos (isDirective_iff.2 hdirects)]
    | line hdirects htext =>
      rw [rawLines, if_neg (mt isDirective_iff.1 hdirects), dropSpace_eq_iff.2 htext]
    | block =>
      rw [rawLines, dropMarkers_block]
      simp
    | bare hline hblock =>
      rw [rawLines, dropMarkers_bare hblock]
      rintro body rfl
      exact hline (List.prefix_append ['/', '/'] body)
  · rintro rfl
    unfold rawLines
    split
    · rename_i body
      split
      · rename_i hdirective
        exact .directive (isDirective_iff.1 hdirective)
      · rename_i hdirective
        exact .line (mt isDirective_iff.2 hdirective) (dropSpace_eq_iff.1 rfl)
    · rename_i hline
      by_cases hblock : ∃ text, comment = '/' :: '*' :: (text ++ ['*', '/'])
      · obtain ⟨text, rfl⟩ := hblock
        rw [dropMarkers_block]
        exact .block
      · rw [not_exists] at hblock
        rw [dropMarkers_bare hblock]
        refine .bare ?_ hblock
        rintro ⟨body, rfl⟩
        exact hline body rfl

/-! ### Normalised blank lines -/

/-- The lines that are not blank. -/
def written (ls : List (List Char)) : List (List Char) := ls.filter fun l => !l.isEmpty

/-- `out` has the lines of `raw` with its blank lines normalised. -/
structure IsNormalized (raw out : List (List Char)) : Prop where
  /-- The lines that are not blank stay, in order. -/
  kept : written out = written raw
  /-- Between two of them, counted from the start or from the end, there is no blank line if there
  was none, and one otherwise. -/
  gaps : ∀ front a gap b back, raw = front ++ a :: (gap ++ b :: back) → a ≠ [] → b ≠ [] →
    (∀ l ∈ gap, l = []) → ∃ before after,
      out = before ++ a :: ((if gap = [] then [] else [[]]) ++ b :: after) ∧
        written before = written front ∧ written after = written back
  first : ∀ l, out.head? = some l → l ≠ []
  last : ∀ l, out.getLast? = some l → l ≠ []
  apart : out.IsChain Apart

theorem collapse_cons_of_ne {l : List Char} (h : l ≠ []) (blank : Bool) (ls : List (List Char)) :
    collapse blank (l :: ls) = l :: collapse false ls := by
  have hl : l.isEmpty = false := List.isEmpty_eq_false_iff.2 h
  rw [collapse, hl]
  rfl

/-- What stands behind a line that is not blank does not depend on what stands before it. -/
theorem collapse_append_cons {a : List Char} (h : a ≠ []) (rest : List (List Char)) :
    ∀ (blank : Bool) (front : List (List Char)),
      collapse blank (front ++ a :: rest) = collapse blank front ++ a :: collapse false rest
  | blank, [] => by rw [List.nil_append, collapse_cons_of_ne h, collapse, List.nil_append]
  | blank, l :: front => by
      rw [List.cons_append, collapse, collapse]
      split
      · exact collapse_append_cons h rest blank front
      · rw [collapse_append_cons h rest l.isEmpty front, List.cons_append]

theorem collapse_blanks {gap : List (List Char)} (h : ∀ l ∈ gap, l = []) :
    collapse true gap = [] := by
  induction gap with
  | nil => rfl
  | cons l gap ih =>
    rw [List.forall_mem_cons] at h
    rw [h.1, collapse, if_pos (by rfl), ih h.2]

/-- Of blank lines behind one that is not blank, one is left. -/
theorem collapse_gap {gap : List (List Char)} (h : ∀ l ∈ gap, l = []) :
    collapse false gap = if gap = [] then [] else [[]] := by
  cases gap with
  | nil => rfl
  | cons l gap =>
    rw [List.forall_mem_cons] at h
    rw [h.1, collapse, if_neg (by simp), List.isEmpty_nil, collapse_blanks h.2,
      if_neg (List.cons_ne_nil _ _)]

theorem dropFinalBlanks_append_cons {b : List Char} (h : b ≠ []) (front back : List (List Char)) :
    dropFinalBlanks (front ++ b :: back) = front ++ b :: dropFinalBlanks back := by
  have hb : ¬b.isEmpty = true := by simpa using h
  have hreverse : (front ++ b :: back).reverse = back.reverse ++ b :: front.reverse := by simp
  rw [dropFinalBlanks, dropFinalBlanks, hreverse, List.dropWhile_append]
  split
  · rename_i hempty
    rw [List.isEmpty_iff.1 hempty, List.dropWhile_cons_of_neg hb]
    simp
  · simp

theorem written_collapse : ∀ (blank : Bool) (ls : List (List Char)),
    written (collapse blank ls) = written ls
  | _, [] => rfl
  | blank, l :: ls => by
      rw [collapse]
      split
      · rename_i hblank
        rw [Bool.and_eq_true, List.isEmpty_iff] at hblank
        rw [hblank.1]
        exact written_collapse blank ls
      · have ih := written_collapse l.isEmpty ls
        rw [written] at ih ⊢
        rw [List.filter_cons, ih, written, written, List.filter_cons]

theorem written_dropFinalBlanks (ls : List (List Char)) :
    written (dropFinalBlanks ls) = written ls := by
  have hdropped : ∀ l ∈ ls.reverse.takeWhile List.isEmpty, ¬(!l.isEmpty) = true := by
    intro l hl
    simp [List.mem_takeWhile_imp hl]
  have hall : written ls.reverse = written (ls.reverse.dropWhile List.isEmpty) := by
    conv_lhs => rw [← List.takeWhile_append_dropWhile (p := List.isEmpty) (l := ls.reverse)]
    rw [written, List.filter_append, List.filter_eq_nil_iff.2 hdropped, List.nil_append]
    rfl
  rw [written, dropFinalBlanks, List.filter_reverse, ← written, ← hall, written,
    List.filter_reverse, List.reverse_reverse]
  rfl

theorem isNormalized_normalizeBlanks (raw : List (List Char)) :
    IsNormalized raw (normalizeBlanks raw) where
  kept := by rw [normalizeBlanks, written_dropFinalBlanks, written_collapse]
  gaps := by
    rintro front a gap b back rfl ha hb hgap
    refine ⟨collapse true front, dropFinalBlanks (collapse false back), ?_,
      written_collapse _ _, ?_⟩
    · rw [normalizeBlanks, collapse_append_cons ha, collapse_append_cons hb, collapse_gap hgap,
        dropFinalBlanks_append_cons ha, dropFinalBlanks_append_cons hb]
    · rw [written_dropFinalBlanks, written_collapse]
  first := by
    intro l hl
    obtain ⟨rest, hrest⟩ : normalizeBlanks raw <+: collapse true raw := List.rdropWhile_prefix _ _
    refine (collapse_apart true raw).2 rfl l ?_
    rw [← hrest, List.head?_append, hl]
    rfl
  last _ := getLast?_normalizeBlanks
  apart := normalizeBlanks_apart raw

/-- Where blank lines stand apart there is nothing to drop. -/
theorem collapse_of_apart : ∀ {blank : Bool} {ls : List (List Char)}, ls.IsChain Apart →
    (blank = true → ∀ l, ls.head? = some l → l ≠ []) → collapse blank ls = ls
  | _, [], _, _ => rfl
  | blank, l :: ls, hchain, hfirst => by
      obtain ⟨hnext, hrest⟩ := List.isChain_cons.1 hchain
      have hkept : ¬(l.isEmpty && blank) = true := by
        rw [Bool.and_eq_true, List.isEmpty_iff]
        rintro ⟨rfl, rfl⟩
        exact hfirst rfl [] rfl rfl
      rw [collapse, if_neg hkept, collapse_of_apart hrest]
      intro hl m hm hempty
      exact hnext m hm ⟨List.isEmpty_iff.1 hl, hempty⟩

/-- Normalised lines are not changed. -/
theorem normalizeBlanks_of_isNormalized {raw out : List (List Char)} (h : IsNormalized raw out) :
    normalizeBlanks out = out := by
  rw [normalizeBlanks, collapse_of_apart h.apart fun _ => h.first]
  refine List.rdropWhile_eq_self_iff.2 fun hne hempty => ?_
  exact h.last _ (List.getLast?_eq_some_getLast hne) (List.isEmpty_iff.1 hempty)

/-- The text of comments has the lines that the comments have by their form, all together, with
blank lines normalised; normalising them again changes nothing. -/
theorem comment_text_normalizes_blanks (comments : List (List Char)) :
    (∀ comment lines, IsRaw comment lines ↔ lines = rawLines comment) ∧
    IsNormalized (comments.flatMap rawLines) ((commentText comments).map String.toList) ∧
    normalizeBlanks ((commentText comments).map String.toList) =
      (commentText comments).map String.toList := by
  have htext : (commentText comments).map String.toList =
      normalizeBlanks (comments.flatMap rawLines) := by simp [commentText, Function.comp_def]
  have hnormalized := isNormalized_normalizeBlanks (comments.flatMap rawLines)
  rw [htext]
  exact ⟨fun _ _ => isRaw_iff, hnormalized, normalizeBlanks_of_isNormalized hnormalized⟩

/-- A directive, and comments with blank lines on both sides of a seam and at the end. -/
def seamed : List (List Char) :=
  ["//go:embed x".toList, "// a ".toList, "//".toList, "/*\n\n b\n*/".toList]

/-- Of the blank lines at a seam one is left, and of those at the end none. -/
theorem seam_of_comments_is_one_blank_line :
    commentText seamed = ["a", "", " b"] ∧
    seamed.flatMap rawLines = [] ++ ['a'] :: ([[], [], []] ++ [' ', 'b'] :: [[]]) ∧
    ∃ before after, (commentText seamed).map String.toList =
        before ++ ['a'] :: ([[]] ++ [' ', 'b'] :: after) ∧
      written before = [] ∧ written after = [] := by
  have hraw : seamed.flatMap rawLines = [] ++ ['a'] :: ([[], [], []] ++ [' ', 'b'] :: [[]]) := by
    decide +kernel
  obtain ⟨_, hnormalized, _⟩ := comment_text_normalizes_blanks seamed
  exact ⟨by decide +kernel, hraw,
    hnormalized.gaps _ _ _ _ _ hraw (by decide) (by decide) (by decide)⟩

end MessageCatalog.Comment
