import Mathlib.Data.List.Induction
import Mathlib.Data.List.TakeWhile
import MessageCatalog.Proofs.Completeness

/-! # Where entries come from

The file of an entry was read from a position, and its note from the comments above its call.
Both are pieces of a text that was split, so that a file name has no colon
(`colon_not_mem_file`) and a line of a note no line break (`newline_not_mem_commentText`).
`extractWith_isPlain` says this of every entry of a catalog that is extracted. -/

namespace MessageCatalog

/-! ### Pieces of a split text -/

theorem not_mem_of_mem_splitOn {a : Char} : ∀ {cs piece : List Char},
    piece ∈ cs.splitOn a → a ∉ piece
  | [], piece, h => by
      rw [List.splitOn_nil, List.mem_singleton] at h
      rw [h]
      exact List.not_mem_nil
  | c :: cs, piece, h => by
      have ih : ∀ piece ∈ cs.splitOn a, a ∉ piece := fun _ => not_mem_of_mem_splitOn
      rw [List.splitOn_cons_eq_if_modifyHead] at h
      cases hs : cs.splitOn a with
      | nil => exact absurd hs (List.splitOn_ne_nil a cs)
      | cons first others =>
        rw [hs] at h ih
        rw [List.forall_mem_cons] at ih
        by_cases hc : c = a
        · rw [if_pos (beq_iff_eq.2 hc), List.mem_cons, List.mem_cons] at h
          rcases h with rfl | rfl | h
          · exact List.not_mem_nil
          · exact ih.1
          · exact ih.2 piece h
        · rw [if_neg (by simpa using hc), List.modifyHead_cons, List.mem_cons] at h
          rcases h with rfl | h
          · rw [List.mem_cons, not_or]
            exact ⟨Ne.symm hc, ih.1⟩
          · exact ih.2 piece h

/-- There is no colon in the file of a position that was read. -/
theorem Position.colon_not_mem_file {text : String} {p : Position} (h : parse text = .ok p) :
    ':' ∉ p.file.toList := by
  unfold parse at h
  split at h
  · rename_i file line column hsplit
    have hfile : ':' ∉ file := not_mem_of_mem_splitOn (hsplit ▸ List.mem_cons_self)
    cases hl : parseNumber line with
    | error e => simp [hl, bind, Except.bind] at h
    | ok l => cases hc : parseNumber column with
      | error e => simp [hl, hc, bind, Except.bind] at h
      | ok c =>
        simp only [hl, hc, bind, Except.bind, pure, Except.pure, Except.ok.injEq] at h
        rw [← h, String.toList_ofList]
        exact hfile
  · cases h

/-! ### The text of comments -/

namespace Comment

theorem trimEnd_subset (cs : List Char) : Text.trimEnd cs ⊆ cs := by
  intro c hc
  rw [Text.trimEnd, List.mem_reverse] at hc
  exact List.mem_reverse.1 ((List.dropWhile_sublist _).subset hc)

/-- The lines of a comment are pieces of a text between line breaks, without white space at their
ends. -/
theorem exists_piece_of_mem_textLines {body line : List Char} (h : line ∈ textLines body) :
    ∃ piece, '\n' ∉ piece ∧ line = Text.trimEnd piece := by
  obtain ⟨piece, hpiece, rfl⟩ := List.mem_map.1 h
  exact ⟨piece, not_mem_of_mem_splitOn hpiece, rfl⟩

theorem exists_piece_of_mem_rawLines {comment line : List Char} (h : line ∈ rawLines comment) :
    ∃ piece, '\n' ∉ piece ∧ line = Text.trimEnd piece := by
  unfold rawLines at h
  split at h
  · split at h
    · exact absurd h List.not_mem_nil
    · exact exists_piece_of_mem_textLines h
  · exact exists_piece_of_mem_textLines h

theorem collapse_sublist : ∀ (blank : Bool) (ls : List (List Char)),
    (collapse blank ls).Sublist ls
  | _, [] => .slnil
  | blank, l :: ls => by
      rw [collapse]
      split
      · exact (collapse_sublist blank ls).cons l
      · exact (collapse_sublist l.isEmpty ls).cons_cons l

theorem dropFinalBlanks_sublist (ls : List (List Char)) : (dropFinalBlanks ls).Sublist ls := by
  rw [← List.reverse_sublist, dropFinalBlanks, List.reverse_reverse]
  exact List.dropWhile_sublist _

theorem normalizeBlanks_sublist (ls : List (List Char)) : (normalizeBlanks ls).Sublist ls :=
  (dropFinalBlanks_sublist _).trans (collapse_sublist true ls)

end Comment

theorem exists_piece_of_mem_commentText {comments : List (List Char)} {line : String}
    (h : line ∈ commentText comments) :
    ∃ piece, '\n' ∉ piece ∧ line.toList = Text.trimEnd piece := by
  obtain ⟨raw, hraw, rfl⟩ := List.mem_map.1 h
  obtain ⟨comment, _, hcomment⟩ :=
    List.mem_flatMap.1 ((Comment.normalizeBlanks_sublist _).subset hraw)
  rw [String.toList_ofList]
  exact Comment.exists_piece_of_mem_rawLines hcomment

/-- There is no line break in a line of a comment text. -/
theorem newline_not_mem_commentText {comments : List (List Char)} {line : String}
    (h : line ∈ commentText comments) : '\n' ∉ line.toList := by
  obtain ⟨piece, hpiece, hline⟩ := exists_piece_of_mem_commentText h
  rw [hline]
  exact fun hc => hpiece (Comment.trimEnd_subset piece hc)

/-! ### The group above a call -/

namespace FileComments

/-- Of the groups that end on a line the last is kept. -/
theorem get?_ofGroups (groups : List CommentGroup) (line : Nat) :
    (ofGroups groups).byEndLine.get? line = groups.reverse.find? (·.endLine = line) := by
  induction groups using List.reverseRecOn with
  | nil => rfl
  | append_singleton groups g ih =>
    rw [ofGroups] at ih ⊢
    rw [List.foldl_concat, SortedMap.get?_insert, List.reverse_concat, List.find?_cons, ih]
    by_cases hline : line = g.endLine
    · simp [hline]
    · simp [hline, Ne.symm hline]

theorem preceding_ofGroups_eq_some_iff {groups : List CommentGroup} {line : Nat}
    {g : CommentGroup} :
    (ofGroups groups).preceding line = some g ↔ g.endLine + 1 = line ∧
      ∃ front back, groups = front ++ g :: back ∧ ∀ h ∈ back, h.endLine ≠ g.endLine := by
  cases line with
  | zero => simp [preceding]
  | succ line =>
    rw [preceding, get?_ofGroups, List.find?_eq_some_iff_append, decide_eq_true_eq]
    rw [Nat.add_right_cancel_iff]
    refine and_congr_right fun hline => ?_
    constructor
    · rintro ⟨back, front, hgroups, hback⟩
      refine ⟨front.reverse, back.reverse, ?_, ?_⟩
      · rw [← List.reverse_reverse groups, hgroups]
        simp
      · intro h hh
        rw [hline]
        simpa using hback h (List.mem_reverse.1 hh)
    · rintro ⟨front, back, rfl, hback⟩
      refine ⟨back.reverse, front.reverse, by simp, ?_⟩
      intro h hh
      rw [← hline]
      simpa using hback h (List.mem_reverse.1 hh)

theorem preceding_ofGroups_eq_none_iff {groups : List CommentGroup} {line : Nat} :
    (ofGroups groups).preceding line = none ↔
      line = 0 ∨ ∀ g ∈ groups, g.endLine + 1 ≠ line := by
  cases line with
  | zero => simp [preceding]
  | succ line =>
    rw [preceding, get?_ofGroups, List.find?_eq_none]
    simp

/-- The group above a line ends on the line before it. -/
theorem mem_of_preceding {groups : List CommentGroup} {line : Nat} {g : CommentGroup}
    (h : (ofGroups groups).preceding line = some g) : g ∈ groups ∧ g.endLine + 1 = line := by
  obtain ⟨hline, front, back, rfl, _⟩ := preceding_ofGroups_eq_some_iff.1 h
  exact ⟨List.mem_append_right _ List.mem_cons_self, hline⟩

theorem preceding_empty (line : Nat) : empty.preceding line = none := by
  cases line <;> rfl

end FileComments

namespace Associator

variable {a : Associator} {lines : List String}

/-- A note is taken from the group above the call. -/
theorem exists_group_of_note {comments : FileComments} {line : Nat}
    (h : a.associate comments line = .note lines) :
    a.isEnabled = true ∧
      ∃ g, comments.preceding line = some g ∧ a.select g.lines = .note lines := by
  unfold associate at h
  split at h
  · rename_i henabled
    refine ⟨henabled, ?_⟩
    split at h
    · rename_i g hg
      exact ⟨g, hg, h⟩
    · cases h
  · cases h

/-- A note goes from the first line with the keyword to the end of its group, in which no line is
marked. -/
theorem select_eq_note {group : List String} (h : a.select group = .note lines) :
    (∀ l ∈ group, a.isMarked l = false) ∧ ∃ before first rest, group = before ++ lines ∧
      lines = first :: rest ∧ a.isSelected first = true ∧ ∀ l ∈ before, a.isSelected l = false := by
  unfold select at h
  split at h
  · cases h
  · rename_i hmarked
    have hunmarked : ∀ l ∈ group, a.isMarked l = false := by
      intro l hl
      rw [Bool.not_eq_true, List.any_eq_false] at hmarked
      simpa using hmarked l hl
    refine ⟨hunmarked, ?_⟩
    have hsplit := List.takeWhile_append_dropWhile (p := fun l => !a.isSelected l) (l := group)
    have hfirst := List.head?_dropWhile_not (fun l => !a.isSelected l) group
    have hbefore : ∀ l ∈ group.takeWhile fun l => !a.isSelected l, a.isSelected l = false :=
      fun l hl => by simpa using List.mem_takeWhile_imp hl
    cases hdrop : group.dropWhile fun l => !a.isSelected l with
    | nil => simp [hdrop] at h
    | cons first rest =>
      rw [hdrop] at h hsplit hfirst
      cases h
      exact ⟨_, first, rest, hsplit.symm, rfl, by simpa using hfirst, hbefore⟩

end Associator

/-- The comment groups of a file, in order. -/
def SourceFile.commentGroups (f : SourceFile) : List CommentGroup :=
  (CommentRun.ofComments f.source.toList
    (f.tree.comments.map (Comment.ofNode f.source.toList))).map CommentRun.toGroup

theorem SourceFile.mem_commentGroups_of_preceding {f : SourceFile} {a : Associator} {line : Nat}
    {g : CommentGroup} (h : (f.comments a).preceding line = some g) :
    g ∈ f.commentGroups ∧ g.endLine + 1 = line := by
  unfold SourceFile.comments at h
  split at h
  · exact FileComments.mem_of_preceding h
  · rw [FileComments.preceding_empty] at h
    cases h

/-- The lines of a group are the text of its comments. -/
theorem SourceFile.lines_of_mem_commentGroups {f : SourceFile} {g : CommentGroup}
    (h : g ∈ f.commentGroups) : ∃ comments, g.lines = commentText comments := by
  obtain ⟨run, _, rfl⟩ := List.mem_map.1 h
  exact ⟨_, rfl⟩

/-! ### The note of an entry -/

namespace Site

variable {a : Associator} {s : Site}

/-- A call that is found has the note that its comments give. -/
theorem note?_of_found {text : String} {comment : Option (List String)}
    (h : s.verdict a = .found text comment) : (s.association a).note? = comment := by
  by_cases hi : s.association a = .ignored
  · rw [verdict_of_ignored hi] at h
    cases h
  · rw [verdict_of_not_ignored hi, resolved] at h
    split at h
    · rename_i argument _
      cases hr : (s.file.classify argument).resolve with
      | error e => simp [hr, Verdict.ofResolution] at h
      | ok resolution => cases resolution with
        | problem d => simp [hr, Verdict.ofResolution] at h
        | text t =>
          rw [hr, Verdict.ofResolution, Verdict.found.injEq] at h
          exact h.2
    · cases h

theorem note?_of_settled? {e : Entry} (h : s.settled? a = some e) :
    e.comment = none ∨ (s.association a).note? = e.comment := by
  unfold settled? at h
  cases hv : s.verdict a with
  | ignored d =>
    rw [hv, Verdict.settled?, Option.some.injEq] at h
    rw [← h]
    exact .inl rfl
  | found text comment =>
    rw [hv, Verdict.settled?, Option.some.injEq] at h
    rw [← h]
    exact .inr (note?_of_found hv)
  | problem d => simp [hv, Verdict.settled?] at h
  | failure f => simp [hv, Verdict.settled?] at h

end Site

/-- An entry with a note belongs to a call that this note stands above. -/
theorem SourceFile.exists_site_of_comment {f : SourceFile} {a : Associator} {i : PositionIndex}
    {e : Entry} (h : e ∈ f.outcome a i) {lines : List String} (hc : e.comment = some lines) :
    ∃ s ∈ f.sites, s.settled? a = some e ∧ s.association a = .note lines := by
  rcases List.mem_append.1 h with h | h
  · obtain ⟨s, hs, he⟩ := List.mem_filterMap.1 h
    refine ⟨s, (mem_visits hs).1, he, ?_⟩
    have hnote : (s.association a).note? = some lines := by
      rcases Site.note?_of_settled? he with hn | hn
      · rw [hn] at hc
        cases hc
      · rw [hn, hc]
    cases ha : s.association a with
    | note note =>
      rw [ha, Association.note?, Option.some.injEq] at hnote
      rw [hnote]
    | ignored => simp [ha, Association.note?] at hnote
    | none => simp [ha, Association.note?] at hnote
  · obtain ⟨l, _, rfl⟩ := List.mem_map.1 h
    cases hc

/-- There is no line break in a line of the note of an entry. -/
theorem SourceFile.newline_not_mem_comment {f : SourceFile} {a : Associator} {i : PositionIndex}
    {e : Entry} (h : e ∈ f.outcome a i) {lines : List String} (hc : e.comment = some lines)
    {l : String} (hl : l ∈ lines) : '\n' ∉ l.toList := by
  obtain ⟨s, _, _, hs⟩ := exists_site_of_comment h hc
  obtain ⟨_, g, hg, hselect⟩ := Associator.exists_group_of_note hs
  obtain ⟨_, before, _, _, hlines, _⟩ := Associator.select_eq_note hselect
  obtain ⟨comments, hcomments⟩ :=
    lines_of_mem_commentGroups (mem_commentGroups_of_preceding hg).1
  have hmem : l ∈ commentText comments := by
    rw [← hcomments, hlines]
    exact List.mem_append_right _ hl
  exact newline_not_mem_commentText hmem

/-! ### Plain entries -/

/-- The entry can be told from a text that names it: no colon in the name of its file, and no
line break in a line of its note. -/
structure Entry.IsPlain (e : Entry) : Prop where
  file : ':' ∉ e.position.file.toList
  comment : ∀ lines, e.comment = some lines → ∀ l ∈ lines, '\n' ∉ l.toList

/-- All entries of the catalog are plain. -/
def Catalog.IsPlain (c : Catalog) : Prop := ∀ e ∈ c.all, e.IsPlain

/-- An extraction for positions that were read gives plain entries. -/
theorem Extraction.extractWith_isPlain {race : Race}
    {parse : String → Except Failure SourceFile}
    (hpath : ∀ p f, parse p = .ok f → f.path = p) {disk : Disk} {a : Associator}
    {ps : List Position} (hps : ∀ p ∈ ps, ':' ∉ p.file.toList) {r r' : Reporter} {c : Catalog}
    (h : extractWith race parse disk a (.ofList ps) r = .ok (c, r')) : c.IsPlain := by
  have haccounts := extractWith_accountsFor a ps hpath h
  obtain ⟨files, _, hfiles, _, rfl⟩ := extractWith_eq_ok hpath h
  intro e he
  refine ⟨hps _ ((haccounts.complete _).1 (List.mem_map_of_mem he)), ?_⟩
  intro lines hc l hl
  rw [all_catalog a _ hfiles] at he
  obtain ⟨f, _, hf⟩ := List.mem_flatMap.1 he
  exact f.newline_not_mem_comment hf hc hl

end MessageCatalog
