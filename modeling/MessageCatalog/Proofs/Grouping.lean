import Mathlib.Data.List.Chain
import MessageCatalog.Proofs.Provenance
import MessageCatalog.Proofs.Walk

/-! # Groups of comments

`CommentRun.IsGrouping` says how comments are grouped, in terms of the text around them: a comment
is in the run of the comment before it exactly if it follows that comment closely enough
(`Comment.Follows`), where the first comment of the run decides how close that is.  There is one
such grouping, and it is the one that is computed (`isGrouping_iff`): each comment is added by a
step that keeps the grouping (`isGrouping_add`), and two groupings cannot part anywhere
(`IsGrouping.eq`).

Comments are cut out of the text by byte offsets.  A span (`Comment.IsSpan`) starts and ends between
two characters, so that the text between two spans is what stands there (`exists_between`), and line
numbers grow by the line breaks in it. -/

namespace MessageCatalog

/-! ### Cutting a text at byte offsets -/

namespace Text

theorem takeBytes_append (before after : List Char) :
    takeBytes (byteLength before) (before ++ after) = before := by
  induction before with
  | nil =>
    cases after with
    | nil => rfl
    | cons c after =>
      have hc := c.utf8Size_pos
      rw [List.nil_append, byteLength_nil, takeBytes, if_neg (by omega)]
  | cons c before ih =>
    rw [List.cons_append, byteLength_cons, takeBytes, if_pos (Nat.le_add_right _ _),
      Nat.add_sub_cancel_left, ih]

theorem dropBytes_append (before after : List Char) :
    dropBytes (byteLength before) (before ++ after) = after := by
  induction before with
  | nil => cases after <;> rfl
  | cons c before ih =>
    have hc := c.utf8Size_pos
    rw [List.cons_append, byteLength_cons, dropBytes, if_neg (by omega), Nat.add_sub_cancel_left,
      ih]

/-- `middle` stands between two byte offsets of the text. -/
def Between (text : List Char) (start stop : Nat) (middle : List Char) : Prop :=
  ∃ before after, text = before ++ middle ++ after ∧ byteLength before = start ∧
    byteLength (before ++ middle) = stop

theorem Between.slice_eq {text middle : List Char} {start stop : Nat}
    (h : Between text start stop middle) : slice start stop text = middle := by
  obtain ⟨before, after, rfl, rfl, rfl⟩ := h
  rw [slice, byteLength_append, Nat.add_sub_cancel_left, List.append_assoc, dropBytes_append,
    takeBytes_append]

theorem eq_nil_of_byteLength_eq_zero {text : List Char} (h : byteLength text = 0) : text = [] := by
  cases text with
  | nil => rfl
  | cons c text =>
    have hc := c.utf8Size_pos
    rw [byteLength_cons] at h
    omega

/-- Of two beginnings of a text, the one with fewer bytes is a beginning of the other. -/
theorem prefix_of_byteLength_le {text a b : List Char} (ha : a <+: text) (hb : b <+: text)
    (h : byteLength a ≤ byteLength b) : a <+: b := by
  rcases List.prefix_or_prefix_of_prefix ha hb with hab | ⟨rest, rfl⟩
  · exact hab
  · rw [byteLength_append] at h
    obtain rfl : rest = [] := eq_nil_of_byteLength_eq_zero (by omega)
    exact ⟨[], by simp⟩

/-- The last line of a text holds more than white space. -/
theorem all_isBlank_lastLine_eq_false_iff {text : List Char} :
    (text.reverse.takeWhile (· ≠ '\n')).all isBlank = false ↔
      ∃ before x indent, text = before ++ x :: indent ∧ isBlank x = false ∧ '\n' ∉ indent := by
  constructor
  · intro h
    obtain ⟨x, hx, hblank⟩ := List.all_eq_false.1 h
    obtain ⟨late, early, hsplit, _⟩ := List.eq_append_cons_of_mem hx
    obtain ⟨rest, hrest⟩ := List.takeWhile_prefix (p := (· ≠ '\n')) (l := text.reverse)
    refine ⟨(early ++ rest).reverse, x, late.reverse, ?_, by simpa using hblank, ?_⟩
    · rw [hsplit] at hrest
      rw [← List.reverse_reverse text, ← hrest]
      simp
    · intro hmem
      have hnewline : '\n' ∈ text.reverse.takeWhile (· ≠ '\n') := by
        rw [hsplit]
        exact List.mem_append_left _ (List.mem_reverse.1 hmem)
      simpa using List.mem_takeWhile_imp hnewline
  · rintro ⟨before, x, indent, rfl, hblank, hnewline⟩
    -- all of `x :: indent` is on the last line, as no line break is in it
    have hx : x ≠ '\n' := by
      rintro rfl
      cases hblank
    have hindent : ∀ y ∈ indent.reverse, decide (y ≠ '\n') = true := by
      intro y hy
      rw [decide_eq_true_eq]
      rintro rfl
      exact hnewline (List.mem_reverse.1 hy)
    refine List.all_eq_false.2 ⟨x, ?_, by simp [hblank]⟩
    rw [List.reverse_append, List.reverse_cons, List.append_assoc,
      List.takeWhile_append_of_pos hindent]
    simp [hx]

end Text

/-! ### Spans -/

namespace Comment

/-- The comment covers its text in the source, and its lines are counted by the line breaks before
its two ends. -/
def IsSpan (source : List Char) (c : Comment) : Prop :=
  ∃ before after, source = before ++ c.text ++ after ∧
    Text.byteLength before = c.start.offset ∧ Text.byteLength (before ++ c.text) = c.stop.offset ∧
    c.start.location.line = before.count '\n' + 1 ∧
    c.stop.location.line = (before ++ c.text).count '\n' + 1

/-- The comments are spans of the source in ascending order that do not overlap. -/
structure AreSpans (source : List Char) (comments : List Comment) : Prop where
  spans : ∀ c ∈ comments, c.IsSpan source
  ascending : comments.Pairwise fun a b => a.stop.offset ≤ b.start.offset

theorem AreSpans.left_of_append {source : List Char} {front back : List Comment}
    (h : AreSpans source (front ++ back)) : AreSpans source front where
  spans c hc := h.spans c (List.mem_append_left _ hc)
  ascending := (List.pairwise_append.1 h.ascending).1

/-- What stands between two comments, and the line breaks in it. -/
theorem exists_between {source : List Char} {a b : Comment} (ha : a.IsSpan source)
    (hb : b.IsSpan source) (h : a.stop.offset ≤ b.start.offset) :
    ∃ gap, Text.Between source a.stop.offset b.start.offset gap ∧
      a.stop.location.line + gap.count '\n' = b.start.location.line := by
  obtain ⟨before, after, hsource, _, hstop, _, hline⟩ := ha
  obtain ⟨before', after', hsource', hstart', _, hline', _⟩ := hb
  rw [← hstop, ← hstart'] at h
  have hfront : before ++ a.text <+: source := ⟨after, hsource.symm⟩
  have hback : before' <+: source := ⟨b.text ++ after', by rw [hsource', List.append_assoc]⟩
  obtain ⟨gap, rfl⟩ := Text.prefix_of_byteLength_le hfront hback h
  refine ⟨gap, ⟨before ++ a.text, b.text ++ after', ?_, hstop, hstart'⟩, ?_⟩
  · rw [hsource', List.append_assoc _ b.text]
  · have hcount : (before ++ a.text ++ gap).count '\n' =
        (before ++ a.text).count '\n' + gap.count '\n' := List.count_append
    omega

theorem IsSpan.slice_eq {source : List Char} {c : Comment} (h : c.IsSpan source) :
    Text.slice c.start.offset c.stop.offset source = c.text := by
  obtain ⟨before, after, hsource, hstart, hstop, _⟩ := h
  exact Text.Between.slice_eq ⟨before, after, hsource, hstart, hstop⟩

/-- The comment as a leaf of a tree. -/
def toNode (c : Comment) : Go.Node := .mk .comment none c.start c.stop []

/-- A tree with nothing but comments. -/
def tree (comments : List Comment) : Go.Node :=
  .mk .sourceFile none default default (comments.map toNode)

theorem visitedAll_toNode (comments : List Comment) :
    Go.Node.visitedAll (·.kind ≠ .comment) (comments.map toNode) = comments.map toNode := by
  induction comments with
  | nil => rfl
  | cons c comments ih =>
    rw [List.map_cons, Go.Node.visitedAll, Go.Node.visited_of_not_entered rfl, ih,
      List.singleton_append]

theorem comments_tree (comments : List Comment) :
    (tree comments).comments = comments.map toNode := by
  have hvisited : (tree comments).visited (·.kind ≠ .comment) =
      tree comments :: comments.map toNode := by
    rw [Go.Node.visited_of_entered rfl, tree, Go.Node.children, visitedAll_toNode]
  have hleaves : ∀ n ∈ comments.map toNode, n.kind = .comment := by
    intro n hn
    obtain ⟨c, _, rfl⟩ := List.mem_map.1 hn
    rfl
  have hroot : (tree comments).kind = .sourceFile := rfl
  rw [Go.Node.comments, Go.Cursor.walk_ofRoot, hvisited, List.filter_cons, if_neg (by simp [hroot])]
  exact List.filter_eq_self.2 fun n hn => decide_eq_true (hleaves n hn)

/-- Any spans are the comments of some tree. -/
theorem AreSpans.ofNode_comments_tree {source : List Char} {comments : List Comment}
    (h : AreSpans source comments) : (tree comments).comments.map (ofNode source) = comments := by
  have hspan : ∀ c ∈ comments, ofNode source c.toNode = c := by
    intro c hc
    rw [ofNode]
    simp only [toNode, Go.Node.start, Go.Node.stop, (h.spans c hc).slice_eq]
  rw [comments_tree, List.map_map]
  exact (List.map_congr_left hspan).trans (List.map_id comments)

/-! ### Comments that stand together -/

/-- Something other than white space stands before the comment on its line. -/
def Trails (source : List Char) (c : Comment) : Prop :=
  ∃ before x indent after, source = before ++ x :: (indent ++ after) ∧
    Text.byteLength (before ++ x :: indent) = c.start.offset ∧
    Text.isBlank x = false ∧ '\n' ∉ indent

/-- Only white space stands between two comments, with no more line breaks than there may be in a
run that starts with `first`. -/
def Follows (source : List Char) (first a b : Comment) : Prop :=
  ∃ gap, Text.Between source a.stop.offset b.start.offset gap ∧
    (∀ x ∈ gap, Text.isBlank x = true) ∧ gap.count '\n' ≤ 1 ∧
    (first.Trails source → gap.count '\n' ≤ 0)

theorem trailsCode_iff {source : List Char} {c : Comment} (h : c.IsSpan source) :
    c.trailsCode source = true ↔ c.Trails source := by
  obtain ⟨before, after, hsource, hstart, _⟩ := h
  rw [List.append_assoc] at hsource
  have hbefore : Text.takeBytes c.start.offset source = before := by
    rw [hsource, ← hstart, Text.takeBytes_append]
  rw [trailsCode, hbefore, Bool.not_eq_true', Text.all_isBlank_lastLine_eq_false_iff]
  constructor
  · rintro ⟨above, x, indent, rfl, hblank, hnewline⟩
    exact ⟨above, x, indent, c.text ++ after, by simpa using hsource, hstart, hblank, hnewline⟩
  · rintro ⟨above, x, indent, rest, hsource', hlength, hblank, hnewline⟩
    refine ⟨above, x, indent, ?_, hblank, hnewline⟩
    rw [← hbefore, ← hlength, hsource', ← List.cons_append, ← List.append_assoc,
      Text.takeBytes_append]

end Comment

namespace CommentRun

variable {source : List Char}

/-- The flag of a run tells of its first comment whether code stands before it. -/
def IsMarked (source : List Char) (r : CommentRun) : Prop :=
  r.trailing = true ↔ r.first.Trails source

theorem accepts_iff {r : CommentRun} {c : Comment} (hr : r.IsMarked source)
    (hlast : r.last.IsSpan source) (hc : c.IsSpan source)
    (h : r.last.stop.offset ≤ c.start.offset) :
    r.accepts source c = true ↔ r.first.Follows source r.last c := by
  obtain ⟨gap, hgap, _⟩ := Comment.exists_between hlast hc h
  have hunique : ∀ gap', Text.Between source r.last.stop.offset c.start.offset gap' → gap' = gap :=
    fun gap' h' => h'.slice_eq.symm.trans hgap.slice_eq
  have hlimit : gap.count '\n' ≤ r.maxBreaks ↔
      gap.count '\n' ≤ 1 ∧ (r.first.Trails source → gap.count '\n' ≤ 0) := by
    have hmarked : r.trailing = true ↔ r.first.Trails source := hr
    rw [maxBreaks, ← hmarked]
    cases r.trailing <;> simp
    omega
  have hslice : r.gap source c = gap := hgap.slice_eq
  rw [accepts, hslice, Bool.and_eq_true, List.all_eq_true, decide_eq_true_eq, hlimit]
  constructor
  · exact fun ⟨hblank, hbreaks⟩ => ⟨gap, hgap, hblank, hbreaks⟩
  · rintro ⟨gap', hgap', hblank, hbreaks⟩
    obtain rfl := hunique gap' hgap'
    exact ⟨hblank, hbreaks⟩

/-! ### Runs and their comments -/

theorem comments_push (r : CommentRun) (c : Comment) : (r.push c).comments = r.comments ++ [c] := rfl

theorem getLast?_comments (r : CommentRun) : r.comments.getLast? = some r.last := by
  rw [comments, last, List.getLast?_cons]

theorem last_mem_comments (r : CommentRun) : r.last ∈ r.comments :=
  List.mem_of_getLast? r.getLast?_comments

/-- The runs are the groups of the comments. -/
structure IsGrouping (source : List Char) (comments : List Comment) (runs : List CommentRun) :
    Prop where
  /-- Every comment is in one run, in order. -/
  covers : runs.flatMap CommentRun.comments = comments
  marked : ∀ r ∈ runs, r.IsMarked source
  /-- In a run each comment follows the one before it. -/
  joined : ∀ r ∈ runs, r.comments.IsChain (r.first.Follows source)
  /-- The first comment of a run does not follow the last of the run before. -/
  parted : runs.IsChain fun r s => ¬r.first.Follows source r.last s.first

/-! ### Adding a comment keeps the grouping -/

variable {comments : List Comment} {runs : List CommentRun} {c : Comment}

theorem isGrouping_nil : IsGrouping source [] [] where
  covers := rfl
  marked _ hr := absurd hr List.not_mem_nil
  joined _ hr := absurd hr List.not_mem_nil
  parted := .nil

/-- A comment that follows the last run is put into it. -/
theorem IsGrouping.push {r : CommentRun} (h : IsGrouping source comments (runs ++ [r]))
    (hc : r.first.Follows source r.last c) :
    IsGrouping source (comments ++ [c]) (runs ++ [r.push c]) where
  covers := by
    rw [← h.covers]
    simp [comments_push]
  marked := by
    have hmarked := h.marked
    rw [List.forall_mem_append, List.forall_mem_singleton] at hmarked ⊢
    exact hmarked
  joined := by
    have hjoined := h.joined
    rw [List.forall_mem_append, List.forall_mem_singleton] at hjoined ⊢
    refine ⟨hjoined.1, List.isChain_append.2 ⟨hjoined.2, .singleton c, ?_⟩⟩
    rintro a ha b hb
    rw [getLast?_comments] at ha
    cases ha
    cases hb
    exact hc
  parted := by
    obtain ⟨hruns, _, hlast⟩ := List.isChain_append.1 h.parted
    refine List.isChain_append.2 ⟨hruns, .singleton _, ?_⟩
    rintro s hs _ ⟨⟩
    exact hlast s hs r rfl

/-- A comment that does not follow the last run starts a new one. -/
theorem IsGrouping.single (h : IsGrouping source comments runs) (hspan : c.IsSpan source)
    (hc : ∀ r, runs.getLast? = some r → ¬r.first.Follows source r.last c) :
    IsGrouping source (comments ++ [c]) (runs ++ [CommentRun.single source c]) where
  covers := by
    rw [← h.covers]
    simp [CommentRun.single, CommentRun.comments]
  marked := by
    rw [List.forall_mem_append, List.forall_mem_singleton]
    exact ⟨h.marked, Comment.trailsCode_iff hspan⟩
  joined := by
    rw [List.forall_mem_append, List.forall_mem_singleton]
    exact ⟨h.joined, .singleton c⟩
  parted := by
    refine List.isChain_append.2 ⟨h.parted, .singleton _, ?_⟩
    rintro r hr _ ⟨⟩
    exact hc r hr

theorem isGrouping_add (h : IsGrouping source comments runs.reverse)
    (hspans : Comment.AreSpans source (comments ++ [c])) :
    IsGrouping source (comments ++ [c]) (add source runs c).reverse := by
  have hc : c.IsSpan source := hspans.spans c (by simp)
  cases runs with
  | nil =>
    refine h.single hc ?_
    intro r hr
    cases hr
  | cons r rs =>
    have hlast : r.last ∈ comments := by
      rw [← h.covers]
      exact List.mem_flatMap.2 ⟨r, by simp, r.last_mem_comments⟩
    have horder : r.last.stop.offset ≤ c.start.offset :=
      (List.pairwise_append.1 hspans.ascending).2.2 _ hlast c (List.mem_singleton_self c)
    have haccepts := accepts_iff (h.marked r (by simp))
      (hspans.spans _ (List.mem_append_left _ hlast)) hc horder
    rw [List.reverse_cons] at h
    rw [add]
    split
    · rename_i haccepted
      rw [List.reverse_cons]
      exact h.push (haccepts.1 haccepted)
    · rename_i hrefused
      rw [List.reverse_cons, List.reverse_cons]
      refine h.single hc ?_
      intro s hs
      rw [List.getLast?_concat, Option.some.injEq] at hs
      rw [← hs]
      exact mt haccepts.2 hrefused

theorem isGrouping_ofComments (h : Comment.AreSpans source comments) :
    IsGrouping source comments (ofComments source comments) := by
  -- from left to right, so on the comments that were added already
  induction comments using List.reverseRecOn with
  | nil => exact isGrouping_nil
  | append_singleton comments c ih =>
    rw [ofComments, List.foldl_concat]
    refine isGrouping_add ?_ h
    exact ih h.left_of_append

/-! ### There is one grouping -/

/-- A run of one grouping does not go on where a run of another has ended. -/
theorem IsGrouping.not_longer {r s : CommentRun} {more : List Comment} {tail : List Comment}
    (h : IsGrouping source comments (r :: runs)) (hfirst : s.first = r.first)
    (hs : s.comments.IsChain (s.first.Follows source)) (hmore : s.comments = r.comments ++ more)
    (htail : runs.flatMap CommentRun.comments = more ++ tail) : more = [] := by
  cases more with
  | nil => rfl
  | cons b more =>
    cases runs with
    | nil => cases htail
    | cons t runs =>
      have hb : t.first = b := (List.cons.inj htail).1
      rw [hmore, hfirst] at hs
      have hfollows : r.first.Follows source r.last b :=
        (List.isChain_append.1 hs).2.2 r.last r.getLast?_comments b rfl
      exact absurd (hb ▸ hfollows) (List.isChain_cons.1 h.parted |>.1 t rfl)

theorem IsMarked.ext {r s : CommentRun} (hr : r.IsMarked source) (hs : s.IsMarked source)
    (h : r.comments = s.comments) : r = s := by
  obtain ⟨first, more, trailing⟩ := r
  obtain ⟨first', more', trailing'⟩ := s
  obtain ⟨rfl, rfl⟩ := List.cons.inj h
  have hsame : trailing = true ↔ trailing' = true := Iff.trans hr (Iff.symm hs)
  rw [Bool.eq_iff_iff.2 hsame]

theorem IsGrouping.tail {r : CommentRun} (h : IsGrouping source comments (r :: runs)) :
    IsGrouping source (runs.flatMap CommentRun.comments) runs where
  covers := rfl
  marked s hs := h.marked s (List.mem_cons_of_mem _ hs)
  joined s hs := h.joined s (List.mem_cons_of_mem _ hs)
  parted := (List.isChain_cons.1 h.parted).2

/-- Two groupings of the same comments are equal. -/
theorem IsGrouping.eq {runs' : List CommentRun} (h : IsGrouping source comments runs)
    (h' : IsGrouping source comments runs') : runs = runs' := by
  induction runs generalizing comments runs' with
  | nil =>
    cases runs' with
    | nil => rfl
    | cons s runs' => exact absurd (h.covers.trans h'.covers.symm) (by simp [CommentRun.comments])
  | cons r runs ih =>
    cases runs' with
    | nil => exact absurd (h.covers.trans h'.covers.symm) (by simp [CommentRun.comments])
    | cons s runs' =>
      have hcovers := h.covers.trans h'.covers.symm
      rw [List.flatMap_cons, List.flatMap_cons] at hcovers
      have hfirst : r.first = s.first := (List.cons.inj hcovers).1
      have hjoined := h.joined r List.mem_cons_self
      have hjoined' := h'.joined s List.mem_cons_self
      -- the first runs end together, whichever is taken to be the longer
      have hcomments : r.comments = s.comments := by
        rcases List.append_eq_append_iff.1 hcovers with ⟨more, hmore, htail⟩ | ⟨more, hmore, htail⟩
        · have hnil := h.not_longer hfirst.symm hjoined' hmore htail
          rw [hmore, hnil, List.append_nil]
        · have hnil := h'.not_longer hfirst hjoined hmore htail
          rw [hmore, hnil, List.append_nil]
      have hrest : runs.flatMap CommentRun.comments = runs'.flatMap CommentRun.comments := by
        rw [hcomments] at hcovers
        exact List.append_cancel_left hcovers
      have hsame := IsMarked.ext (h.marked r List.mem_cons_self) (h'.marked s List.mem_cons_self)
        hcomments
      rw [hsame, ih h.tail (hrest ▸ h'.tail)]

/-- The runs that are computed are the one grouping of the comments. -/
theorem isGrouping_iff (h : Comment.AreSpans source comments) :
    IsGrouping source comments runs ↔ runs = ofComments source comments := by
  constructor
  · exact fun hruns => hruns.eq (isGrouping_ofComments h)
  · rintro rfl
    exact isGrouping_ofComments h

/-! ### The lines of groups -/

/-- A group starts on the line of its first comment's start and ends on that of its last one's end,
which are counted by the line breaks before them. -/
theorem lines_toGroup {r : CommentRun} (hfirst : r.first.IsSpan source)
    (hlast : r.last.IsSpan source) :
    (∃ before, before <+: source ∧ Text.byteLength before = r.first.start.offset ∧
      r.toGroup.startLine = before.count '\n' + 1) ∧
    ∃ before, before <+: source ∧ Text.byteLength before = r.last.stop.offset ∧
      r.toGroup.endLine = before.count '\n' + 1 := by
  obtain ⟨before, after, hsource, hstart, _, hline, _⟩ := hfirst
  obtain ⟨before', after', hsource', _, hstop', _, hline'⟩ := hlast
  refine ⟨⟨before, ?_, hstart, hline⟩, ⟨before' ++ r.last.text, ?_, hstop', hline'⟩⟩
  · exact ⟨r.first.text ++ after, by rw [hsource, List.append_assoc]⟩
  · exact ⟨after', hsource'.symm⟩

theorem IsGrouping.mem_comments {r : CommentRun} (h : IsGrouping source comments runs)
    (hr : r ∈ runs) : r.first ∈ comments ∧ r.last ∈ comments := by
  rw [← h.covers]
  exact ⟨List.mem_flatMap.2 ⟨r, hr, List.mem_cons_self⟩,
    List.mem_flatMap.2 ⟨r, hr, r.last_mem_comments⟩⟩

/-- A group ends before a later one starts, or on the same line. -/
theorem IsGrouping.lines_ascending (h : IsGrouping source comments runs)
    (hspans : Comment.AreSpans source comments) :
    runs.Pairwise fun r s => r.toGroup.endLine ≤ s.toGroup.startLine := by
  have hascending := hspans.ascending
  rw [← h.covers, List.pairwise_flatMap] at hascending
  refine hascending.2.imp_of_mem ?_
  intro r s hr hs hrs
  obtain ⟨gap, _, hline⟩ := Comment.exists_between (hspans.spans _ (h.mem_comments hr).2)
    (hspans.spans _ (h.mem_comments hs).1) (hrs _ r.last_mem_comments _ List.mem_cons_self)
  show r.last.stop.location.line ≤ s.first.start.location.line
  omega

end CommentRun

/-- The comments of a source, given as spans in ascending order, are grouped in the one way in which
a comment is in the group of the comment before it exactly if it follows that closely enough.  The
groups ascend by their lines, and the group above a line is the last that ends right above it. -/
theorem comments_have_one_grouping (source : String) (comments : List Comment)
    (h : Comment.AreSpans source.toList comments) :
    ∃ runs : List CommentRun,
      (∀ runs', CommentRun.IsGrouping source.toList comments runs' ↔ runs' = runs) ∧
      (∀ r ∈ runs,
        (∃ before, before <+: source.toList ∧
          Text.byteLength before = r.first.start.offset ∧
          r.toGroup.startLine = before.count '\n' + 1) ∧
        ∃ before, before <+: source.toList ∧ Text.byteLength before = r.last.stop.offset ∧
          r.toGroup.endLine = before.count '\n' + 1) ∧
      (runs.Pairwise fun r s => r.toGroup.endLine ≤ s.toGroup.startLine) ∧
      (∃ tree : Go.Node, tree.comments.map (Comment.ofNode source.toList) = comments) ∧
      ∀ tree : Go.Node, tree.comments.map (Comment.ofNode source.toList) = comments →
        ∀ line,
          (∀ g, (FileComments.collect source tree).preceding line = some g ↔
            g.endLine + 1 = line ∧ ∃ front back,
              runs.map CommentRun.toGroup = front ++ g :: back ∧
                ∀ later ∈ back, later.endLine ≠ g.endLine) ∧
          ((FileComments.collect source tree).preceding line = none ↔
            line = 0 ∨ ∀ g ∈ runs.map CommentRun.toGroup, g.endLine + 1 ≠ line) := by
  have hgrouping := CommentRun.isGrouping_ofComments h
  refine ⟨CommentRun.ofComments source.toList comments, fun _ => CommentRun.isGrouping_iff h, ?_,
    hgrouping.lines_ascending h, ⟨_, h.ofNode_comments_tree⟩, ?_⟩
  · intro r hr
    obtain ⟨hfirst, hlast⟩ := hgrouping.mem_comments hr
    exact CommentRun.lines_toGroup (h.spans _ hfirst) (h.spans _ hlast)
  · rintro tree rfl line
    exact ⟨fun g => FileComments.preceding_ofGroups_eq_some_iff,
      FileComments.preceding_ofGroups_eq_none_iff⟩

/-- A comment behind code, one below it, two on a line, of which one goes on to the next line, and
one behind code there. -/
def crowdedSource : String := "x // t\n// a\n/* b */ /* c\nd */ y /* e */\nA()"

/-- The comments of `crowdedSource`. -/
def crowdedComments : List Comment :=
  [⟨⟨2, 1, 3⟩, ⟨6, 1, 7⟩, "// t".toList⟩, ⟨⟨7, 2, 1⟩, ⟨11, 2, 5⟩, "// a".toList⟩,
    ⟨⟨12, 3, 1⟩, ⟨19, 3, 8⟩, "/* b */".toList⟩, ⟨⟨20, 3, 9⟩, ⟨29, 4, 5⟩, "/* c\nd */".toList⟩,
    ⟨⟨32, 4, 8⟩, ⟨39, 4, 15⟩, "/* e */".toList⟩]

theorem areSpans_crowdedComments : Comment.AreSpans crowdedSource.toList crowdedComments := by
  have hspans : ∀ c ∈ crowdedComments,
      crowdedSource.toList = crowdedSource.toList.take c.start.offset ++ c.text ++
        crowdedSource.toList.drop c.stop.offset ∧
      Text.byteLength (crowdedSource.toList.take c.start.offset) = c.start.offset ∧
      Text.byteLength (crowdedSource.toList.take c.start.offset ++ c.text) = c.stop.offset ∧
      c.start.location.line = (crowdedSource.toList.take c.start.offset).count '\n' + 1 ∧
      c.stop.location.line =
        (crowdedSource.toList.take c.start.offset ++ c.text).count '\n' + 1 := by
    decide +kernel
  exact ⟨fun c hc => ⟨_, _, hspans c hc⟩, by decide⟩

/-- The comment behind code stays alone, the next three make one group, and of the two groups that
end on line 4 the later is found above line 5. -/
theorem crowded_comments_have_one_grouping :
    Comment.AreSpans crowdedSource.toList crowdedComments ∧
    (CommentRun.ofComments crowdedSource.toList crowdedComments).map (·.comments.length) =
      [1, 3, 1] ∧
    CommentRun.IsGrouping crowdedSource.toList crowdedComments
      (CommentRun.ofComments crowdedSource.toList crowdedComments) ∧
    (FileComments.collect crowdedSource (Comment.tree crowdedComments)).preceding 5 =
      some ⟨4, 4, [" e"]⟩ := by
  have hspans := areSpans_crowdedComments
  obtain ⟨runs, hgrouping, _, _, _, hpreceding⟩ := comments_have_one_grouping _ _ hspans
  have hruns := (hgrouping _).1 (CommentRun.isGrouping_ofComments hspans)
  refine ⟨hspans, by decide +kernel, (hgrouping _).2 hruns, ?_⟩
  refine ((hpreceding _ hspans.ofNode_comments_tree 5).1 _).2 ⟨rfl, ?_⟩
  refine ⟨[⟨1, 1, ["t"]⟩, ⟨2, 4, ["a", " b", " c", "d"]⟩], [], ?_, by simp⟩
  rw [← hruns]
  decide +kernel

end MessageCatalog
