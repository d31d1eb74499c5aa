import Mathlib.Data.List.DropRight
import MessageCatalog.Go.Token
import MessageCatalog.Proofs.AppendOnly
import MessageCatalog.Proofs.Grouping

/-! # Carets under characters

A place in a text is between what stands before it and what stands after it.  `Text.lineStart` and
`Text.lineRest` are the two parts of its line, and `Text.point` is its location by definition: line
breaks and bytes are counted.  Three other computations agree with it:

* places that move on one character at a time come to this location (`foldl_after_origin`);
* the source line with this number is the line around the place (`onLine_lineStart`);
* cutting that line at this column leaves the first of its parts (`Caret.cut_append`), also where
  the line is shown without the carriage return at its end, since the place is not behind it
  (`lineStart_prefix`).

So a warning shows the line around its place, and its caret stands under the character there. -/

namespace MessageCatalog

namespace Text

/-! ### The line around a place -/

/-- What stands on the line of a place before it: all behind the last newline. -/
def lineStart (before : List Char) : List Char := before.rtakeWhile (· ≠ '\n')

/-- What stands on the line of a place after it: all up to the first newline. -/
def lineRest (after : List Char) : List Char := after.takeWhile (· ≠ '\n')

/-- The location of a place: one more than the newlines before it, and one more than the bytes
before it on its line. -/
def point (before : List Char) : Location :=
  ⟨1 + before.count '\n', 1 + byteLength (lineStart before)⟩

/-- The place is directly behind a carriage return at the end of its line. -/
def BehindReturn (before after : List Char) : Prop :=
  before.getLast? = some '\r' ∧ (after = [] ∨ after.head? = some '\n')

/-- `line` is `raw` without one carriage return at its end. -/
def LessReturn (raw line : List Char) : Prop :=
  raw = line ++ ['\r'] ∨ raw = line ∧ raw.getLast? ≠ some '\r'

theorem lineStart_concat (before : List Char) (c : Char) :
    lineStart (before ++ [c]) = if c = '\n' then [] else lineStart before ++ [c] := by
  by_cases h : c = '\n' <;> simp [lineStart, h]

theorem lineRest_cons (c : Char) (after : List Char) :
    lineRest (c :: after) = if c = '\n' then [] else c :: lineRest after := by
  by_cases h : c = '\n' <;> simp [lineRest, h]

theorem exists_lineStart (before : List Char) : ∃ front, before = front ++ lineStart before ∧
    (front = [] ∨ ∃ above, front = above ++ ['\n']) := by
  induction before using List.reverseRecOn with
  | nil => exact ⟨[], rfl, .inl rfl⟩
  | append_singleton before c ih =>
    rw [lineStart_concat]
    split
    · next h => exact ⟨before ++ ['\n'], by rw [h, List.append_nil], .inr ⟨before, rfl⟩⟩
    · obtain ⟨front, hbefore, hfront⟩ := ih
      exact ⟨front, by rw [← List.append_assoc, ← hbefore], hfront⟩

theorem exists_lineRest (after : List Char) : ∃ back, after = lineRest after ++ back ∧
    (back = [] ∨ ∃ below, back = '\n' :: below) := by
  induction after with
  | nil => exact ⟨[], rfl, .inl rfl⟩
  | cons c after ih =>
    rw [lineRest_cons]
    split
    · next h => exact ⟨'\n' :: after, by rw [h, List.nil_append], .inr ⟨after, rfl⟩⟩
    · obtain ⟨back, hafter, hback⟩ := ih
      exact ⟨back, by rw [List.cons_append, ← hafter], hback⟩

theorem newline_not_mem_lineStart (before : List Char) : '\n' ∉ lineStart before :=
  fun h => by simpa using List.mem_rtakeWhile_imp h

theorem newline_not_mem_lineRest (after : List Char) : '\n' ∉ lineRest after :=
  fun h => by simpa using List.mem_takeWhile_imp h

/-- The two parts of a line stand on the line with the number of the place. -/
theorem onLine_lineStart (before after : List Char) :
    OnLine (before ++ after) (point before).line (lineStart before ++ lineRest after) := by
  obtain ⟨front, hbefore, hfront⟩ := exists_lineStart before
  obtain ⟨back, hafter, hback⟩ := exists_lineRest after
  have hstart := newline_not_mem_lineStart before
  refine ⟨by simp [hstart, newline_not_mem_lineRest], front, back, ?_, ?_, hfront, hback⟩
  · calc before ++ after = (front ++ lineStart before) ++ (lineRest after ++ back) := by
          rw [← hbefore, ← hafter]
      _ = front ++ (lineStart before ++ lineRest after) ++ back := by simp
  · have hcount : before.count '\n' = front.count '\n' := by
      conv_lhs => rw [hbefore]
      rw [List.count_append, List.count_eq_zero_of_not_mem hstart, Nat.add_zero]
    rw [point, hcount, Nat.add_comm]

/-- Where a place is not behind the carriage return of its line, what stands before it on the
line is shown. -/
theorem lineStart_prefix {before after line : List Char} (h : ¬ BehindReturn before after)
    (hline : LessReturn (lineStart before ++ lineRest after) line) : lineStart before <+: line := by
  rcases hline with hline | ⟨rfl, _⟩
  · rcases List.eq_nil_or_concat' (lineRest after) with hrest | ⟨rest, c, hrest⟩
    · -- the carriage return would stand before the place
      rw [hrest, List.append_nil] at hline
      refine absurd ⟨?_, ?_⟩ h
      · obtain ⟨front, hbefore, _⟩ := exists_lineStart before
        rw [hbefore, hline, ← List.append_assoc, List.getLast?_concat]
      · obtain ⟨back, hafter, rfl | ⟨below, rfl⟩⟩ := exists_lineRest after
        · exact .inl (by rw [hafter, hrest, List.append_nil])
        · exact .inr (by rw [hafter, hrest]; rfl)
    · rw [hrest, ← List.append_assoc] at hline
      exact ⟨rest, (List.append_inj' hline rfl).1⟩
  · exact List.prefix_append _ _

end Text

/-- Places that move on through a text come to the location that is counted. -/
theorem Go.Place.foldl_after_origin (before : List Char) :
    before.foldl Go.Place.after Go.Place.origin =
      ⟨Text.byteLength before, Text.point before⟩ := by
  induction before using List.reverseRecOn with
  | nil => rfl
  | append_singleton before c ih =>
    rw [List.foldl_concat, ih, Go.Place.after, Text.point, Text.point, Text.lineStart_concat,
      Text.byteLength_append, List.count_append]
    by_cases h : c = '\n'
    · simp [h, Nat.add_assoc]
    · simp [h, Text.byteLength_append, Nat.add_assoc]

/-! ### Cutting a line at a column -/

theorem Text.isBoundary_append (before after : List Char) :
    Text.isBoundary (Text.byteLength before) (before ++ after) = true := by
  induction before with
  | nil => rw [Text.byteLength_nil, Text.isBoundary]
  | cons c before ih =>
    have hc := c.utf8Size_pos
    obtain ⟨n, hn⟩ : ∃ n, c.utf8Size + Text.byteLength before = n + 1 :=
      Nat.exists_eq_add_one.2 (by omega)
    have hrest : n + 1 - c.utf8Size = Text.byteLength before := by omega
    rw [Text.byteLength_cons, List.cons_append, hn, Text.isBoundary, hrest, ih, Bool.and_true,
      decide_eq_true_eq]
    omega

theorem Text.floorBoundary_of_isBoundary {n : Nat} {cs : List Char}
    (h : Text.isBoundary n cs = true) : Text.floorBoundary cs n = n := by
  cases n with
  | zero => rfl
  | succ n => rw [Text.floorBoundary, if_pos h]

theorem Caret.cut_append (before after : List Char) :
    Caret.cut (before ++ after) (1 + Text.byteLength before) = before := by
  have hmin : min (Text.byteLength before) (Text.byteLength (before ++ after)) =
      Text.byteLength before := by
    rw [Text.byteLength_append]
    omega
  rw [cut, Nat.add_sub_cancel_left, hmin,
    Text.floorBoundary_of_isBoundary (Text.isBoundary_append before after), Text.takeBytes_append]

/-! ### Warnings about places of a source -/

/-- The line around a place of a source is the one that is found by its number. -/
theorem SourceCache.exists_lineAt? {source : String} {before after : List Char}
    (hsource : source.toList = before ++ after) :
    ∃ line, Text.LessReturn (Text.lineStart before ++ Text.lineRest after) line ∧
      lineAt? (splitLines source) (Text.point before).line = some (String.ofList line) := by
  have honLine := Text.onLine_lineStart before after
  rw [← hsource] at honLine
  generalize Text.lineStart before ++ Text.lineRest after = raw at honLine ⊢
  have hless : Text.LessReturn raw (Text.dropFinal '\r' raw) := Text.dropFinal_eq_iff.1 rfl
  refine ⟨_, hless, lineAt?_splitLines_eq_some_iff.2 ⟨raw, honLine, ?_⟩⟩
  rw [String.toList_ofList]
  exact hless

namespace Diagnostic

/-- The text of a warning, without colour, about the place behind `before`, where `line` is the
line that is shown. -/
def warningText (width : Char → Nat) (before line : List Char) (d : Diagnostic) : String :=
  String.join
    ["WARNING: " ++ d.problem.message ++ "\n",
      d.position.file ++ ":" ++ (1 + before.count '\n').repr ++ ":" ++
        (1 + Text.byteLength (Text.lineStart before)).repr ++ ":" ++ "\n",
      String.ofList line ++ "\n",
      String.ofList ((Text.lineStart before).flatMap fun c =>
        if c = '\t' then ['\t'] else List.replicate (width c) ' ') ++ "^" ++ "\n"]

variable {before line : List Char} {lines : List String}

theorem excerpt_eq {p : Position} (hlocation : p.location = Text.point before)
    (hline : lineAt? lines (Text.point before).line = some (String.ofList line))
    (hstart : Text.lineStart before <+: line) (width : Char → Nat) :
    excerpt false width lines p = String.ofList line ++ "\n" ++
      (String.ofList ((Text.lineStart before).flatMap (Caret.pad width)) ++ "^" ++ "\n") := by
  have hpadding : Caret.padding width line (Text.point before).column =
      (Text.lineStart before).flatMap (Caret.pad width) := by
    obtain ⟨rest, rfl⟩ := hstart
    rw [Caret.padding, Text.point, Caret.cut_append]
  simp only [excerpt, hlocation, hline, String.toList_ofList, hpadding]
  rfl

theorem rendering_eq_warningText {d : Diagnostic} (hwarning : d.problem.severity = .warning)
    (hlocation : d.position.location = Text.point before)
    (hline : lineAt? lines (Text.point before).line = some (String.ofList line))
    (hstart : Text.lineStart before <+: line) (width : Char → Nat) :
    d.rendering false width lines = d.warningText width before line := by
  have hlabel : Reporter.label false .warning ++ " " = "WARNING: " := rfl
  have hpad : (fun c => if c = '\t' then ['\t'] else List.replicate (width c) ' ') =
      Caret.pad width := rfl
  rw [rendering, hwarning, hlabel, warningText, hpad, Position.render, Location.render]
  simp only [excerpt_eq hlocation hline hstart, hlocation, Text.point, String.join,
    List.foldl_cons, List.foldl_nil, String.append_assoc, String.empty_append]

end Diagnostic

/-- A warning that is located at a place of a source, in a file whose lines were first taken from
that source, shows the line around the place with the caret under the character there.  Whatever
was asked of the cache and happened to the files since, and however wide the characters are, the
report succeeds, if the stream has room, and it writes exactly four lines. -/
theorem Reporter.caret_is_under_place {source : String} {before after : List Char}
    (hsource : source.toList = before ++ after) (hreturn : ¬ Text.BehindReturn before after)
    {d : Diagnostic} (hwarning : d.problem.severity = .warning)
    (hlocation : d.position.location = Text.point before)
    {cache : SourceCache} (hnew : cache.contains d.position.file = false) (files : Disk)
    (ops : List SourceCache.Operation) {r : Reporter} (hcolor : r.color = false)
    (hcache : r.cache =
      (SourceCache.Scene.after ⟨cache.insert d.position.file source, files⟩ ops).cache)
    (disk : Disk) :
    before.foldl Go.Place.after Go.Place.origin = ⟨Text.byteLength before, d.position.location⟩ ∧
    ∃ line, Text.LessReturn (Text.lineStart before ++ Text.lineRest after) line ∧
      (r.stream.fits (d.warningText r.width before line) = true →
        r.report disk d = .ok (r.after [d.warningText r.width before line])) := by
  refine ⟨by rw [Go.Place.foldl_after_origin, hlocation], ?_⟩
  obtain ⟨line, hless, hline⟩ := SourceCache.exists_lineAt? hsource
  have hcached : r.cache.files.get? d.position.file = some (SourceCache.splitLines source) := by
    rw [SourceCache.contains_eq_isSome, Option.isSome_eq_false_iff, Option.isNone_iff_eq_none]
      at hnew
    rw [hcache]
    exact SourceCache.Scene.get?_after_of_cached (SourceCache.get?_insert_self hnew source) ops
  have hrendering := Diagnostic.rendering_eq_warningText hwarning hlocation hline
    (Text.lineStart_prefix hreturn hless) r.width
  refine ⟨line, hless, fun hroom => ?_⟩
  rw [← hrendering, ← hcolor] at hroom ⊢
  exact r.report_of_fits hcached hroom disk

/-- The first characters of a source with a wide character and one without a width of its own. -/
def wideBefore : List Char := ['a', '\r', '\n', '\t', '日', 'e', '\u0301']

/-- The other characters of that source. -/
def wideAfter : List Char := ['(', ')', '\r', '\n']

/-- A reporter that was given that source, then another text for the same file. -/
def wideReporter : Reporter where
  stream := Stream.upTo 64
  cache := ((SourceCache.new false).insert "a.go" (String.ofList (wideBefore ++ wideAfter))).insert
    "a.go" "x"
  color := false
  width := fun c => if c = '日' then 2 else if c = '\u0301' then 0 else 1
  reported := 0

/-- A tab, a wide character, a letter and an accent take a tab and three columns. -/
theorem Reporter.caret_is_under_bracket :
    ¬ Text.BehindReturn wideBefore wideAfter ∧ Text.point wideBefore = ⟨2, 8⟩ ∧
    ∃ r, wideReporter.report (fun _ => .ok "y") ⟨.noArgument, ⟨"a.go", ⟨2, 8⟩⟩⟩ = .ok r ∧
      r.stream.text =
        "WARNING: no argument in function call\na.go:2:8:\n\t日e\u0301()\n\t   ^\n" := by
  have hreturn : ¬ Text.BehindReturn wideBefore wideAfter := by
    rintro ⟨h, _⟩
    exact absurd h (by decide)
  have hpoint : Text.point wideBefore = ⟨2, 8⟩ := by decide
  obtain ⟨_, line, hless, hreport⟩ := caret_is_under_place
    (String.toList_ofList (l := wideBefore ++ wideAfter)) hreturn
    (d := ⟨.noArgument, ⟨"a.go", ⟨2, 8⟩⟩⟩) rfl hpoint.symm rfl (fun _ => .ok "y")
    [.insert "a.go" "x"] (r := wideReporter) rfl rfl (fun _ => .ok "y")
  have hraw : Text.lineStart wideBefore ++ Text.lineRest wideAfter =
      ['\t', '日', 'e', '\u0301', '(', ')'] ++ ['\r'] := by decide
  have hline : line = ['\t', '日', 'e', '\u0301', '(', ')'] := by
    rcases hless with hless | ⟨_, hless⟩
    · exact List.append_cancel_right (hless.symm.trans hraw)
    · exact absurd (by rw [hraw]; rfl) hless
  subst hline
  exact ⟨hreturn, hpoint, _, hreport (by decide), by decide⟩

end MessageCatalog
