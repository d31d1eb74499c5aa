import MessageCatalog.Proofs.SortedMap
import MessageCatalog.Report.Reporter

/-! # What a report writes

`Diagnostic.rendering` is the text of a report, given the lines of the source.  Where the file of
a diagnostic is cached and the stream has room for this text, a report writes it, counts one and
changes nothing else (`report_of_fits`); it does not read the disk. -/

namespace MessageCatalog

/-! ### Streams with room -/

namespace Stream

/-- The stream takes everything. -/
def IsOpen (s : Stream) : Prop := s.limit = none ∧ s.full = false

theorem fits_of_isOpen {s : Stream} (h : s.IsOpen) (text : String) : s.fits text = true := by
  rw [fits, h.1, h.2]
  rfl

/-- A stream with room for two texts has room for the first, and then for the second. -/
theorem fits_append {s : Stream} {a b : String} (h : s.fits (a ++ b) = true) :
    s.fits a = true ∧ ({ s with text := s.text ++ a } : Stream).fits b = true := by
  simp only [fits, Bool.and_eq_true] at h ⊢
  cases hl : s.limit with
  | none => exact ⟨⟨h.1, rfl⟩, h.1, rfl⟩
  | some n =>
    simp only [hl, String.utf8ByteSize_append, decide_eq_true_eq] at h ⊢
    exact ⟨⟨h.1, by omega⟩, h.1, by omega⟩

end Stream

namespace Reporter

/-- The reporter after texts have been written for as many diagnostics. -/
def after (r : Reporter) (texts : List String) : Reporter :=
  { r with
    stream := { r.stream with text := r.stream.text ++ String.join texts }
    reported := r.reported + texts.length }

/-- The end of a run: the reporter, or the failure that stops the run. -/
def ending (r : Reporter) : Option Failure → Except Aborted Reporter
  | some failure => .error ⟨failure, r⟩
  | none => .ok r

@[simp] theorem after_nil (r : Reporter) : r.after [] = r := by simp [after]

@[simp] theorem after_after (r : Reporter) (a b : List String) :
    (r.after a).after b = r.after (a ++ b) := by
  simp [after, String.append_assoc, Nat.add_assoc]

/-- The reporter after a text has been written. -/
def put (r : Reporter) (text : String) : Reporter :=
  { r with stream := { r.stream with text := r.stream.text ++ text } }

theorem cache_put (r : Reporter) (text : String) : (r.put text).cache = r.cache := rfl

theorem put_put (r : Reporter) (a b : String) : (r.put a).put b = r.put (a ++ b) := by
  simp [put, String.append_assoc]

theorem writeLine_of_fits {r : Reporter} {line : String} (h : r.stream.fits (line ++ "\n") = true) :
    r.writeLine line = .ok (r.put (line ++ "\n")) := by
  simp only [writeLine, h, ↓reduceIte, Stream.write, put]

theorem showLine_of_fits {r : Reporter} {line : String} {column : Nat}
    (h : r.stream.fits (line ++ "\n" ++
      (String.ofList (Caret.padding r.width line.toList column) ++ caret r.color ++ "\n")) = true) :
    r.showLine line column = .ok (r.put (line ++ "\n" ++
      (String.ofList (Caret.padding r.width line.toList column) ++ caret r.color ++ "\n"))) := by
  obtain ⟨hline, hcaret⟩ := Stream.fits_append h
  simp only [showLine, bind, Except.bind]
  rw [writeLine_of_fits hline]
  simp only
  rw [writeLine_of_fits (by exact hcaret), put_put]
  rfl

end Reporter

/-! ### Reports -/

/-- A line, counted from one. -/
def lineAt? (lines : List String) : Nat → Option String
  | 0 => none
  | n + 1 => lines[n]?

theorem SourceCache.cachedLine_eq {c : SourceCache} {path : String} {lines : List String}
    (h : c.files.get? path = some lines) (n : Nat) : c.cachedLine path n = lineAt? lines n := by
  cases n with
  | zero => rfl
  | succ n => rw [cachedLine, h, lineAt?, Option.bind_some]

theorem SourceCache.line_of_cached {c : SourceCache} {path : String} {lines : List String}
    (h : c.files.get? path = some lines) (disk : Disk) (n : Nat) :
    c.line disk path n = .ok (lineAt? lines n, c) := by
  have hc : c.contains path = true := by
    rw [contains, SortedMap.contains, h]
    rfl
  rw [line, if_pos hc, cachedLine_eq h]

namespace Diagnostic

/-- The source line of a diagnostic and the caret under its column, if there is such a line. -/
def excerpt (color : Bool) (width : Char → Nat) (lines : List String) (p : Position) : String :=
  match lineAt? lines p.location.line with
  | some line => line ++ "\n" ++
      (String.ofList (Caret.padding width line.toList p.location.column) ++
        Reporter.caret color ++ "\n")
  | none => ""

/-- The text of a report: label and message, the position and, for a warning, the source line
with a caret. -/
def rendering (color : Bool) (width : Char → Nat) (lines : List String) (d : Diagnostic) :
    String :=
  Reporter.label color d.problem.severity ++ " " ++ d.problem.message ++ "\n" ++
    (d.position.render ++ ":" ++ "\n") ++
    match d.problem.severity with
    | .note => ""
    | .warning => excerpt color width lines d.position

end Diagnostic

namespace Reporter

/-- A report about a cached file to a stream with room for its text writes this text and does
nothing else. -/
theorem report_of_fits {r : Reporter} {d : Diagnostic} {lines : List String}
    (hc : r.cache.files.get? d.position.file = some lines)
    (hroom : r.stream.fits (d.rendering r.color r.width lines) = true) (disk : Disk) :
    r.report disk d = .ok (r.after [d.rendering r.color r.width lines]) := by
  have hafter : ∀ text, put { r with reported := r.reported + 1 } text = r.after [text] := by
    simp [put, after]
  rw [← hafter]
  obtain ⟨hheading, hexcerpt⟩ := Stream.fits_append hroom
  obtain ⟨hlabel, hposition⟩ := Stream.fits_append hheading
  unfold report
  simp only [bind, Except.bind, pure, Except.pure, Diagnostic.rendering]
  rw [writeLine_of_fits (by exact hlabel)]
  simp only
  rw [writeLine_of_fits (by exact hposition), put_put]
  generalize label r.color d.problem.severity ++ " " ++ d.problem.message ++ "\n" ++
    (d.position.render ++ ":" ++ "\n") = heading at hexcerpt ⊢
  cases hs : d.problem.severity with
  | note => rw [String.append_empty]
  | warning =>
    simp only [hs, cache_put, SourceCache.line_of_cached hc, Diagnostic.excerpt] at hexcerpt ⊢
    cases hline : lineAt? lines d.position.location.line with
    | none => simp only [put, String.append_empty]
    | some line =>
      simp only [hline] at hexcerpt ⊢
      rw [showLine_of_fits (by exact hexcerpt)]
      exact congrArg Except.ok (put_put _ heading _)

/-- A report about a cached file to a stream without a limit writes its text and does nothing
else. -/
theorem report_of_cached {r : Reporter} (ho : r.stream.IsOpen) {d : Diagnostic}
    {lines : List String} (hc : r.cache.files.get? d.position.file = some lines) (disk : Disk) :
    r.report disk d = .ok (r.after [d.rendering r.color r.width lines]) :=
  report_of_fits hc (Stream.fits_of_isOpen ho _) disk

end Reporter

end MessageCatalog
