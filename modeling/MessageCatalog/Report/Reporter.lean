import MessageCatalog.Diagnostic
import MessageCatalog.Report.Cache
import MessageCatalog.Report.Caret

/-! # Reporting diagnostics

A report is two lines, the label with the message and the position.  A warning is followed by
the source line and a caret under the place that it is about, if that line is known.

A stream takes lines of text up to a limit; after a line that does not fit it takes no more.
-/

namespace MessageCatalog

/-- A stream of text that may be full. -/
structure Stream where
  /-- What has been written. -/
  text : String
  /-- How many bytes the stream takes, if there is a limit. -/
  limit : Option Nat
  /-- A line did not fit. -/
  full : Bool
deriving DecidableEq, Repr

namespace Stream

/-- A stream that takes everything. -/
def unlimited : Stream := ⟨"", none, false⟩

/-- A stream that takes at most `n` bytes. -/
def upTo (n : Nat) : Stream := ⟨"", some n, false⟩

/-- The stream has room for the text. -/
def fits (s : Stream) (text : String) : Bool :=
  !s.full && match s.limit with
    | some n => s.text.utf8ByteSize + text.utf8ByteSize ≤ n
    | none => true

/-- Write a text, if it fits. -/
def write (s : Stream) (text : String) : Stream :=
  if s.fits text then { s with text := s.text ++ text } else { s with full := true }

end Stream

/-- Where diagnostics go, and how they look. -/
structure Reporter where
  stream : Stream
  cache : SourceCache
  /-- Colour labels and carets. -/
  color : Bool
  /-- The number of columns that a character takes. -/
  width : Char → Nat
  /-- How many diagnostics have been reported. -/
  reported : Nat

/-- A failure, and the reporter as it was then. -/
structure Aborted where
  failure : Failure
  reporter : Reporter

namespace Reporter

/-- A reporter that has reported nothing, without colour. -/
def new (stream : Stream) (cache : SourceCache) (width : Char → Nat) : Reporter :=
  ⟨stream, cache, false, width, 0⟩

/-- A text in a terminal style. -/
def styled (style text : String) : String := "\x1b[" ++ style ++ "m" ++ text ++ "\x1b[0m"

/-- The label of a report. -/
def label (color : Bool) (severity : Severity) : String :=
  let text := severity.label ++ ":"
  if color then match severity with
    | .warning => styled "1;33" text
    | .note => styled "1;36" text
  else text

/-- The caret of a report. -/
def caret (color : Bool) : String := if color then styled "33" "^" else "^"

/-- Write a line, or fail if it does not fit. -/
def writeLine (r : Reporter) (line : String) : Except Aborted Reporter :=
  let text := line ++ "\n"
  let r' := { r with stream := r.stream.write text }
  if r.stream.fits text then .ok r' else .error ⟨.stream "stream full", r'⟩

/-- Write the source line of a position and a caret under its column. -/
def showLine (r : Reporter) (line : String) (column : Nat) : Except Aborted Reporter := do
  let r ← r.writeLine line
  r.writeLine (String.ofList (Caret.padding r.width line.toList column) ++ caret r.color)

/-- Report a diagnostic.  Failed reports are counted too. -/
def report (r : Reporter) (disk : Disk) (d : Diagnostic) : Except Aborted Reporter := do
  let r := { r with reported := r.reported + 1 }
  let severity := d.problem.severity
  let r ← r.writeLine (label r.color severity ++ " " ++ d.problem.message)
  let r ← r.writeLine (d.position.render ++ ":")
  match severity with
  | .note => return r
  | .warning => match r.cache.line disk d.position.file d.position.location.line with
    | .ok (some line, cache) => showLine { r with cache := cache } line d.position.location.column
    | .ok (none, cache) => return { r with cache := cache }
    | .error failure => .error ⟨failure, r⟩

end Reporter

end MessageCatalog
