import MessageCatalog.Exclusion.Pattern

/-! # Flags of patterns

How the parts of a pattern are read depends on flags, which a pattern may set for the rest of a
group, `(?i)`, or for a group, `(?i:…)`.  Without the flag `u` patterns only know ASCII classes,
and whatever could match half a character is refused.
-/

namespace MessageCatalog.Exclusion

/-- How a pattern is read. -/
structure Flags where
  /-- `i`: letters match in either case. -/
  foldCase : Bool := false
  /-- `s`: a dot also matches a line feed. -/
  dotAll : Bool := false
  /-- `m`: `^` and `$` also match at line ends. -/
  multiLine : Bool := false
  /-- `R`: a carriage return also ends a line. -/
  crlf : Bool := false
  /-- `u`: classes are those of Unicode. -/
  unicode : Bool := true
  /-- `x`: white space and comments between the parts of a pattern are ignored. -/
  spaced : Bool := false

namespace Flags

/-- Skip white space and comments; `inComment` says that one is open. -/
def skipBlanks (inComment : Bool) : List Char → List Char
  | [] => []
  | c :: cs =>
    if inComment then skipBlanks (c != '\n') cs
    else if Text.isBlank c then skipBlanks false cs
    else if c = '#' then skipBlanks true cs
    else c :: cs

/-- The text from the next part on. -/
def skip (f : Flags) (cs : List Char) : List Char := if f.spaced then skipBlanks false cs else cs

theorem length_skipBlanks_le (b : Bool) (cs : List Char) :
    (skipBlanks b cs).length ≤ cs.length := by
  induction cs generalizing b with
  | nil => simp [skipBlanks]
  | cons c cs ih =>
    rw [skipBlanks]
    split
    · exact Nat.le_succ_of_le (ih _)
    · split
      · exact Nat.le_succ_of_le (ih _)
      · split
        · exact Nat.le_succ_of_le (ih _)
        · exact Nat.le_refl _

theorem length_skip_le (f : Flags) (cs : List Char) : (f.skip cs).length ≤ cs.length := by
  rw [skip]
  split
  · exact length_skipBlanks_le _ _
  · exact Nat.le_refl _

/-- The set with the cases that the flags add. -/
def closed (f : Flags) (s : CharSet) : CharSet :=
  if f.foldCase then if f.unicode then s.caseClosed else s.asciiCaseClosed else s

/-- A set, unless it needs characters that the flags rule out. -/
def accept? (f : Flags) (s : CharSet) : Option CharSet :=
  if f.unicode || s.isAscii then some s else none

/-- The characters of words. -/
def word (f : Flags) : CharSet := if f.unicode then .word else .asciiWord

/-- What a dot stands for. -/
def dot (f : Flags) : Option CharSet :=
  if !f.unicode then none
  else if f.dotAll then some .all
  else if f.crlf then some fun c => c != '\n' && c != '\r'
  else some fun c => c != '\n'

/-- The condition that `^` stands for. -/
def caret (f : Flags) : Edge := if f.multiLine then .lineStart f.crlf else .textStart

/-- The condition that `$` stands for. -/
def dollar (f : Flags) : Edge := if f.multiLine then .lineEnd f.crlf else .textEnd

/-- The flags with one of them set. -/
def set? (f : Flags) (letter : Char) (on : Bool) : Option Flags :=
  match letter with
  | 'i' => some { f with foldCase := on }
  | 's' => some { f with dotAll := on }
  | 'm' => some { f with multiLine := on }
  | 'R' => some { f with crlf := on }
  | 'u' => some { f with unicode := on }
  | 'x' => some { f with spaced := on }
  | 'U' => some f
  | _ => none

/-- Read flags up to a colon or a closing parenthesis.  Each may stand there once, a hyphen
divides those set from those cleared, and one of them follows it.  `seen` holds what was read,
latest first. -/
def read (f : Flags) (seen : List Char) : List Char → Option (Flags × List Char × List Char)
  | [] => none
  | c :: cs =>
    if c = ':' || c = ')' then
      if seen.head? = some '-' then none else some (f, seen, c :: cs)
    else if seen.contains c then none
    else if c = '-' then read f (c :: seen) cs
    else match f.set? c (!seen.contains '-') with
      | some f => read f (c :: seen) cs
      | none => none

end Flags

end MessageCatalog.Exclusion
