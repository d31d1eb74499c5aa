import MessageCatalog.Literal.Chain

/-! # Failures of an extraction

What stops a whole extraction, as opposed to a problem with one call site, which is only
reported.  Each failure is a cause; `Failure.message` gives its wording.
-/

namespace MessageCatalog

/-- Why a file cannot be read as text. -/
inductive ReadFault where
  /-- There is no such file. -/
  | missing
  /-- The path names a directory. -/
  | directory
  /-- The content is not UTF-8. -/
  | notText
  /-- Any other reason, in the words of the system. -/
  | other (reason : String)
deriving DecidableEq, Repr

namespace ReadFault

/-- The wording of a read fault. -/
def message : ReadFault → String
  | missing => "No such file or directory (os error 2)"
  | directory => "Is a directory (os error 21)"
  | notText => "stream did not contain valid UTF-8"
  | other reason => reason

end ReadFault

/-- How files are read: the text of a path, or why it has none. -/
abbrev Disk := String → Except ReadFault String

/-- What stops an extraction. -/
inductive Failure where
  /-- A call site whose position cannot be read. -/
  | position (error : PositionError)
  /-- A file that cannot be read. -/
  | read (path : String) (fault : ReadFault)
  /-- A source that is not Go. -/
  | unparsable (position : Position)
  /-- A chain joined by something other than `+`. -/
  | notAnAddition (position : Position) (operator : String)
  /-- A chain with an operand that is not a literal. -/
  | unhandledOperand (position : Position) (kind : String)
  /-- Diagnostics cannot be written. -/
  | stream (reason : String)
deriving DecidableEq, Repr

namespace Failure

/-- The wording of a failure. -/
def message : Failure → String
  | position (.form text) => "pos not in /path/to/file.go:line:column format: " ++ text
  | position (.number text) => text ++ ": invalid number in position"
  | read path fault => path ++ ": " ++ fault.message
  | unparsable p => p.render ++ ": syntax error"
  | notAnAddition p operator => p.render ++ ": not an add operation (" ++ operator ++ ")"
  | unhandledOperand p kind => p.render ++ ": unhandled expression type " ++ kind
  | stream reason => "failed to write diagnostics: " ++ reason

/-- The failure is about the shape of an argument, not about the input files. -/
def isInternal : Failure → Bool
  | notAnAddition .. | unhandledOperand .. => true
  | _ => false

end Failure

end MessageCatalog
