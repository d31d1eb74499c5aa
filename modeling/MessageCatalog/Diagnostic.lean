import MessageCatalog.Literal.Decode
import MessageCatalog.Position

/-! # Diagnostics

A diagnostic is a problem with one call site, and where it is.  It does not stop an
extraction: the call site gives no message, and the next one is looked at.
-/

namespace MessageCatalog

/-- How a diagnostic is labelled. -/
inductive Severity where
  | warning
  | note
deriving DecidableEq, Repr

namespace Severity

/-- The label of a severity. -/
def label : Severity → String
  | warning => "WARNING"
  | note => "NOTE"

end Severity

/-- An expression that names a value instead of spelling it out. -/
inductive Reference where
  | identifier
  | selector
  | call
deriving DecidableEq, Repr

namespace Reference

/-- A reference in words. -/
def describe : Reference → String
  | identifier => "identifier"
  | selector => "selector expression"
  | call => "call expression"

end Reference

/-- What is wrong with a call site. -/
inductive Problem where
  /-- The call has no argument. -/
  | noArgument
  /-- The argument names a value. -/
  | notALiteral (reference : Reference)
  /-- The argument is an expression of some other kind. -/
  | unhandledExpression (kind : String)
  /-- The argument is a literal without a value. -/
  | malformedLiteral (error : LiteralError)
  /-- The comment above the call holds the marker. -/
  | ignored (marker : String)
deriving DecidableEq, Repr

namespace Problem

/-- Ignored calls are noted, all else is a warning. -/
def severity : Problem → Severity
  | ignored _ => .note
  | _ => .warning

/-- The wording of a problem. -/
def message : Problem → String
  | noArgument => "no argument in function call"
  | notALiteral reference => "argument not a string literal (" ++ reference.describe ++ ")"
  | unhandledExpression kind => "unhandled argument expression (" ++ kind ++ ")"
  | malformedLiteral error => "malformed string literal: " ++ error.message
  | ignored marker => "call ignored, preceding comment contains " ++ marker

end Problem

/-- A problem and its position. -/
structure Diagnostic where
  problem : Problem
  position : Position
deriving DecidableEq, Repr

end MessageCatalog
