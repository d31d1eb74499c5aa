import MessageCatalog.Comment.Group
import MessageCatalog.Text.Search

/-! # What a comment means for the call below it

The group that ends right above a call may hold a note for the reader of the template, which
starts at the first line with a chosen keyword, or a marker that takes the call out of the
catalog.  Without a keyword comments mean nothing.
-/

namespace MessageCatalog

/-- What the comments above a call mean for it. -/
inductive Association where
  /-- Nothing. -/
  | none
  /-- The call is to be left out. -/
  | ignored
  /-- A note for the reader of the template. -/
  | note (lines : List String)
deriving DecidableEq, Repr

/-- The keyword that starts a note and the marker that takes a call out. -/
structure Associator where
  keyword : String
  marker : String
deriving DecidableEq, Repr, Inhabited

namespace Associator

/-- Comments are looked at. -/
def isEnabled (a : Associator) : Bool := !a.keyword.isEmpty

/-- The line contains the marker. -/
def isMarked (a : Associator) (line : String) : Bool :=
  !a.marker.isEmpty && Text.occursIn a.marker.toList line.toList

/-- The line starts with the keyword. -/
def isSelected (a : Associator) (line : String) : Bool := a.keyword.toList.isPrefixOf line.toList

/-- What the lines of a group mean. -/
def select (a : Associator) (lines : List String) : Association :=
  if lines.any a.isMarked then .ignored
  else match lines.dropWhile fun l => !a.isSelected l with
    | [] => .none
    | note => .note note

/-- What the group right above a line means for a call on that line. -/
def associate (a : Associator) (comments : FileComments) (line : Nat) : Association :=
  if a.isEnabled then match comments.preceding line with
    | some group => a.select group.lines
    | none => .none
  else .none

end Associator

end MessageCatalog
