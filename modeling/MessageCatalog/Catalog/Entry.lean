import MessageCatalog.Literal.Quote
import MessageCatalog.Match.Index

/-! # Entries

An entry is the outcome for one requested position.  An entry with a text is written as a block
of a message template: its note for the reader of the template, its position, the message and an
empty text to be filled in.
-/

namespace MessageCatalog

/-- The outcome for one requested position. -/
structure Entry where
  position : Position
  /-- The message, if one was found. -/
  text : Option String
  state : MatchState
  /-- The note for the reader of the template, if there is one. -/
  comment : Option (List String)
deriving DecidableEq, Repr

namespace Entry

/-- A message was found. -/
def found (position : Position) (text : String) (comment : Option (List String)) : Entry :=
  ⟨position, some text, .found, comment⟩

/-- No message was found. -/
def notFound (position : Position) : Entry := ⟨position, none, .notFound, none⟩

/-- The call is to be left out. -/
def ignored (position : Position) : Entry := ⟨position, none, .ignored, none⟩

/-- The message as it is written in the template. -/
def msgid (e : Entry) : Option String := e.text.map Literal.quote

/-- A line of a note in the template. -/
def commentLine (line : String) : String := if line.isEmpty then "#." else "#. " ++ line

/-- The lines of the note, without blank lines at its end. -/
def noteLines (e : Entry) : List String :=
  ((e.comment.getD []).reverse.dropWhile String.isEmpty).reverse

/-- The lines of the block of a message. -/
def blockLines (e : Entry) (msgid : String) : List String :=
  e.noteLines.map commentLine ++
    ["#: " ++ e.position.render, "msgid " ++ msgid, "msgstr \"\""]

/-- The block of an entry with a text. -/
def block (e : Entry) : Option String :=
  e.msgid.map fun msgid => String.join ((e.blockLines msgid).map (· ++ "\n"))

end Entry

end MessageCatalog
