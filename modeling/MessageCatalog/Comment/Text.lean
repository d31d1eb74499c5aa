import MessageCatalog.Text.Blank

/-! # The text of comments

`commentText` turns the comments of a group into lines of text.

* A line comment loses its marker and one space after it; a line comment that directs a tool
  (`//go:generate`, `//line 10`) is left out.
* A block comment loses its two markers.
* Lines lose the white space at their end.  No blank line is kept at either end of the text,
  and one is kept of several in a row.
-/

namespace MessageCatalog

namespace Comment

/-- A lowercase ASCII letter or a digit. -/
def isDirectiveChar (c : Char) : Bool := c.isLower || c.isDigit

/-- The text after the marker of a line comment directs a tool. -/
def isDirective (text : List Char) : Bool :=
  ["line ", "extern ", "export "].any (·.toList.isPrefixOf text) ||
    let word := text.takeWhile (· ≠ ':')
    match text.dropWhile (· ≠ ':') with
    | _ :: c :: _ => !word.isEmpty && word.all isDirectiveChar && isDirectiveChar c
    | _ => false

/-- A line comment's text without one leading space. -/
def dropSpace : List Char → List Char
  | ' ' :: cs => cs
  | cs => cs

/-- A block comment without its two markers. -/
def dropMarkers : List Char → List Char
  | '/' :: '*' :: rest =>
    if ['/', '*'].isPrefixOf rest.reverse then rest.dropLast.dropLast else '/' :: '*' :: rest
  | comment => comment

/-- The lines of a text, without the white space at their ends. -/
def textLines (body : List Char) : List (List Char) := (body.splitOn '\n').map Text.trimEnd

/-- The lines of one comment. -/
def rawLines : List Char → List (List Char)
  | '/' :: '/' :: body => if isDirective body then [] else textLines (dropSpace body)
  | comment => textLines (dropMarkers comment)

/-- Drop every blank line that follows a blank line; `blank` tells whether one stands before. -/
def collapse : Bool → List (List Char) → List (List Char)
  | _, [] => []
  | blank, l :: ls =>
    if l.isEmpty && blank then collapse blank ls else l :: collapse l.isEmpty ls

/-- Drop the blank lines at the end. -/
def dropFinalBlanks (ls : List (List Char)) : List (List Char) :=
  (ls.reverse.dropWhile List.isEmpty).reverse

/-- Drop blank lines at both ends and all but one of several in a row. -/
def normalizeBlanks (ls : List (List Char)) : List (List Char) := dropFinalBlanks (collapse true ls)

end Comment

/-- The text lines of a group of comments. -/
def commentText (comments : List (List Char)) : List String :=
  (Comment.normalizeBlanks (comments.flatMap Comment.rawLines)).map String.ofList

end MessageCatalog
