import MessageCatalog.Comment.Text
import MessageCatalog.Go.Cursor
import MessageCatalog.Order
import MessageCatalog.Text.Bytes

/-! # Groups of comments

Comments that stand together form a group: between two comments of a group there is only white
space, with at most one line break.  A group whose first comment trails code on its line stays
on that line.  The groups of a file are kept by the line that they end on, which is how the
group right above a call is found.
-/

namespace MessageCatalog

/-- A comment, its markers included, and the stretch that it covers. -/
structure Comment where
  start : Go.Place
  stop : Go.Place
  text : List Char
deriving DecidableEq, Repr

/-- A group of comments as text. -/
structure CommentGroup where
  /-- The line that the first comment starts on. -/
  startLine : Nat
  /-- The line that the last comment ends on. -/
  endLine : Nat
  /-- The text of the comments. -/
  lines : List String
deriving DecidableEq, Repr

/-- Comments that stand together: the first, those after it, and whether code stands before the
first on its line. -/
structure CommentRun where
  first : Comment
  more : List Comment
  trailing : Bool
deriving DecidableEq, Repr

namespace Comment

/-- The comment of a node. -/
def ofNode (source : List Char) (n : Go.Node) : Comment :=
  ⟨n.start, n.stop, Text.slice n.start.offset n.stop.offset source⟩

/-- Something other than white space stands before the comment on its line. -/
def trailsCode (source : List Char) (c : Comment) : Bool :=
  let before := Text.takeBytes c.start.offset source
  !(before.reverse.takeWhile (· ≠ '\n')).all Text.isBlank

end Comment

namespace CommentRun

/-- The run of one comment. -/
def single (source : List Char) (c : Comment) : CommentRun := ⟨c, [], c.trailsCode source⟩

/-- All comments of the run. -/
def comments (r : CommentRun) : List Comment := r.first :: r.more

/-- The last comment of the run. -/
def last (r : CommentRun) : Comment := r.more.getLast?.getD r.first

/-- How many line breaks may stand between two comments of the run. -/
def maxBreaks (r : CommentRun) : Nat := if r.trailing then 0 else 1

/-- The text from the end of the run to a later comment. -/
def gap (source : List Char) (r : CommentRun) (c : Comment) : List Char :=
  Text.slice r.last.stop.offset c.start.offset source

/-- The comment that comes next belongs to the run. -/
def accepts (source : List Char) (r : CommentRun) (c : Comment) : Bool :=
  (r.gap source c).all Text.isBlank && (r.gap source c).count '\n' ≤ r.maxBreaks

/-- The run with one more comment. -/
def push (r : CommentRun) (c : Comment) : CommentRun := { r with more := r.more ++ [c] }

/-- The run as a group of text lines. -/
def toGroup (r : CommentRun) : CommentGroup :=
  ⟨r.first.start.location.line, r.last.stop.location.line, commentText (r.comments.map (·.text))⟩

/-- Add a comment to runs, the last of which stands first. -/
def add (source : List Char) (runs : List CommentRun) (c : Comment) : List CommentRun :=
  match runs with
  | r :: rs => if r.accepts source c then r.push c :: rs else single source c :: r :: rs
  | [] => [single source c]

/-- The runs of the comments of a source, in order. -/
def ofComments (source : List Char) (comments : List Comment) : List CommentRun :=
  (comments.foldl (add source) []).reverse

end CommentRun

/-- The comment groups of a file by the line that they end on. -/
structure FileComments where
  byEndLine : SortedMap Nat CommentGroup

namespace FileComments

/-- No comments. -/
def empty : FileComments := ⟨∅⟩

/-- Keep groups by their end line; of two that end on one line the later stays. -/
def ofGroups (groups : List CommentGroup) : FileComments :=
  ⟨groups.foldl (fun m g => m.insert g.endLine g) ∅⟩

/-- The groups of the comments of a source. -/
def ofComments (source : List Char) (comments : List Comment) : FileComments :=
  ofGroups ((CommentRun.ofComments source comments).map CommentRun.toGroup)

/-- The comment groups of a source, given its tree. -/
def collect (source : String) (tree : Go.Node) : FileComments :=
  ofComments source.toList (tree.comments.map (Comment.ofNode source.toList))

/-- The group that ends on the line right above a line. -/
def preceding (f : FileComments) : Nat → Option CommentGroup
  | 0 => none
  | line + 1 => f.byEndLine.get? line

end FileComments

end MessageCatalog
