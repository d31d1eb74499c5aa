import MessageCatalog.Failure
import MessageCatalog.Order
import MessageCatalog.Text.Search

/-! # Source lines

The lines of source files, kept once they are known: a path is cached by the first text that
is put in for it, or by the first successful reading, and never changes after that.  A strict
cache fails where a file cannot be read; a lenient one then has no line.
-/

namespace MessageCatalog

/-- The lines of the files seen so far. -/
structure SourceCache where
  files : SortedMap String (List String)
  /-- Tolerate files that cannot be read. -/
  lenient : Bool

namespace SourceCache

/-- A cache without files. -/
def new (lenient : Bool) : SourceCache := ⟨∅, lenient⟩

/-- The lines of a text, each without one carriage return at its end. -/
def splitLines (source : String) : List String :=
  (source.toList.splitOn '\n').map fun l => String.ofList (Text.dropFinal '\r' l)

/-- Put in the text of a path, unless the path is cached. -/
def insert (c : SourceCache) (path source : String) : SourceCache :=
  { c with files := c.files.insertNew path (splitLines source) }

/-- The path is cached. -/
def contains (c : SourceCache) (path : String) : Bool := c.files.contains path

/-- A line, counted from one, of a path that is cached. -/
def cachedLine (c : SourceCache) (path : String) (line : Nat) : Option String :=
  match line with
  | 0 => none
  | n + 1 => (c.files.get? path).bind (·[n]?)

/-- A line of a path, which is read if it is not cached. -/
def line (c : SourceCache) (disk : Disk) (path : String) (n : Nat) :
    Except Failure (Option String × SourceCache) :=
  if c.contains path then .ok (c.cachedLine path n, c)
  else match disk path with
    | .ok source =>
      let c := c.insert path source
      .ok (c.cachedLine path n, c)
    | .error fault => if c.lenient then .ok (none, c) else .error (.read path fault)

end SourceCache

end MessageCatalog
