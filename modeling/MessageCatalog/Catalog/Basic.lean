import MessageCatalog.Catalog.Entry

/-! # Catalogs

A catalog holds the entries of each file in the order in which they were found, and the files
in the order of their paths.  The message template lists the found entries, either in that
order or by message.
-/

namespace MessageCatalog

/-- The entries of each file. -/
structure Catalog where
  files : SortedMap String (List Entry)

namespace Catalog

/-- No files. -/
def empty : Catalog := ⟨∅⟩

/-- Put in the entries of a file, unless it has some already. -/
def insert (c : Catalog) (file : String) (entries : List Entry) : Catalog :=
  ⟨c.files.insertNew file entries⟩

/-- The entries of a file. -/
def entries (c : Catalog) (file : String) : List Entry := (c.files.get? file).getD []

/-- All entries, file by file. -/
def all (c : Catalog) : List Entry := c.files.values.flatten

/-- The entries that were found. -/
def found (c : Catalog) : List Entry := c.all.filter (·.state = .found)

/-- The found entries with a text, each with its message as written. -/
def keyed (c : Catalog) : List (String × Entry) :=
  c.found.filterMap fun e => e.msgid.map fun m => (m, e)

/-- The found entries with a text by message; equal messages keep their order. -/
def sorted (c : Catalog) : List Entry :=
  (c.keyed.mergeSort fun a b => (compare a.1 b.1).isLE).map (·.2)

/-- The entries in the order of the template. -/
def listed (c : Catalog) (sort : Bool) : List Entry := if sort then c.sorted else c.found

/-- The message template: the blocks of the entries, each with a blank line after it. -/
def template (c : Catalog) (sort : Bool) : String :=
  String.join ((c.listed sort).filterMap fun e => e.block.map (· ++ "\n"))

/-- The number of files. -/
def size (c : Catalog) : Nat := c.files.size

/-- There is no file. -/
def isEmpty (c : Catalog) : Bool := c.files.isEmpty

end Catalog

end MessageCatalog
