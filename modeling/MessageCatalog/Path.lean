import MessageCatalog.Text.Property

/-! # Paths

Paths are texts whose components are divided by slashes.  They are joined and cut as texts, and
nothing is looked up: `a/../b` keeps its dots.  `Path.parent?` drops the last component, and with
it the empty and `.` components around it; `Path.ancestors` lists a path and everything above it.
-/

namespace MessageCatalog.Path

/-- The path of `name` in the directory `base`; an absolute name stands alone. -/
def join (base name : String) : String :=
  if name.toList.head? = some '/' then name
  else if base.isEmpty || base.toList.getLast? = some '/' then base ++ name
  else base ++ "/" ++ name

/-! ### Parents -/

/-- A component that leads nowhere. -/
def isTrivial (component : List Char) : Bool := component.isEmpty || component == ['.']

/-- The leading slash or dot of a path, which is not among its components, and the rest. -/
def splitLead : List Char → List Char × List Char
  | '/' :: rest => (['/'], rest)
  | ['.'] => (['.'], [])
  | '.' :: '/' :: rest => (['.'], '/' :: rest)
  | cs => ([], cs)

/-- The path without its last component.  The root and the empty path have no parent, and the
parent of `.` is the empty path. -/
def parentOf (path : List Char) : Option (List Char) :=
  let (lead, body) := splitLead path
  match (body.splitOn '/').reverse.dropWhile isTrivial with
  | [] => if lead = ['.'] then some [] else none
  | _ :: before => some (lead ++ ['/'].intercalate (before.dropWhile isTrivial).reverse)

/-- The path without its last component. -/
def parent? (path : String) : Option String := (parentOf path.toList).map String.ofList

/-- A path, its parent, the parent of that, and so on.  Parents are shorter. -/
def ancestorsOf (path : List Char) : List (List Char) :=
  match parentOf path with
  | none => [path]
  | some up => if _h : up.length < path.length then path :: ancestorsOf up else [path]
termination_by path.length

/-- A path and everything above it, the nearest first. -/
def ancestors (path : String) : List String := (ancestorsOf path.toList).map String.ofList

/-! ### Quoting -/

/-- A character as it stands between quotes.  What does not print, or would join the character
before it, is written as its code point. -/
def quoteChar (c : Char) : List Char :=
  match c with
  | '\x00' => ['\\', '0']
  | '\t' => ['\\', 't']
  | '\r' => ['\\', 'r']
  | '\n' => ['\\', 'n']
  | '\x27' => ['\\', '\x27']
  | '\x22' => ['\\', '\x22']
  | '\\' => ['\\', '\\']
  | c =>
    if Text.isGraphemeExtender c || !Text.isPrintable c then
      ['\\', 'u', '\x7b'] ++ Nat.toDigits 16 c.toNat ++ ['\x7d']
    else [c]

/-- A path between quotes, as messages show it. -/
def quoted (path : String) : String :=
  String.ofList (['\x22'] ++ path.toList.flatMap quoteChar ++ ['\x22'])

end MessageCatalog.Path
