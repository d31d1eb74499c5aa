import MessageCatalog.Failure

/-! # File trees in memory

A tree of directories and files, with paths resolved from a working directory the way a system
does it: every component but the last has to be a directory, `..` leads to the parent, and `.`
and empty components lead nowhere.  It stands in for a disk where a run is to be tried without
one.
-/

namespace MessageCatalog

/-- What a path can name. -/
inductive FileItem where
  | directory
  | file (content : ByteArray)

/-- Directories and files by their paths from the root, newest first. -/
structure FileTree where
  items : List (List String × FileItem)

namespace FileTree

/-- A tree without files. -/
def empty : FileTree := ⟨[]⟩

/-- What stands at a path from the root. -/
def get? (t : FileTree) (path : List String) : Option FileItem :=
  if path.isEmpty then some .directory
  else (t.items.find? (·.1 = path)).map (·.2)

/-- Make a directory and its parents. -/
def makeDirectory (t : FileTree) (path : List String) : FileTree :=
  (List.range (path.length + 1)).foldl (fun t n =>
    if (t.get? (path.take n)).isSome then t else ⟨(path.take n, .directory) :: t.items⟩) t

/-- Write a file, making its parents. -/
def write (t : FileTree) (path : List String) (content : ByteArray) : FileTree :=
  let t := t.makeDirectory path.dropLast
  ⟨(path, .file content) :: t.items⟩

/-- Follow components from a directory. -/
def follow (t : FileTree) (here : List String) : List String → Except ReadFault (List String)
  | [] => .ok here
  | c :: cs => match t.get? here with
    | none => .error .missing
    | some (.file _) => .error (.other "Not a directory (os error 20)")
    | some .directory =>
      if c = "" ∨ c = "." then t.follow here cs
      else if c = ".." then t.follow here.dropLast cs
      else t.follow (here ++ [c]) cs

/-- The components of a path. -/
def components (path : String) : List String :=
  (path.toList.splitOn '/').map String.ofList

/-- Where a path leads from a working directory, and what is there. -/
def resolve (t : FileTree) (cwd : List String) (path : String) :
    Except ReadFault (List String × FileItem) := do
  if path.isEmpty then throw .missing
  let start := if path.toList.head? = some '/' then [] else cwd
  let target ← t.follow start (components path)
  match t.get? target with
  | some item => return (target, item)
  | none => throw .missing

/-- Something exists at a path. -/
def contains (t : FileTree) (cwd : List String) (path : String) : Bool :=
  (t.resolve cwd path).isOk

/-- Read a path as text. -/
def read (t : FileTree) (cwd : List String) : Disk := fun path => do
  match (← t.resolve cwd path).2 with
  | .directory => throw .directory
  | .file content => match String.fromUTF8? content with
    | some text => return text
    | none => throw .notText

end FileTree

end MessageCatalog
