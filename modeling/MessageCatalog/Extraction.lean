import MessageCatalog.Catalog.Basic
import MessageCatalog.Match.Calls

/-! # Extraction

An extraction is given positions, grouped by file.  It reads and parses all requested files first,
at the same time; one that cannot be read or parsed stops it before any call is looked at.  Then
the files are searched in the order of their paths, and their entries make the catalog.

How sources are parsed and how files are read are parameters, and so is the `Race` of the files
that are read at the same time: if several of them fail, any of the failures may be the one that
is told.
-/

namespace MessageCatalog

/-- A reader of sources: the tree of the text of a path, or where it is at fault. -/
abbrev Parser := String → String → Except Location Go.Node

/-- The requested locations of each file. -/
structure Requests where
  files : SortedMap String (SortedSet Location)

namespace Requests

/-- No requests. -/
def empty : Requests := ⟨∅⟩

/-- Request a position; each is recorded once. -/
def add (r : Requests) (p : Position) : Requests :=
  ⟨r.files.alter p.file fun locations => (locations.getD ∅).insert p.location ()⟩

/-- The requests of a list of positions. -/
def ofList (ps : List Position) : Requests := ps.foldl add empty

/-- The requested files, ascending. -/
def paths (r : Requests) : List String := r.files.keys

/-- The number of requested positions. -/
def size (r : Requests) : Nat := r.files.total

/-- No position is requested. -/
def isEmpty (r : Requests) : Bool := r.files.isEmpty

end Requests

/-- Which failure is met first, of those of files that are read and parsed at the same time: given
the failures in the order of the paths, it is some one of them. -/
structure Race where
  winner : Failure → List Failure → Failure
  winner_mem : ∀ first others, winner first others ∈ first :: others

namespace Race

/-- The first of the failures. -/
def first : Race := ⟨fun f _ => f, fun _ _ => List.mem_cons_self⟩

/-- The failure of a file, if it is one. -/
def failure? {α : Type} : Except Failure α → Option Failure
  | .ok _ => none
  | .error f => some f

/-- Bring together what was done at the same time: all results in their order or, if something
failed, the failure that was met first. -/
def gather {α : Type} (race : Race) (results : List (Except Failure α)) :
    Except Failure (List α) :=
  match results.filterMap failure? with
  | [] => .ok (results.filterMap Except.toOption)
  | f :: fs => .error (race.winner f fs)

end Race

namespace Extraction

/-- Parse the text of a path. -/
def parseSource (parser : Parser) (path source : String) : Except Failure SourceFile :=
  match parser path source with
  | .ok tree => .ok ⟨path, source, tree⟩
  | .error location => .error (.unparsable ⟨path, location⟩)

/-- Read and parse a file. -/
def parseFile (parser : Parser) (disk : Disk) (path : String) : Except Failure SourceFile :=
  match disk path with
  | .ok source => parseSource parser path source
  | .error fault => .error (.read path fault)

/-- Parse a file whose text may be given; if it is not, the file is read. -/
def parseGiven (parser : Parser) (disk : Disk) (sources : SortedMap String String)
    (path : String) : Except Failure SourceFile :=
  match sources.get? path with
  | some source => parseSource parser path source
  | none => parseFile parser disk path

/-- Search one file and put its entries into the catalog.  Its text is cached first, so that
reports need not read it.  The locations that are requested in it are indexed anew. -/
def addFile (disk : Disk) (associator : Associator) (requests : Requests)
    (state : Catalog × Reporter) (file : SourceFile) : Except Aborted (Catalog × Reporter) := do
  let (catalog, reporter) := state
  let reporter := { reporter with cache := reporter.cache.insert file.path file.source }
  match requests.files.get? file.path with
  | some locations => do
    let index := PositionIndex.ofList locations.keys
    let (entries, reporter) ← matchCalls disk associator file index reporter
    return (catalog.insert file.path entries, reporter)
  | none => return (catalog.insert file.path [], reporter)

/-- The catalog of files that have been parsed. -/
def buildCatalog (disk : Disk) (associator : Associator) (requests : Requests)
    (files : List SourceFile) (reporter : Reporter) : Except Aborted (Catalog × Reporter) :=
  files.foldlM (addFile disk associator requests) (.empty, reporter)

/-- Parse all requested files by `parse` at the same time, then build the catalog. -/
def extractWith (race : Race) (parse : String → Except Failure SourceFile) (disk : Disk)
    (associator : Associator) (requests : Requests) (reporter : Reporter) :
    Except Aborted (Catalog × Reporter) :=
  match race.gather (requests.paths.map parse) with
  | .ok files => buildCatalog disk associator requests files reporter
  | .error failure => .error ⟨failure, reporter⟩

/-- Extract from files on disk. -/
def extract (race : Race) (parser : Parser) (disk : Disk) (associator : Associator)
    (requests : Requests) (reporter : Reporter) : Except Aborted (Catalog × Reporter) :=
  extractWith race (parseFile parser disk) disk associator requests reporter

/-- Extract from given texts; a requested file that is not given is read from disk. -/
def extractSources (race : Race) (parser : Parser) (disk : Disk)
    (sources : SortedMap String String) (associator : Associator) (requests : Requests)
    (reporter : Reporter) : Except Aborted (Catalog × Reporter) :=
  extractWith race (parseGiven parser disk sources) disk associator requests reporter

end Extraction

end MessageCatalog
