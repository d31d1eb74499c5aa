import MessageCatalog.Extraction

/-! # Summaries

The counts of a run: how many files and call sites were asked for, how many were left out, what
became of the others, and how many diagnostics were reported.
-/

namespace MessageCatalog

/-- The counts of a run. -/
structure Summary where
  /-- The requested files. -/
  files : Nat
  /-- The requested positions, repetitions apart. -/
  callSites : Nat
  /-- The call sites in files that are left out, repetitions included. -/
  excluded : Nat
  found : Nat
  notFound : Nat
  ignored : Nat
  /-- The reported diagnostics. -/
  diagnostics : Nat
deriving DecidableEq, Repr

namespace Summary

/-- How many entries are in a state. -/
def count (c : Catalog) (s : MatchState) : Nat := (c.all.filter (·.state = s)).length

/-- The summary of an extraction. -/
def ofCatalog (requests : Requests) (excluded : Nat) (c : Catalog) (diagnostics : Nat) :
    Summary where
  files := requests.paths.length
  callSites := requests.size
  excluded := excluded
  found := count c .found
  notFound := count c .notFound
  ignored := count c .ignored
  diagnostics := diagnostics

/-- A summary as two lines. -/
def render (s : Summary) : String :=
  "✓ Extracted " ++ s.found.repr ++ " message(s) from " ++ s.files.repr ++ " file(s)\n" ++
  "  " ++ s.callSites.repr ++ " call site(s): " ++ s.notFound.repr ++ " not found, " ++
  s.ignored.repr ++ " ignored, " ++ s.excluded.repr ++ " excluded, " ++
  s.diagnostics.repr ++ " diagnostic(s)\n"

end Summary

end MessageCatalog
