import MessageCatalog.CommandLine.Help
import MessageCatalog.Session.Callers
import MessageCatalog.Session.Options
import MessageCatalog.Session.Summary

/-! # Runs

A run loads the settings, collects call sites, leaves out those in excluded files, extracts the
rest and prints the message template.  The template is printed only when every file has been
extracted, so a run that fails prints nothing.
-/

namespace MessageCatalog

/-- The positions to extract, and how many were left out. -/
structure Selection where
  requests : Requests := .empty
  excluded : Nat := 0

/-- What a run has produced. -/
structure Product where
  template : String
  summary : Summary
deriving DecidableEq, Repr

/-- What a run leaves behind. -/
structure Outcome where
  stdout : String
  stderr : String
  /-- The arguments of every query of the call graph. -/
  queries : List (List String)
  /-- Why the run failed, if it did. -/
  error : Option SessionError
deriving DecidableEq, Repr

namespace Session

variable {m : Type → Type} [Monad m]

/-- The settings of a run and their file: the one that is named, or the nearest one. -/
def loadSettings (w : World m) (config : Option String) :
    Session m (Settings × Option String) := do
  match config with
  | some path =>
    let settings ← attempt .settings (← reach (Settings.load w.readers w.read path))
    return (settings, some path)
  | none =>
    let directory ← reach w.directory
    attempt .settings
      (← reach (Settings.loadNearest w.readers w.contains w.read directory))

/-- The note on where settings came from. -/
def settingsNote : Option String → String
  | some path => "Using configuration from " ++ path
  | none => "No " ++ Settings.fileName ++ " found, using default configuration"

/-- Read the positions of call sites and leave out those in excluded files. -/
def select (verbose : Bool) (excludes : String → Bool) (s : Selection) :
    List CallSite → Session m Selection
  | [] => return s
  | site :: sites => do
    let p ← attempt (fun e => .extraction (.position e)) (Position.parse site.position)
    if excludes p.file then
      note verbose ("Excluding " ++ p.render)
      select verbose excludes { s with excluded := s.excluded + 1 } sites
    else select verbose excludes { s with requests := s.requests.add p } sites

/-- Read the given files into a disk. -/
def readFiles (w : World m) (paths : List String) : m Disk := do
  let contents ← paths.mapM fun path => do return (path, ← w.read path)
  return fun path => (contents.lookup path).getD (.error .missing)

/-- Extract a selection and summarise it. -/
def extract (w : World m) (parser : Parser) (width : Char → Nat) (associator : Associator)
    (sort : Bool) (s : Selection) : Session m Product := do
  let disk ← reach (readFiles w s.requests.paths)
  let reporter := Reporter.new .unlimited (.new false) width
  match Extraction.extract w.race parser disk associator s.requests reporter with
  | .error ⟨failure, reporter⟩ =>
    write reporter.stream.text
    throw (.extraction failure)
  | .ok (catalog, reporter) =>
    write reporter.stream.text
    return ⟨catalog.template sort,
      .ofCatalog s.requests s.excluded catalog reporter.reported⟩

/-- What a run does. -/
def body (w : World m) (parser : Parser) (width : Char → Nat) (a : Arguments) :
    Session m Product := do
  let (settings, path) ← loadSettings w a.config
  note a.verbose (settingsNote path)
  let options ← attempt .settings (Options.merge w.readers a settings)
  let sites ← collect w a options.scope
  let selection ← select a.verbose options.excludes {} sites
  let product ← extract w parser width options.associator options.sort selection
  if a.verbose then write product.summary.render
  return product

/-- Run the program; without anything to extract it prints the help. -/
def run (w : World m) (parser : Parser) (width : Char → Nat) (a : Arguments) : m Outcome := do
  if !a.hasInput then return ⟨helpText, "", [], none⟩
  match ← StateT.run (ExceptT.run (body w parser width a)) {} with
  | (.ok product, log) => return ⟨product.template, log.notes, log.queries, none⟩
  | (.error e, log) => return ⟨"", log.notes, log.queries, some e⟩

end Session

end MessageCatalog
