import MessageCatalog.Readers

/-! # The search for settings

Settings are looked for in a directory and then upwards, up to the root of the repository: the
first directory that holds a file of settings gives them, and the first that holds only the
repository's own data ends the search.
-/

namespace MessageCatalog.Settings

/-- The exclusion of the settings; an empty pattern is none. -/
def exclusion (readers : Readers) (s : Settings) : Except SettingsError (Option Exclusion) :=
  match s.exclude with
  | none => .ok none
  | some pattern =>
    if pattern.isEmpty then .ok none
    else match readers.exclusion pattern with
      | some e => .ok (some e)
      | none => .error (.badExclusion pattern)

/-- The settings of a file whose content is given. -/
def ofFile (readers : Readers) (path : String) (content : Except ReadFault String) :
    Except SettingsError Settings :=
  match content with
  | .error fault => .error (.unreadable path fault)
  | .ok text => match readers.settings text with
    | .error fault => .error (.malformed path fault)
    | .ok s => match s.exclusion readers with
      | .error e => .error e
      | .ok _ => .ok s

variable {m : Type → Type} [Monad m]

/-- The name of the data of a repository. -/
def repositoryName : String := ".git"

/-- Look for the file of settings in the given directories. -/
def searchIn (contains : String → m Bool) : List String → m (Option String)
  | [] => return none
  | directory :: above => do
    let file := Path.join directory fileName
    if ← contains file then return some file
    if ← contains (Path.join directory repositoryName) then return none
    searchIn contains above

/-- Look for the file of settings from a directory upwards. -/
def search (contains : String → m Bool) (start : String) : m (Option String) :=
  searchIn contains (Path.ancestors start)

/-- The settings of a file. -/
def load (readers : Readers) (read : String → m (Except ReadFault String)) (path : String) :
    m (Except SettingsError Settings) :=
  return ofFile readers path (← read path)

/-- The settings found from a directory upwards, with their file, or the usual ones. -/
def loadNearest (readers : Readers) (contains : String → m Bool)
    (read : String → m (Except ReadFault String)) (start : String) :
    m (Except SettingsError (Settings × Option String)) := do
  match ← search contains start with
  | none => return .ok ({}, none)
  | some path => return (← load readers read path).map fun s => (s, some path)

end MessageCatalog.Settings
