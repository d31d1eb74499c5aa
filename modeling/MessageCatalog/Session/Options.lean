import MessageCatalog.CommandLine.Arguments
import MessageCatalog.Comment.Association
import MessageCatalog.Settings.Search

/-! # Options

The options of a run are its settings with what the command line says instead.  Sorting is asked
for by either.
-/

namespace MessageCatalog

/-- What a run is told. -/
structure Options where
  /-- How comments are chosen. -/
  associator : Associator
  /-- The files to leave out. -/
  exclusion : Option Exclusion
  /-- Messages are sorted. -/
  sort : Bool
  /-- The packages in which callers are looked for. -/
  scope : Option String

namespace Options

/-- The settings with what the arguments say instead. -/
def overridden (a : Arguments) (s : Settings) : Settings where
  comment := a.comment.getD s.comment
  ignore := a.ignore.getD s.ignore
  exclude := a.exclude.or s.exclude
  sort := a.sort || s.sort
  scope := a.scope.or s.scope

/-- The options of settings. -/
def ofSettings (readers : Readers) (s : Settings) : Except SettingsError Options := do
  return ⟨⟨s.comment, s.ignore⟩, ← s.exclusion readers, s.sort, s.scope⟩

/-- Merge the command line over the settings. -/
def merge (readers : Readers) (a : Arguments) (s : Settings) : Except SettingsError Options :=
  ofSettings readers (overridden a s)

/-- A file is left out. -/
def excludes (o : Options) (path : String) : Bool := o.exclusion.any (·.excludes path)

end Options

end MessageCatalog
