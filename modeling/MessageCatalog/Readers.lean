import MessageCatalog.CallSite
import MessageCatalog.Exclusion.Basic
import MessageCatalog.Settings.Basic

/-! # Readers

Call sites and settings are written in JSON, and the files to leave out are told by a pattern.  A
session does not depend on how such texts are read: the readers are a parameter, like the parser of
sources.
-/

namespace MessageCatalog

/-- How texts that are not sources are read. -/
structure Readers where
  /-- The call sites of documents of callers. -/
  callSites : String → Except Json.Fault (List CallSite)
  /-- The settings in a file. -/
  settings : String → Except Json.Fault Settings
  /-- The files that a pattern leaves out, if it is one. -/
  exclusion : String → Option Exclusion

/-- The readers of this library. -/
def Readers.standard : Readers := ⟨CallSite.parse, Settings.parse, Exclusion.parse⟩

end MessageCatalog
