import MessageCatalog.Extraction
import MessageCatalog.Settings.Search

/-! # Sessions

A session is one run of the program.  What it needs from outside is a `World`: files, standard
input, and the tool that knows the call graph; how texts are read that are not sources; and which
file is first to fail, of those that are read at the same time.  What it leaves behind besides its
result is a `Log` of the notes it wrote and the queries it made, which a failure keeps.

The world is a parameter in any monad, so the same session runs on a real system and, with the
identity monad, as a function of its inputs.
-/

namespace MessageCatalog

/-- The answer to a query of the call graph. -/
structure Reply where
  output : String
  errors : String
  succeeded : Bool
deriving DecidableEq, Repr

/-- What a session can reach. -/
structure World (m : Type → Type) where
  /-- The current directory. -/
  directory : m String
  /-- Something exists at a path. -/
  contains : String → m Bool
  /-- The text of a file. -/
  read : String → m (Except ReadFault String)
  /-- The text of the standard input. -/
  input : m (Except ReadFault String)
  /-- Ask the tool for the call graph, with the number of earlier queries and the arguments of
  this one; there is no reply if there is no such tool. -/
  ask : Nat → List String → m (Option Reply)
  /-- How callers, settings and patterns are read. -/
  readers : Readers
  /-- Which failure is met first when several sources cannot be used. -/
  race : Race

/-- Why a session fails. -/
inductive SessionError where
  /-- The settings cannot be used. -/
  | settings (error : SettingsError)
  /-- The standard input cannot be read. -/
  | unreadableInput (fault : ReadFault)
  /-- The file of callers cannot be read. -/
  | unreadableCallers (path : String) (fault : ReadFault)
  /-- The file of callers holds something else. -/
  | malformedCallers (path : String) (fault : Json.Fault)
  /-- There is no tool for the call graph. -/
  | noTool
  /-- The tool gave up, for the reason it states. -/
  | refused (reason : String)
  /-- The tool replied with something else than callers. -/
  | malformedReply (offset : String) (fault : Json.Fault)
  /-- The extraction failed. -/
  | extraction (failure : Failure)
deriving DecidableEq, Repr

namespace SessionError

/-- The wording of an error. -/
def message : SessionError → String
  | settings error => error.message
  | unreadableInput _ => "Failed to read callers from stdin"
  | unreadableCallers path _ => "Failed to read callers file: " ++ Path.quoted path
  | malformedCallers path _ => "Invalid callers file: " ++ Path.quoted path
  | noTool => "Failed to run guru"
  | refused reason => reason
  | malformedReply offset _ => "Invalid guru output for " ++ offset
  | extraction failure => failure.message

/-- The fault of a JSON text, if that is the cause. -/
def fault? : SessionError → Option Json.Fault
  | settings error => error.fault?
  | malformedCallers _ fault => some fault
  | malformedReply _ fault => some fault
  | _ => none

end SessionError

/-- What a session leaves behind besides its result. -/
structure Log where
  /-- The text written to the standard error stream. -/
  notes : String := ""
  /-- The arguments of every query of the call graph. -/
  queries : List (List String) := []
deriving DecidableEq, Repr

/-- A part of a session. -/
abbrev Session (m : Type → Type) := ExceptT SessionError (StateT Log m)

namespace Session

variable {m : Type → Type} [Monad m]

/-- Reach out to the world. -/
def reach {α : Type} (action : m α) : Session m α := liftM action

/-- Write a text to the standard error stream. -/
def write (text : String) : Session m Unit :=
  modify fun log => { log with notes := log.notes ++ text }

/-- Write a note, if the session is verbose. -/
def note (verbose : Bool) (text : String) : Session m Unit :=
  if verbose then write ("Note: " ++ text ++ "\n") else pure ()

/-- Go on with a result, or fail with the error that `wrap` makes of its own. -/
def attempt {ε α : Type} (wrap : ε → SessionError) : Except ε α → Session m α
  | .ok a => pure a
  | .error e => throw (wrap e)

end Session

end MessageCatalog
