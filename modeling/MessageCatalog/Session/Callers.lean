import MessageCatalog.CommandLine.Arguments
import MessageCatalog.Session.Basic
import MessageCatalog.Text.Search

/-! # Collecting call sites

Call sites come from a file of callers, if one is given, and then from the call graph, one query
for each offset.
-/

namespace MessageCatalog.Session

variable {m : Type → Type} [Monad m]

/-- The arguments of a query: the callers of the function at an offset, in a scope that is left
out if it is empty. -/
def queryArguments (offset : String) (scope : Option String) : List String :=
  let within := match scope with
    | some s => if s.isEmpty then [] else ["-scope", s]
    | none => []
  ["-json"] ++ within ++ ["callers", offset]

/-- A message without the line feed that may end it. -/
def withoutFinalBreak (message : String) : String :=
  String.ofList (Text.dropFinal '\n' message.toList)

/-- Read a file of callers; a hyphen stands for the standard input. -/
def readCallers (w : World m) (path : String) : Session m (List CallSite) := do
  let content ← if path = "-" then do attempt .unreadableInput (← reach w.input)
    else do attempt (.unreadableCallers path) (← reach (w.read path))
  attempt (.malformedCallers path) (w.readers.callSites content)

/-- Ask for the callers of the function at an offset. -/
def askCallers (w : World m) (scope : Option String) (offset : String) :
    Session m (List CallSite) := do
  let arguments := queryArguments offset scope
  let log ← get
  match ← reach (w.ask log.queries.length arguments) with
  | none => throw .noTool
  | some reply =>
    set { log with queries := log.queries ++ [arguments] }
    if reply.succeeded then attempt (.malformedReply offset) (w.readers.callSites reply.output)
    else throw (.refused (withoutFinalBreak reply.errors))

/-- Ask for the callers of several functions. -/
def askAll (w : World m) (verbose : Bool) (scope : Option String) :
    List String → Session m (List CallSite)
  | [] => return []
  | offset :: offsets => do
    note verbose ("Running guru callers " ++ offset)
    let sites ← askCallers w scope offset
    return sites ++ (← askAll w verbose scope offsets)

/-- Collect all call sites. -/
def collect (w : World m) (a : Arguments) (scope : Option String) :
    Session m (List CallSite) := do
  let given ← match a.callers with
    | some path => readCallers w path
    | none => pure []
  let asked ← askAll w a.verbose scope a.offsets
  let sites := given ++ asked
  note a.verbose ("Found " ++ sites.length.repr ++ " call site(s)")
  return sites

end MessageCatalog.Session
