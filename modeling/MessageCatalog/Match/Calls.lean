import MessageCatalog.Catalog.Entry
import MessageCatalog.Comment.Association
import MessageCatalog.Match.Argument
import MessageCatalog.Report.Reporter

/-! # Matching calls

The calls of a file are visited in the order of the text, an enclosing call before the calls
inside it.  A call whose argument list starts at a pending location is looked at:

* if the comment above it holds the marker, it is left out, and that is noted;
* if it has no argument, that is reported, and the location stays pending;
* otherwise its first argument is resolved, into the message of an entry, or into a problem
  that is reported, with the location still pending.

Locations pending after the last call were not found.
-/

namespace MessageCatalog

/-- The state of a search through the calls of a file. -/
structure Matching where
  index : PositionIndex
  /-- The entries so far. -/
  entries : List Entry
  reporter : Reporter

namespace Matching

/-- Report a diagnostic. -/
def report (m : Matching) (disk : Disk) (d : Diagnostic) : Except Aborted Matching := do
  return { m with reporter := ← m.reporter.report disk d }

/-- Resolve a location and add its entry. -/
def settle (m : Matching) (l : Location) (s : MatchState) (e : Entry) : Matching :=
  { m with index := (m.index.resolve l s).2, entries := m.entries ++ [e] }

/-- Look at the argument of a call at a pending location. -/
def resolve (disk : Disk) (file : SourceFile) (m : Matching) (l : Location)
    (note : Option (List String)) (argument : Go.Node) : Except Aborted Matching :=
  match (file.classify argument).resolve with
  | .ok (.text text) => .ok (m.settle l .found (.found ⟨file.path, l⟩ text note))
  | .ok (.problem d) => m.report disk d
  | .error failure => .error ⟨failure, m.reporter⟩

/-- Look at a call whose argument list starts at a pending location. -/
def inspect (disk : Disk) (associator : Associator) (comments : FileComments) (file : SourceFile)
    (m : Matching) (call arguments : Go.Node) : Except Aborted Matching :=
  let l := arguments.start.location
  let first := arguments.firstArgument?
  let withNote (note : Option (List String)) : Except Aborted Matching :=
    match first with
    | some argument => m.resolve disk file l note argument
    | none => m.report disk ⟨.noArgument, file.position call⟩
  match associator.associate comments call.start.location.line with
  | .ignored => do
    let m ← m.report disk ⟨.ignored associator.marker, file.position (first.getD call)⟩
    return m.settle l .ignored (.ignored ⟨file.path, l⟩)
  | .note lines => withNote (some lines)
  | .none => withNote none

/-- Visit a call. -/
def visit (disk : Disk) (associator : Associator) (comments : FileComments) (file : SourceFile)
    (m : Matching) (call : Go.Node) : Except Aborted Matching :=
  match call.child? .arguments with
  | some arguments =>
    if m.index.isPending arguments.start.location then
      m.inspect disk associator comments file call arguments
    else .ok m
  | none => .ok m

/-- The entries of a finished search, with those that were not found at the end. -/
def finish (m : Matching) (path : String) : List Entry :=
  m.entries ++ m.index.finish.1.map fun l => .notFound ⟨path, l⟩

end Matching

/-- The outcomes of the requested locations of a file. -/
def matchCalls (disk : Disk) (associator : Associator) (file : SourceFile) (index : PositionIndex)
    (reporter : Reporter) : Except Aborted (List Entry × Reporter) := do
  let comments :=
    if associator.isEnabled then FileComments.collect file.source file.tree else .empty
  let calls := if index.isEmpty then [] else file.tree.calls
  let m ← calls.foldlM (Matching.visit disk associator comments file) ⟨index, [], reporter⟩
  return (m.finish file.path, m.reporter)

end MessageCatalog
