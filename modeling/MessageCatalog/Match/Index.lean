import MessageCatalog.Order
import MessageCatalog.Position

/-! # Requested positions of a file

The index holds the locations requested in one file, each with the state of its search.  A
location starts out pending and is resolved once; what is still pending at the end was not
found.
-/

namespace MessageCatalog

/-- The state of the search for a call site. -/
inductive MatchState where
  /-- Requested, not resolved yet. -/
  | pending
  /-- A call with a message is at the location. -/
  | found
  /-- No call at the location gave a message. -/
  | notFound
  /-- The call at the location is to be left out. -/
  | ignored
deriving DecidableEq, Repr

namespace MatchState

/-- The state does not change any more. -/
def isTerminal (s : MatchState) : Bool := s ≠ pending

/-- A state in words. -/
def describe : MatchState → String
  | pending => "pending"
  | found => "found"
  | notFound => "not found"
  | ignored => "ignored"

end MatchState

/-- The requested locations of a file with their states, by line and then by column. -/
structure PositionIndex where
  /-- The columns of each line with their states. -/
  lines : SortedMap Nat (SortedMap Nat MatchState)
  /-- A line that is held has a location. -/
  occupied : ∀ columns ∈ lines.values, columns.isEmpty = false

namespace PositionIndex

/-- No locations. -/
def empty : PositionIndex := ⟨∅, fun _ h => absurd h List.not_mem_nil⟩

/-- Request a location; the first one of a line adds the line. -/
def request (i : PositionIndex) (l : Location) : PositionIndex where
  lines := i.lines.alter l.line fun columns => (columns.getD ∅).insert l.column .pending
  occupied := SortedMap.forall_values_alter (fun _ => SortedMap.isEmpty_alter _ _ _) i.occupied

/-- The index of requested locations; each is held once. -/
def ofList (ls : List Location) : PositionIndex := ls.foldl request empty

/-- The state of a location, if it was requested. -/
def state (i : PositionIndex) (l : Location) : Option MatchState :=
  (i.lines.get? l.line).bind (·.get? l.column)

/-- The location was requested and is not resolved. -/
def isPending (i : PositionIndex) (l : Location) : Bool := i.state l = some .pending

/-- Write a state to a location that is held. -/
def write (i : PositionIndex) (l : Location) (s : MatchState) : PositionIndex where
  lines := i.lines.modify l.line (·.modify l.column fun _ => s)
  occupied := by
    refine SortedMap.forall_values_modify (fun columns h => ?_) i.occupied
    exact (columns.isEmpty_mapValues _).trans (i.occupied columns h)

/-- Resolve a pending location; the answer tells whether it was one. -/
def resolve (i : PositionIndex) (l : Location) (s : MatchState) : Bool × PositionIndex :=
  if i.isPending l then (true, i.write l s) else (false, i)

/-- The pending locations, line by line. -/
def pending (i : PositionIndex) : List Location :=
  i.lines.entries.flatMap fun (line, columns) =>
    (columns.entries.filter (·.2 = .pending)).map fun (column, _) => ⟨line, column⟩

/-- End the search: the locations still pending, in order, and the index with these not found. -/
def finish (i : PositionIndex) : List Location × PositionIndex where
  fst := i.pending
  snd.lines := i.lines.mapValues fun _ columns =>
    columns.mapValues fun _ s => if s = .pending then .notFound else s
  snd.occupied := by
    refine SortedMap.forall_values_mapValues fun _ columns h => ?_
    exact (columns.isEmpty_mapValues _).trans (i.occupied columns h)

/-- All locations with their states, line by line. -/
def toList (i : PositionIndex) : List (Location × MatchState) :=
  i.lines.entries.flatMap fun (line, columns) =>
    columns.entries.map fun (column, s) => (⟨line, column⟩, s)

/-- The number of requested locations. -/
def size (i : PositionIndex) : Nat := i.lines.total

/-- No location was requested: no line is held. -/
def isEmpty (i : PositionIndex) : Bool := i.lines.isEmpty

end PositionIndex

end MessageCatalog
