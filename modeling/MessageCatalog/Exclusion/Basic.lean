import MessageCatalog.Exclusion.Bracket

/-! # Exclusions

An exclusion is a pattern in the usual notation of regular expressions: literals, `.`, classes,
groups, alternatives, repetitions, anchors and flags.  A file is excluded if the pattern is found
somewhere in its path.  There is no looking ahead or behind, and no reference to a group.

The reader keeps one `Group` for every open parenthesis and reads one thing at a time.
-/

namespace MessageCatalog

namespace Exclusion

/-- A part of a sequence.  A repetition needs something to repeat, which a setting of flags is
not. -/
structure Piece where
  pattern : Pattern
  height : Nat
  isRepeatable : Bool

/-- An open group: the alternatives before the last bar, the pieces since then, both latest
first, and the flags that hold again behind the group. -/
structure Group where
  alternatives : List Piece
  pieces : List Piece
  flags : Flags

namespace Group

/-- A group without content. -/
def empty (flags : Flags) : Group := ⟨[], [], flags⟩

/-- The depth of some pieces put together. -/
def heightOf : List Piece → Nat
  | [] => 0
  | [p] => p.height
  | ps => ps.foldl (fun h p => max h p.height) 0 + 1

/-- The sequence of the pieces since the last bar. -/
def sequence (g : Group) : Piece :=
  ⟨.sequence (g.pieces.reverse.map (·.pattern)), heightOf g.pieces, true⟩

/-- The group with one more piece. -/
def add (g : Group) (p : Piece) : Group := { g with pieces := p :: g.pieces }

/-- The group behind a bar. -/
def bar (g : Group) : Group :=
  { g with alternatives := g.sequence :: g.alternatives, pieces := [] }

/-- What the group stands for. -/
def close (g : Group) : Piece :=
  let all := g.sequence :: g.alternatives
  ⟨.choice (all.reverse.map (·.pattern)), heightOf all, true⟩

/-- Repeat the last piece. -/
def repeatLast (g : Group) (least : Nat) (most : Option Nat) : Option Group :=
  match g.pieces with
  | [] => none
  | p :: ps =>
    if p.isRepeatable then
      some { g with pieces := ⟨.times least most p.pattern, p.height + 1, true⟩ :: ps }
    else none

end Group

/-- What has been read of a pattern. -/
structure Progress where
  group : Group
  around : List Group
  flags : Flags
  names : List (List Char)

namespace Progress

/-- Before anything has been read. -/
def start : Progress := ⟨.empty {}, [], {}, []⟩

/-- One more piece in the innermost group. -/
def add (s : Progress) (p : Pattern) (height : Nat) : Progress :=
  { s with group := s.group.add ⟨p, height, true⟩ }

/-- Open a group in which the given flags hold. -/
def openGroup (s : Progress) (flags : Flags) : Progress :=
  { s with group := .empty s.flags, around := s.group :: s.around, flags := flags }

/-- Close the innermost group. -/
def closeGroup (s : Progress) : Option Progress :=
  match s.around with
  | [] => none
  | outer :: around =>
    let p := s.group.close
    some { s with
      group := outer.add { p with height := p.height + 1 }
      around := around
      flags := s.group.flags }

end Progress

/-! ### Groups -/

/-- A character of the name of a group. -/
def isNameChar (isFirst : Bool) (c : Char) : Bool :=
  if isFirst then c == '_' || Text.isAlphabetic c
  else c == '_' || c == '.' || c == '[' || c == ']' || Text.isAlphanumeric c

/-- Read the name of a group up to its `>`. -/
def groupName (cs : List Char) : Option (List Char × List Char) :=
  let name := cs.takeWhile (· != '>')
  match name, cs.dropWhile (· != '>') with
  | c :: more, '>' :: rest =>
    if isNameChar true c && more.all (isNameChar false) then some (name, rest) else none
  | _, _ => none

/-- Open a group with a name, which no other group has. -/
def namedGroup (s : Progress) (cs : List Char) : Option (Progress × List Char) := do
  let (name, rest) ← groupName cs
  if s.names.contains name then none
  else some ({ s.openGroup s.flags with names := name :: s.names }, rest)

/-- Read flags, for the rest of the group or for a group of their own. -/
def flagGroup (s : Progress) (cs : List Char) : Option (Progress × List Char) := do
  let (flags, seen, rest) ← s.flags.read [] cs
  match rest with
  | ')' :: rest =>
    if seen.isEmpty then none
    else some ({ s with flags := flags, group := s.group.add ⟨.empty, 0, false⟩ }, rest)
  | ':' :: rest => some (s.openGroup flags, rest)
  | _ => none

/-- Read what follows an opening parenthesis.  Looking ahead or behind is refused. -/
def openParenthesis (s : Progress) (cs : List Char) : Option (Progress × List Char) :=
  match s.flags.skip cs with
  | '?' :: '=' :: _ => none
  | '?' :: '!' :: _ => none
  | '?' :: '<' :: '=' :: _ => none
  | '?' :: '<' :: '!' :: _ => none
  | '?' :: 'P' :: '<' :: rest => namedGroup s rest
  | '?' :: '<' :: rest => namedGroup s rest
  | '?' :: rest => flagGroup s rest
  | rest => some (s.openGroup s.flags, rest)

/-! ### Repetitions -/

/-- Read past the `?` that makes a repetition prefer fewer rounds, which does not change what is
found. -/
def skipLazy : List Char → List Char
  | '?' :: rest => rest
  | cs => cs

/-- The least number that is too large for a count. -/
def countLimit : Nat := Nat.pow 2 32

/-- Read digits, with white space between them where flags allow it. -/
def countDigits (f : Flags) (cs : List Char) : List Char × List Char :=
  match cs with
  | c :: rest =>
    if '0' ≤ c && c ≤ '9' then
      let (ds, rest) := countDigits f (f.skip rest)
      (c :: ds, rest)
    else ([], cs)
  | [] => ([], [])
termination_by cs.length
decreasing_by exact Nat.lt_succ_of_le (f.length_skip_le rest)

/-- Read a count, with white space around it; there may be none. -/
def count (f : Flags) (cs : List Char) : Option (Option Nat × List Char) :=
  let (ds, rest) := countDigits f (cs.dropWhile Text.isBlank)
  let rest := f.skip (rest.dropWhile Text.isBlank)
  match Text.unsigned? 10 ds with
  | none => some (none, rest)
  | some n => if n < countLimit then some (some n, rest) else none

/-- Read the counts of a repetition behind its opening brace. -/
def counts (f : Flags) (cs : List Char) : Option ((Nat × Option Nat) × List Char) := do
  let (least, rest) ← count f (f.skip cs)
  let least ← least
  match rest with
  | '\x7d' :: rest => some ((least, some least), f.skip rest)
  | ',' :: rest => match f.skip rest with
    | '\x7d' :: rest => some ((least, none), f.skip rest)
    | rest => do
      let (most, rest) ← count f rest
      let most ← most
      match rest with
      | '\x7d' :: rest => if least ≤ most then some ((least, some most), f.skip rest) else none
      | _ => none
  | _ => none

/-! ### Patterns -/

/-- Repeat the last piece of the innermost group. -/
def repeated (s : Progress) (least : Nat) (most : Option Nat) (rest : List Char) :
    Option (Progress × List Char) :=
  (s.group.repeatLast least most).map fun g => ({ s with group := g }, skipLazy rest)

/-- Read one thing. -/
def step (s : Progress) : List Char → Option (Progress × List Char)
  | [] => none
  | '(' :: rest => openParenthesis s rest
  | ')' :: rest => s.closeGroup.map fun s => (s, rest)
  | '|' :: rest => some ({ s with group := s.group.bar }, rest)
  | '[' :: rest => do
    let (part, rest) ← bracket s.flags rest
    return (s.add (.one (← s.flags.accept? part.set)) part.height, rest)
  | '?' :: rest => repeated s 0 (some 1) rest
  | '*' :: rest => repeated s 0 none rest
  | '+' :: rest => repeated s 1 none rest
  | '\x7b' :: rest => do
    let ((least, most), rest) ← counts s.flags rest
    repeated s least most rest
  | '\\' :: rest => do
    let (atom, rest) ← escape s.flags rest
    return (s.add (← atom.pattern s.flags) 0, rest)
  | '.' :: rest => do return (s.add (.one (← s.flags.dot)) 0, rest)
  | '^' :: rest => some (s.add (.edge s.flags.caret) 0, rest)
  | '$' :: rest => some (s.add (.edge s.flags.dollar) 0, rest)
  | c :: rest => do return (s.add (← (Atom.literal c).pattern s.flags) 0, rest)

/-- Read everything. -/
def steps (s : Progress) (cs : List Char) : Option Progress :=
  match s.flags.skip cs with
  | [] => some s
  | c :: rest => match step s (c :: rest) with
    | none => none
    | some (s, rest) => if _h : rest.length < cs.length then steps s rest else none
termination_by cs.length

/-- How deeply the parts of a pattern may nest. -/
def heightLimit : Nat := 250

/-- How large a pattern may be with its repetitions written out. -/
def sizeLimit : Nat := 327680

/-- Read a pattern. -/
def readPattern (cs : List Char) : Option Pattern := do
  let s ← steps .start cs
  let p := s.group.close
  if s.around.isEmpty && p.height ≤ heightLimit && p.pattern.size ≤ sizeLimit then some p.pattern
  else none

end Exclusion

/-- The files to leave out: a pattern as it was written, and the paths that it picks. -/
structure Exclusion where
  source : String
  /-- The file of the given path is left out. -/
  excludes : String → Bool

/-- Read an exclusion: it picks the paths in which its pattern is found. -/
def Exclusion.parse (source : String) : Option Exclusion :=
  (readPattern source.toList).map fun p => ⟨source, fun path => p.isFoundIn path.toList⟩

end MessageCatalog
