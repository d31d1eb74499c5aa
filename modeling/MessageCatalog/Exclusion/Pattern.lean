import MessageCatalog.Exclusion.CharSet

/-! # Patterns and where they match

A pattern describes stretches of a text.  The matcher works on sets of positions: given the
positions where a stretch may start, `advance` gives the positions where it may end.  Positions
are the gaps between characters, counted from zero, and a set of them is a number whose bits are
its members, so that the characters of a set are found by a mask and stepped over by doubling.
A pattern is found in a text when some stretch, anywhere, fits.
-/

namespace MessageCatalog.Exclusion

/-- A condition on the gap between two characters. -/
inductive Edge where
  | textStart
  | textEnd
  /-- The start of a line; with `crlf` a carriage return also ends one. -/
  | lineStart (crlf : Bool)
  /-- The end of a line. -/
  | lineEnd (crlf : Bool)
  /-- A word starts or ends here. -/
  | wordBoundary (word : CharSet)
  /-- No word starts or ends here. -/
  | wordInterior (word : CharSet)
  | wordStart (word : CharSet)
  | wordEnd (word : CharSet)
  /-- No character of a word stands before. -/
  | afterWord (word : CharSet)
  /-- No character of a word stands behind. -/
  | beforeWord (word : CharSet)

namespace Edge

/-- The condition holds between two characters, where there are any. -/
def holds (e : Edge) (before after : Option Char) : Bool :=
  match e with
  | textStart => before.isNone
  | textEnd => after.isNone
  | lineStart crlf => before.isNone || before == some '\n' ||
      (crlf && before == some '\r' && after != some '\n')
  | lineEnd crlf => after.isNone || (if crlf
      then after == some '\r' || (after == some '\n' && before != some '\r')
      else after == some '\n')
  | wordBoundary w => before.any w != after.any w
  | wordInterior w => before.any w == after.any w
  | wordStart w => !before.any w && after.any w
  | wordEnd w => before.any w && !after.any w
  | afterWord w => !before.any w
  | beforeWord w => !after.any w

end Edge

/-- A description of stretches of text. -/
inductive Pattern where
  /-- The empty stretch. -/
  | empty
  /-- One character of a set. -/
  | one (set : CharSet)
  /-- The empty stretch where a condition holds. -/
  | edge (condition : Edge)
  | seq (first second : Pattern)
  | alt (left right : Pattern)
  /-- At least `least` and, if given, at most `most` repetitions. -/
  | times (least : Nat) (most : Option Nat) (body : Pattern)

namespace Pattern

/-- The positions before a character of the set. -/
def setMask (set : CharSet) : List Char → Nat
  | [] => 0
  | c :: cs => (set c).toNat + 2 * setMask set cs

/-- The positions where a condition holds, the first of them behind `before`. -/
def edgeMask (e : Edge) (before : Option Char) : List Char → Nat
  | [] => (e.holds before none).toNat
  | c :: cs => (e.holds before (some c)).toNat + 2 * edgeMask e (some c) cs

/-- Where stretches that fit the pattern may end, if they start at one of the given positions.
Repetition without a limit stops growing after as many rounds as the text has positions. -/
def advance (text : List Char) : Pattern → Nat → Nat
  | empty, s => s
  | one set, s => 2 * (s &&& setMask set text)
  | edge e, s => s &&& edgeMask e none text
  | seq p q, s => advance text q (advance text p s)
  | alt p q, s => advance text p s ||| advance text q s
  | times least most p, s =>
    let rounds := match most with
      | some m => min (m - least) (text.length + 1)
      | none => text.length + 1
    Nat.repeat (fun s => s ||| advance text p s) rounds (Nat.repeat (advance text p) least s)

/-- Some stretch of the text fits. -/
def isFoundIn (p : Pattern) (text : List Char) : Bool :=
  p.advance text (Nat.pow 2 (text.length + 1) - 1) != 0

/-- The size of a pattern with its counted repetitions written out. -/
def size : Pattern → Nat
  | empty => 1
  | one _ => 1
  | edge _ => 1
  | seq p q => p.size + q.size
  | alt p q => p.size + q.size
  | times least most p => max 1 (max least (most.getD 1)) * p.size

/-- The sequence of some patterns. -/
def sequence : List Pattern → Pattern
  | [] => empty
  | [p] => p
  | p :: ps => seq p (sequence ps)

/-- The choice between some patterns. -/
def choice : List Pattern → Pattern
  | [] => empty
  | [p] => p
  | p :: ps => alt p (choice ps)

end Pattern

end MessageCatalog.Exclusion
