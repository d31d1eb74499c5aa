import MessageCatalog.Exclusion.Flags

/-! # Escapes of patterns

What may follow a backslash: a character that would otherwise have a meaning, a code point, a
class of characters, or a condition on words and text ends.  References back to groups are
refused, and so is a letter without a meaning.
-/

namespace MessageCatalog.Exclusion

/-- What an escape stands for. -/
inductive Atom where
  | literal (c : Char)
  | set (s : CharSet)
  | edge (e : Edge)

namespace Atom

/-- The pattern of an atom, unless it needs characters that the flags rule out. -/
def pattern (f : Flags) : Atom → Option Pattern
  | literal c => some (.one (f.closed (.single c)))
  | set s => (f.accept? s).map .one
  | edge e => some (.edge e)

end Atom

/-- The character of a code point, if it is one. -/
def ofCode? (n : Nat) : Option Char := if n.isValidChar then some (Char.ofNat n) else none

/-- Read exactly `n` hexadecimal digits that continue a number. -/
def hexDigits (f : Flags) (acc : Nat) : Nat → List Char → Option (Nat × List Char)
  | 0, cs => some (acc, cs)
  | _ + 1, [] => none
  | n + 1, c :: cs => match Text.digit? 16 c with
    | some d => hexDigits f (acc * 16 + d) n (f.skip cs)
    | none => none

/-- Read up to a closing brace. -/
def braced (f : Flags) (cs : List Char) : Option (List Char × List Char) :=
  match _h : f.skip cs with
  | [] => none
  | c :: rest =>
    if c = '\x7d' then some ([], rest)
    else match braced f rest with
      | some (inside, rest) => some (c :: inside, rest)
      | none => none
termination_by cs.length
decreasing_by
  have := f.length_skip_le cs
  rw [_h, List.length_cons] at this
  exact this

/-- Read a code point of `digits` digits, or of any number of them in braces. -/
def codePoint (f : Flags) (digits : Nat) (cs : List Char) : Option (Char × List Char) :=
  match f.skip cs with
  | '\x7b' :: rest => do
    let (inside, rest) ← braced f rest
    let c ← (Text.unsigned? 16 inside).bind ofCode?
    return (c, f.skip rest)
  | cs => do
    let (n, rest) ← hexDigits f 0 digits cs
    return (← ofCode? n, rest)

/-- The text before and behind the first place where `divider` stands. -/
def divide? (divider : List Char) : List Char → Option (List Char × List Char)
  | [] => none
  | c :: cs =>
    if divider.isPrefixOf (c :: cs) then some ([], (c :: cs).drop divider.length)
    else (divide? divider cs).map fun (a, b) => (c :: a, b)

/-- The set with the cases that the flags add, or what is outside it. -/
def side (f : Flags) (outside : Bool) (s : CharSet) : CharSet :=
  if outside then (f.closed s).compl else f.closed s

/-- The set that the name of a property stands for, or its complement. -/
def namedProperty (f : Flags) (outside : Bool) (name : List Char) : Option CharSet :=
  let value (divider : List Char) := divide? divider name
  match value ['!', '='], value [':'], value ['='] with
  | some (n, v), _, _ => (CharSet.propertyValue? (.ofList n) (.ofList v)).map (side f !outside)
  | none, some (n, v), _ => (CharSet.propertyValue? (.ofList n) (.ofList v)).map (side f outside)
  | none, none, some (n, v) => (CharSet.propertyValue? (.ofList n) (.ofList v)).map (side f outside)
  | none, none, none => (CharSet.property? (.ofList name)).map (side f outside)

/-- Read the name of a property, one letter or some in braces. -/
def property (f : Flags) (outside : Bool) (cs : List Char) : Option (CharSet × List Char) :=
  if !f.unicode then none
  else match f.skip cs with
  | [] => none
  | '\x7b' :: rest => do
    let (name, rest) ← braced f rest
    return (← namedProperty f outside name, rest)
  | '\\' :: _ => none
  | c :: rest => do
    return (← namedProperty f outside [c], f.skip rest)

/-- The condition that `b` and a name in braces stand for. -/
def wordEdge? (f : Flags) (name : String) : Option Edge :=
  match name with
  | "start" => some (.wordStart f.word)
  | "end" => some (.wordEnd f.word)
  | "start-half" => some (.afterWord f.word)
  | "end-half" => some (.beforeWord f.word)
  | _ => none

/-- Letters of names of word conditions. -/
def isEdgeLetter (c : Char) : Bool := c.isAlpha || c == '-'

/-- Read what follows `b`: a name in braces, or nothing if the brace opens a repetition. -/
def wordEdge (f : Flags) (cs : List Char) : Option (Edge × List Char) :=
  match cs with
  | '\x7b' :: rest => match f.skip rest with
    | [] => none
    | c :: rest =>
      if isEdgeLetter c then
        match (c :: rest).dropWhile isEdgeLetter with
        | '\x7d' :: behind => do
          return (← wordEdge? f (.ofList ((c :: rest).takeWhile isEdgeLetter)), behind)
        | _ => none
      else some (.wordBoundary f.word, cs)
  | cs => some (.wordBoundary f.word, cs)

/-- An escaped character that stands for itself: any ASCII character but letters, digits and
angle brackets. -/
def isPlain (c : Char) : Bool :=
  c.toNat < 0x80 && !c.isAlphanum && c != '<' && c != '>'

/-- The control character of a letter. -/
def control? (c : Char) : Option Char :=
  match c with
  | 'a' => some '\x07'
  | 'f' => some '\x0c'
  | 't' => some '\t'
  | 'n' => some '\n'
  | 'r' => some '\r'
  | 'v' => some '\x0b'
  | _ => none

/-- The class of a letter, or its complement for a capital. -/
def letterClass? (f : Flags) (c : Char) : Option CharSet :=
  let pick (wide narrow : CharSet) := if f.unicode then wide else narrow
  match c with
  | 'd' => some (pick .digit .asciiDigit)
  | 's' => some (pick .blank .asciiBlank)
  | 'w' => some (pick .word .asciiWord)
  | 'D' => some (pick .digit .asciiDigit).compl
  | 'S' => some (pick .blank .asciiBlank).compl
  | 'W' => some (pick .word .asciiWord).compl
  | _ => none

/-- The condition of a letter. -/
def letterEdge? (f : Flags) (c : Char) : Option Edge :=
  match c with
  | 'A' => some .textStart
  | 'z' => some .textEnd
  | 'B' => some (.wordInterior f.word)
  | '<' => some (.wordStart f.word)
  | '>' => some (.wordEnd f.word)
  | _ => none

/-- Read an escape behind its backslash.  White space is skipped behind code points and names of
properties only, as it belongs to no other escape. -/
def escape (f : Flags) : List Char → Option (Atom × List Char)
  | [] => none
  | 'x' :: cs => do
    let (c, rest) ← codePoint f 2 cs
    let isByte := (f.skip cs).head? != some '\x7b'
    if !f.unicode && isByte && 0x80 ≤ c.toNat then none else some (.literal c, rest)
  | 'u' :: cs => (codePoint f 4 cs).map fun (c, rest) => (.literal c, rest)
  | 'U' :: cs => (codePoint f 8 cs).map fun (c, rest) => (.literal c, rest)
  | 'p' :: cs => (property f false cs).map fun (s, rest) => (.set s, rest)
  | 'P' :: cs => (property f true cs).map fun (s, rest) => (.set s, rest)
  | 'b' :: cs => (wordEdge f cs).map fun (e, rest) => (.edge e, rest)
  | c :: cs =>
    if isPlain c then some (.literal c, cs)
    else match control? c, letterClass? f c, letterEdge? f c with
      | some d, _, _ => some (.literal d, cs)
      | none, some s, _ => some (.set s, cs)
      | none, none, some e => some (.edge e, cs)
      | none, none, none => none

end MessageCatalog.Exclusion
