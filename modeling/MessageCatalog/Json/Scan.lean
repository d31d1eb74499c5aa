/-! # Scanning JSON

A scanner takes the text that is left and returns what it read with the text behind it, or the
fault it met.  Scanners look at the text from left to right and stop behind the thing they
read, so what they return does not depend on the text behind it.

`entries` and `elements` are the loops of objects and arrays.  They are written over the scanner
of one member, so the same loops read values, typed records and values nobody wants.
-/

namespace MessageCatalog.Json

/-- Why a text is not the JSON that is wanted. -/
inductive Fault where
  /-- The text is not JSON. -/
  | malformed
  /-- The text ends too early. -/
  | unfinished
  /-- The text is JSON of another shape. -/
  | mismatch
deriving DecidableEq, Repr

namespace Fault

/-- The name of a class of faults. -/
def category : Fault → String
  | malformed => "syntax"
  | unfinished => "eof"
  | mismatch => "data"

end Fault

/-- Read something from the front of a text. -/
abbrev Scan (α : Type) := List Char → Except Fault (α × List Char)

/-- White space between tokens. -/
def isSpace (c : Char) : Bool := c = ' ' || c = '\n' || c = '\t' || c = '\r'

/-- The text from the next token on. -/
def skipSpace (cs : List Char) : List Char := cs.dropWhile isSpace

/-- Read the given characters. -/
def exactly : List Char → Scan Unit
  | [], cs => .ok ((), cs)
  | _ :: _, [] => .error .unfinished
  | w :: ws, c :: cs => if c = w then exactly ws cs else .error .malformed

/-- Read the colon of a member. -/
def colon : Scan Unit := fun cs => match skipSpace cs with
  | [] => .error .unfinished
  | ':' :: rest => .ok ((), rest)
  | _ => .error .malformed

/-! ### Arrays -/

/-- Read an element and, after a comma, further ones, up to the closing bracket. -/
def moreElements {α : Type} (item : Scan α) (cs : List Char) :
    Except Fault (List α × List Char) :=
  match item cs with
  | .error f => .error f
  | .ok (x, rest) => match skipSpace rest with
    | [] => .error .unfinished
    | c :: rest =>
      if c = ']' then .ok ([x], rest)
      else if c = ',' then
        if _h : rest.length < cs.length then
          match moreElements item rest with
          | .error f => .error f
          | .ok (xs, rest) => .ok (x :: xs, rest)
        else .error .malformed
      else .error .malformed
termination_by cs.length

/-- Read the elements of an array behind its opening bracket. -/
def elements {α : Type} (item : Scan α) : Scan (List α) := fun cs =>
  match skipSpace cs with
  | [] => .error .unfinished
  | ']' :: rest => .ok ([], rest)
  | cs => moreElements item cs

/-! ### Objects -/

/-- Read a key with its quotes. -/
def key {κ : Type} (text : Scan κ) : Scan κ := fun cs => match skipSpace cs with
  | [] => .error .unfinished
  | '\x22' :: rest => text rest
  | _ => .error .malformed

/-- Read a member and, after a comma, further ones, up to the closing brace.  Each member takes
its key to the next state; `member` reads the colon and the value. -/
def moreEntries {κ σ : Type} (text : Scan κ) (member : σ → κ → Scan σ) (s : σ)
    (cs : List Char) : Except Fault (σ × List Char) :=
  match key text cs with
  | .error f => .error f
  | .ok (k, rest) => match member s k rest with
    | .error f => .error f
    | .ok (s, rest) => match skipSpace rest with
      | [] => .error .unfinished
      | c :: rest =>
        if c = '\x7d' then .ok (s, rest)
        else if c = ',' then
          if _h : rest.length < cs.length then moreEntries text member s rest
          else .error .malformed
        else .error .malformed
termination_by cs.length

/-- Read the members of an object behind its opening brace. -/
def entries {κ σ : Type} (text : Scan κ) (member : σ → κ → Scan σ) (s : σ) : Scan σ :=
  fun cs => match skipSpace cs with
  | [] => .error .unfinished
  | '\x7d' :: rest => .ok (s, rest)
  | cs => moreEntries text member s cs

/-! ### Texts of one or more documents -/

/-- Read documents one after the other until only white space is left. -/
def documents {α : Type} (document : Scan α) (cs : List Char) : Except Fault (List α) :=
  match skipSpace cs with
  | [] => .ok []
  | c :: cs' => match document (c :: cs') with
    | .error f => .error f
    | .ok (x, rest) =>
      if _h : rest.length < cs.length then
        match documents document rest with
        | .error f => .error f
        | .ok xs => .ok (x :: xs)
      else .error .malformed
termination_by cs.length

/-- Read exactly one document. -/
def single {α : Type} (document : Scan α) (cs : List Char) : Except Fault α :=
  match document cs with
  | .error f => .error f
  | .ok (x, rest) => if (skipSpace rest).isEmpty then .ok x else .error .malformed

end MessageCatalog.Json
