import MessageCatalog.Text.Numeral

/-! # Locations and positions

A *location* is a line and a byte column of a text, both counted from one.  A *position* is a
location in a named file; it is written `file:line:column`, which is also how call sites are
submitted.  `Position.parse` reads that form: exactly two colons, then two numerals below
`2 ^ 64`.
-/

namespace MessageCatalog

/-- A line and a byte column, counted from one. -/
structure Location where
  line : Nat
  column : Nat
deriving DecidableEq, Repr, Inhabited

namespace Location

/-- Locations ascend by line, then by column. -/
instance : Ord Location := ⟨compareLex (compareOn line) (compareOn column)⟩

instance : Std.TransOrd Location :=
  inferInstanceAs (Std.TransCmp (compareLex (compareOn line) (compareOn column)))

instance : Std.LawfulEqOrd Location where
  eq_of_compare {a b} h := by
    have h : ((compare a.line b.line).then (compare a.column b.column)) = .eq := h
    rw [Ordering.then_eq_eq, Nat.compare_eq_eq, Nat.compare_eq_eq] at h
    cases a; cases b
    simp_all

/-- A location as `line:column`. -/
def render (l : Location) : String := l.line.repr ++ ":" ++ l.column.repr

end Location

/-- A location in a named file. -/
structure Position where
  file : String
  location : Location
deriving DecidableEq, Repr, Inhabited

/-- Why a text is not a position. -/
inductive PositionError where
  /-- The text is not three parts divided by colons. -/
  | form (text : String)
  /-- A line or column that is not a number below `2 ^ 64`. -/
  | number (text : String)
deriving DecidableEq, Repr

namespace Position

/-- A position as `file:line:column`. -/
def render (p : Position) : String := p.file ++ ":" ++ p.location.render

/-- The least number that is too large for a line or a column. -/
def limit : Nat := Nat.pow 2 64

/-- Read a line or a column. -/
def parseNumber (cs : List Char) : Except PositionError Nat :=
  match Text.numeral? 10 cs with
  | some n => if n < limit then .ok n else .error (.number (String.ofList cs))
  | none => .error (.number (String.ofList cs))

/-- Read `file:line:column`; the line is read before the column. -/
def parse (text : String) : Except PositionError Position :=
  match text.toList.splitOn ':' with
  | [file, line, column] => do
    let line ← parseNumber line
    let column ← parseNumber column
    return ⟨String.ofList file, line, column⟩
  | _ => .error (.form text)

end Position

end MessageCatalog
