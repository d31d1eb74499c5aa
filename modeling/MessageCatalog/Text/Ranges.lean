import MessageCatalog.Text.Numeral

/-! # Sets of characters as ranges

A table of a character property is written as rows of hexadecimal code points and ranges of
them, `41-5a b5 c0-d6`, and read into a list of ranges.
-/

namespace MessageCatalog.Text

/-- A set of characters: ranges of code points, ends included. -/
structure Ranges where
  ranges : List (Nat × Nat)
deriving Repr, Inhabited

namespace Ranges

/-- Read one entry of a row, a code point or two divided by a hyphen. -/
def entry? (cs : List Char) : Option (Nat × Nat) :=
  match cs.splitOn '-' with
  | [a] => (unsigned? 16 a).map fun n => (n, n)
  | [a, b] => (unsigned? 16 a).bind fun m => (unsigned? 16 b).map fun n => (m, n)
  | _ => none

/-- Read the rows of a table. -/
def ofRows (rows : List String) : Ranges :=
  ⟨rows.flatMap fun row => (row.toList.splitOn ' ').filterMap entry?⟩

/-- The code point is in one of the ranges. -/
def containsCode (r : Ranges) (n : Nat) : Bool := r.ranges.any fun (a, b) => a ≤ n && n ≤ b

/-- The character is in one of the ranges. -/
def contains (r : Ranges) (c : Char) : Bool := r.containsCode c.toNat

end Ranges

end MessageCatalog.Text
