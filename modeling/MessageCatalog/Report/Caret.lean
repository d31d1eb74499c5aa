import MessageCatalog.Text.Bytes

/-! # Carets

The white space before a caret lines it up under a byte column of a line: tabs are copied, and
any other character is replaced by as many spaces as it is wide.
-/

namespace MessageCatalog.Caret

/-- The part of a line before a byte column: whole characters only, and the whole line if the
column lies past its end. -/
def cut (line : List Char) (column : Nat) : List Char :=
  Text.takeBytes (Text.floorBoundary line (min (column - 1) (Text.byteLength line))) line

/-- What takes the place of a character before a caret. -/
def pad (width : Char → Nat) (c : Char) : List Char :=
  if c = '\t' then ['\t'] else List.replicate (width c) ' '

/-- White space that lines a caret up under a byte column, counted from one. -/
def padding (width : Char → Nat) (line : List Char) (column : Nat) : List Char :=
  (cut line column).flatMap (pad width)

end MessageCatalog.Caret
