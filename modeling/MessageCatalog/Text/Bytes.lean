/-! # Text measured in bytes

Columns and offsets of a source text count UTF-8 bytes, while the text itself is a list of
characters.  This module relates the two: `byteLength` measures a text, `takeBytes` and
`dropBytes` cut it at a byte offset without ever splitting a character, and `slice` takes
what lies between two offsets.
-/

namespace MessageCatalog.Text

/-- The number of bytes of the UTF-8 encoding of a text. -/
def byteLength : List Char → Nat
  | [] => 0
  | c :: cs => c.utf8Size + byteLength cs

/-- The longest run of whole characters at the front that takes at most `n` bytes. -/
def takeBytes : Nat → List Char → List Char
  | _, [] => []
  | n, c :: cs => if c.utf8Size ≤ n then c :: takeBytes (n - c.utf8Size) cs else []

/-- What is left after the characters that start before byte `n`. -/
def dropBytes : Nat → List Char → List Char
  | _, [] => []
  | n, c :: cs => if n = 0 then c :: cs else dropBytes (n - c.utf8Size) cs

/-- The text from byte `start` up to byte `stop`. -/
def slice (start stop : Nat) (cs : List Char) : List Char :=
  takeBytes (stop - start) (dropBytes start cs)

/-- Byte `n` of the text is the start of a character or the end of the text. -/
def isBoundary : Nat → List Char → Bool
  | 0, _ => true
  | _ + 1, [] => false
  | n + 1, c :: cs => c.utf8Size ≤ n + 1 && isBoundary (n + 1 - c.utf8Size) cs
termination_by _ cs => cs.length

/-- The last boundary at or before byte `n`, found by stepping back one byte at a time. -/
def floorBoundary (cs : List Char) : Nat → Nat
  | 0 => 0
  | n + 1 => if isBoundary (n + 1) cs then n + 1 else floorBoundary cs n

/-! ### Small laws -/

@[simp] theorem byteLength_nil : byteLength [] = 0 := rfl

@[simp] theorem byteLength_cons (c : Char) (cs : List Char) :
    byteLength (c :: cs) = c.utf8Size + byteLength cs := rfl

theorem byteLength_append (a b : List Char) :
    byteLength (a ++ b) = byteLength a + byteLength b := by
  induction a with
  | nil => simp
  | cons c cs ih => simp [ih, Nat.add_assoc]

end MessageCatalog.Text
