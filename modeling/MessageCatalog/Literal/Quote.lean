/-! # Quoted message identifiers

A message is written on one line between double quotes: a quote, a backslash and every ASCII
control character are escaped, all else stands for itself.
-/

namespace MessageCatalog.Literal

/-- An ASCII control character. -/
def isControl (c : Char) : Bool := c.toNat < 0x20 || c.toNat == 0x7f

/-- Three octal digits. -/
def octalDigits (n : Nat) : List Char :=
  [Nat.digitChar (n / 64 % 8), Nat.digitChar (n / 8 % 8), Nat.digitChar (n % 8)]

/-- How a character is written inside quotes. -/
def quoteChar (c : Char) : List Char :=
  match c with
  | '\\' => ['\\', '\\']
  | '\x22' => ['\\', '\x22']
  | '\n' => ['\\', 'n']
  | '\t' => ['\\', 't']
  | '\r' => ['\\', 'r']
  | '\x07' => ['\\', 'a']
  | '\x08' => ['\\', 'b']
  | '\x0c' => ['\\', 'f']
  | '\x0b' => ['\\', 'v']
  | c => if isControl c then '\\' :: octalDigits c.toNat else [c]

/-- A message between double quotes. -/
def quote (value : String) : String :=
  String.ofList ('\x22' :: (value.toList.flatMap quoteChar ++ ['\x22']))

end MessageCatalog.Literal
