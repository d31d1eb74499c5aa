import MessageCatalog.Go.Node
import MessageCatalog.Text.Letter
import MessageCatalog.Text.Numeral

/-! # Tokens of Go sources

A source is a sequence of lexemes: tokens, comments, line breaks and blanks.  One function per
class says how far a lexeme of that class reaches; a symbol or number is the longest that
matches.  `scan` cuts a whole text into lexemes, or gives the location where none starts.

String literals are read leniently: any character may follow a backslash, except that `\x`,
`\u` and `\U` need their digits.  Whether an escape has a value is for decoding to say.
-/

namespace MessageCatalog.Go

/-- The class of a lexeme. -/
inductive Lexeme where
  /-- An identifier or a keyword. -/
  | word
  | int
  | float
  | imaginary
  | rune
  /-- A string between double quotes. -/
  | interpreted
  /-- A string between back quotes. -/
  | raw
  /-- An operator or punctuation. -/
  | symbol
  | comment
  | lineBreak
  | blank
deriving DecidableEq, Repr, Inhabited

/-- A lexeme with its text and the stretch that it covers. -/
structure Token where
  lexeme : Lexeme
  text : String
  start : Place
  stop : Place
deriving DecidableEq, Repr, Inhabited

/-! ### Numbers

Each function gives the length of the longest number of its form at the front, zero if there
is none. -/

namespace Lexeme

/-- The character is a digit of the base. -/
def isDigit (base : Nat) (c : Char) : Bool := (Text.digit? base c).isSome

/-- Digits, each but the first perhaps after an underscore, that continue a number. -/
def moreDigits (base : Nat) : List Char → Nat
  | '_' :: c :: cs => if isDigit base c then 2 + moreDigits base cs else 0
  | c :: cs => if isDigit base c then 1 + moreDigits base cs else 0
  | [] => 0

/-- A digit and the digits that continue it. -/
def digits (base : Nat) : List Char → Nat
  | c :: cs => if isDigit base c then 1 + moreDigits base cs else 0
  | [] => 0

/-- Digits after `taken` characters, perhaps after one underscore. -/
def digitsAfter (base taken : Nat) : List Char → Nat
  | '_' :: cs => match digits base cs with | 0 => 0 | n => taken + 1 + n
  | cs => match digits base cs with | 0 => 0 | n => taken + n

/-- An integer: decimal, or octal, hexadecimal or binary after its mark. -/
def intLength : List Char → Nat
  | '0' :: m :: cs =>
    if m = 'x' ∨ m = 'X' then max 1 (digitsAfter 16 2 cs)
    else if m = 'b' ∨ m = 'B' then max 1 (digitsAfter 2 2 cs)
    else if m = 'o' ∨ m = 'O' then max 1 (digitsAfter 8 2 cs)
    else max 1 (digitsAfter 8 1 (m :: cs))
  | '0' :: [] => 1
  | cs => digits 10 cs

/-- An exponent after `n` characters: its mark, perhaps a sign, and digits. -/
def exponentAfter (marks : List Char) (n : Nat) (cs : List Char) : Option Nat :=
  match cs.drop n with
  | e :: rest =>
    if marks.contains e then
      let sign := match rest with
        | s :: _ => if s = '+' ∨ s = '-' then 1 else 0
        | [] => 0
      match digits 10 (rest.drop sign) with
      | 0 => none
      | d => some (n + 1 + sign + d)
    else none
  | [] => none

/-- A decimal fraction or a decimal number with an exponent. -/
def decimalFloatLength (cs : List Char) : Nat :=
  let whole := digits 10 cs
  match cs.drop whole with
  | '.' :: rest =>
    let fraction := digits 10 rest
    if whole = 0 ∧ fraction = 0 then 0
    else
      let n := whole + 1 + fraction
      (exponentAfter ['e', 'E'] n cs).getD n
  | _ => if whole = 0 then 0 else (exponentAfter ['e', 'E'] whole cs).getD 0

/-- A hexadecimal number with a binary exponent. -/
def hexFloatLength : List Char → Nat
  | '0' :: m :: cs =>
    if m = 'x' ∨ m = 'X' then
      let whole := digitsAfter 16 0 cs
      let mantissa := match cs.drop whole with
        | '.' :: rest => whole + 1 + digits 16 rest
        | _ => whole
      if mantissa ≤ 1 ∧ whole = 0 then 0
      else (exponentAfter ['p', 'P'] (2 + mantissa) ('0' :: m :: cs)).getD 0
    else 0
  | _ => 0

/-- A floating-point number of either base. -/
def floatLength (cs : List Char) : Nat := max (decimalFloatLength cs) (hexFloatLength cs)

/-- A number followed by the imaginary unit. -/
def imaginaryLength (cs : List Char) : Nat :=
  [digits 10 cs, intLength cs, decimalFloatLength cs, hexFloatLength cs].foldl
    (fun best n => if 0 < n ∧ cs[n]? = some 'i' then max best (n + 1) else best) 0

/-- The class and length of the longest number at the front. -/
def number? (cs : List Char) : Option (Lexeme × Nat) :=
  let i := intLength cs
  let f := floatLength cs
  let m := imaginaryLength cs
  if m ≠ 0 ∧ max i f < m then some (imaginary, m)
  else if f ≠ 0 ∧ i < f then some (float, f)
  else if i ≠ 0 then some (int, i)
  else none

/-! ### Quoted lexemes

The length of what follows the opening quote, the closing one included. -/

/-- The next `n` characters are hexadecimal digits. -/
def hexDigits (n : Nat) (cs : List Char) : Bool :=
  (cs.take n).length == n && (cs.take n).all (isDigit 16)

/-- The rest of a string between double quotes. -/
def interpretedRest : List Char → Option Nat
  | '\x22' :: _ => some 1
  | '\\' :: 'x' :: cs => if hexDigits 2 cs then (interpretedRest cs).map (· + 2) else none
  | '\\' :: 'u' :: cs => if hexDigits 4 cs then (interpretedRest cs).map (· + 2) else none
  | '\\' :: 'U' :: cs => if hexDigits 8 cs then (interpretedRest cs).map (· + 2) else none
  | '\\' :: _ :: cs => (interpretedRest cs).map (· + 2)
  | '\\' :: [] => none
  | '\n' :: _ => none
  | _ :: cs => (interpretedRest cs).map (· + 1)
  | [] => none

/-- The rest of a string between back quotes. -/
def rawRest : List Char → Option Nat
  | '\x60' :: _ => some 1
  | _ :: cs => (rawRest cs).map (· + 1)
  | [] => none

/-- The length of an escape in a rune literal, its backslash left out. -/
def runeEscape : List Char → Nat
  | 'x' :: cs => if hexDigits 2 cs then 3 else 0
  | 'u' :: cs => if hexDigits 4 cs then 5 else 0
  | 'U' :: cs => if hexDigits 8 cs then 9 else 0
  | c :: cs =>
    if ['a', 'b', 'f', 'n', 'r', 't', 'v', '\\', '\x27', '\x22'].contains c then 1
    else if (cs.take 2).length == 2 && (c :: cs.take 2).all (isDigit 8) then 3
    else 0
  | [] => 0

/-- The rest of a rune literal: one character or one escape. -/
def runeRest : List Char → Option Nat
  | '\\' :: cs => match runeEscape cs with
    | 0 => none
    | n => if cs[n]? = some '\x27' then some (n + 2) else none
  | '\x27' :: _ => none
  | _ :: '\x27' :: _ => some 2
  | _ => none

/-! ### Comments, words and symbols -/

/-- The rest of a comment up to its end mark. -/
def blockRest : List Char → Option Nat
  | '*' :: '/' :: _ => some 2
  | _ :: cs => (blockRest cs).map (· + 1)
  | [] => none

/-- The symbols, a longer one before its beginnings. -/
def symbols : List String := [
  "<<=", ">>=", "&^=", "...",
  "<<", ">>", "&^", "+=", "-=", "*=", "/=", "%=", "&=", "|=", "^=", "&&", "||", "<-", "++", "--",
  "==", "!=", "<=", ">=", ":=",
  "+", "-", "*", "/", "%", "&", "|", "^", "<", ">", "=", "!", "(", ")", "[", "]", "\x7b", "\x7d",
  ",", ";", ".", ":", "~", "\x00"]

/-- The length of the longest symbol at the front. -/
def symbol? (cs : List Char) : Option Nat :=
  (symbols.find? (·.toList.isPrefixOf cs)).map (·.length)

/-- The class of the lexeme that starts with `c`, and its length after `c`. -/
def read? (c : Char) (cs : List Char) : Option (Lexeme × Nat) :=
  if c = '\n' then some (lineBreak, 0)
  else if [' ', '\t', '\r', '\x0b', '\x0c'].contains c then some (blank, 0)
  else if Text.isWordStart c then some (word, (cs.takeWhile Text.isWordPart).length)
  else if c = '\x22' then (interpretedRest cs).map (interpreted, ·)
  else if c = '\x60' then (rawRest cs).map (raw, ·)
  else if c = '\x27' then (runeRest cs).map (rune, ·)
  else match c, cs with
    | '/', '/' :: rest => some (comment, 1 + (rest.takeWhile (· ≠ '\n')).length)
    | '/', '*' :: rest => (blockRest rest).map fun n => (comment, 1 + n)
    | _, _ => match number? (c :: cs) with
      | some (k, n) => some (k, n - 1)
      | none => (symbol? (c :: cs)).map fun n => (symbol, n - 1)

end Lexeme

/-! ### Whole texts -/

namespace Place

/-- The place at the front of a text. -/
def origin : Place := ⟨0, ⟨1, 1⟩⟩

/-- The place after a character. -/
def after (p : Place) (c : Char) : Place :=
  ⟨p.offset + c.utf8Size,
    if c = '\n' then ⟨p.location.line + 1, 1⟩
    else ⟨p.location.line, p.location.column + c.utf8Size⟩⟩

end Place

namespace Token

/-- Cut a text that starts at `p` into lexemes, or give the location where none starts. -/
def scan (p : Place) : List Char → Except Location (List Token)
  | [] => .ok []
  | c :: cs => match Lexeme.read? c cs with
    | none => .error p.location
    | some (k, n) => do
      let text := c :: cs.take n
      let q := text.foldl Place.after p
      return ⟨k, String.ofList text, p, q⟩ :: (← scan q (cs.drop n))
termination_by cs => cs.length

/-- The lexemes of a source; a byte order mark at its front is skipped. -/
def ofSource (source : String) : Except Location (List Token) :=
  match source.toList with
  | '\ufeff' :: cs => scan (Place.origin.after '\ufeff') cs
  | cs => scan Place.origin cs

end Token

end MessageCatalog.Go
