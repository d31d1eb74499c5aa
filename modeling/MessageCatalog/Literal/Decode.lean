import MessageCatalog.Text.Bytes
import MessageCatalog.Text.Numeral

/-! # The value of a string literal

A literal token is written between double quotes, with escape sequences, or between back
quotes, verbatim.  `decode` gives its value.

An escape names bytes rather than characters (`\xe6\x97\xa5` is one character), so the body of
an interpreted literal is first read as bytes (`decodeBody`), and these have to be the UTF-8
encoding of the value.
-/

namespace MessageCatalog

/-- Why a token has no value. -/
inductive LiteralError where
  /-- The token is not between two quotes of one kind. -/
  | notAString (token : String)
  /-- What follows a backslash is no escape. -/
  | invalidEscape (escape : String)
  /-- The bytes of the literal are not UTF-8. -/
  | invalidUtf8
deriving DecidableEq, Repr

namespace LiteralError

/-- The wording of a literal error. -/
def message : LiteralError → String
  | notAString token => "not a string literal: " ++ token
  | invalidEscape escape => "unknown escape sequence \\" ++ escape
  | invalidUtf8 => "string is not valid UTF-8"

end LiteralError

namespace Literal

/-- The byte named by an escape of one letter. -/
def letterEscape? : Char → Option UInt8
  | 'a' => some 0x07
  | 'b' => some 0x08
  | 'f' => some 0x0c
  | 'n' => some 0x0a
  | 'r' => some 0x0d
  | 't' => some 0x09
  | 'v' => some 0x0b
  | '\\' => some 0x5c
  | '\x22' => some 0x22
  | _ => none

/-- The byte named by the digits of an octal escape, which are three and below `\400`. -/
def octalEscape (digits : List Char) : Except LiteralError UInt8 :=
  match digits.length == 3, Text.digits? 8 0 digits with
  | true, some n =>
    if n < 0x100 then .ok n.toUInt8 else .error (.invalidEscape (String.ofList digits))
  | _, _ => .error (.invalidEscape (String.ofList digits))

/-- The number named by the `width` characters after `\x`, `\u` or `\U`. -/
def hexEscape (letter : Char) (width : Nat) (digits : List Char) : Except LiteralError Nat :=
  let refused := LiteralError.invalidEscape (String.ofList (letter :: digits))
  if Text.byteLength digits = width then
    match Text.numeral? 16 digits with
    | some n => .ok n
    | none => .error refused
  else .error refused

/-- The bytes of the character with code point `n`. -/
def scalarEscape (letter : Char) (n : Nat) : Except LiteralError (List UInt8) :=
  if n.isValidChar then .ok (String.utf8EncodeChar (Char.ofNat n))
  else .error (.invalidEscape (String.ofList (letter :: Nat.toDigits 16 n)))

/-- The bytes named by an escape, and how many characters it takes after its first. -/
def escape (c : Char) (rest : List Char) : Except LiteralError (List UInt8 × Nat) :=
  match letterEscape? c with
  | some b => .ok ([b], 0)
  | none =>
    if '0' ≤ c ∧ c ≤ '7' then do
      return ([← octalEscape (c :: rest.take 2)], 2)
    else match c with
      | 'x' => do return ([(← hexEscape c 2 (rest.take 2)).toUInt8], 2)
      | 'u' => do return (← scalarEscape c (← hexEscape c 4 (rest.take 4)), 4)
      | 'U' => do return (← scalarEscape c (← hexEscape c 8 (rest.take 8)), 8)
      | _ => .error (.invalidEscape (String.singleton c))

/-- The bytes of the body of an interpreted literal. -/
def decodeBody : List Char → Except LiteralError (List UInt8)
  | [] => .ok []
  | '\\' :: [] => .error (.invalidEscape "")
  | '\\' :: c :: rest => do
    let (bytes, taken) ← escape c rest
    return bytes ++ (← decodeBody (rest.drop taken))
  | c :: rest => do return String.utf8EncodeChar c ++ (← decodeBody rest)
termination_by cs => cs.length

/-- The value of the body of an interpreted literal. -/
def decodeInterpreted (body : List Char) : Except LiteralError String := do
  match String.fromUTF8? (← decodeBody body).toByteArray with
  | some value => return value
  | none => .error .invalidUtf8

/-- What stands between two quotes. -/
def unwrap? (quote : Char) : List Char → Option (List Char)
  | [] => none
  | c :: rest => if c = quote ∧ rest.getLast? = some quote then some rest.dropLast else none

/-- The value of a literal token.  A verbatim literal loses its carriage returns. -/
def decode (token : String) : Except LiteralError String :=
  match unwrap? '\x22' token.toList with
  | some body => decodeInterpreted body
  | none => match unwrap? '\x60' token.toList with
    | some body => .ok (String.ofList (body.filter (· ≠ '\r')))
    | none => .error (.notAString token)

end Literal

end MessageCatalog
