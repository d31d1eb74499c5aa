import MessageCatalog.Json.Scan
import MessageCatalog.Text.Numeral

/-! # Numbers of JSON

A number is kept as it is written, as digits times a power of ten.  Readers that want its value
as a double refuse one whose nearest double is infinite: `Number.isFinite` decides that in whole
numbers.
-/

namespace MessageCatalog.Json

/-- A decimal number: `digits * 10 ^ exponent`, below zero if `negative`. -/
structure Number where
  negative : Bool
  digits : Nat
  exponent : Int
deriving DecidableEq, Repr

namespace Number

/-- The least magnitude that rounds to infinity: half a unit above the greatest double. -/
def overflow : Nat := Nat.pow 2 1024 - Nat.pow 2 970

/-- The nearest double is finite. -/
def isFinite (n : Number) : Bool :=
  if n.digits = 0 then true
  else
    let magnitude : Int := (Nat.toDigits 10 n.digits).length + n.exponent
    if magnitude < 300 then true
    else if 320 < magnitude then false
    else if 0 ≤ n.exponent then n.digits * Nat.pow 10 n.exponent.toNat < overflow
    else n.digits < overflow * Nat.pow 10 (-n.exponent).toNat

end Number

/-- A decimal digit. -/
def isDigit (c : Char) : Bool := '0' ≤ c && c ≤ '9'

/-- Read one digit or more. -/
def digitRun (atEnd : Fault) : Scan (List Char)
  | [] => .error atEnd
  | c :: cs =>
    if isDigit c then .ok (c :: cs.takeWhile isDigit, cs.dropWhile isDigit)
    else .error .malformed

/-- Read the digits before the point: no zero stands before another digit. -/
def wholePart (atEnd : Fault) : Scan (List Char)
  | '0' :: c :: cs => if isDigit c then .error .malformed else .ok (['0'], c :: cs)
  | cs => digitRun atEnd cs

/-- Read the point and the digits behind it, if there is a point. -/
def fraction (atEnd : Fault) : Scan (List Char)
  | '.' :: cs => digitRun atEnd cs
  | cs => .ok ([], cs)

/-- Read the sign and the digits of an exponent. -/
def signedRun (atEnd : Fault) : Scan Int := fun cs =>
  let (negative, cs) := match cs with
    | '-' :: cs => (true, cs)
    | '+' :: cs => (false, cs)
    | cs => (false, cs)
  (digitRun atEnd cs).map fun (ds, rest) =>
    let n : Int := ((Text.digits? 10 0 ds).getD 0 : Nat)
    (if negative then -n else n, rest)

/-- Read the exponent, if there is one. -/
def exponent (atEnd : Fault) : Scan Int
  | 'e' :: cs => signedRun atEnd cs
  | 'E' :: cs => signedRun atEnd cs
  | cs => .ok (0, cs)

/-- Read a number; `atEnd` is the fault of a text that ends inside it. -/
def number (atEnd : Fault) : Scan Number := fun cs => do
  let (negative, cs) := match cs with
    | '-' :: cs => (true, cs)
    | cs => (false, cs)
  let (whole, cs) ← wholePart atEnd cs
  let (decimals, cs) ← fraction atEnd cs
  let (e, cs) ← exponent atEnd cs
  let digits := (Text.digits? 10 0 (whole ++ decimals)).getD 0
  return (⟨negative, digits, e - decimals.length⟩, cs)

end MessageCatalog.Json
