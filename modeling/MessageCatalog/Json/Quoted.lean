import MessageCatalog.Json.Scan
import MessageCatalog.Text.Bytes
import MessageCatalog.Text.Numeral

/-! # Quoted strings of JSON

`text` reads a string behind its opening quote and gives its characters; `skipText` passes over
one without asking whether its escapes name characters.  Control characters may not stand in
either.
-/

namespace MessageCatalog.Json

/-- Read the four digits of a `u` escape. -/
def hexQuad : Scan Nat := fun cs =>
  if Text.byteLength (cs.take 4) < 4 then .error .unfinished
  else match cs with
  | a :: b :: c :: d :: rest => match Text.digits? 16 0 [a, b, c, d] with
    | some n => .ok (n, rest)
    | none => .error .malformed
  | _ => .error .malformed

/-- The first half of a pair of code units. -/
def isLeading (n : Nat) : Bool := 0xd800 ≤ n && n ≤ 0xdbff

/-- The second half of a pair of code units. -/
def isTrailing (n : Nat) : Bool := 0xdc00 ≤ n && n ≤ 0xdfff

/-- The character that a pair of code units stands for. -/
def ofPair (leading trailing : Nat) : Char :=
  Char.ofNat (0x10000 + (leading - 0xd800) * 0x400 + (trailing - 0xdc00))

/-- Read a `u` escape behind its letter; halves of a pair have to come as a pair. -/
def unicodeEscape : Scan Char := fun cs => match hexQuad cs with
  | .error f => .error f
  | .ok (n, rest) =>
    if isTrailing n then .error .malformed
    else if isLeading n then match rest with
      | [] => .error .unfinished
      | ['\\'] => .error .unfinished
      | '\\' :: 'u' :: rest => match hexQuad rest with
        | .error f => .error f
        | .ok (m, rest) => if isTrailing m then .ok (ofPair n m, rest) else .error .malformed
      | _ => .error .malformed
    else .ok (Char.ofNat n, rest)

/-- The character of an escape of one letter. -/
def shortEscape? (c : Char) : Option Char :=
  if c = '\x22' || c = '\\' || c = '/' then some c
  else if c = 'b' then some '\x08'
  else if c = 'f' then some '\x0c'
  else if c = 'n' then some '\n'
  else if c = 'r' then some '\r'
  else if c = 't' then some '\t'
  else none

/-- Read an escape behind its backslash. -/
def escape : Scan Char
  | [] => .error .unfinished
  | 'u' :: rest => unicodeEscape rest
  | c :: rest => match shortEscape? c with
    | some e => .ok (e, rest)
    | none => .error .malformed

/-- Pass over an escape behind its backslash. -/
def skipEscape : Scan Unit
  | [] => .error .unfinished
  | 'u' :: rest => (hexQuad rest).map fun (_, rest) => ((), rest)
  | c :: rest => if (shortEscape? c).isSome then .ok ((), rest) else .error .malformed

/-- Read a string behind its opening quote. -/
def characters : List Char → Except Fault (List Char × List Char)
  | [] => .error .unfinished
  | c :: cs =>
    if c = '\x22' then .ok ([], cs)
    else if c = '\\' then match escape cs with
      | .error f => .error f
      | .ok (e, rest) =>
        if _h : rest.length < cs.length then match characters rest with
          | .error f => .error f
          | .ok (es, rest) => .ok (e :: es, rest)
        else .error .malformed
    else if c.toNat < 0x20 then .error .malformed
    else match characters cs with
      | .error f => .error f
      | .ok (es, rest) => .ok (c :: es, rest)
termination_by cs => cs.length
decreasing_by
  all_goals simp only [List.length_cons]
  all_goals omega

/-- Read a string behind its opening quote, as text. -/
def text : Scan String := fun cs =>
  (characters cs).map fun (s, rest) => (String.ofList s, rest)

/-- Pass over a string behind its opening quote. -/
def skipText : List Char → Except Fault (Unit × List Char)
  | [] => .error .unfinished
  | c :: cs =>
    if c = '\x22' then .ok ((), cs)
    else if c = '\\' then match skipEscape cs with
      | .error f => .error f
      | .ok ((), rest) =>
        if _h : rest.length < cs.length then skipText rest else .error .malformed
    else if c.toNat < 0x20 then .error .malformed
    else skipText cs
termination_by cs => cs.length
decreasing_by
  all_goals simp only [List.length_cons]
  all_goals omega

end MessageCatalog.Json
