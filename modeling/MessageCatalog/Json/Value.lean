import MessageCatalog.Json.Number
import MessageCatalog.Json.Quoted

/-! # JSON values

`value` reads a value with at most the given number of containers inside each other, and `skip`
passes over one of any depth.  A text that is not JSON is refused at the first place, from left
to right, where it cannot go on.
-/

namespace MessageCatalog.Json

/-- A JSON value; an object keeps its members in the order of the text. -/
inductive Value where
  | null
  | bool (b : Bool)
  | number (n : Number)
  | string (s : String)
  | array (elements : List Value)
  | object (members : List (String × Value))

/-- How many containers may stand inside each other. -/
def depthLimit : Nat := 127

/-- Read a number that is finite as a double. -/
def finiteNumber : Scan Number := fun cs => do
  let (n, rest) ← number .unfinished cs
  if n.isFinite then return (n, rest) else throw .malformed

/-- Read a key-value pair and put it in front of the earlier ones. -/
def pair {α : Type} (item : Scan α) (earlier : List (String × α)) (k : String) :
    Scan (List (String × α)) := fun cs => do
  let ((), cs) ← colon cs
  let (v, cs) ← item cs
  return ((k, v) :: earlier, cs)

/-- Read a value; `nested` reads what stands in a container, if one is allowed here. -/
def valueWith (nested : Option (Scan Value)) : Scan Value := fun cs =>
  match skipSpace cs with
  | [] => .error .unfinished
  | 'n' :: rest => (exactly ['u', 'l', 'l'] rest).map fun (_, rest) => (.null, rest)
  | 't' :: rest => (exactly ['r', 'u', 'e'] rest).map fun (_, rest) => (.bool true, rest)
  | 'f' :: rest => (exactly ['a', 'l', 's', 'e'] rest).map fun (_, rest) => (.bool false, rest)
  | '\x22' :: rest => (text rest).map fun (s, rest) => (.string s, rest)
  | '[' :: rest => match nested with
    | none => .error .malformed
    | some item => (elements item rest).map fun (vs, rest) => (.array vs, rest)
  | '\x7b' :: rest => match nested with
    | none => .error .malformed
    | some item => (entries text (pair item) [] rest).map fun (ms, rest) =>
        (.object ms.reverse, rest)
  | c :: rest =>
    if c = '-' || isDigit c then (finiteNumber (c :: rest)).map fun (n, rest) => (.number n, rest)
    else .error .malformed

/-- Read a value with at most `depth` containers inside each other. -/
def value : Nat → Scan Value
  | 0 => valueWith none
  | depth + 1 => valueWith (some (value depth))

/-- Pass over a value; `nested` passes over what stands in a container. -/
def skipWith (nested : Scan Unit) : Scan Unit := fun cs =>
  match skipSpace cs with
  | [] => .error .unfinished
  | 'n' :: rest => exactly ['u', 'l', 'l'] rest
  | 't' :: rest => exactly ['r', 'u', 'e'] rest
  | 'f' :: rest => exactly ['a', 'l', 's', 'e'] rest
  | '\x22' :: rest => skipText rest
  | '[' :: rest => (elements nested rest).map fun (_, rest) => ((), rest)
  | '\x7b' :: rest => entries skipText (fun _ _ cs => do
      let ((), cs) ← colon cs
      nested cs) () rest
  | c :: rest =>
    if c = '-' || isDigit c then
      (number .malformed (c :: rest)).map fun (_, rest) => ((), rest)
    else .error .malformed

/-- Pass over a value with fewer than `depth` containers inside each other. -/
def skipWithin : Nat → Scan Unit
  | 0 => fun _ => .error .malformed
  | depth + 1 => skipWith (skipWithin depth)

/-- Pass over a value of any depth: a text of `n` characters opens at most `n` containers. -/
def skip : Scan Unit := fun cs => skipWithin (cs.length + 1) cs

/-! ### Values of a known type -/

/-- The fault of a value of the wrong type.  A container is refused at its bracket; a scalar is
read first, and its own fault comes before the mismatch. -/
def unexpected (cs : List Char) : Fault := match cs with
  | '[' :: _ => .mismatch
  | '\x7b' :: _ => .mismatch
  | cs => match value 0 cs with
    | .error f => f
    | .ok _ => .mismatch

/-- Read a string. -/
def expectText : Scan String := fun cs => match skipSpace cs with
  | '\x22' :: rest => text rest
  | cs => .error (unexpected cs)

/-- Read a string or `null`. -/
def expectOptionalText : Scan (Option String) := fun cs => match skipSpace cs with
  | 'n' :: rest => (exactly ['u', 'l', 'l'] rest).map fun (_, rest) => (none, rest)
  | cs => (expectText cs).map fun (s, rest) => (some s, rest)

/-- Read a truth value. -/
def expectBool : Scan Bool := fun cs => match skipSpace cs with
  | 't' :: rest => (exactly ['r', 'u', 'e'] rest).map fun (_, rest) => (true, rest)
  | 'f' :: rest => (exactly ['a', 'l', 's', 'e'] rest).map fun (_, rest) => (false, rest)
  | cs => .error (unexpected cs)

end MessageCatalog.Json
