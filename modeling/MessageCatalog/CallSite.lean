import MessageCatalog.Json.Value

/-! # Call sites

The call graph reports the calls of a function as JSON.  A document is a list of call sites or
one call site; a call site is an object with its position, or a list of one to three strings.
`CallSite.parse` reads any number of documents one after the other.  A list is first taken for a
list of call sites and, if it is none, for a call site.
-/

namespace MessageCatalog

/-- A reported call: the position of its parenthesis, the kind of call, and the caller. -/
structure CallSite where
  position : String
  description : String
  caller : String
deriving DecidableEq, Repr

namespace CallSite

/-- The members of an object that have been read. -/
structure Fields where
  position : Option String := none
  description : Option String := none
  caller : Option String := none

namespace Fields

/-- Take in a member.  A known one is a string and stands only once; others do not matter. -/
def add (s : Fields) (key : String) (value : Json.Value) : Option Fields :=
  let once (earlier : Option String) (put : String → Fields) : Option Fields :=
    match earlier, value with
    | none, .string v => some (put v)
    | _, _ => none
  match key with
  | "pos" => once s.position fun v => { s with position := some v }
  | "desc" => once s.description fun v => { s with description := some v }
  | "caller" => once s.caller fun v => { s with caller := some v }
  | _ => some s

/-- The call site, if its position was given. -/
def finish (s : Fields) : Option CallSite :=
  s.position.map fun p => ⟨p, s.description.getD "", s.caller.getD ""⟩

end Fields

/-- The call site of an object. -/
def ofMembers (members : List (String × Json.Value)) : Option CallSite :=
  (members.foldlM (fun s (k, v) => Fields.add s k v) {}).bind Fields.finish

/-- The call site of a list of strings. -/
def ofElements : List Json.Value → Option CallSite
  | [.string p] => some ⟨p, "", ""⟩
  | [.string p, .string d] => some ⟨p, d, ""⟩
  | [.string p, .string d, .string c] => some ⟨p, d, c⟩
  | _ => none

/-- The call site of a value. -/
def ofValue : Json.Value → Option CallSite
  | .object members => ofMembers members
  | .array elements => ofElements elements
  | _ => none

/-- The call sites of a document. -/
def ofDocument (v : Json.Value) : Option (List CallSite) :=
  let one := (ofValue v).map fun s => [s]
  match v with
  | .array elements => (elements.mapM ofValue).or one
  | _ => one

/-- Read a document. -/
def document : Json.Scan (List CallSite) := fun cs =>
  match Json.value Json.depthLimit cs with
  | .error f => .error f
  | .ok (v, rest) => match ofDocument v with
    | some sites => .ok (sites, rest)
    | none => .error .mismatch

/-- Read the call sites of any number of documents. -/
def parse (text : String) : Except Json.Fault (List CallSite) :=
  (Json.documents document text.toList).map List.flatten

end CallSite

end MessageCatalog
