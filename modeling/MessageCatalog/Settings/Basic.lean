import MessageCatalog.Failure
import MessageCatalog.Json.Value
import MessageCatalog.Path

/-! # Settings

What a run can be told in a file: a JSON object whose members are all optional, or a list of the
values in the order of `Field.order`.  The text is read from left to right and refused at the
first place that does not fit.
-/

namespace MessageCatalog

/-- The settings of a run. -/
structure Settings where
  /-- The keyword of comments to extract; none are if it is empty. -/
  comment : String := ""
  /-- The text in a comment that excludes the call below it. -/
  ignore : String := "GURUTEXT_IGNORE"
  /-- The pattern of files to leave out. -/
  exclude : Option String := none
  /-- Messages are sorted. -/
  sort : Bool := false
  /-- The packages in which callers are looked for. -/
  scope : Option String := none
deriving DecidableEq, Repr

namespace Settings

/-- One of the settings. -/
inductive Field where
  | comment
  | ignore
  | exclude
  | sort
  | scope
deriving DecidableEq, Repr

namespace Field

/-- The settings in the order of a list. -/
def order : List Field := [comment, ignore, exclude, sort, scope]

/-- The setting of a name. -/
def ofName? (name : String) : Option Field :=
  match name with
  | "comment" => some comment
  | "ignore" => some ignore
  | "exclude" => some exclude
  | "sort" => some sort
  | "scope" => some scope
  | _ => none

/-- Read the value of a setting. -/
def read (k : Field) (s : Settings) : Json.Scan Settings := fun cs =>
  match k with
  | comment => (Json.expectText cs).map fun (v, rest) => ({ s with comment := v }, rest)
  | ignore => (Json.expectText cs).map fun (v, rest) => ({ s with ignore := v }, rest)
  | exclude => (Json.expectOptionalText cs).map fun (v, rest) => ({ s with exclude := v }, rest)
  | sort => (Json.expectBool cs).map fun (v, rest) => ({ s with sort := v }, rest)
  | scope => (Json.expectOptionalText cs).map fun (v, rest) => ({ s with scope := v }, rest)

end Field

/-- Read a member: a setting stands only once, and others are passed over. -/
def member (s : Settings × List Field) (name : String) : Json.Scan (Settings × List Field) :=
  fun cs => match Field.ofName? name with
  | none => do
    let ((), cs) ← Json.colon cs
    let ((), cs) ← Json.skip cs
    return (s, cs)
  | some k =>
    if k ∈ s.2 then throw .mismatch
    else do
      let ((), cs) ← Json.colon cs
      let (settings, cs) ← k.read s.1 cs
      return ((settings, k :: s.2), cs)

/-- Read the values of a list behind its opening bracket, one for each of the given settings;
the list may be shorter. -/
def positional (isFirst : Bool) : List Field → Settings → Json.Scan Settings
  | [], s, cs => match Json.skipSpace cs with
    | [] => .error .unfinished
    | ']' :: rest => .ok (s, rest)
    | _ => .error .malformed
  | k :: ks, s, cs => match Json.skipSpace cs with
    | [] => .error .unfinished
    | ']' :: rest => .ok (s, rest)
    | c :: rest =>
      if isFirst then do
        let (s, rest) ← k.read s (c :: rest)
        positional false ks s rest
      else if c = ',' then do
        let (s, rest) ← k.read s rest
        positional false ks s rest
      else .error .malformed

/-- Read settings. -/
def document : Json.Scan Settings := fun cs => match Json.skipSpace cs with
  | '\x7b' :: rest =>
    (Json.entries Json.text member ({}, []) rest).map fun ((s, _), rest) => (s, rest)
  | '[' :: rest => positional true Field.order {} rest
  | cs => .error (Json.unexpected cs)

/-- Read a text of settings. -/
def parse (text : String) : Except Json.Fault Settings := Json.single document text.toList

/-- The name of the file of settings. -/
def fileName : String := ".gurutextrc.json"

end Settings

/-- Why settings cannot be used. -/
inductive SettingsError where
  /-- The file cannot be read. -/
  | unreadable (path : String) (fault : ReadFault)
  /-- The file holds something else. -/
  | malformed (path : String) (fault : Json.Fault)
  /-- The pattern of files to leave out is none. -/
  | badExclusion (pattern : String)
deriving DecidableEq, Repr

namespace SettingsError

/-- The wording of an error. -/
def message : SettingsError → String
  | unreadable path _ => "Failed to read config file: " ++ Path.quoted path
  | malformed path _ => "Failed to parse config file: " ++ Path.quoted path
  | badExclusion pattern => "Invalid regex in 'exclude': \"" ++ pattern ++ "\""

/-- The fault of the text, if that is the cause. -/
def fault? : SettingsError → Option Json.Fault
  | malformed _ fault => some fault
  | _ => none

end SettingsError

end MessageCatalog
