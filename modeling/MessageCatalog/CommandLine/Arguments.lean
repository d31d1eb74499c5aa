/-! # Command-line arguments

Arguments are flags, options with a value, and offsets.  The value of an option follows it or is
attached by `=`.  An option whose value follows stays open until the next flag, option or offset,
or the end; only then is it settled, so an unknown argument behind it is reported first.  After
`--` everything is an offset.
-/

namespace MessageCatalog

/-- Why arguments are not carried out. -/
inductive ArgumentFault where
  /-- There is no such flag or option. -/
  | unknown
  /-- An option lacks its value, or has one that is not for it. -/
  | badValue
  /-- A flag has a value. -/
  | extraValue
  /-- A flag or an option is repeated. -/
  | repeated
  /-- Help is asked for. -/
  | help
  /-- The version is asked for. -/
  | version
deriving DecidableEq, Repr

/-- An option that takes a value. -/
inductive OptionName where
  | scope
  | exclude
  | comment
  | ignore
  | callers
  | config
deriving DecidableEq, Repr

/-- A flag. -/
inductive FlagName where
  | sort
  | verbose
  | help
  | version
deriving DecidableEq, Repr

/-- The arguments of a run. -/
structure Arguments where
  offsets : List String := []
  scope : Option String := none
  exclude : Option String := none
  sort : Bool := false
  comment : Option String := none
  ignore : Option String := none
  callers : Option String := none
  config : Option String := none
  verbose : Bool := false
deriving DecidableEq, Repr

namespace OptionName

/-- The option of a long name. -/
def ofName? (name : String) : Option OptionName :=
  match name with
  | "scope" => some scope
  | "exclude" => some exclude
  | "comment" => some comment
  | "ignore" => some ignore
  | "callers" => some callers
  | "config" => some config
  | _ => none

/-- The value of the option is a path, which is never empty. -/
def isPath : OptionName → Bool
  | callers | config => true
  | _ => false

end OptionName

namespace FlagName

/-- The flag of a long name. -/
def ofName? (name : String) : Option FlagName :=
  match name with
  | "sort" => some sort
  | "verbose" => some verbose
  | "help" => some help
  | "version" => some version
  | _ => none

/-- The flag of a letter. -/
def ofLetter? (letter : Char) : Option FlagName :=
  match letter with
  | 'v' => some verbose
  | 'h' => some help
  | 'V' => some version
  | _ => none

end FlagName

namespace Arguments

/-- The value of an option. -/
def value? (a : Arguments) : OptionName → Option String
  | .scope => a.scope
  | .exclude => a.exclude
  | .comment => a.comment
  | .ignore => a.ignore
  | .callers => a.callers
  | .config => a.config

/-- The arguments with the value of an option. -/
def withValue (a : Arguments) (o : OptionName) (v : String) : Arguments :=
  match o with
  | .scope => { a with scope := some v }
  | .exclude => { a with exclude := some v }
  | .comment => { a with comment := some v }
  | .ignore => { a with ignore := some v }
  | .callers => { a with callers := some v }
  | .config => { a with config := some v }

/-- Settle an option: it needs a value, stands only once, and a path is not empty. -/
def settle (a : Arguments) (o : OptionName) (v : Option String) :
    Except ArgumentFault Arguments :=
  match v with
  | none => .error .badValue
  | some v =>
    if (a.value? o).isSome then .error .repeated
    else if o.isPath && v.isEmpty then .error .badValue
    else .ok (a.withValue o v)

/-- Settle a flag. -/
def setFlag (a : Arguments) : FlagName → Except ArgumentFault Arguments
  | .sort => if a.sort then .error .repeated else .ok { a with sort := true }
  | .verbose => if a.verbose then .error .repeated else .ok { a with verbose := true }
  | .help => .error .help
  | .version => .error .version

/-- There is something to extract. -/
def hasInput (a : Arguments) : Bool := !a.offsets.isEmpty || a.callers.isSome

end Arguments

/-- The arguments read so far, and the option that is still open, with its value if it has come. -/
structure ArgumentReader where
  arguments : Arguments := {}
  openOption : Option (OptionName × Option String) := none

namespace ArgumentReader

/-- Settle the open option. -/
def close (r : ArgumentReader) : Except ArgumentFault Arguments :=
  match r.openOption with
  | none => .ok r.arguments
  | some (o, v) => r.arguments.settle o v

/-- Settle the open option and go on with what `next` makes of the arguments. -/
def closeThen (r : ArgumentReader) (next : Arguments → Except ArgumentFault Arguments) :
    Except ArgumentFault ArgumentReader := do
  return { arguments := ← next (← r.close) }

/-- Read an argument that starts with two hyphens. -/
def long (r : ArgumentReader) (name : String) (attached : Option String) :
    Except ArgumentFault ArgumentReader :=
  match FlagName.ofName? name, OptionName.ofName? name, attached with
  | some f, _, none => r.closeThen (·.setFlag f)
  | some _, _, some _ => .error .extraValue
  | none, some o, some v => r.closeThen (·.settle o (some v))
  | none, some o, none => do return { arguments := ← r.close, openOption := some (o, none) }
  | none, none, _ => .error .unknown

/-- Read the letters of an argument that starts with one hyphen. -/
def short (r : ArgumentReader) : List Char → Except ArgumentFault ArgumentReader
  | [] => .ok r
  | c :: cs => match FlagName.ofLetter? c with
    | none => .error .unknown
    | some f => do short (← r.closeThen (·.setFlag f)) cs

/-- Read an argument without a hyphen: the value of the open option, or an offset. -/
def plain (r : ArgumentReader) (text : String) : Except ArgumentFault ArgumentReader :=
  match r.openOption with
  | some (o, none) => .ok { r with openOption := some (o, some text) }
  | _ => r.closeThen fun a => .ok { a with offsets := a.offsets ++ [text] }

/-- Read an argument. -/
def step (r : ArgumentReader) (text : String) : Except ArgumentFault ArgumentReader :=
  match text.toList with
  | '-' :: '-' :: cs =>
    let name := String.ofList (cs.takeWhile (· != '='))
    match cs.dropWhile (· != '=') with
    | [] => r.long name none
    | _ :: value => r.long name (some (String.ofList value))
  | '-' :: c :: cs => r.short (c :: cs)
  | _ => r.plain text

/-- Read all arguments. -/
def steps (r : ArgumentReader) : List String → Except ArgumentFault Arguments
  | [] => r.close
  | text :: rest =>
    if text = "--" then do
      let a ← r.close
      return { a with offsets := a.offsets ++ rest }
    else do (← r.step text).steps rest

end ArgumentReader

/-- Read the arguments of a command line, the program's name apart. -/
def Arguments.parse (texts : List String) : Except ArgumentFault Arguments :=
  ({} : ArgumentReader).steps texts

end MessageCatalog
