import MessageCatalog.Go.Parse
import MessageCatalog.Session.Run
import MessageCatalog.Text.Width

/-! # The command line program

The world of a real system, and the program that runs a session in it.  This program starts no
other program, so it has no tool for the call graph: call sites come from a file of callers.
-/

namespace MessageCatalog.Main

/-- Text from bytes, if it is UTF-8. -/
def textOf (bytes : ByteArray) : Except ReadFault String :=
  match String.fromUTF8? bytes with
  | some text => .ok text
  | none => .error .notText

/-- Why a file could not be read. -/
def faultOf (e : IO.Error) : ReadFault :=
  match e with
  | .noFileOrDirectory .. => .missing
  | .inappropriateType .. => .directory
  | e => .other (toString e)

/-- Read a file. -/
def readFile (path : String) : IO (Except ReadFault String) := do
  match ← (IO.FS.readBinFile path).toBaseIO with
  | .ok bytes => return textOf bytes
  | .error e => return .error (faultOf e)

/-- Something can be opened at a path. -/
def canOpen (path : String) : IO Bool := do
  match ← (IO.FS.Handle.mk path .read).toBaseIO with
  | .ok _ => return true
  | .error _ => return false

/-- Read a stream to its end. -/
partial def readToEnd (stream : IO.FS.Stream) (sofar : ByteArray) : IO ByteArray := do
  let chunk ← stream.read 65536
  if chunk.isEmpty then return sofar else readToEnd stream (sofar ++ chunk)

/-- The world of the system that the program runs on. -/
def world : World IO where
  directory := do return (← IO.currentDir).toString
  contains := canOpen
  read := readFile
  input := do return textOf (← readToEnd (← IO.getStdin) .empty)
  ask := fun _ _ => return none
  readers := .standard
  race := .first

/-- What is said about arguments that are not carried out. -/
def complaint : ArgumentFault → String
  | .unknown => "unexpected argument"
  | .badValue => "an option needs a value"
  | .extraValue => "a flag takes no value"
  | .repeated => "an argument cannot be used multiple times"
  | .help | .version => ""

/-- Carry out a run and give its exit code. -/
def perform (a : Arguments) : IO UInt32 := do
  let outcome ← Session.run world (fun _ => Go.parse) Text.displayWidth a
  IO.eprint outcome.stderr
  IO.print outcome.stdout
  match outcome.error with
  | none => return 0
  | some e =>
    IO.eprintln ("Error: " ++ e.message)
    return 1

end MessageCatalog.Main

open MessageCatalog in
/-- The program. -/
def main (texts : List String) : IO UInt32 := do
  match Arguments.parse texts with
  | .ok a => Main.perform a
  | .error .help => do
    IO.print helpText
    return 0
  | .error .version => do
    IO.println "gurutext 0.1.0"
    return 0
  | .error fault => do
    IO.eprintln ("error: " ++ Main.complaint fault)
    return 2
