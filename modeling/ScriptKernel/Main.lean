/-
**The program.**

What an invocation may read is read first; then it runs, and what it printed goes to the streams.

* `main`: runs a script as a process; the code is that of the report.
-/

import ScriptKernel.CommandLine
import ScriptKernel.ErrorNumber

set_option autoImplicit false

namespace ScriptKernel.Program

/-! ### Files -/

/-- The number the operating system gave an error. -/
def errorNumber? : IO.Error → Option UInt32
  | .alreadyExists _ number _ | .otherError number _ | .resourceBusy number _
  | .resourceVanished number _ | .unsupportedOperation number _ | .hardwareFault number _
  | .unsatisfiedConstraints number _ | .illegalOperation number _ | .protocolError number _
  | .timeExpired number _ | .interrupted _ number _ | .noFileOrDirectory _ number _
  | .invalidArgument _ number _ | .permissionDenied _ number _ | .resourceExhausted _ number _
  | .inappropriateType _ number _ | .noSuchThing _ number _ => some number
  | .unexpectedEof | .userError _ => none

/-- Why a file could not be read. -/
def fileError (error : IO.Error) : FileError :=
  match errorNumber? error with
  | some number => .other (ErrorNumber.message number.toNat)
  | none => .other (toString error)

/-- The text of a file. -/
def readFile (path : String) : IO (Except FileError String) := do
  match ← (IO.FS.readBinFile path).toBaseIO with
  | .error error => return .error (fileError error)
  | .ok bytes =>
    match String.fromUTF8? bytes with
    | some content => return .ok content
    | none => return .error .notText

/-- The files an invocation may read. -/
def neededFiles (args : List String) : List String :=
  match Invocation.parse args with
  | .ok invocation => invocation.config.toList ++ [Path.clean invocation.script]
  | .error _ => []

/-- The file system of what was read. -/
def fileSystemOf (readings : List (String × Except FileError String)) : FileSystem where
  read path := (Json.lookup? path readings).getD (.error .notFound)

/-! ### The environment -/

/-- Cuts bytes after each zero. -/
def cutAtZero : List UInt8 → List (List UInt8)
  | [] => []
  | byte :: rest =>
    if byte == 0 then [] :: cutAtZero rest
    else match cutAtZero rest with
      | [] => [[byte]]
      | entry :: others => (byte :: entry) :: others

/-- Bytes as a text. -/
def textOf? (bytes : List UInt8) : Option String := String.fromUTF8? ⟨bytes.toArray⟩

/-- A variable from its name and its value with an equals sign between, which may also begin the name. -/
def variableOf? (entry : List UInt8) : Option (String × Setting) :=
  let length := ((entry.drop 1).takeWhile (· != 61)).length + 1
  if length < entry.length then
    match textOf? (entry.take length), textOf? (entry.drop (length + 1)) with
    | some name, some value => some (name, .text value)
    | name, _ => some (name.getD "", .binary)
  else none

/-- The variables of the program. -/
def environment : IO Variables := do
  match ← (IO.FS.readBinFile "/proc/self/environ").toBaseIO with
  | .ok bytes => return (cutAtZero bytes.toList).filterMap variableOf?
  | .error _ => return []

/-! ### Streams -/

/-- Prints a text a process wrote. -/
def print (output : Output) : IO Unit := do
  match output.stream with
  | .stdout => (← IO.getStdout).putStr output.text
  | .stderr => (← IO.getStderr).putStr output.text

end ScriptKernel.Program

open ScriptKernel in
/-- Runs a script as a process whose output goes to the streams of the program. -/
def main (args : List String) : IO UInt32 := do
  let readings ← (Program.neededFiles args).mapM fun path => do
    return (path, ← Program.readFile path)
  let report := CommandLine.run args (← Program.environment) (Program.fileSystemOf readings)
  report.outputs.forM Program.print
  (← IO.getStdout).flush
  if let some message := report.failure then
    (← IO.getStderr).putStrLn (CommandLine.failureLine message)
  return UInt32.ofNat report.code
