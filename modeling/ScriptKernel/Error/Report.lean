/-
**Errors as reports.**

A report of an error is an object with its tag and its wording, and for the errors of scripts and processes
its record.

* `report`: the report of each kind of error;
* `withoutPlace`: a wording up to the last place in a text that it names.
-/

import ScriptKernel.Error.Record

set_option autoImplicit false

namespace ScriptKernel

/-- A report of a tag and a wording. -/
def plainReport (tag message : String) : Json :=
  Json.object [("error", .text tag), ("message", .text message)]

/-- The text of a field of a record. -/
def recordTag (record : Json) (key : String) : String :=
  match record.field? key with
  | some (.text tag) => tag
  | _ => ""

/-- A report with a record, whose tag is the record's. -/
def fullReport (record : Json) (message : String) : Json :=
  Json.object
    [("error", .text (recordTag record "error_type")), ("message", .text message),
      ("json", record)]

/-- The report of an engine error. -/
def EngineError.report (error : EngineError) : Json :=
  plainReport (recordTag error.toJson "error") error.message

/-- The report of a host function's error. -/
def SyscallError.report (error : SyscallError) : Json :=
  plainReport (recordTag error.toJson "error") error.message

/-- The report of a queue error. -/
def QueueError.report (error : QueueError) : Json :=
  plainReport (recordTag error.toJson "error") error.message

/-- The report of a script error. -/
def ScriptError.report (error : ScriptError) : Json := fullReport error.toJson error.message

/-- The report of a process error. -/
def ProcessError.report (error : ProcessError) : Json := fullReport error.toJson error.message

/-! ### Wordings without places -/

/-- Drops the digits in front, of which there has to be one. -/
def afterDigits? : List Char → Option (List Char)
  | [] => none
  | first :: rest => if first.isDigit then some (rest.dropWhile Char.isDigit) else none

/-- Drops a word in front. -/
def afterWord? (word : String) (chars : List Char) : Option (List Char) :=
  if word.toList.isPrefixOf chars then some (chars.drop word.length) else none

/-- Whether a place in a text stands in front. -/
def startsWithPlace (chars : List Char) : Bool :=
  ((((afterWord? " at line " chars).bind afterDigits?).bind (afterWord? " column ")).bind
    afterDigits?).isSome

/-- The characters up to the last place, if one is named. -/
def upToPlace? : List Char → Option (List Char)
  | [] => none
  | char :: rest =>
    match upToPlace? rest with
    | some kept => some (char :: kept)
    | none => if startsWithPlace (char :: rest) then some [] else none

/-- A wording up to the last place in a text that it names. -/
def withoutPlace (message : String) : String :=
  match upToPlace? message.toList with
  | some kept => String.ofList kept
  | none => message

namespace KernelError

/-- The tag of an error. -/
def tag : KernelError → String
  | .process _ => "process"
  | .engine _ => "engine"
  | .syscall _ => "syscall"
  | .file _ => "io"
  | .configuration _ => "configuration"

/-- The report of an error, without the place in a text. -/
def report (error : KernelError) : Json := plainReport error.tag (withoutPlace error.message)

end KernelError

end ScriptKernel
