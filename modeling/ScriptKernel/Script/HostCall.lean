/-
**Calls of host functions.**

Arguments and result cross as structured values, errors are thrown, and a call that begins once an exit has
been requested throws without having been made.

* `dispatch`: a call;
* `failureKind`, `curtail`: how a failure is thrown.
-/

import ScriptKernel.Script.Exchange

set_option autoImplicit false

namespace ScriptKernel.Script

/-- The kind of error a host function's failure is thrown as. -/
def failureKind : SyscallError → ErrorKind
  | .badFd _ => .range
  | .invalidArgument _ => .type
  | .unavailable _ => .error

/-- The characters that fit into so many bytes. -/
def fitting : Nat → List Char → List Char
  | _, [] => []
  | room, char :: rest =>
    if char.utf8Size ≤ room then char :: fitting (room - char.utf8Size) rest else []

/-- What the message of a thrown error keeps of a text: 255 bytes, and nothing from a NUL on. -/
def curtail (text : String) : String :=
  String.ofList (fitting 255 (text.toList.takeWhile (· != '\x00')))

/-- Throws the failure of a host function; the message of a plain error is an ordinary field. -/
def throwFailure {α : Type} (name : String) (error : SyscallError) : Run α :=
  let message := name ++ ": " ++ error.message
  match failureKind error with
  | .error => do
    let parent ← Run.look fun realm => realm.errorParent .error
    let exception ← create .error (some parent)
      [(.ofString "message", .plain (.ofString message))]
    Run.throwValue exception
  | kind => Run.raise kind (curtail message)

/-- Throws because an exit has been requested. -/
def exited {α : Type} : Run α := Run.raise .internal "process exited"

/-- Throws if an exit has been requested. -/
def checkExit : Run Unit := do
  if ← Run.askExiting then exited

/-- An argument of a host function as a structured value. -/
def convertArgument (caller : Caller) (name : String) (value : Value) : Run Json := do
  match ← readBack caller value with
  | .ok json => return json
  | .error error => Run.raise .type (curtail (name ++ ": " ++ error.message))

/-- Calls a host function; nothing it does is lost when it panics. -/
def dispatch (caller : Caller) (index : Nat) (name : String) (args : List Value) : Run Value :=
  Run.contained do
    match ← Run.callHost index (Run.each (convertArgument caller name) args) with
    | none => exited
    | some reply =>
      checkExit
      match reply with
      | .ok json => Run.make fun realm => realm.materialize json
      | .error error => throwFailure name error

end ScriptKernel.Script
