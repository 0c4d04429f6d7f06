/-
**The ways into a script.**

Each entry ends with a value or with a fault; what a script throws is described in words.

* `evaluateReported`, `callFunction`, `hasFunction`: a script is evaluated, one of its functions called or
  looked up; a call first resolves the name (`resolve`), then calls the function (`apply`);
* `describe`: an exception in words;
* `guarded`, `reported`: what a part throws, as a value or as a fault.
-/

import ScriptKernel.Script.Call
import ScriptKernel.Script.Grammar

set_option autoImplicit false

namespace ScriptKernel.Script

/-- Why an entry failed. -/
inductive Fault
  | missing
  | exception (text : String)
  | engine (error : EngineError)
  deriving DecidableEq, Repr

/-- What a part throws, as a value; being stopped counts as an exception. -/
def guarded {α : Type} (part : Run α) : Run (Except Value α) :=
  part.heard.andThen (fun value => pure (.ok value)) (fun exception => pure (.error exception))
    (Run.make fun realm =>
      let (address, realm) := realm.createError .internal (.ofString "interrupted")
      (.error (.object address), realm))

/-- A text of an exception, if it has one that can be read; what reading it throws stays pending. -/
def exceptionText (part : Run (Option Units)) : Run (Option String) := do
  match ← guarded part with
  | .ok text => return text.bind Units.toString?
  | .error exception =>
    Run.leavePending (some exception)
    return none

/-- The name of an error, if it is a text. -/
def errorName (exception : Value) : Run (Option Units) := do
  match ← get .standard exception (.ofString "name") with
  | .text name => return some name
  | _ => return none

/-- The message of an error, if it has one. -/
def errorMessage (exception : Value) : Run (Option Units) := do
  match ← get .standard exception (.ofString "message") with
  | .undefined | .null => return none
  | message => return some (← toText .standard message)

/-- Whether a value is an error. -/
def Realm.isError (realm : Realm) : Value → Bool
  | .object address =>
    match (realm.object address).kind with
    | .error => true
    | _ => false
  | _ => false

/-- An exception in words. -/
def describe (exception : Value) : Run String := do
  if ← Run.look fun realm => realm.isError exception then
    let name := (← exceptionText (errorName exception)).getD "Error"
    let message := (← exceptionText (errorMessage exception)).getD ""
    return if message.isEmpty then name else name ++ ": " ++ message
  else
    let text ← exceptionText (do return some (← toText .standard exception))
    return text.getD "Unknown error"

/-- What a part throws, as a fault; the exception has been looked at. -/
def reported {α : Type} (part : Run α) : Run (Except Fault α) := do
  match ← guarded part with
  | .ok value => return .ok value
  | .error exception =>
    Run.leavePending none
    return .error (.exception (← describe exception))

/-- The byte of a source at which its first NUL stands. -/
def nulPosition? (source : String) : Option Nat :=
  let before := source.toList.takeWhile (· != '\x00')
  if before.length < source.length then some (String.ofList before).utf8ByteSize else none

/-- Why a source is not even read. -/
def refusal? (source : String) : Option EngineError :=
  (nulPosition? source).map fun position =>
    .internal ("String contained internal null bytes: nul byte found in provided data at position: " ++
      toString position)

/-- Evaluates a script; one that cannot be parsed is an error, and nothing of it runs. -/
def evaluate (source : String) : Run Value :=
  match Source.parse source with
  | .ok tree => tree.run
  | .error complaint => Run.raiseText .grammar complaint.message

/-- Evaluates a script, and answers its value or why there is none. -/
def evaluateReported (source : String) : Run (Except Fault Value) :=
  match refusal? source with
  | some error => pure (.error (.engine error))
  | none => reported (evaluate source)

/-- Evaluates a script and answers the structured form of its value. -/
def evaluateValue (source : String) : Run (Except Fault Json) := do
  match ← evaluateReported source with
  | .error fault => return .error fault
  | .ok value =>
    match ← readBack .standard value with
    | .ok json => return .ok json
    | .error error => return .error (.engine error)

/-- Evaluates a script, tells whether it threw nothing, and leaves what it threw pending. -/
def evaluateQuietly (source : String) : Run Bool := do
  if (refusal? source).isSome then return false
  else match ← guarded (evaluate source) with
  | .ok _ => return true
  | .error exception =>
    Run.leavePending (some exception)
    return false

/-- A structured value as a script sees it, and back. -/
def roundTrip (json : Json) : Run (Except EngineError Json) := do
  let value ← Run.make fun realm => realm.materialize json
  readBack .standard value

/-- The value of a field of the global object. -/
def globalNamed (name : String) : Run Value := do
  get .standard (← Run.look Realm.globalValue) (.ofString name)

/-- Whether a field of the global object is a function; what looking it up throws stays pending. -/
def hasFunction (name : String) : Run Bool := do
  match ← guarded (globalNamed name) with
  | .ok value => Run.look fun realm => realm.isCallable value
  | .error exception =>
    Run.leavePending (some exception)
    return false

/-- The function that a field of the global object is, or why there is none. -/
def resolve (name : String) : Run (Except Fault Value) := do
  match ← reported (globalNamed name) with
  | .error fault => return .error fault
  | .ok target =>
    if ← Run.look fun realm => realm.isCallable target then return .ok target
    else return .error .missing

/-- Calls a function with structured values. -/
def apply (target : Value) (args : List Json) : Run (Except Fault Json) := do
  let values ← Run.each (fun arg => Run.make fun realm => realm.materialize arg) args
  match ← reported (Caller.standard.call target .undefined values) with
  | .error fault => return .error fault
  | .ok value =>
    match ← readBack .standard value with
    | .ok json => return .ok json
    | .error error => return .error (.engine error)

/-- Calls a function of the global object with structured values. -/
def callFunction (name : String) (args : List Json) : Run (Except Fault Json) := do
  match ← resolve name with
  | .error fault => return .error fault
  | .ok target => apply target args

end ScriptKernel.Script
