/-
**Configuration from files and from the environment.**

Defaults, a file and the environment lie over each other in this order.

* `KernelConfig.ofFile`: the configuration a file holds, validated;
* `KernelConfig.overlay`: a configuration with what the environment sets, validated at the end;
* `parseNatural`: a natural number as the environment may write it.
-/

import ScriptKernel.Config.Record
import ScriptKernel.File

set_option autoImplicit false

namespace ScriptKernel

/-- Why a text is no natural number of a size. -/
inductive NaturalError
  | empty
  | invalidDigit
  | tooLarge
  deriving DecidableEq, Repr

/-- The wording of the error. -/
def NaturalError.message : NaturalError → String
  | .empty => "cannot parse integer from empty string"
  | .invalidDigit => "invalid digit found in string"
  | .tooLarge => "number too large to fit in target type"

/-- Reads the digits of a number below `bound`. -/
def naturalDigits (bound : Nat) : List Char → Nat → Except NaturalError Nat
  | [], value => .ok value
  | char :: rest, value =>
    if '0' ≤ char ∧ char ≤ '9' then
      let next := value * 10 + (char.toNat - 48)
      if next < bound then naturalDigits bound rest next else .error .tooLarge
    else .error .invalidDigit

/-- A natural number below `bound`: decimal digits after an optional plus sign. -/
def parseNatural (bound : Nat) (text : String) : Except NaturalError Nat :=
  match text.toList with
  | [] => .error .empty
  | ['+'] => .error .invalidDigit
  | '+' :: digits => naturalDigits bound digits 0
  | digits => naturalDigits bound digits 0

/-- The value of a variable of the environment: a text, or bytes that are none. -/
inductive Setting
  | text (value : String)
  | binary
  deriving DecidableEq, Repr

/-- The variables of an environment. -/
abbrev Variables := List (String × Setting)

/-- The text of a variable, if it is set and is one. -/
def Variables.text? (settings : Variables) (name : String) : Option String :=
  match Json.lookup? name settings with
  | some (.text value) => some value
  | _ => none

/-- The parsed value of a variable, if it is set. -/
def Variables.parsed? {α : Type} (settings : Variables) (name : String)
    (parse : String → Except String α) : Except KernelError (Option α) :=
  match settings.text? name with
  | none => .ok none
  | some raw =>
    match parse (trimBlank raw) with
    | .ok value => .ok (some value)
    | .error reason => .error (.configuration (name ++ "=" ++ raw ++ ": " ++ reason))

/-- A sixty-four-bit number, or the wording of why it is none. -/
def parseSize (text : String) : Except String Nat :=
  (parseNatural (Nat.pow 2 64) text).mapError NaturalError.message

/-- A policy, or the wording of why it is none. -/
def parsePolicy (text : String) : Except String FaultPolicy :=
  (FaultPolicy.parse text).mapError KernelError.message

namespace KernelConfig

/-- The configuration with what the environment sets; a time limit of zero lifts the limit. -/
def overlay (config : KernelConfig) (settings : Variables) : Except KernelError KernelConfig := do
  let memory ← settings.parsed? "JSKERN_MEMORY_LIMIT" parseSize
  let stack ← settings.parsed? "JSKERN_STACK_SIZE" parseSize
  let timeout ← settings.parsed? "JSKERN_CALL_TIMEOUT_MS" parseSize
  let capacity ← settings.parsed? "JSKERN_QUEUE_CAPACITY" parseSize
  let policy ← settings.parsed? "JSKERN_FAULT_POLICY" parsePolicy
  let overlaid : KernelConfig :=
    { engine :=
        { config.engine with
          memoryLimit := memory.getD config.engine.memoryLimit
          maxStackSize := stack.getD config.engine.maxStackSize }
      callTimeout :=
        match timeout with
        | none => config.callTimeout
        | some 0 => none
        | some count => some (Duration.ofMilliseconds count)
      queueCapacity := capacity.getD config.queueCapacity
      faultPolicy := policy.getD config.faultPolicy }
  overlaid.validate
  return overlaid

/-- The defaults with what the environment sets. -/
def ofEnvironment (settings : Variables) : Except KernelError KernelConfig :=
  overlay {} settings

/-- The configuration a file holds. -/
def ofFile (files : FileSystem) (path : String) : Except KernelError KernelConfig := do
  match files.read path with
  | .error error => throw (.file error.message)
  | .ok source =>
    match decode.run source with
    | .error fault => throw (.configuration (path ++ ": " ++ fault.message source))
    | .ok config =>
      config.validate
      return config

end KernelConfig

end ScriptKernel
