/-
**Configuration.**

* `KernelConfig`: engine limits, the time one call may take, the length of the job queue, and what a fault
  of the main function leads to;
* `KernelConfig.validate`: a queue holds at least one job, and a time limit is not zero;
* `FaultPolicy.parse`: the policy a text names, blanks around it and the case of letters aside.
-/

import ScriptKernel.Error
import ScriptKernel.Text.Blank

set_option autoImplicit false

namespace ScriptKernel

/-- A length of time in nanoseconds. -/
abbrev Duration := Nat

/-- So many milliseconds. -/
def Duration.ofMilliseconds (count : Nat) : Duration := count * 1000000

/-- The whole milliseconds of a length of time, in sixty-four bits. -/
def Duration.toMilliseconds (duration : Duration) : Nat := duration / 1000000 % Nat.pow 2 64

/-- What happens to a process whose main function failed. -/
inductive FaultPolicy
  | continue
  | terminate
  deriving DecidableEq, Repr

/-- The name of a policy. -/
def FaultPolicy.name : FaultPolicy → String
  | .continue => "continue"
  | .terminate => "terminate"

/-- The policy a text names. -/
def FaultPolicy.parse (text : String) : Except KernelError FaultPolicy :=
  let name := lowerAscii (trimBlank text)
  if name = "continue" then .ok .continue
  else if name = "terminate" then .ok .terminate
  else .error (.configuration ("unknown fault policy '" ++ name ++ "'"))

/-- The ceilings of an engine, in bytes; zero lifts the first two. -/
structure EngineLimits where
  memoryLimit : Nat := 67108864
  maxStackSize : Nat := 1048576
  gcThreshold : Nat := 4194304
  deriving DecidableEq, Repr

/-- Limits without ceilings. -/
def EngineLimits.unlimited : EngineLimits := { memoryLimit := 0, maxStackSize := 0 }

/-- The configuration of a kernel. -/
structure KernelConfig where
  engine : EngineLimits := {}
  /-- The time one evaluation or call may take; none lifts the limit. -/
  callTimeout : Option Duration := some (Duration.ofMilliseconds 30000)
  queueCapacity : Nat := 64
  faultPolicy : FaultPolicy := .continue
  deriving DecidableEq, Repr

/-- Whether a configuration makes sense. -/
def KernelConfig.validate (config : KernelConfig) : Except KernelError Unit :=
  if config.queueCapacity = 0 then
    .error (.configuration "queue_capacity must be at least 1")
  else if config.callTimeout = some 0 then
    .error (.configuration "call_timeout must be positive; use null to disable")
  else .ok ()

end ScriptKernel
