/-
**Configurations as structured values.**

A field that is absent keeps its default; the time limit counts milliseconds, and null lifts it.

* `EngineLimits.toJson`, `KernelConfig.toJson` and their `decode`.
-/

import ScriptKernel.Config
import ScriptKernel.Json.Decode

set_option autoImplicit false

namespace ScriptKernel

open Json (Decoder Member Shape)

/-- The record of a policy. -/
def FaultPolicy.toJson (policy : FaultPolicy) : Json := .text policy.name

/-- The decoder of a policy. -/
def FaultPolicy.decode : Decoder FaultPolicy :=
  Decoder.oneOf ([.continue, .terminate].map fun policy : FaultPolicy => (policy.name, policy))

/-- The decoder of a size. -/
def sizeDecoder : Decoder Nat := Decoder.natural "usize" 64

namespace EngineLimits

/-- The record of engine limits. -/
def toJson (limits : EngineLimits) : Json :=
  Json.object
    [("memory_limit", Json.nat limits.memoryLimit), ("max_stack_size", Json.nat limits.maxStackSize),
      ("gc_threshold", Json.nat limits.gcThreshold)]

/-- The shape of engine limits. -/
def shape : Shape EngineLimits EngineLimits where
  expected := "struct EngineLimits"
  fields :=
    [.of "memory_limit" sizeDecoder fun value limits => { limits with memoryLimit := value },
      .of "max_stack_size" sizeDecoder fun value limits => { limits with maxStackSize := value },
      .of "gc_threshold" sizeDecoder fun value limits => { limits with gcThreshold := value }]
  start := {}
  lenient := true
  build := .ok

/-- The decoder of engine limits. -/
def decode : Decoder EngineLimits := shape.decode

end EngineLimits

namespace KernelConfig

/-- The record of a configuration; the usual policy is left out. -/
def toJson (config : KernelConfig) : Json :=
  Json.object
    ([("engine", config.engine.toJson),
      ("call_timeout",
        Json.ofOption (fun timeout => Json.nat (Duration.toMilliseconds timeout)) config.callTimeout),
      ("queue_capacity", Json.nat config.queueCapacity)] ++
      if config.faultPolicy = .continue then []
      else [("fault_policy", config.faultPolicy.toJson)])

/-- The decoder of a time limit. -/
def timeoutDecoder : Decoder (Option Duration) := fun source tree =>
  (Decoder.optional (Decoder.natural "u64" 64) source tree).map
    (Option.map Duration.ofMilliseconds)

/-- The shape of a configuration. -/
def shape : Shape KernelConfig KernelConfig where
  expected := "struct KernelConfig"
  fields :=
    [.of "engine" EngineLimits.decode fun value config => { config with engine := value },
      .of "call_timeout" timeoutDecoder fun value config => { config with callTimeout := value },
      .of "queue_capacity" sizeDecoder fun value config => { config with queueCapacity := value },
      .of "fault_policy" FaultPolicy.decode fun value config => { config with faultPolicy := value }]
  start := {}
  lenient := true
  build := .ok

/-- The decoder of a configuration. -/
def decode : Decoder KernelConfig := shape.decode

end KernelConfig

end ScriptKernel
