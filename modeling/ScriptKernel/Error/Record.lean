/-
**Errors and signals as structured values.**

An error is an object whose tag names its cause, with what the cause carries beside it.

* `toJson` and `decode` of each error type, of signals and of the outcome of a signal.
-/

import ScriptKernel.Error
import ScriptKernel.Json.Decode

set_option autoImplicit false

namespace ScriptKernel

open Json (Decoder Member Shape Content Tagging)

/-- The decoder of a process number. -/
def pidDecoder : Decoder Pid := Decoder.natural "u16" 16

/-- The decoder of an exit code. -/
def exitCodeDecoder : Decoder ExitCode := Decoder.integer "i32" (-2147483648) 2147483648

/-- A field that must be there. -/
def needed {α : Type} (name : String) (value : Option α) : Except String α :=
  match value with
  | some value => .ok value
  | none => .error name

/-- A variant and its content, under two names. -/
def tagged (tagging : Tagging) (name : String) (content : Option Json) : Json :=
  Json.object ((tagging.tag, .text name) :: content.toList.map fun value => (tagging.content, value))

/-! ### Signals -/

/-- A signal by its name. -/
def Signal.toJson (signal : Signal) : Json := .text signal.name

/-- The decoder of a signal. -/
def Signal.decode : Decoder Signal := Decoder.oneOf (Signal.all.map fun signal => (signal.name, signal))

/-- The record of a signal error. -/
def SignalError.toJson : SignalError → Json
  | .invalid number => Json.object [("InvalidSignal", Json.nat number)]

/-- The decoder of a signal error. -/
def SignalError.decode : Decoder SignalError :=
  Decoder.choice
    [("InvalidSignal", .holding fun source tree =>
      (Decoder.natural "u32" 32 source tree).map SignalError.invalid)]

/-- The record of the outcome of a signal. -/
def SignalOutcome.toJson : SignalOutcome → Json
  | .handled result => Json.object [("handled", result)]
  | .ignored => .text "ignored"
  | .terminated => .text "terminated"

/-- The decoder of the outcome of a signal. -/
def SignalOutcome.decode : Decoder SignalOutcome :=
  Decoder.choice
    [("handled", .holding fun source tree => (Decoder.any source tree).map SignalOutcome.handled),
      ("ignored", .bare .ignored), ("terminated", .bare .terminated)]

/-! ### Errors -/

/-- A content that is a text. -/
def textContent {α : Type} (make : String → α) : Content α :=
  .value fun source tree => (Decoder.text source tree).map make

/-- How engine errors are written. -/
def EngineError.tagging : Tagging := ⟨"EngineError", "error", "details"⟩

/-- The record of an engine error. -/
def EngineError.toJson : EngineError → Json
  | .creation reason => tagged tagging "creation" (some (.text reason))
  | .destroyed => tagged tagging "destroyed" none
  | .conversion reason => tagged tagging "conversion" (some (.text reason))
  | .internal reason => tagged tagging "internal" (some (.text reason))

/-- The decoder of an engine error. -/
def EngineError.decode : Decoder EngineError :=
  Decoder.adjacent tagging
    [("creation", textContent .creation),
      ("destroyed", .none "EngineError::Destroyed" .destroyed),
      ("conversion", textContent .conversion),
      ("internal", textContent .internal)]

/-- How host function errors are written. -/
def SyscallError.tagging : Tagging := ⟨"SyscallError", "error", "details"⟩

/-- The record of a host function's error. -/
def SyscallError.toJson : SyscallError → Json
  | .badFd value => tagged tagging "bad_fd" (some (.text value))
  | .invalidArgument reason => tagged tagging "invalid_argument" (some (.text reason))
  | .unavailable reason => tagged tagging "unavailable" (some (.text reason))

/-- The decoder of a host function's error. -/
def SyscallError.decode : Decoder SyscallError :=
  Decoder.adjacent tagging
    [("bad_fd", textContent .badFd), ("invalid_argument", textContent .invalidArgument),
      ("unavailable", textContent .unavailable)]

/-- How queue errors are written. -/
def QueueError.tagging : Tagging := ⟨"QueueError", "error", "details"⟩

/-- The record of a queue error. -/
def QueueError.toJson : QueueError → Json
  | .closed => tagged tagging "closed" none
  | .reentrant => tagged tagging "reentrant" none
  | .spawn reason => tagged tagging "spawn" (some (.text reason))

/-- The decoder of a queue error. -/
def QueueError.decode : Decoder QueueError :=
  Decoder.adjacent tagging
    [("closed", .none "QueueError::Closed" .closed),
      ("reentrant", .none "QueueError::Reentrant" .reentrant),
      ("spawn", textContent .spawn)]

/-- The fields a script error may carry. -/
structure ScriptError.Draft where
  path : Option String := none
  reason : Option String := none
  exception : Option String := none
  pid : Option Pid := none
  name : Option String := none
  target : Option String := none
  limit : Option Nat := none
  code : Option ExitCode := none
  source : Option EngineError := none

namespace ScriptError

/-- How script errors are written. -/
def tagging : Tagging := ⟨"ScriptError", "error_type", "details"⟩

/-- The record of a script error. -/
def toJson : ScriptError → Json
  | .load path reason =>
    tagged tagging "load" (some (Json.object [("path", .text path), ("reason", .text reason)]))
  | .evaluation path exception =>
    tagged tagging "evaluation"
      (some (Json.object [("path", .text path), ("exception", .text exception)]))
  | .symbolNotFound pid name =>
    tagged tagging "symbol_not_found"
      (some (Json.object [("pid", Json.nat pid), ("name", .text name)]))
  | .call pid name exception =>
    tagged tagging "call"
      (some (Json.object
        [("pid", Json.nat pid), ("name", .text name), ("exception", .text exception)]))
  | .timeout pid target limit =>
    tagged tagging "timeout"
      (some (Json.object
        [("pid", Json.nat pid), ("target", .text target), ("limit_ms", Json.nat limit)]))
  | .cancelled pid target =>
    tagged tagging "cancelled"
      (some (Json.object [("pid", Json.nat pid), ("target", .text target)]))
  | .exited pid code =>
    tagged tagging "exited" (some (Json.object [("pid", Json.nat pid), ("code", Json.int code)]))
  | .engine pid source =>
    tagged tagging "engine"
      (some (Json.object [("pid", Json.nat pid), ("source", source.toJson)]))

/-- The path field. -/
def pathField : Member Draft := .of "path" Decoder.text fun value draft => { draft with path := some value }

/-- The reason field. -/
def reasonField : Member Draft :=
  .of "reason" Decoder.text fun value draft => { draft with reason := some value }

/-- The exception field. -/
def exceptionField : Member Draft :=
  .of "exception" Decoder.text fun value draft => { draft with exception := some value }

/-- The process number field. -/
def pidField : Member Draft := .of "pid" pidDecoder fun value draft => { draft with pid := some value }

/-- The function name field. -/
def nameField : Member Draft := .of "name" Decoder.text fun value draft => { draft with name := some value }

/-- The target field. -/
def targetField : Member Draft :=
  .of "target" Decoder.text fun value draft => { draft with target := some value }

/-- The time limit field. -/
def limitField : Member Draft :=
  .of "limit_ms" (Decoder.natural "u64" 64) fun value draft => { draft with limit := some value }

/-- The exit code field. -/
def codeField : Member Draft :=
  .of "code" exitCodeDecoder fun value draft => { draft with code := some value }

/-- The engine error field. -/
def sourceField : Member Draft :=
  .of "source" EngineError.decode fun value draft => { draft with source := some value }

/-- A variant that carries named fields. -/
def variant (label : String) (fields : List (Member Draft))
    (build : Draft → Except String ScriptError) : Content ScriptError :=
  .record (Shape.decodeNamed ⟨"struct variant ScriptError::" ++ label, fields, {}, false, build⟩)

/-- The decoder of a script error. -/
def decode : Decoder ScriptError :=
  Decoder.adjacent tagging
    [("load", variant "Load" [pathField, reasonField] fun draft => do
        return .load (← needed "path" draft.path) (← needed "reason" draft.reason)),
      ("evaluation", variant "Evaluation" [pathField, exceptionField] fun draft => do
        return .evaluation (← needed "path" draft.path) (← needed "exception" draft.exception)),
      ("symbol_not_found", variant "SymbolNotFound" [pidField, nameField] fun draft => do
        return .symbolNotFound (← needed "pid" draft.pid) (← needed "name" draft.name)),
      ("call", variant "Call" [pidField, nameField, exceptionField] fun draft => do
        return .call (← needed "pid" draft.pid) (← needed "name" draft.name)
          (← needed "exception" draft.exception)),
      ("timeout", variant "Timeout" [pidField, targetField, limitField] fun draft => do
        return .timeout (← needed "pid" draft.pid) (← needed "target" draft.target)
          (← needed "limit_ms" draft.limit)),
      ("cancelled", variant "Cancelled" [pidField, targetField] fun draft => do
        return .cancelled (← needed "pid" draft.pid) (← needed "target" draft.target)),
      ("exited", variant "Exited" [pidField, codeField] fun draft => do
        return .exited (← needed "pid" draft.pid) (← needed "code" draft.code)),
      ("engine", variant "Engine" [pidField, sourceField] fun draft => do
        return .engine (← needed "pid" draft.pid) (← needed "source" draft.source))]

end ScriptError

/-- The fields of a process that could not be constructed. -/
structure ProcessError.Draft where
  pid : Option Pid := none
  reason : Option String := none

namespace ProcessError

/-- How process errors are written. -/
def tagging : Tagging := ⟨"ProcessError", "error_type", "details"⟩

/-- The record of a process error. -/
def toJson : ProcessError → Json
  | .construction pid reason =>
    tagged tagging "construction"
      (some (Json.object [("pid", Json.nat pid), ("reason", .text reason)]))
  | .terminated pid => tagged tagging "terminated" (some (Json.nat pid))
  | .notFound pid => tagged tagging "not_found" (some (Json.nat pid))
  | .pidExhausted => tagged tagging "pid_exhausted" none
  | .queue error => tagged tagging "queue" (some error.toJson)
  | .script error => tagged tagging "script" (some error.toJson)
  | .signal error => tagged tagging "signal" (some error.toJson)

/-- The shape of a process that could not be constructed. -/
def constructionShape : Shape Draft ProcessError where
  expected := "struct variant ProcessError::Construction"
  fields :=
    [.of "pid" pidDecoder fun value draft => { draft with pid := some value },
      .of "reason" Decoder.text fun value draft => { draft with reason := some value }]
  start := {}
  lenient := false
  build := fun draft => do
    return .construction (← needed "pid" draft.pid) (← needed "reason" draft.reason)

/-- The decoder of a process error. -/
def decode : Decoder ProcessError :=
  Decoder.adjacent tagging
    [("construction", .record constructionShape.decodeNamed),
      ("terminated", .value fun source tree => (pidDecoder source tree).map .terminated),
      ("not_found", .value fun source tree => (pidDecoder source tree).map .notFound),
      ("pid_exhausted", .none "ProcessError::PidExhausted" .pidExhausted),
      ("queue", .value fun source tree => (QueueError.decode source tree).map .queue),
      ("script", .value fun source tree => (ScriptError.decode source tree).map .script),
      ("signal", .value fun source tree => (SignalError.decode source tree).map .signal)]

end ProcessError

end ScriptKernel
