/-
**Processes, events and diagnostics as structured values.**

* `toJson` and `decode` of states, statuses, events, specifications, infos, streams and diagnostics.
-/

import ScriptKernel.Error.Record
import ScriptKernel.Status

set_option autoImplicit false

namespace ScriptKernel

open Json (Decoder Member Shape Content Tagging)

/-- The name of a state. -/
def ProcessState.name : ProcessState → String
  | .ready => "ready"
  | .running => "running"
  | .exited => "exited"
  | .terminated => "terminated"

/-- The record of a state. -/
def ProcessState.toJson (state : ProcessState) : Json := .text state.name

/-- The decoder of a state. -/
def ProcessState.decode : Decoder ProcessState :=
  Decoder.oneOf ([.ready, .running, .exited, .terminated].map fun state : ProcessState =>
    (state.name, state))

/-- How statuses are written. -/
def ExitStatus.tagging : Tagging := ⟨"ExitStatus", "status", "detail"⟩

/-- The record of a status. -/
def ExitStatus.toJson : ExitStatus → Json
  | .pending => tagged tagging "pending" none
  | .exited code => tagged tagging "exited" (some (Json.int code))
  | .faulted message => tagged tagging "faulted" (some (.text message))

/-- The decoder of a status. -/
def ExitStatus.decode : Decoder ExitStatus :=
  Decoder.adjacent tagging
    [("pending", .none "ExitStatus::Pending" .pending),
      ("exited", .value fun source tree => (exitCodeDecoder source tree).map .exited),
      ("faulted", textContent .faulted)]

/-- The record of an event. -/
def ProcessEvent.toJson : ProcessEvent → Json
  | .started => Json.object [("event", .text "started")]
  | .faulted message => Json.object [("event", .text "faulted"), ("message", .text message)]
  | .exited code => Json.object [("event", .text "exited"), ("code", Json.int code)]
  | .terminated => Json.object [("event", .text "terminated")]

/-- The shape of a fault event. -/
def ProcessEvent.faultedShape : Shape (Option String) ProcessEvent where
  expected := "struct variant ProcessEvent::Faulted"
  fields := [.of "message" Decoder.text fun value _ => some value]
  start := none
  lenient := false
  build := fun draft => (needed "message" draft).map .faulted

/-- The shape of an exit event. -/
def ProcessEvent.exitedShape : Shape (Option ExitCode) ProcessEvent where
  expected := "struct variant ProcessEvent::Exited"
  fields := [.of "code" exitCodeDecoder fun value _ => some value]
  start := none
  lenient := false
  build := fun draft => (needed "code" draft).map .exited

/-- The decoder of an event. -/
def ProcessEvent.decode : Decoder ProcessEvent :=
  Decoder.internal "ProcessEvent" "event"
    [("started", .none "" .started), ("faulted", .record faultedShape.decode),
      ("exited", .record exitedShape.decode), ("terminated", .none "" .terminated)]

/-- The fields of a specification or an info. -/
structure ProcessSpec.Draft where
  pid : Option Pid := none
  path : Option String := none
  args : Option (List String) := none
  envp : Option (List (String × String)) := none
  state : Option ProcessState := none
  status : Option ExitStatus := none
  symbols : Option (List String) := none

namespace ProcessSpec

/-- The record of a specification. -/
def toJson (spec : ProcessSpec) : Json :=
  Json.object
    [("pid", Json.nat spec.pid), ("path", .text spec.path), ("args", Json.texts spec.args),
      ("envp", Json.textFields spec.envp)]

/-- The fields that specifications and infos share. -/
def sharedFields : List (Member Draft) :=
  [.of "pid" pidDecoder fun value draft => { draft with pid := some value },
    .of "path" Decoder.path fun value draft => { draft with path := some value },
    .of "args" (Decoder.list Decoder.text) fun value draft => { draft with args := some value }]

/-- The shape of a specification. -/
def shape : Shape Draft ProcessSpec where
  expected := "struct ProcessSpec"
  fields := sharedFields ++
    [.of "envp" (Decoder.table Decoder.text) fun value draft => { draft with envp := some value }]
  start := {}
  lenient := false
  build := fun draft => do
    return ⟨← needed "pid" draft.pid, ← needed "path" draft.path, ← needed "args" draft.args,
      ← needed "envp" draft.envp⟩

/-- The decoder of a specification. -/
def decode : Decoder ProcessSpec := shape.decode

end ProcessSpec

namespace ProcessInfo

/-- The record of an info. -/
def toJson (info : ProcessInfo) : Json :=
  Json.object
    [("pid", Json.nat info.pid), ("path", .text info.path), ("args", Json.texts info.args),
      ("state", info.state.toJson), ("status", info.status.toJson),
      ("symbols", Json.texts info.symbols)]

/-- The shape of an info. -/
def shape : Shape ProcessSpec.Draft ProcessInfo where
  expected := "struct ProcessInfo"
  fields := ProcessSpec.sharedFields ++
    [.of "state" ProcessState.decode fun value draft => { draft with state := some value },
      .of "status" ExitStatus.decode fun value draft => { draft with status := some value },
      .of "symbols" (Decoder.list Decoder.text) fun value draft =>
        { draft with symbols := some value }]
  start := {}
  lenient := false
  build := fun draft => do
    return ⟨← needed "pid" draft.pid, ← needed "path" draft.path, ← needed "args" draft.args,
      ← needed "state" draft.state, ← needed "status" draft.status,
      ← needed "symbols" draft.symbols⟩

/-- The decoder of an info. -/
def decode : Decoder ProcessInfo := shape.decode

end ProcessInfo

/-- The record of a stream. -/
def Stream.toJson (stream : Stream) : Json := .text stream.name

/-- The decoder of a stream. -/
def Stream.decode : Decoder Stream :=
  Decoder.oneOf ([.stdout, .stderr].map fun stream : Stream => (stream.name, stream))

namespace DiagnosticKind

/-- Every kind. -/
def all : List DiagnosticKind :=
  [.load, .evaluation, .symbolNotFound, .call, .timeout, .cancelled, .engine, .construction]

/-- The name of a kind. -/
def name : DiagnosticKind → String
  | .load => "load"
  | .evaluation => "evaluation"
  | .symbolNotFound => "symbol_not_found"
  | .call => "call"
  | .timeout => "timeout"
  | .cancelled => "cancelled"
  | .engine => "engine"
  | .construction => "construction"

/-- The record of a kind. -/
def toJson (kind : DiagnosticKind) : Json := .text kind.name

/-- The decoder of a kind. -/
def decode : Decoder DiagnosticKind := Decoder.oneOf (all.map fun kind => (kind.name, kind))

end DiagnosticKind

/-- The fields of a diagnostic. -/
structure Diagnostic.Draft where
  traceId : Option String := none
  pid : Option Pid := none
  kind : Option DiagnosticKind := none
  message : Option String := none

namespace Diagnostic

/-- The record of a diagnostic. -/
def toJson (diagnostic : Diagnostic) : Json :=
  Json.object
    [("trace_id", .text diagnostic.traceId), ("pid", Json.nat diagnostic.pid),
      ("kind", diagnostic.kind.toJson), ("message", .text diagnostic.message)]

/-- The shape of a diagnostic. -/
def shape : Shape Draft Diagnostic where
  expected := "struct Diagnostic"
  fields :=
    [.of "trace_id" Decoder.text fun value draft => { draft with traceId := some value },
      .of "pid" pidDecoder fun value draft => { draft with pid := some value },
      .of "kind" DiagnosticKind.decode fun value draft => { draft with kind := some value },
      .of "message" Decoder.text fun value draft => { draft with message := some value }]
  start := {}
  lenient := false
  build := fun draft => do
    return ⟨← needed "trace_id" draft.traceId, ← needed "pid" draft.pid, ← needed "kind" draft.kind,
      ← needed "message" draft.message⟩

/-- The decoder of a diagnostic. -/
def decode : Decoder Diagnostic := shape.decode

end Diagnostic

end ScriptKernel
