/-
**Codes and advice for errors.**

* `Advice`: the code an error is looked up by, and what to do about it, each if there is one, and its record;
* `advice`: the advice of a script, process or kernel error; a wrapper without its own gives that of the
  error it wraps.
-/

import ScriptKernel.Error

set_option autoImplicit false

namespace ScriptKernel

/-- A code to look an error up by, and what to do about it. -/
structure Advice where
  code : Option String
  help : Option String
  deriving DecidableEq, Repr

/-- The record of advice. -/
def Advice.toJson (advice : Advice) : Json :=
  Json.object
    [("code", Json.ofOption Json.text advice.code), ("help", Json.ofOption Json.text advice.help)]

/-- The advice of a script error. -/
def ScriptError.advice : ScriptError → Advice
  | .load .. =>
    ⟨some "script::load", some "The script file is missing, unreadable or not valid UTF-8."⟩
  | .evaluation .. =>
    ⟨some "script::evaluation",
      some "Top-level code threw. Definitions made before the throw remain visible."⟩
  | .symbolNotFound .. => ⟨some "script::symbol_not_found", none⟩
  | .call .. => ⟨some "script::call", none⟩
  | .timeout .. =>
    ⟨some "script::timeout", some "Raise call_timeout or break the work into smaller calls."⟩
  | .cancelled .. => ⟨some "script::cancelled", none⟩
  | .exited .. => ⟨some "script::exited", none⟩
  | .engine .. => ⟨some "script::engine", none⟩

/-- The advice of a process error. -/
def ProcessError.advice : ProcessError → Advice
  | .construction .. =>
    ⟨some "process::construction_failed",
      some "Capability binding or engine creation failed. The process never ran."⟩
  | .terminated _ =>
    ⟨some "process::terminated",
      some "The process released its engine context. Spawn a new process."⟩
  | .notFound _ =>
    ⟨some "process::not_found",
      some "The process may have terminated or never existed. Check PID validity."⟩
  | .pidExhausted =>
    ⟨some "process::pid_exhausted",
      some "Every pid is in use. Terminate or reap finished processes."⟩
  | .queue _ => ⟨some "process::queue", none⟩
  | .script error => error.advice
  | .signal _ =>
    ⟨some "process::signal",
      some ("Supported signals: " ++ ", ".intercalate (Signal.all.map Signal.display) ++ ".")⟩

/-- The advice of a kernel error. -/
def KernelError.advice : KernelError → Advice
  | .process error => error.advice
  | .engine _ =>
    ⟨some "kernel::engine_error", some "The embedded interpreter rejected the operation."⟩
  | .syscall _ => ⟨some "kernel::syscall_error", none⟩
  | .file _ =>
    ⟨some "kernel::io_error",
      some "Filesystem or I/O operation failed. Check file permissions and paths."⟩
  | .configuration _ =>
    ⟨some "kernel::configuration_error",
      some "Invalid configuration. Review configuration parameters."⟩

end ScriptKernel
