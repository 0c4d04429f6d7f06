/-
**What a process is, and how it stands.**

* `ProcessSpec`: what a process is started with; its path is cleaned;
* `ProcessState`, `ExitStatus`: whether it runs, and how it ended;
* `ProcessEvent`: what its terminal hears of it;
* `ProcessInfo`: all of it at one moment.
-/

import ScriptKernel.Error
import ScriptKernel.Path

set_option autoImplicit false

namespace ScriptKernel

/-- Whether a process waits for work, works, or has ended. -/
inductive ProcessState
  | ready
  | running
  | exited
  | terminated
  deriving DecidableEq, Repr

/-- Whether the process has ended. -/
def ProcessState.isFinished : ProcessState → Bool
  | .exited | .terminated => true
  | _ => false

/-- How the work of a process has gone so far. -/
inductive ExitStatus
  | pending
  | exited (code : ExitCode)
  | faulted (message : String)
  deriving DecidableEq, Repr

/-- What the terminal of a process hears of it. -/
inductive ProcessEvent
  | started
  | faulted (message : String)
  | exited (code : ExitCode)
  | terminated
  deriving DecidableEq, Repr

/-- What a process is started with. -/
structure ProcessSpec where
  pid : Pid
  path : String
  args : List String
  envp : List (String × String)
  deriving DecidableEq, Repr

/-- A specification with the path cleaned and the variables in order of their names. -/
def ProcessSpec.of (pid : Pid) (path : String) (args : List String)
    (environment : List (String × String)) : ProcessSpec :=
  ⟨pid, Path.clean path, args,
    environment.foldl (fun built entry => Json.insert entry.1 entry.2 built) []⟩

/-- A process at one moment. -/
structure ProcessInfo where
  pid : Pid
  path : String
  args : List String
  state : ProcessState
  status : ExitStatus
  symbols : List String
  deriving DecidableEq, Repr

/-- The two ways out of a process to its terminal. -/
inductive Stream
  | stdout
  | stderr
  deriving DecidableEq, Repr

/-- The name of a stream. -/
def Stream.name : Stream → String
  | .stdout => "stdout"
  | .stderr => "stderr"

/-- A report of a failure. -/
structure Diagnostic where
  traceId : String
  pid : Pid
  kind : DiagnosticKind
  message : String
  deriving DecidableEq, Repr

/-- The report of a script error, unless it is a requested exit. -/
def Diagnostic.ofScriptError? (pid : Pid) (error : ScriptError) (traceId : String) :
    Option Diagnostic :=
  error.kind.map fun kind => ⟨traceId, pid, kind, error.message⟩

end ScriptKernel
