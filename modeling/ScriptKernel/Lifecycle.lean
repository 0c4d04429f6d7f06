/-
**The life of a process.**

* `Lifecycle`: the state, the status, and whether shutting down has begun;
* `markExited`, `markTerminated`: the end; only the first counts, and only it is reported;
* `recordFault`: a failed main function; a recorded exit is not overwritten;
* `beginShutdown`: true for the first caller only.
-/

import ScriptKernel.Terminal

set_option autoImplicit false

namespace ScriptKernel

/-- How a process stands, and where it reports to. -/
structure Lifecycle where
  pid : Pid
  terminal : TerminalRef
  state : ProcessState := .ready
  status : ExitStatus := .pending
  shuttingDown : Bool := false
  deriving DecidableEq, Repr

namespace Lifecycle

/-- Whether the process has ended. -/
def isFinished (life : Lifecycle) : Bool := life.state.isFinished

/-- Reports an event. -/
def notify (life : Lifecycle) (event : ProcessEvent) (terminals : Terminals) : Terminals :=
  (terminals.notify life.terminal life.pid event).2

/-- From ready to running or back; nothing once the process has ended. -/
def setRunning (life : Lifecycle) (running : Bool) : Lifecycle :=
  if life.isFinished then life
  else { life with state := if running then .running else .ready }

/-- Begins shutting down, and tells whether this was the first time. -/
def beginShutdown (life : Lifecycle) : Bool × Lifecycle :=
  (!life.shuttingDown, { life with shuttingDown := true })

/-- Ends the process with an exit code, and tells whether this was its end. -/
def markExited (life : Lifecycle) (code : ExitCode) (terminals : Terminals) :
    Bool × Lifecycle × Terminals :=
  if life.isFinished then (false, life, terminals)
  else (true, { life with state := .exited, status := .exited code },
    life.notify (.exited code) terminals)

/-- Ends the process from outside, and tells whether this was its end. -/
def markTerminated (life : Lifecycle) (terminals : Terminals) : Bool × Lifecycle × Terminals :=
  if life.isFinished then (false, life, terminals)
  else (true, { life with state := .terminated }, life.notify .terminated terminals)

/-- Whether the status is that of an exit. -/
def hasExitStatus (life : Lifecycle) : Bool :=
  match life.status with
  | .exited _ => true
  | _ => false

/-- Records that the main function failed. -/
def recordFault (life : Lifecycle) (message : String) (terminals : Terminals) :
    Lifecycle × Terminals :=
  if life.hasExitStatus then (life, terminals)
  else ({ life with status := .faulted message }, life.notify (.faulted message) terminals)

end Lifecycle

end ScriptKernel
