/-
**The processes of a session.**

A manager finds its processes by number and gives a new one the least number that is free.

* `Manager.spawn`: a new process; one that cannot be constructed is reported and leaves its number free;
* `execute`, `invoke`, `signal`, `terminate`: passed on to the process of a number;
* `reap`, `shutdownAll`: take out the processes that have ended, or all of them.
-/

import ScriptKernel.ScriptProcess

set_option autoImplicit false

namespace ScriptKernel

/-- The processes of a session, in order of their numbers, and what new ones are made with. -/
structure Manager where
  processes : List (Pid × ScriptProcess) := []
  terminal : TerminalRef
  config : KernelConfig := {}
  table : SyscallTable := .standard

namespace Manager

/-- The least number of a process. -/
def firstPid : Pid := 1

/-- The greatest number of a process. -/
def lastPid : Pid := 65535

/-- The process of a number. -/
def get (manager : Manager) (pid : Pid) : Option ScriptProcess :=
  (manager.processes.find? fun entry => entry.1 == pid).map Prod.snd

/-- Whether a number is taken. -/
def isTaken (manager : Manager) (pid : Pid) : Bool := (manager.get pid).isSome

/-- The number of processes. -/
def size (manager : Manager) : Nat := manager.processes.length

/-- The least free number from a number on. -/
def freeFrom (manager : Manager) : Nat → Pid → Option Pid
  | 0, _ => none
  | attempts + 1, pid =>
    if manager.isTaken pid then freeFrom manager attempts (pid + 1) else some pid

/-- The number of the next process. -/
def nextPid? (manager : Manager) : Option Pid := manager.freeFrom lastPid firstPid

/-- Puts a process in its place. -/
def place (pid : Pid) (process : ScriptProcess) : List (Pid × ScriptProcess) → List (Pid × ScriptProcess)
  | [] => [(pid, process)]
  | (other, old) :: rest =>
    if pid < other then (pid, process) :: (other, old) :: rest
    else if pid = other then (pid, process) :: rest
    else (other, old) :: place pid process rest

/-- Puts a process under its number. -/
def put (manager : Manager) (pid : Pid) (process : ScriptProcess) : Manager :=
  { manager with processes := place pid process manager.processes }

/-- Takes the process of a number out. -/
def remove (manager : Manager) (pid : Pid) : Manager :=
  { manager with processes := manager.processes.filter fun entry => entry.1 != pid }

/-- Makes a process for the script at a path and answers its number. -/
def spawn (manager : Manager) (site : Site) (path : String) (args : List String)
    (environment : List (String × String)) : Except ProcessError Pid × Manager × Site :=
  match manager.nextPid? with
  | none => (.error .pidExhausted, manager, site)
  | some pid =>
    let spec := ProcessSpec.of pid path args environment
    match ScriptProcess.start spec manager.terminal manager.table manager.config site with
    | (.ok process, site) => (.ok pid, manager.put pid process, site)
    | (.error error, site) =>
      match error with
      | .construction .. =>
        (.error error, manager,
          { site with sink := (site.sink.report pid .construction error.message).2 })
      | _ => (.error error, manager, site)

/-- Does something with the process of a number. -/
def onProcess {α : Type} (manager : Manager) (site : Site) (pid : Pid)
    (act : ScriptProcess → Site → α × ScriptProcess × Site) : Except ProcessError α × Manager × Site :=
  match manager.get pid with
  | none => (.error (.notFound pid), manager, site)
  | some process =>
    let (answer, process, site) := act process site
    (.ok answer, manager.put pid process, site)

/-- Loads the script of a process and calls its main function. -/
def execute (manager : Manager) (site : Site) (files : FileSystem) (pid : Pid) :
    Except ProcessError Unit × Manager × Site :=
  manager.onProcess site pid fun process site => ((), process.execute site files)

/-- Calls a global function; none if the call fails. -/
def invoke (manager : Manager) (site : Site) (pid : Pid) (name : String) (args : List Json) :
    Except ProcessError (Option Json) × Manager × Site :=
  manager.onProcess site pid fun process site =>
    let (answer, left) := process.invoke site name args
    (answer.toOption, left)

/-- Delivers a signal. -/
def signal (manager : Manager) (site : Site) (pid : Pid) (number : Nat) :
    Except ProcessError SignalOutcome × Manager × Site :=
  let (answer, left) := manager.onProcess site pid fun process site => process.signal site number
  (answer.bind id, left)

/-- Ends a process and frees its number. -/
def terminate (manager : Manager) (site : Site) (pid : Pid) :
    Except ProcessError Unit × Manager × Site :=
  match manager.get pid with
  | none => (.error (.notFound pid), manager, site)
  | some process =>
    let (_, site) := process.terminate site
    (.ok (), manager.remove pid, site)

/-- Ends processes one after the other. -/
def terminateAll : List (Pid × ScriptProcess) → Site → Site
  | [], site => site
  | (_, process) :: rest, site => terminateAll rest (process.terminate site).2

/-- Takes out the processes that take no more work and answers their numbers. -/
def reap (manager : Manager) (site : Site) : List Pid × Manager × Site :=
  let (kept, finished) := manager.processes.partition fun entry => entry.2.isAlive
  (finished.map Prod.fst, { manager with processes := kept }, terminateAll finished site)

/-- Every process at this moment, in order of their numbers. -/
def list (manager : Manager) : List ProcessInfo :=
  manager.processes.map fun entry => entry.2.info

/-- Ends all processes. -/
def shutdownAll (manager : Manager) (site : Site) : Manager × Site :=
  ({ manager with processes := [] }, terminateAll manager.processes site)

end Manager

end ScriptKernel
