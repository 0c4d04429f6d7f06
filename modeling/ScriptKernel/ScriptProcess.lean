/-
**Processes.**

A process is a script with what belongs to it: a number, arguments, variables, slots, a terminal, and a
queue whose worker runs one job at a time on the engine.

* `ScriptProcess.start`: makes the engine and binds the host functions;
* `ScriptProcess.run`: one job from outside: refused once the process has ended or shutting down has begun; the
  process ends with the job in which an exit was asked for;
* `execute`, `load`, `invoke`, `signal`, `withFds`: the jobs;
* `terminate`: stops the running job, refuses those that wait, destroys the engine and clears the slots.
-/

import ScriptKernel.Binding
import ScriptKernel.Executor
import ScriptKernel.Syscall.Standard

set_option autoImplicit false

namespace ScriptKernel

/-- A process, between jobs. -/
structure ScriptProcess where
  path : String
  symbols : List String
  faultPolicy : FaultPolicy
  resident : Resident
  executor : Executor

/-- The name of the function that is a script's main part. -/
def entryPoint : String := "main"

/-- The name of the function that gets signals. -/
def signalHandler : String := "onsignal"

namespace ScriptProcess

/-- A job: its answer, none if it panics, with the executor and the context it leaves. -/
abbrev Job (α : Type) : Type :=
  Executor → SyscallContext → Executor.Answer (Except ProcessError α)

/-- The number. -/
def pid (process : ScriptProcess) : Pid := process.resident.pid

/-- Whether the process waits for work, works, or has ended. -/
def state (process : ScriptProcess) : ProcessState := process.resident.lifecycle.state

/-- How the work has gone so far. -/
def status (process : ScriptProcess) : ExitStatus := process.resident.lifecycle.status

/-- Whether the process takes work. -/
def isAlive (process : ScriptProcess) : Bool := process.resident.isAlive

/-- The process at this moment. -/
def info (process : ScriptProcess) : ProcessInfo where
  pid := process.pid
  path := process.path
  args := process.resident.args
  state := process.state
  status := process.status
  symbols := process.symbols

/-- The word for a state as a message shows it. -/
def stateWord : ProcessState → String
  | .ready => "Ready"
  | .running => "Running"
  | .exited => "Exited"
  | .terminated => "Terminated"

/-- The process in short. -/
def describe (process : ScriptProcess) : String :=
  "Process \x7b pid: " ++ toString process.pid ++ ", path: " ++ quoted process.path ++ ", state: " ++
    stateWord process.state ++ ", symbols: " ++ toString process.symbols.length ++ " \x7d"

/-- Gives a variable a value. -/
def setVariable (process : ScriptProcess) (name value : String) : ScriptProcess :=
  { process with
    resident := { process.resident with environment := process.resident.environment.set name value } }

/-! ### The two ends -/

/-- The name of the queue of a process. -/
def queueLabel (pid : Pid) : String := "jskern-pid-" ++ toString pid

/-- Makes the engine of a process and binds its host functions, or tells why that is not possible. -/
def start (spec : ProcessSpec) (terminal : TerminalRef) (table : SyscallTable)
    (config : KernelConfig) (site : Site) : Except ProcessError ScriptProcess × Site :=
  let resident := Resident.fresh spec.pid spec.args ⟨spec.envp⟩ terminal (queueLabel spec.pid)
  let refuse (reason : String) : Except ProcessError ScriptProcess × Site :=
    (.error (.construction spec.pid reason), site)
  match Engine.create config.engine with
  | .error error => refuse error.message
  | .ok engine =>
    match engine.enter table table.bind (.of resident site) with
    | (.ok (.value (.ok symbols)), engine, context) =>
      let executor : Executor := ⟨spec.pid, engine, config.callTimeout, table⟩
      (.ok ⟨spec.path, symbols, config.faultPolicy, context.toResident, executor⟩, context.toSite)
    | (.ok (.value (.error error)), _, _) => refuse error.message
    | (.ok _, _, _) => refuse "worker exited during startup"
    | (.error error, _, _) => refuse error.message

/-- Destroys the engine and clears the slots. -/
def tearDown (executor : Executor) (context : SyscallContext) : Executor × SyscallContext :=
  (executor.destroy, { context with fds := context.fds.clearAll })

/-- Puts the parts of a process that a job has left back together. -/
def reassemble (process : ScriptProcess) (executor : Executor) (context : SyscallContext) :
    ScriptProcess × Site :=
  ({ process with executor, resident := context.toResident }, context.toSite)

/-- Ends the process from outside; only the first time counts. -/
def terminate (process : ScriptProcess) (site : Site) : ScriptProcess × Site :=
  let (first, lifecycle) := process.resident.lifecycle.beginShutdown
  if first then
    let resident :=
      { process.resident with lifecycle, interrupt := process.resident.interrupt.cancel }
    let (runs, gate) := resident.gate.endOutside
    let context : SyscallContext := .of { resident with gate } site
    let (executor, context) :=
      if runs then tearDown process.executor context else (process.executor, context)
    let (_, lifecycle, terminals) := context.lifecycle.markTerminated context.terminals
    process.reassemble executor { context with lifecycle, terminals }
  else (process, site)

/-! ### Jobs -/

/-- What happens around every job: a process that has ended refuses it, and one that was asked to exit
ends after it. -/
def guarded {α : Type} (job : Job α) : Job α := fun executor context =>
  if context.lifecycle.isFinished then
    (some (.error (.terminated context.pid)), executor, context)
  else
    let working := { context with lifecycle := context.lifecycle.setRunning true }
    match job executor working with
    | (none, executor, context) => (none, executor, context)
    | (some answer, executor, context) =>
      let context := { context with lifecycle := context.lifecycle.setRunning false }
      match context.interrupt.exitCode with
      | none => (some answer, executor, context)
      | some code =>
        let (executor, context) := tearDown executor context
        let (_, lifecycle, terminals) := context.lifecycle.markExited code context.terminals
        (some answer, executor, { context with lifecycle, terminals })

/-- A refusal of the queue, as the caller hears it. -/
def refusal (process : ScriptProcess) (error : QueueError) : ProcessError :=
  if error = .closed ∧ !process.isAlive then .terminated process.pid else .queue error

/-- Takes the engine down after a job from inside which the process was ended. -/
def settle (executor : Executor) (context : SyscallContext) : Executor × SyscallContext :=
  let (ended, gate) := context.gate.afterJob
  let context := { context with gate }
  if ended then tearDown executor context else (executor, context)

/-- Hands in a job and waits for its answer. -/
def run {α : Type} (process : ScriptProcess) (site : Site) (job : Job α) :
    Except ProcessError α × ScriptProcess × Site :=
  if !process.isAlive then (.error (.terminated process.pid), process, site)
  else match process.resident.gate.accept false with
    | .error error => (.error (process.refusal error), process, site)
    | .ok () =>
      let (answer, executor, context) :=
        guarded job process.executor (.of process.resident site)
      let (executor, context) := settle executor context
      let (process, site) := process.reassemble executor context
      match answer with
      | some ended => (ended, process, site)
      | none => (.error (process.refusal .closed), process, site)

/-- A job that is one entry into the script. -/
def entryJob {α : Type}
    (entry : Executor → SyscallContext → Executor.Answer (Except ScriptError α)) : Job α :=
  fun executor context =>
    let (answer, left) := entry executor context
    (answer.map fun ended => ended.mapError ProcessError.script, left)

/-- Reports a failure of the script; any other failure is the caller's own affair. -/
def report (process : ScriptProcess) (site : Site) (error : ProcessError) : Site :=
  match error with
  | .script error => { site with sink := (site.sink.reportScriptError process.pid error).2 }
  | _ => site

/-- Hands in a job and reports its failure. -/
def runReporting {α : Type} (process : ScriptProcess) (site : Site) (job : Job α) :
    Except ProcessError α × ScriptProcess × Site :=
  match process.run site job with
  | (.ok value, process, site) => (.ok value, process, site)
  | (.error error, process, site) => (.error error, process, process.report site error)

/-- Evaluates another file in the process. -/
def load (process : ScriptProcess) (site : Site) (files : FileSystem) (path : String) :
    Except ProcessError Unit × ScriptProcess × Site :=
  process.runReporting site (entryJob fun executor => executor.load files path)

/-- Calls a global function. -/
def invoke (process : ScriptProcess) (site : Site) (name : String) (args : List Json) :
    Except ProcessError Json × ScriptProcess × Site :=
  process.runReporting site (entryJob fun executor => executor.call name args)

/-- Works on the slots. -/
def withFds {α : Type} (process : ScriptProcess) (site : Site) (work : FdTable → α × FdTable) :
    Except ProcessError α × ScriptProcess × Site :=
  process.run site fun executor context =>
    let (answer, fds) := work context.fds
    (some (.ok answer), executor, { context with fds })

/-! ### Execution -/

/-- How the two parts of an execution ended; the second is left out once an exit was asked for. -/
structure Execution where
  load : Except ScriptError Unit
  main : Option (Except ScriptError Json)

/-- Loads the script and calls its main function with the arguments. -/
def executionJob (files : FileSystem) (path : String) (args : List String) : Job Execution :=
  fun executor context =>
    let started := { context with
      terminals := context.lifecycle.notify .started context.terminals }
    match executor.load files path started with
    | (none, left) => (none, left)
    | (some load, executor, context) =>
      if context.interrupt.exitCode.isSome then
        (some (.ok ⟨load, none⟩), executor, context)
      else
        match executor.call entryPoint [Json.texts args] context with
        | (none, left) => (none, left)
        | (some main, left) => (some (.ok ⟨load, some main⟩), left)

/-- Reports a failure and, unless it is an exit, records it. -/
def recordFailure (process : ScriptProcess) (site : Site) (error : ScriptError) : ScriptProcess × Site :=
  let site := process.report site (.script error)
  if error.kind.isSome then
    let (lifecycle, terminals) :=
      process.resident.lifecycle.recordFault error.message site.terminals
    ({ process with resident := { process.resident with lifecycle } }, { site with terminals })
  else (process, site)

/-- Draws the consequences of an execution: under one policy a failed main function ends the process. -/
def conclude (process : ScriptProcess) (site : Site) (execution : Execution) : ScriptProcess × Site :=
  let (process, site) :=
    match execution.load with
    | .ok () => (process, site)
    | .error error => process.recordFailure site error
  match execution.main with
  | some (.error error) =>
    let (process, site) := process.recordFailure site error
    if error.kind.isSome && process.faultPolicy = .terminate then process.terminate site
    else (process, site)
  | _ => (process, site)

/-- Loads the script of the process and calls its main function. -/
def execute (process : ScriptProcess) (site : Site) (files : FileSystem) : ScriptProcess × Site :=
  match process.run site (executionJob files process.path process.resident.args) with
  | (.ok execution, process, site) => process.conclude site execution
  | (.error error, process, site) => (process, process.report site error)

/-! ### Signals -/

/-- Calls the handler of signals, if there is one. -/
def signalJob (signal : Signal) : Job (Option Json) := fun executor context =>
  match executor.hasFunction signalHandler context with
  | (none, left) => (none, left)
  | (some false, left) => (some (.ok none), left)
  | (some true, executor, context) =>
    entryJob (fun executor context =>
      let (answer, left) := executor.call signalHandler [Json.nat signal.number] context
      (answer.map fun ended => ended.map some, left)) executor context

/-- What is told of a signal that a script was asked to handle, and what a signal does that it does not handle. -/
def respond (signal : Signal) : Except ProcessError (Option Json) × ScriptProcess × Site →
    Except ProcessError SignalOutcome × ScriptProcess × Site
  | (.ok (some value), left) => (.ok (.handled value), left)
  | (.ok none, process, site) =>
    if signal.isFatal then (.ok .terminated, process.terminate site)
    else (.ok .ignored, process, site)
  | (.error error, left) => (.error error, left)

/-- Delivers a signal. -/
def signal (process : ScriptProcess) (site : Site) (number : Nat) :
    Except ProcessError SignalOutcome × ScriptProcess × Site :=
  match Signal.ofNumber? number with
  | none => (.error (.signal (.invalid number)), process, site)
  | some signal =>
    if !process.isAlive then (.error (.terminated process.pid), process, site)
    else if !signal.isCatchable then (.ok .terminated, process.terminate site)
    else respond signal (process.runReporting site (signalJob signal))

/-! ### Ending a process at work -/

/-- A call at work while the process is ended by someone else: the call is stopped, every job that waits
behind it hears that the process has ended, and then the engine is taken down. -/
def terminateDuring (process : ScriptProcess) (site : Site) (name : String) (args : List Json) :
    Except ProcessError Json × ScriptProcess × Site :=
  if !process.isAlive then (.error (.terminated process.pid), process, site)
  else
    let (_, lifecycle) := process.resident.lifecycle.beginShutdown
    let resident := { process.resident with
      lifecycle
      interrupt := process.resident.interrupt.cancel
      gate := process.resident.gate.endInside }
    let (answer, executor, context) :=
      guarded (entryJob fun executor => executor.call name args) process.executor
        (.of resident site)
    let (executor, context) := settle executor context
    let (_, lifecycle, terminals) := context.lifecycle.markTerminated context.terminals
    let (process, site) := process.reassemble executor { context with lifecycle, terminals }
    match answer with
    | some (.ok value) => (.ok value, process, site)
    | some (.error error) => (.error error, process, process.report site error)
    | none => (.error (process.refusal .closed), process, site)

end ScriptProcess

end ScriptKernel
