/-
**Running scripts, one entry at a time.**

* `Executor`: an engine with the host functions bound to it and the time each entry may take;
* `Executor.enter`: one entry: the deadline is armed, the jobs it leaves behind run, the deadline is
  disarmed; a panic of a host function ends it at once;
* `Executor.classify`: an entry that was stopped fails for the reason it was stopped for;
* `load`, `evaluate`, `call`, `hasFunction`: the entries.
-/

import ScriptKernel.Engine
import ScriptKernel.File

set_option autoImplicit false

namespace ScriptKernel

open Script (Fault Outcome Run)

/-- An engine with its host functions, and the time each entry may take. -/
structure Executor where
  pid : Pid
  engine : Engine
  callTimeout : Option Duration
  table : SyscallTable

namespace Executor

/-- The answer of an entry, none after a panic, with what the entry leaves behind. -/
abbrev Answer (α : Type) : Type := Option α × Executor × SyscallContext

/-- Seconds as a message shows them: with as many places as needed. -/
def showFraction (count places : Nat) (unit : String) : String :=
  let digits := String.ofList (Nat.toDigits 10 (count % Nat.pow 10 places))
  let padded := String.ofList (List.replicate (places - digits.length) '0') ++ digits
  let kept := String.ofList (padded.toList.reverse.dropWhile (· == '0')).reverse
  toString (count / Nat.pow 10 places) ++ (if kept.isEmpty then "" else "." ++ kept) ++ unit

/-- A length of time in the greatest unit it has one of. -/
def showDuration (duration : Duration) : String :=
  if duration ≥ 1000000000 then showFraction duration 9 "s"
  else if duration ≥ 1000000 then showFraction duration 6 "ms"
  else if duration ≥ 1000 then showFraction duration 3 "µs"
  else showFraction duration 0 "ns"

/-- The executor in short. -/
def describe (executor : Executor) : String :=
  let timeout := match executor.callTimeout with
    | none => "None"
    | some duration => "Some(" ++ showDuration duration ++ ")"
  "ScriptExecutor \x7b pid: " ++ toString executor.pid ++ ", engine: " ++
    executor.engine.describe ++ ", call_timeout: " ++ timeout ++ " \x7d"

/-- Runs the jobs that wait; an engine that has been destroyed has none. -/
def runJobs (executor : Executor) (context : SyscallContext) : Answer Nat :=
  match executor.engine.enter executor.table (Script.runJobs .standard) context with
  | (.ok (.value count), engine, context) => (some count, { executor with engine }, context)
  | (.ok _, engine, context) => (none, { executor with engine }, context)
  | (.error _, engine, context) => (some 0, { executor with engine }, context)

/-- Arms the deadline of an entry. -/
def arm (executor : Executor) (context : SyscallContext) : SyscallContext :=
  { context with
    interrupt := context.interrupt.arm context.clock executor.callTimeout
    slices := 0 }

/-- How an entry ended: its answer or its fault, and the reason it was stopped for, if it was. -/
structure Ending (α : Type) where
  answer : Except EngineError (Except Fault α)
  reason : Option InterruptReason

/-- One entry. -/
def enter {α : Type} (executor : Executor) (part : Run (Except Fault α))
    (context : SyscallContext) : Answer (Ending α) :=
  let (ended, engine, context) :=
    executor.engine.enter executor.table part (executor.arm context)
  let executor := { executor with engine }
  let conclude (answer : Except EngineError (Except Fault α)) : Answer (Ending α) :=
    match executor.runJobs context with
    | (none, executor, context) => (none, executor, context)
    | (some _, executor, context) =>
      let (reason, interrupt) := context.interrupt.disarm
      (some ⟨answer, reason⟩, executor, { context with interrupt })
  match ended with
  | .error error => conclude (.error error)
  | .ok (.value answer) => conclude (.ok answer)
  | .ok _ => (none, executor, context)

/-- The error of an entry that ended with a fault: being stopped, and an exit that was asked for, count
before the fault itself. -/
def classify (executor : Executor) (target : String) (fault : Fault)
    (reason : Option InterruptReason) (exitCode : Option ExitCode)
    (ofException : String → ScriptError) : ScriptError :=
  match reason <|> exitCode.map fun _ => InterruptReason.exit with
  | some .exit => .exited executor.pid (exitCode.getD 0)
  | some .cancelled => .cancelled executor.pid target
  | some .deadline =>
    .timeout executor.pid target ((executor.callTimeout.map Duration.toMilliseconds).getD 0)
  | none =>
    match fault with
    | .exception text => ofException text
    | .engine error => .engine executor.pid error
    | .missing => .symbolNotFound executor.pid target

/-- A script that is evaluated for what it does, not for its value. -/
def evaluation (source : String) : Run (Except Fault Unit) := do
  match ← Script.evaluateReported source with
  | .ok _ => return .ok ()
  | .error fault => return .error fault

/-- Evaluates a script; what it defined before it threw stays. -/
def evaluate (executor : Executor) (origin source : String) (context : SyscallContext) :
    Answer (Except ScriptError Unit) :=
  match executor.enter (evaluation source) context with
  | (none, executor, context) => (none, executor, context)
  | (some ⟨.error error, _⟩, executor, context) =>
    (some (.error (.engine executor.pid error)), executor, context)
  | (some ⟨.ok (.ok ()), _⟩, executor, context) => (some (.ok ()), executor, context)
  | (some ⟨.ok (.error fault), reason⟩, executor, context) =>
    let error := executor.classify origin fault reason context.interrupt.exitCode fun exception =>
      .evaluation origin exception
    (some (.error error), executor, context)

/-- Reads a file and evaluates it. -/
def load (executor : Executor) (files : FileSystem) (path : String) (context : SyscallContext) :
    Answer (Except ScriptError Unit) :=
  match files.read path with
  | .error error => (some (.error (.load path error.message)), executor, context)
  | .ok source => executor.evaluate path source context

/-- Whether a global is a function. -/
def hasFunction (executor : Executor) (name : String) (context : SyscallContext) : Answer Bool :=
  match executor.engine.enter executor.table (Script.hasFunction name) context with
  | (.ok (.value found), engine, context) => (some found, { executor with engine }, context)
  | (.ok _, engine, context) => (none, { executor with engine }, context)
  | (.error _, engine, context) => (some false, { executor with engine }, context)

/-- Calls a global function. -/
def call (executor : Executor) (name : String) (args : List Json) (context : SyscallContext) :
    Answer (Except ScriptError Json) :=
  match executor.enter (Script.callFunction name args) context with
  | (none, executor, context) => (none, executor, context)
  | (some ⟨.error error, _⟩, executor, context) =>
    (some (.error (.engine executor.pid error)), executor, context)
  | (some ⟨.ok (.ok value), _⟩, executor, context) => (some (.ok value), executor, context)
  | (some ⟨.ok (.error .missing), _⟩, executor, context) =>
    (some (.error (.symbolNotFound executor.pid name)), executor, context)
  | (some ⟨.ok (.error fault), reason⟩, executor, context) =>
    let error := executor.classify name fault reason context.interrupt.exitCode fun exception =>
      .call executor.pid name exception
    (some (.error error), executor, context)

/-- Destroys the engine. -/
def destroy (executor : Executor) : Executor := { executor with engine := executor.engine.destroy }

end Executor

end ScriptKernel
