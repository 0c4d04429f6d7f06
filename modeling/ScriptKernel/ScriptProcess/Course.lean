/-
**Jobs piece by piece.**

A job takes its time. Between two of its pieces others may cancel it, begin the end of its process, or let time pass;
each piece begins with what it finds then.

* `Course`: what is left of a job: it has an answer, or goes on by a change of what the worker has in its hands, or
  by a question that the script asks its host;
* `Course.atOnce`: the job with nobody in between;
* `Course.entered`, `entry`, `evaluate`, `load`, `hasFunction`, `call`: the entries into a script;
* `Course.execution`, `handling`: the jobs that are made of several entries.
-/

import ScriptKernel.ScriptProcess

set_option autoImplicit false

namespace ScriptKernel

open Script (Dialogue Fault Outcome Question Run)

/-- **What is left of a job.** -/
inductive Course (α : Type)
  | done (answer : α)
  /-- The worker changes what it has in its hands, and goes on from what it found there. -/
  | act (change : Executor → SyscallContext → Executor × SyscallContext)
      (next : Executor → SyscallContext → Course α)
  /-- The script asks its host. -/
  | ask (question : Question) (next : question.Answer → Course α)

namespace Course

variable {α β : Type}

/-- Goes on from the answer. -/
def bind : Course α → (α → Course β) → Course β
  | .done answer, after => after answer
  | .act change next, after => .act change fun executor context => (next executor context).bind after
  | .ask question next, after => .ask question fun answer => (next answer).bind after

/-- Another form of the answer. -/
def map (course : Course α) (convert : α → β) : Course β :=
  course.bind fun answer => .done (convert answer)

/-- The worker looks at what it has in its hands. -/
def look (next : Executor → SyscallContext → Course α) : Course α :=
  .act (fun executor context => (executor, context)) next

/-- **The job with nobody in between.** -/
def atOnce : Course α → Executor → SyscallContext → α × Executor × SyscallContext
  | .done answer, executor, context => (answer, executor, context)
  | .act change next, executor, context =>
    (next executor context).atOnce (change executor context).1 (change executor context).2
  | .ask question next, executor, context =>
    let answer := executor.table.host question context
    (next answer.1).atOnce executor answer.2

theorem atOnce_bind (first : Course α) (after : α → Course β) (executor : Executor)
    (context : SyscallContext) :
    (first.bind after).atOnce executor context =
      let left := first.atOnce executor context
      (after left.1).atOnce left.2.1 left.2.2 := by
  induction first generalizing executor context with
  | done answer => rfl
  | act change next ih => exact ih _ _ _ _
  | ask question next ih => exact ih _ _ _

/-! ### Entries -/

/-- A script that talks to its host. -/
def script : Dialogue α → Course α
  | .done value => .done value
  | .ask question next => .ask question fun answer => script (next answer)

/-- A part of a script: the engine gets its memory back at the end. -/
def entered (part : Run α) : Course (Except EngineError (Outcome α)) :=
  look fun executor _ =>
    match executor.engine.memory with
    | none => .done (.error .destroyed)
    | some memory =>
      (script (part.part memory)).bind fun ended =>
        .act (fun executor context => ({ executor with engine := ⟨some ended.2⟩ }, context)) fun _ _ =>
          .done (.ok ended.1)

/-- The jobs that wait. -/
def runJobs : Course (Option Nat) :=
  (entered (Script.runJobs .standard)).map fun ended =>
    match ended with
    | .ok (.value count) => some count
    | .ok _ => none
    | .error _ => some 0

/-- The end of an entry: the jobs that wait, and the deadline. -/
def conclude (answer : Except EngineError (Except Fault α)) : Course (Option (Executor.Ending α)) :=
  runJobs.bind fun count =>
    match count with
    | none => .done none
    | some _ =>
      .act (fun executor context => (executor, { context with interrupt := context.interrupt.disarm.2 }))
        fun _ context => .done (some ⟨answer, context.interrupt.disarm.1⟩)

/-- One entry. -/
def entry (part : Run (Except Fault α)) : Course (Option (Executor.Ending α)) :=
  .act (fun executor context => (executor, executor.arm context)) fun _ _ =>
    (entered part).bind fun ended =>
      match ended with
      | .error error => conclude (.error error)
      | .ok (.value answer) => conclude (.ok answer)
      | .ok _ => .done none

/-- Evaluates a script. -/
def evaluate (origin source : String) : Course (Option (Except ScriptError Unit)) :=
  (entry (Executor.evaluation source)).bind fun ending =>
    match ending with
    | none => .done none
    | some ⟨.error error, _⟩ => look fun executor _ => .done (some (.error (.engine executor.pid error)))
    | some ⟨.ok (.ok ()), _⟩ => .done (some (.ok ()))
    | some ⟨.ok (.error fault), reason⟩ =>
      look fun executor context =>
        .done (some (.error (executor.classify origin fault reason context.interrupt.exitCode
          fun exception => .evaluation origin exception)))

/-- Reads a file and evaluates it. -/
def load (files : FileSystem) (path : String) : Course (Option (Except ScriptError Unit)) :=
  match files.read path with
  | .error error => .done (some (.error (.load path error.message)))
  | .ok source => evaluate path source

/-- Whether a global is a function. -/
def hasFunction (name : String) : Course (Option Bool) :=
  (entered (Script.hasFunction name)).map fun ended =>
    match ended with
    | .ok (.value found) => some found
    | .ok _ => none
    | .error _ => some false

/-- Calls a global function. -/
def call (name : String) (args : List Json) : Course (Option (Except ScriptError Json)) :=
  (entry (Script.callFunction name args)).bind fun ending =>
    match ending with
    | none => .done none
    | some ⟨.error error, _⟩ => look fun executor _ => .done (some (.error (.engine executor.pid error)))
    | some ⟨.ok (.ok value), _⟩ => .done (some (.ok value))
    | some ⟨.ok (.error .missing), _⟩ =>
      look fun executor _ => .done (some (.error (.symbolNotFound executor.pid name)))
    | some ⟨.ok (.error fault), reason⟩ =>
      look fun executor context =>
        .done (some (.error (executor.classify name fault reason context.interrupt.exitCode
          fun exception => .call executor.pid name exception)))

/-! ### Jobs -/

/-- A job that is one entry. -/
def ofEntry (entry : Course (Option (Except ScriptError α))) :
    Course (Option (Except ProcessError α)) :=
  entry.map fun answer => answer.map fun ended => ended.mapError ProcessError.script

/-- Announces the execution, loads the script and calls its main function. -/
def execution (files : FileSystem) (path : String) (args : List String) :
    Course (Option (Except ProcessError ScriptProcess.Execution)) :=
  .act (fun executor context => (executor, { context with
      terminals := context.lifecycle.notify .started context.terminals })) fun _ _ =>
    (load files path).bind fun load =>
      match load with
      | none => .done none
      | some load =>
        look fun _ context =>
          if context.interrupt.exitCode.isSome then .done (some (.ok ⟨load, none⟩))
          else (call entryPoint [Json.texts args]).map fun main =>
            main.map fun main => .ok ⟨load, some main⟩

/-- Calls the handler of signals, if there is one. -/
def handling (signal : Signal) : Course (Option (Except ProcessError (Option Json))) :=
  (hasFunction signalHandler).bind fun found =>
    match found with
    | none => .done none
    | some false => .done (some (.ok none))
    | some true =>
      ofEntry ((call signalHandler [Json.nat signal.number]).map fun answer =>
        answer.map fun ended => ended.map some)

end Course

end ScriptKernel
