/-
**A process with many callers.**

Each caller and the worker of a process move in steps of their own, in any order. A caller looks at whether the
process takes work, hands its job to the queue, and draws the consequences of the answer one after the other; a
caller that ends the process begins its end, cancels the running script, closes the queue, waits for the worker and
marks the end. The worker looks at whether the process has ended, works with the process marked as running, and ends
the process if an exit was asked for.

* `Consequence`, `Errand`: what a caller does about an answer; a job with its consequences;
* `Progress`, `Phase`: how far a call has come, and the worker with the job it holds;
* `Crowd`: a process with its queue and every call in progress;
* `Crowd.look`, `learn`, `act`: the steps of a caller outside the queue;
* `Crowd.serve`: **the steps of the worker around a job**;
* `Crowd.step`, `Crowd.run`: one step of one party; a schedule of steps, where those that cannot be taken are passed
  over.

A job that panics is not followed further.
-/

import ScriptKernel.Queue.Interleaving
import ScriptKernel.ScriptProcess

set_option autoImplicit false

namespace ScriptKernel.ScriptProcess

/-! ### Calls -/

/-- What a caller does about an answer, in one step. -/
inductive Consequence
  | report (error : ProcessError)
  | record (error : ScriptError)
  | terminate

/-- What a caller does about a script that failed: an exit is not recorded. -/
def Consequence.ofFailure (error : ScriptError) : List Consequence :=
  .report (.script error) :: if error.kind.isSome then [.record error] else []

/-- A job with its consequences. What others do while a job is at work can make it go in several ways. -/
structure Errand (α : Type) where
  job : Nat → Job α
  /-- Whether its caller reports a failure. -/
  reports : Bool := true
  consequences : FaultPolicy → α → List Consequence := fun _ _ => []
  /-- A job of its own fails only with its script. -/
  plain : ∀ way executor context error, (job way executor context).1 = some (.error error) →
    ∃ failure, error = .script failure

variable {α : Type}

/-- What a caller does about an answer. -/
def Errand.after (errand : Errand α) (policy : FaultPolicy) : Except ProcessError α → List Consequence
  | .ok value => errand.consequences policy value
  | .error error => if errand.reports then [.report error] else []

/-- What a caller wants. -/
inductive Task (α : Type)
  | run (errand : Errand α)
  | terminate

/-- How far a call has come. -/
inductive Progress
  | outside
  /-- Its job is with the queue, or on its way. -/
  | submitting
  | refused (error : QueueError)
  /-- It has its answer. -/
  | left (todo : List Consequence)
  /-- It was the first to begin the end of the process. -/
  | cancelling (todo : List Consequence)
  | ending (todo : List Consequence)

/-- A call. -/
structure Call (α : Type) where
  task : Task α
  progress : Progress := .outside
  /-- What the worker has replied. -/
  outcome : Option (Except ProcessError α) := none
  /-- What the caller was told. -/
  answer : Option (Except ProcessError α) := none

/-! ### The worker -/

/-- How far the worker has come with the job it holds. -/
inductive Phase (α : Type)
  | checking
  | starting
  | working
  | stopping (answer : Except ProcessError α)
  | settling (answer : Except ProcessError α)
  | exiting (answer : Except ProcessError α) (code : ExitCode)
  | replying (answer : Except ProcessError α)

/-- A job that was at work: its number, how it went, what it was handed, and the context it left. -/
structure Stint where
  number : Nat
  way : Nat
  executor : Executor
  context : SyscallContext
  left : SyscallContext

/-- A process with every call in progress. -/
structure Crowd (α : Type) where
  process : ScriptProcess
  site : Site
  /-- The queue of the process: one submission and one shutdown for each call. -/
  queue : Queue.Crowd Unit Unit
  calls : List (Call α)
  phase : Phase α := .checking
  /-- The jobs that were at work, in order. -/
  ran : List Stint := []

/-- A step of one party. -/
inductive Move
  | look (number : Nat)
  | queue (move : Queue.Move)
  | learn (number : Nat)
  | act (number : Nat)
  | work (way : Nat)
  deriving DecidableEq, Repr

namespace Crowd

/-- A process before any call has begun. -/
def fresh (process : ScriptProcess) (site : Site) (capacity : Nat) (tasks : List (Task α)) : Crowd α where
  process
  site
  queue := {
    capacity
    state := ()
    submissions := tasks.map fun _ => { work := fun _ => (some (), ()) }
    closings := tasks.map fun _ => { last := id } }
  calls := tasks.map fun task => { task }

/-- How the process stands. -/
def life (crowd : Crowd α) : Lifecycle := crowd.process.resident.lifecycle

/-- What a job is handed. -/
def context (crowd : Crowd α) : SyscallContext := .of crowd.process.resident crowd.site

/-- Notes how far a call has come. -/
def progress (crowd : Crowd α) (number : Nat) (progress : Progress) : Crowd α :=
  { crowd with calls := crowd.calls.modify number fun call => { call with progress } }

/-- A caller is told an answer. -/
def tell (crowd : Crowd α) (number : Nat) (errand : Errand α) (answer : Except ProcessError α) : Crowd α :=
  { crowd with
    calls := crowd.calls.modify number fun call =>
      { call with
        progress := .left (errand.after crowd.process.faultPolicy answer)
        answer := some answer } }

/-- Changes how the process stands, with what its terminal hears of that. -/
def restate (crowd : Crowd α) (life : Lifecycle) (terminals : Terminals) : Crowd α :=
  { crowd with
    process := { crowd.process with resident := { crowd.process.resident with lifecycle := life } }
    site := { crowd.site with terminals } }

/-- Puts back what a job has left. -/
def reassemble (crowd : Crowd α) (executor : Executor) (context : SyscallContext) : Crowd α :=
  { crowd with
    process := (crowd.process.reassemble executor context).1
    site := (crowd.process.reassemble executor context).2 }

/-! ### Callers outside the queue -/

/-- A call begins. A caller with a job looks at whether the process takes work. -/
def look (crowd : Crowd α) (number : Nat) : Option (Crowd α) :=
  match crowd.calls[number]? with
  | some ⟨.terminate, .outside, _, _⟩ => some (crowd.progress number (.left [.terminate]))
  | some ⟨.run errand, .outside, _, _⟩ =>
    if crowd.process.isAlive then some (crowd.progress number .submitting)
    else some (crowd.tell number errand (.error (.terminated crowd.process.pid)))
  | _ => none

/-- A caller makes an answer of what it has heard from the queue. -/
def learn (crowd : Crowd α) (number : Nat) : Option (Crowd α) :=
  match crowd.calls[number]?, crowd.queue.submissions[number]? with
  | some ⟨.run errand, .submitting, some outcome, _⟩, some ⟨_, _, .answered (.ok ()), _⟩ =>
    some (crowd.tell number errand outcome)
  | some ⟨.run _, .submitting, _, _⟩, some ⟨_, _, .answered (.error error), _⟩ =>
    some (crowd.progress number (.refused error))
  | some ⟨.run errand, .refused error, _, _⟩, _ =>
    some (crowd.tell number errand (.error (crowd.process.refusal error)))
  | _, _ => none

/-- A caller draws the next consequence. -/
def act (crowd : Crowd α) (number : Nat) : Option (Crowd α) :=
  match crowd.calls[number]? with
  | some ⟨_, .left (.report error :: todo), _, _⟩ =>
    some { crowd.progress number (.left todo) with site := crowd.process.report crowd.site error }
  | some ⟨_, .left (.record error :: todo), _, _⟩ =>
    let (life, terminals) := crowd.life.recordFault error.message crowd.site.terminals
    some ((crowd.progress number (.left todo)).restate life terminals)
  | some ⟨_, .left (.terminate :: todo), _, _⟩ =>
    let (first, life) := crowd.life.beginShutdown
    some ((crowd.progress number (if first then .cancelling todo else .left todo)).restate life
      crowd.site.terminals)
  | some ⟨_, .cancelling todo, _, _⟩ =>
    let resident := crowd.process.resident
    some { crowd.progress number (.ending todo) with
      process := { crowd.process with
        resident := { resident with interrupt := resident.interrupt.cancel } } }
  | some ⟨_, .ending todo, _, _⟩ =>
    match crowd.queue.closings[number]? with
    | some ⟨_, _, .over⟩ =>
      let (_, life, terminals) := crowd.life.markTerminated crowd.site.terminals
      some ((crowd.progress number (.left todo)).restate life terminals)
    | _ => none
  | _ => none

/-! ### The queue -/

/-- Whether a call has handed its job to the queue. -/
def isSubmitting (crowd : Crowd α) (number : Nat) : Bool :=
  match crowd.calls[number]? with
  | some ⟨_, .submitting, _, _⟩ => true
  | _ => false

/-- Whether a call is about to end the worker. -/
def isEnding (crowd : Crowd α) (number : Nat) : Bool :=
  match crowd.calls[number]? with
  | some ⟨_, .ending _, _, _⟩ => true
  | _ => false

/-- The steps that the queue may take by itself; a job ends with the worker's own steps. -/
def permits (crowd : Crowd α) : Queue.Move → Bool
  | .accept number | .send number | .hear number => crowd.isSubmitting number
  | .receive | .begin | .leave => true
  | .beginEnd number | .takeHandle number | .sendLast number | .join number => crowd.isEnding number
  | .finish | .close | .tryLast _ => false

/-- The queue as it is after a step. -/
def requeue (crowd : Crowd α) (queue : Queue.Crowd Unit Unit) : Crowd α :=
  let resident := crowd.process.resident
  { crowd with
    queue
    process := { crowd.process with
      resident := { resident with
        gate := { resident.gate with
          closed := queue.closed
          joined := queue.joined
          stopped := queue.stage = .stopped } } } }

/-- A step of the queue. -/
def enqueue (crowd : Crowd α) (move : Queue.Move) : Option (Crowd α) :=
  if crowd.permits move then (crowd.queue.step move).map crowd.requeue else none

/-! ### The worker -/

/-- The job at work does what it does. -/
def perform (crowd : Crowd α) (number way : Nat) : Option (Crowd α) :=
  match crowd.calls[number]? with
  | some ⟨.run errand, _, _, _⟩ =>
    match errand.job way crowd.process.executor crowd.context with
    | (some answer, executor, context) =>
      some { crowd.reassemble executor context with
        phase := .stopping answer
        ran := crowd.ran ++ [⟨number, way, crowd.process.executor, crowd.context, context⟩] }
    | (none, _) => none
  | _ => none

/-- The worker replies. -/
def reply (crowd : Crowd α) (number : Nat) (answer : Except ProcessError α) : Option (Crowd α) :=
  (crowd.queue.step .finish).map fun queue =>
    { crowd.requeue queue with
      calls := crowd.calls.modify number fun call => { call with outcome := some answer }
      phase := .checking }

/-- **The next step of the worker with a job.** -/
def serve (crowd : Crowd α) (number way : Nat) : Option (Crowd α) :=
  match crowd.phase with
  | .checking =>
    if crowd.life.isFinished then
      some { crowd with phase := .replying (.error (.terminated crowd.process.pid)) }
    else some { crowd with phase := .starting }
  | .starting =>
    some { crowd.restate (crowd.life.setRunning true) crowd.site.terminals with phase := .working }
  | .working => crowd.perform number way
  | .stopping answer =>
    some { crowd.restate (crowd.life.setRunning false) crowd.site.terminals with
      phase := .settling answer }
  | .settling answer =>
    match crowd.process.resident.interrupt.exitCode with
    | none => some { crowd with phase := .replying answer }
    | some code => some { crowd with phase := .exiting answer code }
  | .exiting answer code =>
    let (executor, context) := tearDown crowd.process.executor crowd.context
    let (_, life, terminals) := context.lifecycle.markExited code context.terminals
    some { (crowd.reassemble executor context).restate life terminals with phase := .replying answer }
  | .replying answer => crowd.reply number answer

/-- The next step of the worker: with a job, or with the last one. -/
def work (crowd : Crowd α) (way : Nat) : Option (Crowd α) :=
  match crowd.queue.stage with
  | .running (.job number) => crowd.serve number way
  | .running (.last _) =>
    let (executor, context) := tearDown crowd.process.executor crowd.context
    (crowd.queue.step .finish).map (crowd.reassemble executor context).requeue
  | _ => none

/-! ### Steps -/

/-- One step, if its party can take it. -/
def step (crowd : Crowd α) : Move → Option (Crowd α)
  | .look number => crowd.look number
  | .queue move => crowd.enqueue move
  | .learn number => crowd.learn number
  | .act number => crowd.act number
  | .work way => crowd.work way

/-- Takes the steps of a schedule that can be taken. -/
def run (crowd : Crowd α) (schedule : List Move) : Crowd α :=
  schedule.foldl (fun crowd move => (crowd.step move).getD crowd) crowd

end Crowd

/-! ### The jobs of a process -/

/-- An entry into the script fails only with its script. -/
theorem entryJob_plain
    {entry : Executor → SyscallContext → Executor.Answer (Except ScriptError α)} {executor : Executor}
    {context : SyscallContext} {error : ProcessError}
    (failed : (entryJob entry executor context).1 = some (.error error)) :
    ∃ failure, error = .script failure := by
  obtain ⟨ended, -, same⟩ := Option.map_eq_some_iff.mp failed
  cases ended with
  | ok value => cases same
  | error failure =>
    cases same
    exact ⟨failure, rfl⟩

/-- An execution answers what became of its parts. -/
theorem executionJob_plain {files : FileSystem} {path : String} {args : List String}
    {executor : Executor} {context : SyscallContext} {error : ProcessError} :
    (executionJob files path args executor context).1 ≠ some (.error error) := by
  unfold executionJob
  simp only
  split
  · exact nofun
  · split
    · exact nofun
    · split <;> exact nofun

/-- A call of a global function, or the evaluation of a file. -/
def Errand.entry (entry : Executor → SyscallContext → Executor.Answer (Except ScriptError α)) :
    Errand α where
  job _ := entryJob entry
  plain _ _ _ _ := entryJob_plain

/-- Work on the slots. -/
def Errand.withFds (work : FdTable → α × FdTable) : Errand α where
  job _ executor context :=
    (some (.ok (work context.fds).1), executor, { context with fds := (work context.fds).2 })
  reports := false
  plain _ _ context error failed := by
    have same : Except.ok (work context.fds).1 = Except.error error := Option.some.inj failed
    cases same

/-- An execution: what failed is reported and recorded; under one policy a failed main function ends the process. -/
def Errand.execution (files : FileSystem) (path : String) (args : List String) : Errand Execution where
  job _ := executionJob files path args
  consequences policy execution :=
    (match execution.load with
      | .ok () => []
      | .error error => Consequence.ofFailure error) ++
    match execution.main with
      | some (.error error) =>
        Consequence.ofFailure error ++
          if error.kind.isSome && policy = .terminate then [.terminate] else []
      | _ => []
  plain _ _ _ _ failed := absurd failed executionJob_plain

end ScriptKernel.ScriptProcess
