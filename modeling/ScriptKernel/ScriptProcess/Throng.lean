/-
**A process with many callers, and its jobs piece by piece.**

The callers and the queue move as before, and so does the worker around a job. At work the worker takes one piece of
the job after the other, and the others move in between. A job that panics ends without a reply: its caller finds the
queue closed, and the worker goes on with the next one.

* `Demand`, `Feedback`: what a host asks of a process, and what the worker answers;
* `Demand.task`, `Demand.course?`: the job of a demand, as a whole and piece by piece;
* `Throng`: a process with every call in progress and what is left of the job at work;
* `Throng.piece`: **the next piece of the job at work**;
* `Throng.step`, `Throng.run`: one step of one party; a schedule of steps, where those that cannot be taken are passed
  over.
-/

import ScriptKernel.ScriptProcess.Course
import ScriptKernel.ScriptProcess.Interleaving

set_option autoImplicit false

namespace ScriptKernel

/-- The job of a submission panics. -/
def Queue.Crowd.fail {σ ρ : Type} (crowd : Queue.Crowd σ ρ) (number : Nat) : Queue.Crowd σ ρ :=
  { crowd with
    submissions := crowd.submissions.modify number fun one =>
      { one with work := fun state => (none, state) } }

namespace ScriptProcess

/-! ### Demands -/

/-- What the worker answers. -/
inductive Feedback
  | executed (execution : Execution)
  | loaded
  | returned (value : Json)
  | handled (answer : Option Json)

/-- **What a host asks of a process.** -/
inductive Demand
  | execute (files : FileSystem)
  | load (files : FileSystem) (path : String)
  | invoke (name : String) (args : List Json)
  | signal (sent : Signal)
  | terminate

variable {α : Type}

/-- A job whose answer is passed on as feedback. -/
def Errand.relay (errand : Errand α) (convert : α → Feedback) (back : Feedback → Option α) :
    Errand Feedback where
  job way executor context :=
    let left := errand.job way executor context
    (left.1.map fun answer => answer.map convert, left.2)
  reports := errand.reports
  consequences policy feedback := (back feedback).elim [] (errand.consequences policy)
  plain way executor context error failed := by
    obtain ⟨answer, left, same⟩ := Option.map_eq_some_iff.mp failed
    cases answer with
    | ok value => cases same
    | error failure =>
      cases same
      exact errand.plain way executor context error left

/-- A signal that is not handled ends the process if it is fatal. -/
def Errand.signal (signal : Signal) : Errand (Option Json) where
  job _ := signalJob signal
  consequences _ answer := if answer.isNone && signal.isFatal then [.terminate] else []
  plain _ executor context error failed := by
    unfold signalJob at failed
    split at failed
    · cases failed
    · cases failed
    · exact entryJob_plain failed

/-- The execution that was fed back. -/
def Feedback.execution? : Feedback → Option Execution
  | .executed execution => some execution
  | _ => none

/-- What the handler of a signal has answered. -/
def Feedback.handled? : Feedback → Option (Option Json)
  | .handled answer => some answer
  | _ => none

namespace Demand

/-- The task of a caller. -/
def task (process : ScriptProcess) : Demand → Task Feedback
  | .execute files =>
    .run ((Errand.execution files process.path process.resident.args).relay .executed
      Feedback.execution?)
  | .load files path =>
    .run ((Errand.entry fun executor => executor.load files path).relay (fun _ => .loaded)
      fun _ => none)
  | .invoke name args =>
    .run ((Errand.entry fun executor => executor.call name args).relay .returned fun _ => none)
  | .signal sent =>
    if sent.isCatchable then .run ((Errand.signal sent).relay .handled Feedback.handled?)
    else .terminate
  | .terminate => .terminate

/-- A job whose answer is passed on as feedback, piece by piece. -/
def relayed (course : Course (Option (Except ProcessError α))) (convert : α → Feedback) :
    Course (Option (Except ProcessError Feedback)) :=
  course.map fun answer => answer.map fun ended => ended.map convert

/-- **The job of a caller, piece by piece.** -/
def course? (process : ScriptProcess) :
    Demand → Option (Course (Option (Except ProcessError Feedback)))
  | .execute files =>
    some (relayed (.execution files process.path process.resident.args) .executed)
  | .load files path => some (relayed (.ofEntry (.load files path)) fun _ => .loaded)
  | .invoke name args => some (relayed (.ofEntry (.call name args)) .returned)
  | .signal sent => if sent.isCatchable then some (relayed (.handling sent) .handled) else none
  | .terminate => none

end Demand

/-! ### Steps -/

/-- Whether a step is one of the worker. -/
def Move.isWork : Move → Bool
  | .work _ => true
  | _ => false

/-- Whether the worker is at work on a job. -/
def Phase.isWorking : Phase α → Bool
  | .working => true
  | _ => false

/-- **A process with every call in progress**, and what is left of the job at work. -/
structure Throng where
  crowd : Crowd Feedback
  demands : List Demand
  course : Option (Course (Option (Except ProcessError Feedback))) := none
  /-- What scripts have asked their host, in order. -/
  asked : List Script.Question := []

namespace Throng

/-- A step of one party, or time that passes. -/
inductive Move
  | party (move : ScriptProcess.Move)
  | piece
  | wait (duration : Duration)
  deriving DecidableEq, Repr

/-- A process before any call has begun. -/
def fresh (process : ScriptProcess) (site : Site) (capacity : Nat) (demands : List Demand) : Throng where
  crowd := .fresh process site capacity (demands.map (Demand.task process))
  demands

/-- A process that takes no more work is not ended by a signal that cannot be handled. -/
def declines (throng : Throng) (number : Nat) : Bool :=
  match throng.demands[number]?, throng.crowd.calls[number]? with
  | some (.signal sent), some ⟨_, .outside, _, _⟩ =>
    !sent.isCatchable && !throng.crowd.process.isAlive
  | _, _ => false

/-- A step of a caller, of the queue, or of the worker around a job. -/
def party (throng : Throng) (move : ScriptProcess.Move) : Option Throng :=
  if throng.crowd.phase.isWorking && move.isWork then none
  else match move with
    | .look number =>
      if throng.declines number then
        some { throng with crowd := throng.crowd.progress number (.left []) }
      else (throng.crowd.look number).map fun crowd => { throng with crowd }
    | move => (throng.crowd.step move).map fun crowd => { throng with crowd }

/-- The worker goes on after a panic. -/
def recover (throng : Throng) (number : Nat) : Option Throng :=
  ((throng.crowd.queue.fail number).step .finish).map fun queue =>
    { throng with crowd := { throng.crowd.requeue queue with phase := .checking }, course := none }

/-- **The next piece of the job at work.** -/
def piece (throng : Throng) : Option Throng :=
  match throng.crowd.phase, throng.crowd.queue.stage with
  | .working, .running (.job number) =>
    let executor := throng.crowd.process.executor
    let context := throng.crowd.context
    match throng.course with
    | none =>
      (throng.demands[number]?).bind fun demand =>
        (demand.course? throng.crowd.process).map fun course => { throng with course := some course }
    | some (.act change next) =>
      let left := change executor context
      some { throng with
        crowd := throng.crowd.reassemble left.1 left.2
        course := some (next executor context) }
    | some (.ask question next) =>
      let left := executor.table.host question context
      some { throng with
        crowd := throng.crowd.reassemble executor left.2
        course := some (next left.1)
        asked := throng.asked ++ [question] }
    | some (.done (some answer)) =>
      some { throng with crowd := { throng.crowd with phase := .stopping answer }, course := none }
    | some (.done none) => throng.recover number
  | _, _ => none

/-- One step, if its party can take it. -/
def step (throng : Throng) : Move → Option Throng
  | .party move => throng.party move
  | .piece => throng.piece
  | .wait duration =>
    some { throng with crowd := { throng.crowd with site := throng.crowd.site.pass duration } }

/-- Takes the steps of a schedule that can be taken. -/
def run (throng : Throng) (schedule : List Move) : Throng :=
  schedule.foldl (fun throng move => (throng.step move).getD throng) throng

end Throng

end ScriptProcess

end ScriptKernel
