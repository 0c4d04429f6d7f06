/-
**What a step does to a process with many callers.**

* `Crowd.Answers`, `Advances`, `Acts`: how a call gets its answer, comes further without one, and draws a consequence;
* `Crowd.Serves`: what the worker does with a job;
* `Crowd.Stepped`: **all that one step of one party can do**;
* `Crowd.of_step`: every step does one of these;
* `Crowd.run_invariant`: what every step keeps, every schedule keeps.
-/

import ScriptKernel.ScriptProcess.Interleaving

set_option autoImplicit false

namespace ScriptKernel.ScriptProcess

/-- Whether a call has its answer, or needs none. -/
def Progress.isPast : Progress → Bool
  | .left _ | .cancelling _ | .ending _ => true
  | _ => false

namespace Crowd

variable {α : Type} {crowd after : Crowd α} {number way : Nat} {call : Call α}

/-! ### Steps -/

/-- How a call comes to an answer. -/
inductive Answers (crowd : Crowd α) (number : Nat) (call : Call α) : Except ProcessError α → Prop
  | turnedAway : call.progress = .outside → crowd.process.isAlive = false →
      Answers crowd number call (.error (.terminated crowd.process.pid))
  | heard {outcome : Except ProcessError α} {one : Queue.Submission Unit Unit} :
      call.progress = .submitting → call.outcome = some outcome →
      crowd.queue.submissions[number]? = some one → one.progress = .answered (.ok ()) →
      Answers crowd number call outcome
  | explained {error : QueueError} : call.progress = .refused error →
      Answers crowd number call (.error (crowd.process.refusal error))

/-- How a call comes further without an answer. -/
inductive Advances (crowd : Crowd α) (number : Nat) (call : Call α) : Progress → Prop
  | setOut : call.progress = .outside → Advances crowd number call (.left [.terminate])
  | admitted : call.progress = .outside → Advances crowd number call .submitting
  | refused {error : QueueError} {one : Queue.Submission Unit Unit} : call.progress = .submitting →
      crowd.queue.submissions[number]? = some one → one.progress = .answered (.error error) →
      Advances crowd number call (.refused error)

/-- How a caller draws a consequence, and what that does to the process. -/
inductive Acts (crowd : Crowd α) (number : Nat) : Progress → Progress → Crowd α → Prop
  | report {error : ProcessError} {todo : List Consequence} :
      Acts crowd number (.left (.report error :: todo)) (.left todo)
        { crowd with site := crowd.process.report crowd.site error }
  | record {error : ScriptError} {todo : List Consequence} :
      Acts crowd number (.left (.record error :: todo)) (.left todo)
        (crowd.restate (crowd.life.recordFault error.message crowd.site.terminals).1
          (crowd.life.recordFault error.message crowd.site.terminals).2)
  | begin {todo : List Consequence} : crowd.life.shuttingDown = false →
      Acts crowd number (.left (.terminate :: todo)) (.cancelling todo)
        (crowd.restate crowd.life.beginShutdown.2 crowd.site.terminals)
  | late {todo : List Consequence} : crowd.life.shuttingDown = true →
      Acts crowd number (.left (.terminate :: todo)) (.left todo)
        (crowd.restate crowd.life.beginShutdown.2 crowd.site.terminals)
  | cancel {todo : List Consequence} :
      Acts crowd number (.cancelling todo) (.ending todo)
        { crowd with process := { crowd.process with
            resident := { crowd.process.resident with
              interrupt := crowd.process.resident.interrupt.cancel } } }
  | mark {todo : List Consequence} {closing : Queue.Closing Unit} :
      crowd.queue.closings[number]? = some closing → closing.ending = .over →
      Acts crowd number (.ending todo) (.left todo)
        (crowd.restate (crowd.life.markTerminated crowd.site.terminals).2.1
          (crowd.life.markTerminated crowd.site.terminals).2.2)

/-- The process as the worker leaves it after an exit. -/
def exited (crowd : Crowd α) (code : ExitCode) : Crowd α :=
  let left := tearDown crowd.process.executor crowd.context
  (crowd.reassemble left.1 left.2).restate (crowd.life.markExited code crowd.site.terminals).2.1
    (crowd.life.markExited code crowd.site.terminals).2.2

/-- The process as the worker leaves it in the end. -/
def tornDown (crowd : Crowd α) : Crowd α :=
  let left := tearDown crowd.process.executor crowd.context
  crowd.reassemble left.1 left.2

/-- What the worker does with the job it holds. -/
inductive Serves (crowd : Crowd α) (number : Nat) : Crowd α → Prop
  | refuse : crowd.phase = .checking → crowd.life.isFinished = true →
      Serves crowd number
        { crowd with phase := .replying (.error (.terminated crowd.process.pid)) }
  | accept : crowd.phase = .checking → crowd.life.isFinished = false →
      Serves crowd number { crowd with phase := .starting }
  | start : crowd.phase = .starting →
      Serves crowd number
        { crowd.restate (crowd.life.setRunning true) crowd.site.terminals with phase := .working }
  | perform {way : Nat} {call : Call α} {errand : Errand α} {answer : Except ProcessError α}
      {executor : Executor} {context : SyscallContext} : crowd.phase = .working →
      crowd.calls[number]? = some call → call.task = .run errand →
      errand.job way crowd.process.executor crowd.context = (some answer, executor, context) →
      Serves crowd number { crowd.reassemble executor context with
        phase := .stopping answer
        ran := crowd.ran ++ [⟨number, way, crowd.process.executor, crowd.context, context⟩] }
  | stop {answer : Except ProcessError α} : crowd.phase = .stopping answer →
      Serves crowd number
        { crowd.restate (crowd.life.setRunning false) crowd.site.terminals with
          phase := .settling answer }
  | settle {answer : Except ProcessError α} : crowd.phase = .settling answer →
      Serves crowd number { crowd with phase := .replying answer }
  | leave {answer : Except ProcessError α} {code : ExitCode} : crowd.phase = .settling answer →
      Serves crowd number { crowd with phase := .exiting answer code }
  | exit {answer : Except ProcessError α} {code : ExitCode} : crowd.phase = .exiting answer code →
      Serves crowd number { crowd.exited code with phase := .replying answer }
  | reply {answer : Except ProcessError α} {queue : Queue.Crowd Unit Unit} :
      crowd.phase = .replying answer → crowd.queue.step .finish = some queue →
      Serves crowd number { crowd.requeue queue with
        calls := crowd.calls.modify number fun call => { call with outcome := some answer }
        phase := .checking }

/-- **What one step of one party does.** -/
inductive Stepped (crowd : Crowd α) : Crowd α → Prop
  | answer {number : Nat} {call : Call α} {errand : Errand α} {answer : Except ProcessError α} :
      crowd.calls[number]? = some call → call.task = .run errand → Answers crowd number call answer →
      Stepped crowd (crowd.tell number errand answer)
  | advance {number : Nat} {call : Call α} {progress : Progress} :
      crowd.calls[number]? = some call → Advances crowd number call progress →
      Stepped crowd (crowd.progress number progress)
  | act {number : Nat} {call : Call α} {progress : Progress} {shared : Crowd α} :
      crowd.calls[number]? = some call → Acts crowd number call.progress progress shared →
      Stepped crowd (shared.progress number progress)
  | queue {move : Queue.Move} {queue : Queue.Crowd Unit Unit} : crowd.permits move = true →
      crowd.queue.step move = some queue → Stepped crowd (crowd.requeue queue)
  | serve {number : Nat} {after : Crowd α} : crowd.queue.stage = .running (.job number) →
      Serves crowd number after → Stepped crowd after
  | last {number : Nat} {queue : Queue.Crowd Unit Unit} :
      crowd.queue.stage = .running (.last number) → crowd.queue.step .finish = some queue →
      Stepped crowd (crowd.tornDown.requeue queue)

/-- A caller who draws a consequence has its answer, and still has it. -/
theorem Acts.past {before progress : Progress} {shared : Crowd α}
    (acts : Acts crowd number before progress shared) :
    before.isPast = true ∧ progress.isPast = true := by
  cases acts <;> exact ⟨rfl, rfl⟩

/-- To draw a consequence is no step of the queue or of another call. -/
theorem Acts.apart {before progress : Progress} {shared : Crowd α}
    (acts : Acts crowd number before progress shared) :
    shared.calls = crowd.calls ∧ shared.queue = crowd.queue ∧ shared.phase = crowd.phase ∧
      shared.ran = crowd.ran ∧ shared.process.pid = crowd.process.pid := by
  cases acts <;> exact ⟨rfl, rfl, rfl, rfl, rfl⟩

theorem Acts.policy {before progress : Progress} {shared : Crowd α}
    (acts : Acts crowd number before progress shared) :
    shared.process.faultPolicy = crowd.process.faultPolicy := by
  cases acts <;> rfl

/-! ### Every step is one of these -/

theorem of_look (taken : crowd.look number = some after) : Stepped crowd after := by
  unfold look at taken
  split at taken
  · rename_i here
    cases taken
    exact .advance here (.setOut rfl)
  · rename_i here
    split at taken
    · cases taken
      exact .advance here (.admitted rfl)
    · rename_i gone
      cases taken
      exact .answer here rfl (.turnedAway rfl (eq_false_of_ne_true gone))
  · cases taken

theorem of_learn (taken : crowd.learn number = some after) : Stepped crowd after := by
  unfold learn at taken
  split at taken
  · rename_i here there
    cases taken
    exact .answer here rfl (.heard rfl rfl there rfl)
  · rename_i here there
    cases taken
    exact .advance here (.refused rfl there rfl)
  · rename_i here
    cases taken
    exact .answer here rfl (.explained rfl)
  · cases taken

theorem of_act (taken : crowd.act number = some after) : Stepped crowd after := by
  unfold act at taken
  split at taken
  · rename_i here
    cases taken
    exact .act here .report
  · rename_i here
    cases taken
    exact .act here .record
  · rename_i todo _ _ here
    by_cases begun : crowd.life.shuttingDown = true
    · have first : crowd.life.beginShutdown.1 = false := by
        show (!crowd.life.shuttingDown) = false
        rw [begun]
        rfl
      simp only [first] at taken
      cases taken
      exact .act here (.late begun)
    · have first : crowd.life.beginShutdown.1 = true := by
        show (!crowd.life.shuttingDown) = true
        rw [eq_false_of_ne_true begun]
        rfl
      simp only [first] at taken
      cases taken
      exact .act here (.begin (eq_false_of_ne_true begun))
  · rename_i here
    cases taken
    exact .act here .cancel
  · rename_i here
    split at taken
    · rename_i closing
      cases taken
      exact .act here (.mark closing rfl)
    · cases taken
  · cases taken

theorem of_enqueue {move : Queue.Move} (taken : crowd.enqueue move = some after) :
    Stepped crowd after := by
  unfold enqueue at taken
  split at taken
  · rename_i permitted
    obtain ⟨queue, moved, rfl⟩ := Option.map_eq_some_iff.mp taken
    exact .queue permitted moved
  · cases taken

theorem serves_of_serve (taken : crowd.serve number way = some after) : Serves crowd number after := by
  unfold serve at taken
  cases phase : crowd.phase with
  | checking =>
    simp only [phase] at taken
    split at taken
    · rename_i finished
      cases taken
      exact .refuse phase finished
    · rename_i unfinished
      cases taken
      exact .accept phase (eq_false_of_ne_true unfinished)
  | starting =>
    simp only [phase] at taken
    cases taken
    exact .start phase
  | working =>
    simp only [phase, perform] at taken
    split at taken
    · rename_i here
      split at taken
      · rename_i ran
        cases taken
        exact .perform phase here rfl ran
      · cases taken
    · cases taken
  | stopping answer =>
    simp only [phase] at taken
    cases taken
    exact .stop phase
  | settling answer =>
    simp only [phase] at taken
    split at taken <;> cases taken
    · exact .settle phase
    · exact .leave phase
  | exiting answer code =>
    simp only [phase] at taken
    cases taken
    exact .exit phase
  | replying answer =>
    simp only [phase, reply] at taken
    obtain ⟨queue, finished, rfl⟩ := Option.map_eq_some_iff.mp taken
    exact .reply phase finished

theorem of_work (taken : crowd.work way = some after) : Stepped crowd after := by
  unfold work at taken
  split at taken
  · rename_i running
    exact .serve running (serves_of_serve taken)
  · rename_i running
    obtain ⟨queue, finished, rfl⟩ := Option.map_eq_some_iff.mp taken
    exact .last running finished
  · cases taken

/-- **Every step does one of these things.** -/
theorem of_step {move : Move} (taken : crowd.step move = some after) : Stepped crowd after := by
  cases move with
  | look number => exact of_look taken
  | queue move => exact of_enqueue taken
  | learn number => exact of_learn taken
  | act number => exact of_act taken
  | work way => exact of_work taken

/-- **What every step keeps, every schedule keeps.** -/
theorem run_invariant {kept : Crowd α → Prop}
    (keeps : ∀ {crowd after : Crowd α}, Stepped crowd after → kept crowd → kept after)
    (schedule : List Move) (before : kept crowd) : kept (crowd.run schedule) := by
  induction schedule generalizing crowd with
  | nil => exact before
  | cons move rest ih =>
    refine ih ?_
    show kept ((crowd.step move).getD crowd)
    cases taken : crowd.step move with
    | none => exact before
    | some after => exact keeps (of_step taken) before

end Crowd

end ScriptKernel.ScriptProcess
