/-
**What a job does piece by piece is what it does at once.**

* `Course.entered_atOnce`, `entry_atOnce`, `load_atOnce`, `hasFunction_atOnce`, `call_atOnce`: with nobody in between
  an entry does what it does as a whole;
* `execution_atOnce`, `handling_atOnce`: so do the jobs that are made of several entries;
* `Demand.atOnce`: so does whatever a host asks of a process;
* `Throng.run_pieces`: **a worker that takes all pieces of a job in turn leaves what the job leaves at once**.
-/

import ScriptKernel.ScriptProcess.Throng

set_option autoImplicit false

namespace ScriptKernel

open Script (Dialogue Fault Outcome Run)

namespace Course

variable {α β : Type}

theorem atOnce_map (course : Course α) (convert : α → β) (executor : Executor)
    (context : SyscallContext) :
    (course.map convert).atOnce executor context =
      let left := course.atOnce executor context
      (convert left.1, left.2) := by
  unfold map
  rw [atOnce_bind]
  rfl

theorem atOnce_look (next : Executor → SyscallContext → Course α) (executor : Executor)
    (context : SyscallContext) :
    (look next).atOnce executor context = (next executor context).atOnce executor context := rfl

theorem script_atOnce (dialogue : Dialogue α) (executor : Executor) (context : SyscallContext) :
    (script dialogue).atOnce executor context =
      let ran := Dialogue.run executor.table.host dialogue context
      (ran.1, executor, ran.2) := by
  induction dialogue generalizing context with
  | done value => rfl
  | ask question next ih => exact ih _ _

/-! ### Entries -/

/-- **A part of a script.** -/
theorem entered_atOnce (part : Run α) (executor : Executor) (context : SyscallContext) :
    (entered part).atOnce executor context =
      let ran := executor.engine.enter executor.table part context
      (ran.1, { executor with engine := ran.2.1 }, ran.2.2) := by
  obtain ⟨pid, ⟨memory⟩, callTimeout, table⟩ := executor
  unfold entered Engine.enter
  rw [atOnce_look]
  cases memory with
  | none => rfl
  | some memory =>
    dsimp only
    rw [atOnce_bind, script_atOnce]
    rfl

theorem runJobs_atOnce (executor : Executor) (context : SyscallContext) :
    runJobs.atOnce executor context = executor.runJobs context := by
  unfold runJobs Executor.runJobs
  rw [atOnce_map, entered_atOnce]
  dsimp only
  generalize executor.engine.enter executor.table (Script.runJobs .standard) context = ran
  obtain ⟨error | (_ | _ | _ | _), engine, left⟩ := ran <;> rfl

theorem conclude_atOnce (answer : Except EngineError (Except Fault α)) (executor : Executor)
    (context : SyscallContext) :
    (conclude answer).atOnce executor context =
      match executor.runJobs context with
      | (none, executor, context) => (none, executor, context)
      | (some _, executor, context) =>
        let (reason, interrupt) := context.interrupt.disarm
        (some ⟨answer, reason⟩, executor, { context with interrupt }) := by
  unfold conclude
  rw [atOnce_bind, runJobs_atOnce]
  dsimp only
  generalize executor.runJobs context = ran
  obtain ⟨_ | count, executor, context⟩ := ran <;> rfl

/-- **One entry.** -/
theorem entry_atOnce (part : Run (Except Fault α)) (executor : Executor) (context : SyscallContext) :
    (entry part).atOnce executor context = executor.enter part context := by
  unfold entry Executor.enter atOnce
  dsimp only
  rw [atOnce_bind, entered_atOnce]
  dsimp only
  generalize executor.engine.enter executor.table part (executor.arm context) = ran
  obtain ⟨error | (answer | _ | _ | _), engine, left⟩ := ran
  · exact conclude_atOnce _ _ _
  · exact conclude_atOnce _ _ _
  · rfl
  · rfl
  · rfl

theorem evaluate_atOnce (origin source : String) (executor : Executor) (context : SyscallContext) :
    (evaluate origin source).atOnce executor context = executor.evaluate origin source context := by
  unfold evaluate Executor.evaluate
  rw [atOnce_bind, entry_atOnce]
  dsimp only
  generalize executor.enter (Executor.evaluation source) context = ran
  obtain ⟨_ | ⟨error | fault | done, reason⟩, executor, context⟩ := ran <;> rfl

/-- **Loading a file.** -/
theorem load_atOnce (files : FileSystem) (path : String) (executor : Executor)
    (context : SyscallContext) :
    (load files path).atOnce executor context = executor.load files path context := by
  unfold load Executor.load
  cases files.read path with
  | error error => rfl
  | ok source => exact evaluate_atOnce path source executor context

/-- **Looking for a function.** -/
theorem hasFunction_atOnce (name : String) (executor : Executor) (context : SyscallContext) :
    (hasFunction name).atOnce executor context = executor.hasFunction name context := by
  unfold hasFunction Executor.hasFunction
  rw [atOnce_map, entered_atOnce]
  dsimp only
  generalize executor.engine.enter executor.table (Script.hasFunction name) context = ran
  obtain ⟨error | (_ | _ | _ | _), engine, left⟩ := ran <;> rfl

/-- **Calling a function.** -/
theorem call_atOnce (name : String) (args : List Json) (executor : Executor)
    (context : SyscallContext) :
    (call name args).atOnce executor context = executor.call name args context := by
  unfold call Executor.call
  rw [atOnce_bind, entry_atOnce]
  dsimp only
  generalize executor.enter (Script.callFunction name args) context = ran
  obtain ⟨_ | ⟨error | (_ | _ | _) | value, reason⟩, executor, context⟩ := ran <;> rfl

/-! ### Jobs -/

/-- A job that is one entry. -/
theorem ofEntry_atOnce {course : Course (Option (Except ScriptError α))}
    {entry : Executor → SyscallContext → Executor.Answer (Except ScriptError α)}
    (same : ∀ executor context, course.atOnce executor context = entry executor context)
    (executor : Executor) (context : SyscallContext) :
    (ofEntry course).atOnce executor context = ScriptProcess.entryJob entry executor context := by
  unfold ofEntry
  rw [atOnce_map, same]
  rfl

/-- **An execution.** -/
theorem execution_atOnce (files : FileSystem) (path : String) (args : List String)
    (executor : Executor) (context : SyscallContext) :
    (execution files path args).atOnce executor context =
      ScriptProcess.executionJob files path args executor context := by
  unfold execution ScriptProcess.executionJob atOnce
  dsimp only
  rw [atOnce_bind, load_atOnce]
  dsimp only
  generalize executor.load files path _ = ran
  obtain ⟨_ | loaded, executor, context⟩ := ran
  · rfl
  · dsimp only
    rw [atOnce_look]
    split
    · rfl
    · rw [atOnce_map, call_atOnce]
      dsimp only
      generalize executor.call entryPoint [Json.texts args] context = ran
      obtain ⟨_ | main, left⟩ := ran <;> rfl

/-- **The delivery of a signal.** -/
theorem handling_atOnce (signal : Signal) (executor : Executor) (context : SyscallContext) :
    (handling signal).atOnce executor context =
      ScriptProcess.signalJob signal executor context := by
  unfold handling ScriptProcess.signalJob
  rw [atOnce_bind, hasFunction_atOnce]
  dsimp only
  generalize executor.hasFunction signalHandler context = ran
  obtain ⟨_ | _ | _, executor, context⟩ := ran
  · rfl
  · rfl
  · refine ofEntry_atOnce (fun executor context => ?_) executor context
    rw [atOnce_map, call_atOnce]

end Course

namespace ScriptProcess

/-! ### What a host asks for -/

theorem Demand.relayed_atOnce {α : Type} {course : Course (Option (Except ProcessError α))}
    {errand : Errand α} {convert : α → Feedback} {back : Feedback → Option α}
    (same : ∀ way executor context, course.atOnce executor context = errand.job way executor context)
    (way : Nat) (executor : Executor) (context : SyscallContext) :
    (relayed course convert).atOnce executor context =
      (errand.relay convert back).job way executor context := by
  unfold relayed
  rw [Course.atOnce_map, same way]
  rfl

/-- **What a host asks for is done piece by piece as it is done at once.** -/
theorem Demand.atOnce {demand : Demand} {process : ScriptProcess} {errand : Errand Feedback}
    (task : demand.task process = .run errand) : ∃ course, demand.course? process = some course ∧
      ∀ way executor context, course.atOnce executor context = errand.job way executor context := by
  unfold Demand.task at task
  split at task
  · cases task
    exact ⟨_, rfl, relayed_atOnce fun _ => Course.execution_atOnce _ _ _⟩
  · cases task
    exact ⟨_, rfl, relayed_atOnce fun _ => Course.ofEntry_atOnce (Course.load_atOnce _ _)⟩
  · cases task
    exact ⟨_, rfl, relayed_atOnce fun _ => Course.ofEntry_atOnce (Course.call_atOnce _ _)⟩
  · split at task
    · rename_i catchable
      cases task
      exact ⟨_, if_pos catchable, relayed_atOnce fun _ => Course.handling_atOnce _⟩
    · cases task
  · cases task

namespace Throng

variable {throng : Throng} {number : Nat}

/-- A worker takes a piece, and then the others. -/
theorem run_cons_piece {next : Throng} (taken : throng.piece = some next) (pieces : Nat) :
    throng.run (List.replicate (pieces + 1) .piece) = next.run (List.replicate pieces .piece) := by
  show ((throng.step .piece).getD throng).run _ = _
  rw [show throng.step .piece = some next from taken]
  rfl

/-- **The rest of a job that answers**, with nobody in between. -/
theorem run_course {course : Course (Option (Except ProcessError Feedback))}
    {answer : Except ProcessError Feedback} {left : Executor × SyscallContext}
    (working : throng.crowd.phase = .working)
    (running : throng.crowd.queue.stage = .running (.job number)) (here : throng.course = some course)
    (ends : course.atOnce throng.crowd.process.executor throng.crowd.context = (some answer, left)) :
    ∃ pieces asked, throng.run (List.replicate pieces .piece) = { throng with
      crowd := { throng.crowd.reassemble left.1 left.2 with phase := .stopping answer }
      course := none
      asked } := by
  induction course generalizing throng with
  | done ended =>
    cases ends
    refine ⟨1, throng.asked, ?_⟩
    rw [run_cons_piece (by unfold piece; rw [working, running, here])]
    rfl
  | act change next ih =>
    obtain ⟨pieces, asked, ran⟩ := @ih throng.crowd.process.executor throng.crowd.context
      { throng with
        crowd := throng.crowd.reassemble (change throng.crowd.process.executor throng.crowd.context).1
          (change throng.crowd.process.executor throng.crowd.context).2
        course := some (next throng.crowd.process.executor throng.crowd.context) }
      working running rfl ends
    refine ⟨pieces + 1, asked, ?_⟩
    rw [run_cons_piece (by unfold piece; rw [working, running, here]), ran]
    rfl
  | ask question next ih =>
    obtain ⟨pieces, asked, ran⟩ :=
      @ih (throng.crowd.process.executor.table.host question throng.crowd.context).1
      { throng with
        crowd := throng.crowd.reassemble throng.crowd.process.executor
          (throng.crowd.process.executor.table.host question throng.crowd.context).2
        course := some
          (next (throng.crowd.process.executor.table.host question throng.crowd.context).1)
        asked := throng.asked ++ [question] } working running rfl ends
    refine ⟨pieces + 1, asked, ?_⟩
    rw [run_cons_piece (by unfold piece; rw [working, running, here]), ran]
    rfl

/-- **A worker that takes all pieces of a job in turn** comes to the answer of the job, and leaves what the job
leaves at once. -/
theorem run_pieces (working : throng.crowd.phase = .working)
    (running : throng.crowd.queue.stage = .running (.job number)) (idle : throng.course = none)
    {demand : Demand} (listed : throng.demands[number]? = some demand) {errand : Errand Feedback}
    (task : demand.task throng.crowd.process = .run errand) {way : Nat}
    {answer : Except ProcessError Feedback} {left : Executor × SyscallContext}
    (ends : errand.job way throng.crowd.process.executor throng.crowd.context = (some answer, left)) :
    ∃ pieces asked, throng.run (List.replicate pieces .piece) = { throng with
      crowd := { throng.crowd.reassemble left.1 left.2 with phase := .stopping answer }
      course := none
      asked } := by
  obtain ⟨course, asked, same⟩ := Demand.atOnce task
  obtain ⟨pieces, questions, ran⟩ := @run_course { throng with course := some course } number course
    answer left working running rfl ((same way _ _).trans ends)
  have takenUp : throng.piece = some { throng with course := some course } := by
    unfold piece
    rw [working, running, idle]
    dsimp only
    rw [listed, Option.bind_some, asked]
    rfl
  refine ⟨pieces + 1, questions, ?_⟩
  rw [run_cons_piece takenUp, ran]

end Throng

end ScriptProcess

end ScriptKernel
