/-
**What a process does it does under its number.**

* `SyscallContext.Marks`: a stretch of the life of a process that has added to its site what bears its number;
* `Moves.marks`: scripts with the standard host functions add nothing else; `marks_guarded`: nor does a job;
* `perform_marks`: **nor does anything that is done with a process from outside**.
-/

import ScriptKernel.Proofs.Process.Life
import ScriptKernel.Proofs.Syscall.Inward

set_option autoImplicit false

namespace ScriptKernel

namespace SyscallContext

/-! ### Stretches under one number -/

/-- A context whose process bears a number. -/
structure Bears (number : Pid) (context : SyscallContext) : Prop where
  pid : context.pid = number
  lifecyclePid : context.lifecycle.pid = number

/-- **What is done under a number**: the process goes on bearing it, and so does all that is new at its site. -/
structure Marks (number : Pid) (before after : SyscallContext) : Prop where
  bears : after.Bears number
  adds : before.toSite.Adds number after.toSite

namespace Marks

variable {number : Pid} {before middle after : SyscallContext}

theorem refl (bears : before.Bears number) : Marks number before before := ⟨bears, .refl _⟩

theorem trans (first : Marks number before middle) (second : Marks number middle after) :
    Marks number before after := ⟨second.bears, first.adds.trans second.adds⟩

/-- Nothing is added where the process changes only inwardly. -/
theorem still (bears : before.Bears number) (pid : after.pid = before.pid)
    (lifecyclePid : after.lifecycle.pid = before.lifecycle.pid)
    (terminals : after.terminals = before.terminals) (sink : after.sink = before.sink) :
    Marks number before after :=
  ⟨⟨pid.trans bears.pid, lifecyclePid.trans bears.lifecyclePid⟩, .still terminals sink⟩

/-- An event is told under the number of the process. -/
theorem tell (bears : before.Bears number) (event : ProcessEvent) :
    Marks number before { before with
      terminals := before.lifecycle.notify event before.terminals } :=
  ⟨⟨bears.pid, bears.lifecyclePid⟩, .notify before.toSite bears.lifecyclePid event⟩

theorem setRunning (bears : before.Bears number) (running : Bool) :
    Marks number before { before with lifecycle := before.lifecycle.setRunning running } := by
  refine .still bears rfl ?_ rfl rfl
  unfold Lifecycle.setRunning
  split <;> rfl

end Marks

variable {number : Pid} {before after : SyscallContext} {budget : Option Duration}

/-- **A script with the standard host functions adds nothing but what bears the number of its process.** -/
theorem Moves.marks (bears : before.Bears number) (moves : Moves .standard budget before after) :
    Marks number before after := by
  induction moves with
  | refl => exact .refl bears
  | @tail middle _ _ move ih =>
    refine ih.trans ?_
    have carried := move.carried SyscallTable.standard_modest
    have named := ih.bears
    refine ⟨⟨carried.pid.trans named.pid, by rw [carried.lifecycle, named.lifecyclePid]⟩, ?_⟩
    cases move with
    | call syscall bound args =>
      have adds := Syscall.standard_adds bound args middle
      rwa [named.pid] at adds
    | poll worked =>
      cases worked with
      | true => exact .still (Site.passSlice_terminals _) (Site.passSlice_sink _)
      | false => exact .still rfl rfl
    | arm => exact .still rfl rfl
    | disarm => exact .still rfl rfl

end SyscallContext

open SyscallContext (Bears Marks)

namespace ScriptProcess

variable {α : Type} {number : Pid}

/-! ### Jobs -/

/-- An entry adds nothing but what bears the number of its process. -/
theorem marks_of_serves {executor : Executor} {context : SyscallContext}
    {left : Executor × SyscallContext} (bound : executor.table = .standard)
    (bears : context.Bears number) (serves : executor.Serves context left) :
    left.1.table = .standard ∧ Marks number context left.2 := by
  obtain ⟨services, served⟩ := serves.served
  rw [bound] at served
  refine ⟨?_, served.moves.marks bears⟩
  rw [serves.rest]
  exact bound

/-- **A job that adds nothing but what bears the number of its process**, with the standard host functions. -/
def Job.Marking (number : Pid) (job : Job α) : Prop :=
  ∀ {executor : Executor} {context : SyscallContext}, executor.table = .standard →
    context.Bears number → Marks number context (job executor context).2.2

theorem marking_entryJob
    {entry : Executor → SyscallContext → Executor.Answer (Except ScriptError α)}
    (serves : ∀ (executor : Executor) context, executor.Serves context (entry executor context).2) :
    Job.Marking number (entryJob entry) :=
  fun bound bears => (marks_of_serves bound bears (serves _ _)).2

theorem marking_withFds (work : FdTable → α × FdTable) :
    Job.Marking number (fun executor context =>
      (some (Except.ok (work context.fds).1), executor,
        { context with fds := (work context.fds).2 })) :=
  fun _ bears => .still bears rfl rfl rfl rfl

theorem marking_executionJob (files : FileSystem) (path : String) (args : List String) :
    Job.Marking number (executionJob files path args) := by
  intro executor context bound bears
  have started : Marks number context (announced context) := .tell bears .started
  obtain ⟨same, loading⟩ := marks_of_serves bound started.bears
    (executor.load_serves files path (announced context))
  have loaded := started.trans loading
  unfold executionJob announced at *
  dsimp only
  generalize executor.load files path _ = left at *
  rcases left with ⟨_ | load, middle, halfway⟩
  · exact loaded
  · obtain ⟨-, calling⟩ := marks_of_serves same loaded.bears
      (middle.call_serves entryPoint [Json.texts args] halfway)
    dsimp only
    split
    · exact loaded
    · split <;> rename_i called <;> rw [called] at calling
      · exact loaded.trans calling
      · exact loaded.trans calling

theorem marking_signalJob (signal : Signal) : Job.Marking number (signalJob signal) := by
  intro executor context bound bears
  obtain ⟨same, looking⟩ := marks_of_serves bound bears
    (executor.hasFunction_serves signalHandler context)
  unfold signalJob
  split <;> rename_i looked <;> rw [looked] at looking same
  · exact looking
  · exact looking
  · refine looking.trans (marking_entryJob (fun executor context => ?_) same looking.bears)
    exact executor.call_serves signalHandler [Json.nat signal.number] context

/-- **The guard around a job adds nothing else.** -/
theorem marking_guarded {job : Job α} (marking : Job.Marking number job) :
    Job.Marking number (guarded job) := by
  intro executor context bound bears
  unfold guarded
  split
  · exact .refl bears
  · have begun := Marks.setRunning bears true
    have worked := begun.trans (marking bound begun.bears)
    dsimp only
    split <;> rename_i ended <;> rw [ended] at worked
    · exact worked
    · have rested := worked.trans (Marks.setRunning worked.bears false)
      split
      · exact rested
      · rename_i code _
        refine rested.trans ?_
        unfold tearDown Lifecycle.markExited
        dsimp only
        split
        · exact .still rested.bears rfl rfl rfl rfl
        · exact .trans (.tell rested.bears (.exited code))
            (.still (Marks.tell rested.bears (.exited code)).bears rfl rfl rfl rfl)

theorem marks_tearDown (executor : Executor) {context : SyscallContext} (bears : context.Bears number) :
    Marks number context (tearDown executor context).2 := .still bears rfl rfl rfl rfl

theorem marks_settle {executor : Executor} {context : SyscallContext} (bears : context.Bears number) :
    Marks number context (settle executor context).2 := by
  unfold settle tearDown
  dsimp only
  split <;> exact .still bears rfl rfl rfl rfl

/-! ### Operations -/

/-- **What an operation has done under the number of its process.** -/
def Marks (number : Pid) (process : ScriptProcess) (site : Site) (after : ScriptProcess × Site) : Prop :=
  SyscallContext.Marks number (.of process.resident site) (.of after.1.resident after.2)

/-- A process that bears a number. -/
structure Bears (number : Pid) (process : ScriptProcess) : Prop where
  pid : process.resident.pid = number
  lifecyclePid : process.resident.lifecycle.pid = number

variable {process : ScriptProcess} {site : Site}

theorem Bears.context (bears : process.Bears number) (site : Site) :
    (SyscallContext.of process.resident site).Bears number := ⟨bears.pid, bears.lifecyclePid⟩

theorem Marks.bears {after : ScriptProcess × Site} (marks : process.Marks number site after) :
    after.1.Bears number := by
  have named := SyscallContext.Marks.bears marks
  exact ⟨named.pid, named.lifecyclePid⟩

/-- A report bears the number of its process. -/
theorem marks_report (bears : process.Bears number) (site : Site) (error : ProcessError) :
    process.Marks number site (process, process.report site error) := by
  refine ⟨bears.context _, ?_⟩
  unfold report
  cases error with
  | script error =>
    have adds : site.Adds number { site with sink := (site.sink.reportScriptError number error).2 } :=
      .report site error
    rw [← bears.pid] at adds ⊢
    exact adds
  | _ => exact .refl site

theorem marks_run {job : Job α} (marking : Job.Marking number job) (bears : process.Bears number)
    (bound : process.executor.table = .standard) (site : Site) :
    process.Marks number site (process.run site job).2 := by
  unfold run
  split
  · exact .refl (bears.context site)
  · split
    · exact .refl (bears.context site)
    · have guarding := marking_guarded marking bound (bears.context site)
      generalize guarded job process.executor (.of process.resident site) = left at *
      rcases left with ⟨answer, executor, context⟩
      have settled := guarding.trans (@marks_settle number executor context guarding.bears)
      dsimp only [reassemble]
      split <;> exact settled

theorem marks_runReporting {job : Job α} (marking : Job.Marking number job)
    (bears : process.Bears number) (bound : process.executor.table = .standard) (site : Site) :
    process.Marks number site (process.runReporting site job).2 := by
  have marks := marks_run marking bears bound site
  unfold runReporting
  split <;> rename_i ran <;> rw [ran] at marks
  · exact marks
  · exact marks.trans (marks_report marks.bears _ _)

/-- Ending a process from outside. -/
theorem marks_terminate (bears : process.Bears number) (site : Site) :
    process.Marks number site (process.terminate site) := by
  unfold terminate
  dsimp only
  split
  · have told : ∀ context : SyscallContext, context.Bears number →
        SyscallContext.Marks number context
          { context with
            lifecycle := (context.lifecycle.markTerminated context.terminals).2.1
            terminals := (context.lifecycle.markTerminated context.terminals).2.2 } := by
      intro context named
      unfold Lifecycle.markTerminated
      split
      · exact .refl named
      · exact .trans (.tell named .terminated)
          (.still (SyscallContext.Marks.tell named .terminated).bears rfl rfl rfl rfl)
    have begun : SyscallContext.Marks number (.of process.resident site) (.of
        { process.resident with
          lifecycle := process.resident.lifecycle.beginShutdown.2
          interrupt := process.resident.interrupt.cancel
          gate := process.resident.gate.endOutside.2 } site) :=
      .still (bears.context site) rfl rfl rfl rfl
    unfold Marks reassemble
    dsimp only
    split
    · have torn := begun.trans (marks_tearDown process.executor begun.bears)
      exact torn.trans (told _ torn.bears)
    · exact begun.trans (told _ begun.bears)
  · exact .refl (bears.context site)

/-- A failure is recorded under the number of the process. -/
theorem marks_recordFailure (bears : process.Bears number) (site : Site) (error : ScriptError) :
    process.Marks number site (process.recordFailure site error) := by
  have reported := marks_report bears site (.script error)
  unfold recordFailure
  dsimp only
  split
  · unfold Lifecycle.recordFault
    split
    · exact reported
    · refine reported.trans (.trans (.tell (bears.context _) (.faulted error.message)) ?_)
      exact .still (SyscallContext.Marks.tell (bears.context _) (.faulted error.message)).bears
        rfl rfl rfl rfl
  · exact reported

/-- The consequences of an execution are drawn under the number of the process. -/
theorem marks_conclude (bears : process.Bears number) (site : Site) (execution : Execution) :
    process.Marks number site (process.conclude site execution) := by
  -- what follows from the main function
  have main {process : ScriptProcess} (bears : process.Bears number) (site : Site)
      (load : Except ScriptError Unit) (loaded : load = .ok ()) :
      process.Marks number site (process.conclude site ⟨load, execution.main⟩) := by
    subst loaded
    unfold conclude
    dsimp only
    split
    · rename_i error _
      have recorded := marks_recordFailure bears site error
      split
      · exact recorded.trans (marks_terminate recorded.bears _)
      · exact recorded
    · exact .refl (bears.context site)
  obtain ⟨load, rest⟩ := execution
  cases load with
  | ok done => exact main bears site _ rfl
  | error error =>
    have recorded := marks_recordFailure bears site error
    exact recorded.trans (main recorded.bears _ (.ok ()) rfl)

theorem marks_execute (bears : process.Bears number) (bound : process.executor.table = .standard)
    (site : Site) (files : FileSystem) :
    process.Marks number site (process.execute site files) := by
  have ran := marks_run (marking_executionJob files process.path process.resident.args) bears bound site
  unfold execute
  split <;> rename_i ended <;> rw [ended] at ran
  · exact ran.trans (marks_conclude ran.bears _ _)
  · exact ran.trans (marks_report ran.bears _ _)

theorem marks_signal (bears : process.Bears number) (bound : process.executor.table = .standard)
    (site : Site) (code : Nat) :
    process.Marks number site (process.signal site code).2 := by
  unfold signal
  split
  · exact .refl (bears.context site)
  · split
    · exact .refl (bears.context site)
    · split
      · exact marks_terminate bears site
      · rename_i signal _ _ _
        have ran := marks_runReporting (marking_signalJob signal) bears bound site
        unfold respond
        split <;> rename_i ended <;> rw [ended] at ran
        · exact ran
        · split
          · exact ran.trans (marks_terminate ran.bears _)
          · exact ran
        · exact ran

/-- **Whatever is done with a process from outside is done under its number.** -/
theorem perform_marks (bears : process.Bears number) (bound : process.executor.table = .standard)
    (operation : Operation) (site : Site) :
    process.Marks number site (operation.perform process site) := by
  cases operation with
  | execute files => exact marks_execute bears bound site files
  | load files path =>
    exact marks_runReporting (marking_entryJob fun executor context =>
      executor.load_serves files path context) bears bound site
  | invoke name args =>
    exact marks_runReporting (marking_entryJob fun executor context =>
      executor.call_serves name args context) bears bound site
  | signal code => exact marks_signal bears bound site code
  | withFds α work => exact marks_run (marking_withFds work) bears bound site
  | setVariable name value => exact .still (bears.context site) rfl rfl rfl rfl
  | terminate => exact marks_terminate bears site

end ScriptProcess

end ScriptKernel
