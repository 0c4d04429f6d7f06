/-
**A process does the same at sites that it cannot tell apart.**

* `Agree`: two endings with the same answer that leave the same behind, but for what the process cannot tell; what
  follows from them is shown for both at once (`Agree.both`);
* `Executor.enter_agree`, `load_agree`, `call_agree`, `hasFunction_agree`: every entry ends so;
* `run_agree`, `execute_agree`, `signal_agree`, `terminate_agree`: so does every job, and every operation;
* `Operation.answer`, `Operation.agree`: **whatever is done with a process from outside, its answer, the process
  and what the process can tell of its site afterwards depend on no more than what it could tell before**.
-/

import ScriptKernel.Proofs.Process.Life
import ScriptKernel.Proofs.Syscall.Inward

set_option autoImplicit false

namespace ScriptKernel

open Script (Fault Run)
open SyscallContext (Alike)

variable {α β γ : Type}

/-- **Two endings that agree**: the answers are the same, and so is what is left, but for what is told apart by
nobody. -/
inductive Agree (alike : γ → γ → Prop) : α × β × γ → α × β × γ → Prop
  | intro {answer : α} {left : β} {first second : γ} :
      alike first second → Agree alike (answer, left, first) (answer, left, second)

/-- What follows from endings that agree is shown for both at once. -/
@[elab_as_elim]
theorem Agree.both {alike : γ → γ → Prop} {motive : α × β × γ → α × β × γ → Prop}
    {first second : α × β × γ} (agree : Agree alike first second)
    (ended : ∀ answer left here there, alike here there →
      motive (answer, left, here) (answer, left, there)) : motive first second := by
  cases agree with
  | intro same => exact ended _ _ _ _ same

variable {pid : Pid} {first second : SyscallContext}

/-! ### Entries -/

/-- **A part of a script ends the same** in contexts that are alike. -/
theorem Engine.enter_agree (engine : Engine) (run : Run α) (alike : Alike pid first second) :
    Agree (Alike pid) (engine.enter .standard run first) (engine.enter .standard run second) := by
  unfold Engine.enter
  cases engine.memory with
  | none => exact .intro alike
  | some memory =>
    obtain ⟨ended, left⟩ := Script.Dialogue.run_alike (run.part memory) alike
    dsimp only
    generalize Script.Dialogue.run SyscallTable.standard.host (run.part memory) first = here at *
    generalize Script.Dialogue.run SyscallTable.standard.host (run.part memory) second = there at *
    obtain ⟨⟨outcome, memory'⟩, here⟩ := here
    obtain ⟨_, there⟩ := there
    cases ended
    exact .intro left

namespace Executor

variable {executor : Executor}

theorem runJobs_agree (bound : executor.table = .standard) (alike : Alike pid first second) :
    Agree (Alike pid) (executor.runJobs first) (executor.runJobs second) := by
  unfold runJobs
  rw [bound]
  refine (executor.engine.enter_agree (Script.runJobs .standard) alike).both fun answer _ _ _ left => ?_
  rcases answer with error | outcome
  · exact .intro left
  · cases outcome <;> exact .intro left

/-- Deadlines that are armed at the same time are the same. -/
theorem arm_alike (executor : Executor) (alike : Alike pid first second) :
    Alike pid (executor.arm first) (executor.arm second) := by
  obtain ⟨resident, here, there, rfl, rfl, site⟩ := alike.eq_of
  refine ⟨?_, site.seen, site.reports, site.clock, rfl⟩
  show ({ resident with interrupt := resident.interrupt.arm here.clock executor.callTimeout } : Resident) =
    { resident with interrupt := resident.interrupt.arm there.clock executor.callTimeout }
  rw [site.clock]

/-- **An entry ends the same** in contexts that are alike. -/
theorem enter_agree (bound : executor.table = .standard) (part : Run (Except Fault α))
    (alike : Alike pid first second) :
    Agree (Alike pid) (executor.enter part first) (executor.enter part second) := by
  have armed := executor.arm_alike alike
  obtain ⟨number, engine, callTimeout, table⟩ := executor
  subst bound
  have disarmed {here there : SyscallContext} (alike : Alike pid here there) :
      here.interrupt.disarm.1 = there.interrupt.disarm.1 ∧
        Alike pid { here with interrupt := here.interrupt.disarm.2 }
          { there with interrupt := there.interrupt.disarm.2 } := by
    obtain ⟨resident, here, there, rfl, rfl, site⟩ := alike.eq_of
    exact ⟨rfl, .of site⟩
  unfold enter
  dsimp only
  refine (engine.enter_agree part armed).both fun answer engine here there left => ?_
  dsimp only
  refine (@runJobs_agree pid here there ⟨number, engine, callTimeout, .standard⟩ rfl left).both
    fun count _ _ _ after => ?_
  obtain ⟨reason, rest⟩ := disarmed after
  rcases answer with error | outcome
  · cases count with
    | none => exact .intro after
    | some count =>
      dsimp only
      rw [reason]
      exact .intro rest
  · cases outcome with
    | value answer =>
      cases count with
      | none => exact .intro after
      | some count =>
        dsimp only
        rw [reason]
        exact .intro rest
    | thrown _ | stopped | panicked => exact .intro left

/-- An exit that was asked for is seen in both. -/
theorem exitCode_alike (alike : Alike pid first second) :
    first.interrupt.exitCode = second.interrupt.exitCode :=
  congrArg (fun resident => resident.interrupt.exitCode) alike.resident

theorem evaluate_agree (bound : executor.table = .standard) (origin source : String)
    (alike : Alike pid first second) :
    Agree (Alike pid) (executor.evaluate origin source first)
      (executor.evaluate origin source second) := by
  unfold evaluate
  refine (enter_agree bound (evaluation source) alike).both fun answer _ _ _ left => ?_
  rcases answer with _ | ⟨error | fault | done, reason⟩
  · exact .intro left
  · exact .intro left
  · dsimp only
    rw [exitCode_alike left]
    exact .intro left
  · exact .intro left

/-- **Loading a file ends the same.** -/
theorem load_agree (bound : executor.table = .standard) (files : FileSystem) (path : String)
    (alike : Alike pid first second) :
    Agree (Alike pid) (executor.load files path first) (executor.load files path second) := by
  unfold load
  cases files.read path with
  | error error => exact .intro alike
  | ok source => exact evaluate_agree bound path source alike

/-- **Looking for a function ends the same.** -/
theorem hasFunction_agree (bound : executor.table = .standard) (name : String)
    (alike : Alike pid first second) :
    Agree (Alike pid) (executor.hasFunction name first) (executor.hasFunction name second) := by
  unfold hasFunction
  rw [bound]
  refine (executor.engine.enter_agree (Script.hasFunction name) alike).both fun answer _ _ _ left => ?_
  rcases answer with error | outcome
  · exact .intro left
  · cases outcome <;> exact .intro left

/-- **Calling a function ends the same.** -/
theorem call_agree (bound : executor.table = .standard) (name : String) (args : List Json)
    (alike : Alike pid first second) :
    Agree (Alike pid) (executor.call name args first) (executor.call name args second) := by
  unfold call
  refine (enter_agree bound (Script.callFunction name args) alike).both fun answer _ _ _ left => ?_
  rcases answer with _ | ⟨error | fault | value, reason⟩
  · exact .intro left
  · exact .intro left
  · cases fault with
    | missing => exact .intro left
    | exception _ | engine _ =>
      dsimp only
      rw [exitCode_alike left]
      exact .intro left
  · exact .intro left

end Executor

namespace ScriptProcess

/-! ### Jobs -/

/-- **A job that ends the same** in contexts that are alike, with the standard host functions. -/
def Job.Steady (pid : Pid) (job : Job α) : Prop :=
  ∀ {executor : Executor} {first second : SyscallContext}, executor.table = .standard →
    Alike pid first second → Agree (Alike pid) (job executor first) (job executor second)

/-- A job that is one entry. -/
theorem steady_entryJob
    {entry : Executor → SyscallContext → Executor.Answer (Except ScriptError α)}
    (agree : ∀ {executor : Executor} {first second : SyscallContext}, executor.table = .standard →
      Alike pid first second → Agree (Alike pid) (entry executor first) (entry executor second)) :
    Job.Steady pid (entryJob entry) := by
  intro executor first second bound alike
  unfold entryJob
  exact (agree bound alike).both fun _ _ _ _ left => .intro left

theorem steady_load (files : FileSystem) (path : String) :
    Job.Steady pid (entryJob fun executor => executor.load files path) :=
  steady_entryJob fun bound alike => Executor.load_agree bound files path alike

theorem steady_invoke (name : String) (args : List Json) :
    Job.Steady pid (entryJob fun executor => executor.call name args) :=
  steady_entryJob fun bound alike => Executor.call_agree bound name args alike

theorem steady_withFds (work : FdTable → α × FdTable) :
    Job.Steady pid (fun executor context =>
      (some (Except.ok (work context.fds).1), executor,
        { context with fds := (work context.fds).2 })) := by
  intro executor first second _ alike
  obtain ⟨resident, here, there, rfl, rfl, site⟩ := alike.eq_of
  exact .intro (.of site)

/-- The beginning of an execution is announced at both sites. -/
theorem announced_alike (alike : Alike pid first second) :
    Alike pid (announced first) (announced second) := by
  obtain ⟨resident, here, there, rfl, rfl, site⟩ := alike.eq_of
  exact .of (site.notify resident.lifecycle .started)

theorem steady_executionJob (files : FileSystem) (path : String) (args : List String) :
    Job.Steady pid (executionJob files path args) := by
  intro executor first second bound alike
  have same := (executor.load_serves files path (announced first)).rest
  have loaded := Executor.load_agree bound files path (announced_alike alike)
  unfold executionJob
  dsimp only
  unfold announced at same loaded
  revert same
  refine loaded.both fun load middle halfway halfway' left same => ?_
  cases load with
  | none => exact .intro left
  | some load =>
    dsimp only at same ⊢
    rw [Executor.exitCode_alike left]
    split
    · exact .intro left
    · have bound : middle.table = .standard := by
        rw [same]
        exact bound
      refine (Executor.call_agree bound entryPoint [Json.texts args] left).both
        fun main _ _ _ left => ?_
      cases main with
      | none => exact .intro left
      | some main => exact .intro left

theorem steady_signalJob (signal : Signal) : Job.Steady pid (signalJob signal) := by
  intro executor first second bound alike
  have same := (executor.hasFunction_serves signalHandler first).rest
  unfold signalJob
  revert same
  refine (Executor.hasFunction_agree bound signalHandler alike).both
    fun found middle halfway halfway' left same => ?_
  match found with
  | none => exact .intro left
  | some false => exact .intro left
  | some true =>
    dsimp only at same ⊢
    have bound : middle.table = .standard := by
      rw [same]
      exact bound
    refine steady_entryJob (fun bound alike => ?_) bound left
    exact (Executor.call_agree bound signalHandler [Json.nat signal.number] alike).both
      fun _ _ _ _ left => .intro left

/-- An exit ends the process at both sites, or at neither. -/
theorem markExited_alike (alike : Alike pid first second) (code : ExitCode) :
    Alike pid
      { first with
        lifecycle := (first.lifecycle.markExited code first.terminals).2.1
        terminals := (first.lifecycle.markExited code first.terminals).2.2 }
      { second with
        lifecycle := (second.lifecycle.markExited code second.terminals).2.1
        terminals := (second.lifecycle.markExited code second.terminals).2.2 } := by
  obtain ⟨resident, here, there, rfl, rfl, site⟩ := alike.eq_of
  dsimp only [SyscallContext.of]
  unfold Lifecycle.markExited
  by_cases finished : resident.lifecycle.isFinished = true
  · simp only [if_pos finished]
    exact ⟨rfl, site⟩
  · simp only [if_neg finished]
    exact ⟨rfl, site.notify resident.lifecycle (.exited code)⟩

/-- So does an end from outside. -/
theorem markTerminated_alike (alike : Alike pid first second) :
    Alike pid
      { first with
        lifecycle := (first.lifecycle.markTerminated first.terminals).2.1
        terminals := (first.lifecycle.markTerminated first.terminals).2.2 }
      { second with
        lifecycle := (second.lifecycle.markTerminated second.terminals).2.1
        terminals := (second.lifecycle.markTerminated second.terminals).2.2 } := by
  obtain ⟨resident, here, there, rfl, rfl, site⟩ := alike.eq_of
  dsimp only [SyscallContext.of]
  unfold Lifecycle.markTerminated
  by_cases finished : resident.lifecycle.isFinished = true
  · simp only [if_pos finished]
    exact ⟨rfl, site⟩
  · simp only [if_neg finished]
    exact ⟨rfl, site.notify resident.lifecycle .terminated⟩

/-- What becomes of a process after the answer of a job. -/
def rested (context : SyscallContext) : SyscallContext :=
  { context with lifecycle := context.lifecycle.setRunning false }

theorem rested_alike (alike : Alike pid first second) : Alike pid (rested first) (rested second) := by
  obtain ⟨resident, here, there, rfl, rfl, site⟩ := alike.eq_of
  exact ⟨rfl, site⟩

theorem tearDown_agree (executor : Executor) (alike : Alike pid first second) :
    (tearDown executor first).1 = (tearDown executor second).1 ∧
      Alike pid (tearDown executor first).2 (tearDown executor second).2 := by
  obtain ⟨resident, here, there, rfl, rfl, site⟩ := alike.eq_of
  exact ⟨rfl, rfl, site⟩

/-- A process at work. -/
def working (context : SyscallContext) : SyscallContext :=
  { context with lifecycle := context.lifecycle.setRunning true }

theorem working_alike (alike : Alike pid first second) :
    Alike pid (working first) (working second) := by
  obtain ⟨resident, here, there, rfl, rfl, site⟩ := alike.eq_of
  exact ⟨rfl, site⟩

/-- **The guard around a job keeps it steady.** -/
theorem steady_guarded {job : Job α} (steady : Job.Steady pid job) :
    Job.Steady pid (guarded job) := by
  intro executor first second bound alike
  have life : first.lifecycle = second.lifecycle := congrArg Resident.lifecycle alike.resident
  have number : first.pid = second.pid := congrArg Resident.pid alike.resident
  unfold guarded
  by_cases finished : second.lifecycle.isFinished = true
  · rw [if_pos finished, if_pos (life ▸ finished), number]
    exact .intro alike
  · rw [if_neg finished, if_neg (life ▸ finished)]
    have ended := steady bound (working_alike alike)
    unfold working at ended
    dsimp only
    refine ended.both fun answer left first second alike => ?_
    cases answer with
    | none => exact .intro alike
    | some answer =>
      have rests := rested_alike alike
      dsimp only
      rw [Executor.exitCode_alike alike]
      cases second.interrupt.exitCode with
      | none => exact .intro rests
      | some code =>
        obtain ⟨same, torn⟩ := tearDown_agree left rests
        exact .intro (markExited_alike torn code)

theorem settle_agree (executor : Executor) (alike : Alike pid first second) :
    (settle executor first).1 = (settle executor second).1 ∧
      Alike pid (settle executor first).2 (settle executor second).2 := by
  obtain ⟨resident, here, there, rfl, rfl, site⟩ := alike.eq_of
  unfold settle
  dsimp only [SyscallContext.of]
  cases resident.gate.afterJob with
  | mk ended gate =>
    cases ended with
    | true => exact ⟨rfl, rfl, site⟩
    | false => exact ⟨rfl, rfl, site⟩

/-! ### Operations -/

variable {process : ScriptProcess} {here there : Site}

/-- **Handing in a steady job ends the same** at sites that the process cannot tell apart. -/
theorem run_agree {job : Job α} (steady : Job.Steady pid job)
    (bound : process.executor.table = .standard) (alike : Site.Alike pid here there) :
    Agree (Site.Alike pid) (process.run here job) (process.run there job) := by
  unfold run
  split
  · exact .intro alike
  · cases process.resident.gate.accept false with
    | error error => exact .intro alike
    | ok accepted =>
      have ended := steady_guarded steady bound
        (SyscallContext.Alike.of alike :
          Alike pid (.of process.resident here) (.of process.resident there))
      refine ended.both fun answer executor first second alike => ?_
      obtain ⟨same, settled⟩ := settle_agree executor alike
      dsimp only [reassemble]
      rw [same, settled.resident]
      cases answer with
      | none => exact .intro settled.site
      | some ended => exact .intro settled.site

theorem report_alike (process : ScriptProcess) (alike : Site.Alike pid here there)
    (error : ProcessError) :
    Site.Alike pid (process.report here error) (process.report there error) := by
  unfold report
  cases error with
  | script error => exact alike.report process.pid error
  | _ => exact alike

theorem runReporting_agree {job : Job α} (steady : Job.Steady pid job)
    (bound : process.executor.table = .standard) (alike : Site.Alike pid here there) :
    Agree (Site.Alike pid) (process.runReporting here job) (process.runReporting there job) := by
  unfold runReporting
  refine (run_agree steady bound alike).both fun answer left here there alike => ?_
  cases answer with
  | ok value => exact .intro alike
  | error error => exact .intro (left.report_alike alike error)

/-- A process and its site, as an ending without an answer. -/
abbrev silent (left : ScriptProcess × Site) : Unit × ScriptProcess × Site := ((), left)

/-- What follows from endings without answers that agree is shown for both at once. -/
@[elab_as_elim]
theorem both_silent {alike : Site → Site → Prop}
    {motive : ScriptProcess × Site → ScriptProcess × Site → Prop} {first second : ScriptProcess × Site}
    (agree : Agree alike (silent first) (silent second))
    (ended : ∀ left here there, alike here there → motive (left, here) (left, there)) :
    motive first second := by
  obtain ⟨left, here⟩ := first
  obtain ⟨right, there⟩ := second
  cases agree with
  | intro same => exact ended left here there same

/-- What a job has left is put back together. -/
theorem reassemble_agree (process : ScriptProcess) {left right : Executor} (same : left = right)
    (alike : Alike pid first second) :
    Agree (Site.Alike pid) (silent (process.reassemble left first))
      (silent (process.reassemble right second)) := by
  subst same
  unfold silent reassemble
  rw [alike.resident]
  exact .intro alike.site

/-- **Ending a process from outside ends the same.** -/
theorem terminate_agree (process : ScriptProcess) (alike : Site.Alike pid here there) :
    Agree (Site.Alike pid) (silent (process.terminate here)) (silent (process.terminate there)) := by
  unfold terminate
  dsimp only
  split
  · refine reassemble_agree process ?_ (markTerminated_alike ?_)
    · split <;> rfl
    · split
      · exact (tearDown_agree process.executor (.of alike)).2
      · exact .of alike
  · exact .intro alike

/-- A failure is recorded the same. -/
theorem recordFailure_agree (process : ScriptProcess) (alike : Site.Alike pid here there)
    (error : ScriptError) :
    Agree (Site.Alike pid) (silent (process.recordFailure here error))
      (silent (process.recordFailure there error)) := by
  have reported := process.report_alike alike (.script error)
  unfold recordFailure
  dsimp only
  split
  · unfold Lifecycle.recordFault
    split
    · exact .intro reported
    · exact .intro (reported.notify process.resident.lifecycle (.faulted error.message))
  · exact .intro reported

/-- **The consequences of an execution are the same.** -/
theorem conclude_agree (process : ScriptProcess) (alike : Site.Alike pid here there)
    (execution : Execution) :
    Agree (Site.Alike pid) (silent (process.conclude here execution))
      (silent (process.conclude there execution)) := by
  -- what follows from the main function
  have main (process : ScriptProcess) {here there : Site} (alike : Site.Alike pid here there)
      (load : Except ScriptError Unit) (loaded : load = .ok ()) :
      Agree (Site.Alike pid) (silent (process.conclude here ⟨load, execution.main⟩))
        (silent (process.conclude there ⟨load, execution.main⟩)) := by
    subst loaded
    unfold conclude
    match execution.main with
    | none => exact .intro alike
    | some (.ok value) => exact .intro alike
    | some (.error error) =>
      dsimp only
      refine both_silent (process.recordFailure_agree alike error) fun left here there alike => ?_
      dsimp only
      split
      · exact left.terminate_agree alike
      · exact .intro alike
  obtain ⟨load, rest⟩ := execution
  cases load with
  | ok done => exact main process alike _ rfl
  | error error =>
    have recorded := process.recordFailure_agree alike error
    unfold conclude
    dsimp only
    refine both_silent recorded fun left here there alike => ?_
    exact main left alike (.ok ()) rfl

/-- **An execution ends the same.** -/
theorem execute_agree (bound : process.executor.table = .standard)
    (alike : Site.Alike pid here there) (files : FileSystem) :
    Agree (Site.Alike pid) (silent (process.execute here files)) (silent (process.execute there files)) := by
  have ran := run_agree (steady_executionJob files process.path process.resident.args) bound alike
  unfold execute
  refine ran.both fun answer left _ _ alike => ?_
  cases answer with
  | ok execution => exact left.conclude_agree alike execution
  | error error => exact .intro (left.report_alike alike error)

/-- **A signal is delivered the same.** -/
theorem signal_agree (bound : process.executor.table = .standard)
    (alike : Site.Alike pid here there) (number : Nat) :
    Agree (Site.Alike pid) (process.signal here number) (process.signal there number) := by
  have terminated (process : ScriptProcess) {here there : Site} (alike : Site.Alike pid here there) :
      Agree (Site.Alike pid)
        ((.ok .terminated, process.terminate here) : Except ProcessError SignalOutcome × ScriptProcess × Site)
        (.ok .terminated, process.terminate there) :=
    both_silent (process.terminate_agree alike) fun _ _ _ alike => .intro alike
  unfold signal
  cases Signal.ofNumber? number with
  | none => exact .intro alike
  | some signal =>
    dsimp only
    split
    · exact .intro alike
    · split
      · exact terminated process alike
      · refine (runReporting_agree (steady_signalJob signal) bound alike).both
          fun answer left _ _ alike => ?_
        match answer with
        | .error error => exact .intro alike
        | .ok (some value) => exact .intro alike
        | .ok none =>
          unfold respond
          dsimp only
          split
          · exact terminated left alike
          · exact .intro alike

end ScriptProcess

/-! ### Whatever is done from outside -/

namespace Operation

/-- What an operation may answer. -/
def Answer : Operation → Type
  | .load .. => Except ProcessError Unit
  | .invoke .. => Except ProcessError Json
  | .signal .. => Except ProcessError SignalOutcome
  | .withFds α _ => Except ProcessError α
  | .execute _ | .setVariable .. | .terminate => Unit

/-- What an operation answers. -/
def answer (operation : Operation) (process : ScriptProcess) (site : Site) : operation.Answer :=
  match operation with
  | .execute _ => ()
  | .load files path => (process.load site files path).1
  | .invoke name args => (process.invoke site name args).1
  | .signal number => (process.signal site number).1
  | .withFds _ work => (process.withFds site work).1
  | .setVariable .. => ()
  | .terminate => ()

/-- **Whatever is done with a process from outside ends the same at sites that it cannot tell apart.** -/
theorem agree (operation : Operation) {process : ScriptProcess} {here there : Site}
    (bound : process.executor.table = .standard) (alike : Site.Alike pid here there) :
    Agree (Site.Alike pid) (operation.answer process here, operation.perform process here)
      (operation.answer process there, operation.perform process there) := by
  cases operation with
  | execute files => exact ScriptProcess.execute_agree bound alike files
  | load files path =>
    exact ScriptProcess.runReporting_agree (ScriptProcess.steady_load files path) bound alike
  | invoke name args =>
    exact ScriptProcess.runReporting_agree (ScriptProcess.steady_invoke name args) bound alike
  | signal number => exact ScriptProcess.signal_agree bound alike number
  | withFds α work =>
    exact ScriptProcess.run_agree (ScriptProcess.steady_withFds work) bound alike
  | setVariable name value => exact .intro alike
  | terminate => exact process.terminate_agree alike

end Operation

end ScriptKernel
