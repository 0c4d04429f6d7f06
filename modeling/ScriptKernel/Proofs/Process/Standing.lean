/-
**How a process stands, and what changes it.**

A process changes between jobs in four ways: by a job (`afterwards`), by its end from outside (`terminate`), by
the failures of an execution (`recordFailures`), and by a variable that is set.

* `ScriptProcess.Standing`: **what holds of every process at rest**: it is ready or has ended, and it is still
  bound to the table it was built from;
* `Standing.afterwards`, `Standing.terminate`, `recordFailures_ready`: each change keeps that;
* `heard`, `Sink.reports`: what the terminal has heard of the process, and the failures reported; beside each
  change stands what it adds to both and what it does to the status.
-/

import ScriptKernel.Proofs.Binding
import ScriptKernel.Proofs.Process.Work

set_option autoImplicit false

namespace ScriptKernel

/-! ### Reports -/

/-- What is reported of a script error: nothing of a requested exit. -/
def ScriptError.reported? (pid : Pid) (error : ScriptError) :
    Option (Pid × DiagnosticKind × String) :=
  error.kind.map fun kind => (pid, kind, error.message)

/-- The failures reported, each with its process, its kind and its wording. -/
def Sink.reports (sink : Sink) : List (Pid × DiagnosticKind × String) :=
  sink.entries.toList.map fun entry => (entry.pid, entry.kind, entry.message)

/-- The errors that count as failures of the script: all but requested exits. -/
def ScriptError.failures (errors : List ScriptError) : List ScriptError :=
  errors.filter fun error => error.kind.isSome

/-- A failure is reported behind the others. -/
theorem Sink.reports_reportScriptError (sink : Sink) (pid : Pid) (error : ScriptError) :
    (sink.reportScriptError pid error).2.reports =
      sink.reports ++ (error.reported? pid).toList := by
  unfold reportScriptError Diagnostic.ofScriptError? ScriptError.reported? reports
  cases error.kind with
  | none =>
    simp only [Option.map_none, Option.toList_none, List.append_nil]
  | some kind =>
    simp only [Option.map_some, Option.toList_some, Array.toList_push, List.map_append,
      List.map_cons, List.map_nil]

namespace ScriptProcess

/-- What the terminal of a process has heard of it. -/
def heard (process : ScriptProcess) (site : Site) : Option (List ProcessEvent) :=
  site.terminals.heard process.resident.lifecycle.terminal process.resident.pid

/-- What is heard in two steps. -/
theorem map_append_append (heard : Option (List ProcessEvent)) (first second : List ProcessEvent) :
    (heard.map fun before => before ++ first).map (fun before => before ++ second) =
      heard.map fun before => before ++ (first ++ second) := by
  rw [Option.map_map]
  congr 1
  funext before
  exact List.append_assoc ..

/-- **What holds of a process at rest.** -/
structure Standing (table : SyscallTable) (process : ScriptProcess) : Prop where
  symbols : process.symbols = table.names
  table : process.executor.table = table
  executorPid : process.executor.pid = process.resident.pid
  lifecyclePid : process.resident.lifecycle.pid = process.resident.pid
  stage : process.Ready ∨ process.Ended

/-- **What of a process never changes.** -/
structure Lasting (before after : ScriptProcess) : Prop where
  pid : after.pid = before.pid
  path : after.path = before.path
  args : after.resident.args = before.resident.args
  terminal : after.resident.lifecycle.terminal = before.resident.lifecycle.terminal
  faultPolicy : after.faultPolicy = before.faultPolicy
  callTimeout : after.executor.callTimeout = before.executor.callTimeout

theorem Lasting.refl (process : ScriptProcess) : Lasting process process :=
  ⟨rfl, rfl, rfl, rfl, rfl, rfl⟩

theorem Lasting.trans {before middle after : ScriptProcess} (first : Lasting before middle)
    (second : Lasting middle after) : Lasting before after :=
  ⟨second.pid.trans first.pid, second.path.trans first.path, second.args.trans first.args,
    second.terminal.trans first.terminal, second.faultPolicy.trans first.faultPolicy,
    second.callTimeout.trans first.callTimeout⟩

variable {table : SyscallTable} {process : ScriptProcess} {site : Site}

/-- A process that has just come up is ready. -/
theorem Fresh.standing {spec : ProcessSpec} {terminal : TerminalRef} {config : KernelConfig}
    (fresh : process.Fresh spec terminal table config) : process.Standing table := by
  refine ⟨fresh.symbols, fresh.table, ?_, ?_, .inl ?_⟩
  · rw [fresh.pid, fresh.resident]
    rfl
  · rw [fresh.resident]
    rfl
  · constructor
    case sound => exact fresh.sound
    all_goals
      rw [fresh.resident]
      rfl

/-- A process that was asked to exit has ended with that exit. -/
theorem Standing.exited (standing : process.Standing table) {code : ExitCode}
    (asked : process.resident.interrupt.exitCode = some code) :
    process.Ended ∧ process.state = .exited ∧ process.status = .exited code := by
  rcases standing.stage with ready | ended
  · exact absurd (ready.unasked.symm.trans asked) nofun
  · refine ⟨ended, ?_⟩
    rcases ended.outcome with ⟨final, state, status, held⟩ | ⟨-, -, held⟩
    · cases held.symm.trans asked
      exact ⟨state, status⟩
    · exact absurd (held.symm.trans asked) nofun

/-- Setting a variable touches nothing else. -/
theorem Standing.setVariable (standing : process.Standing table) (name value : String) :
    (process.setVariable name value).Standing table := by
  refine ⟨standing.symbols, standing.table, standing.executorPid, standing.lifecyclePid, ?_⟩
  rcases standing.stage with ready | ended
  · exact .inl ⟨ready.state, ready.staying, ready.unexited, ready.opened, ready.behind,
      ready.unjoined, ready.working, ready.uncancelled, ready.unasked, ready.sound⟩
  · exact .inr ⟨ended.engine, ended.slots, ended.outcome⟩

/-! ### After a job -/

variable {left : Executor × SyscallContext}

theorem afterwards_none (goes : left.2.interrupt.exitCode = none) :
    process.afterwards left =
      ({ process with
          executor := left.1
          resident := { left.2.toResident with lifecycle := process.resident.lifecycle } },
        left.2.toSite) := by
  unfold afterwards
  rw [goes]

theorem afterwards_some {code : ExitCode} (ends : left.2.interrupt.exitCode = some code) :
    process.afterwards left =
      ({ process with
          executor := left.1.destroy
          resident := { left.2.toResident with
            fds := .empty
            lifecycle := { process.resident.lifecycle with
              state := .exited, status := .exited code } } },
        { left.2.toSite with
          terminals := process.resident.lifecycle.notify (.exited code) left.2.terminals }) := by
  unfold afterwards
  rw [ends]

/-- Where no exit was asked for, the process is ready again. -/
theorem Ready.afterwards (ready : process.Ready)
    (keeps : process.executor.Keeps (process.handed site) left)
    (goes : left.2.interrupt.exitCode = none) : (process.afterwards left).1.Ready := by
  have gate : left.2.gate = process.resident.gate := keeps.carried.gate
  rw [afterwards_none goes]
  refine ⟨ready.state, ready.staying, ready.unexited, ?_, ?_, ?_, ?_, ?_, goes, keeps.sound⟩
  · exact gate ▸ ready.opened
  · exact gate ▸ ready.behind
  · exact gate ▸ ready.unjoined
  · exact gate ▸ ready.working
  · exact keeps.carried.cancelled.trans ready.uncancelled

/-- Where an exit was asked for, the process has ended. -/
theorem ended_afterwards {code : ExitCode} (ends : left.2.interrupt.exitCode = some code) :
    (process.afterwards left).1.Ended := by
  rw [afterwards_some ends]
  exact ⟨rfl, rfl, .inl ⟨code, rfl, rfl, ends⟩⟩

theorem Standing.afterwards (standing : process.Standing table) (ready : process.Ready)
    (keeps : process.executor.Keeps (process.handed site) left) :
    (process.afterwards left).1.Standing table := by
  have pid : left.2.pid = process.resident.pid := keeps.carried.pid
  cases goes : left.2.interrupt.exitCode with
  | none =>
    have stage := ready.afterwards keeps goes
    rw [afterwards_none goes] at stage ⊢
    exact ⟨standing.symbols, keeps.table.trans standing.table,
      (keeps.pid.trans standing.executorPid).trans pid.symm, standing.lifecyclePid.trans pid.symm,
      .inl stage⟩
  | some code =>
    have stage : (process.afterwards left).1.Ended := ended_afterwards goes
    rw [afterwards_some goes] at stage ⊢
    exact ⟨standing.symbols, keeps.table.trans standing.table,
      (keeps.pid.trans standing.executorPid).trans pid.symm, standing.lifecyclePid.trans pid.symm,
      .inr stage⟩

theorem lasting_afterwards (keeps : process.executor.Keeps (process.handed site) left) :
    Lasting process (process.afterwards left).1 := by
  have pid : left.2.pid = process.resident.pid := keeps.carried.pid
  have args : left.2.args = process.resident.args := keeps.carried.args
  have callTimeout : left.1.callTimeout = process.executor.callTimeout := by
    rw [keeps.rest]
  unfold ScriptProcess.afterwards
  split <;> exact ⟨pid, rfl, args, rfl, rfl, callTimeout⟩

/-- **A job announces no more than the exit that was asked for** behind what was announced during it. -/
theorem heard_afterwards (standing : process.Standing table)
    (keeps : process.executor.Keeps (process.handed site) left) :
    (process.afterwards left).1.heard (process.afterwards left).2 =
      left.2.heard.map fun events => events ++ (left.2.interrupt.exitCode.map .exited).toList := by
  have pid : left.2.pid = process.resident.pid := keeps.carried.pid
  have terminal : left.2.lifecycle.terminal = process.resident.lifecycle.terminal := by
    rw [keeps.carried.lifecycle]
    show (process.resident.lifecycle.setRunning true).terminal = _
    unfold Lifecycle.setRunning
    split <;> rfl
  unfold SyscallContext.heard
  rw [terminal]
  cases goes : left.2.interrupt.exitCode with
  | none =>
    rw [afterwards_none goes]
    simp only [Option.map_none, Option.toList_none, List.append_nil, Option.map_id']
    rfl
  | some code =>
    rw [afterwards_some goes]
    show (process.resident.lifecycle.notify (.exited code) left.2.terminals).heard
      process.resident.lifecycle.terminal left.2.pid = _
    unfold Lifecycle.notify
    rw [standing.lifecyclePid, ← pid, Terminals.heard_notify]
    rfl

/-- A job reports nothing. -/
theorem sink_afterwards (keeps : process.executor.Keeps (process.handed site) left) :
    (process.afterwards left).2.sink = site.sink := by
  have sink : left.2.sink = site.sink := keeps.carried.sink
  unfold ScriptProcess.afterwards
  split <;> exact sink

/-- The exits that were asked for during a job are kept after it. -/
theorem interrupt_afterwards (process : ScriptProcess) (left : Executor × SyscallContext) :
    (process.afterwards left).1.resident.interrupt = left.2.interrupt := by
  unfold ScriptProcess.afterwards
  split <;> rfl

/-- A job changes the status only by ending the process. -/
theorem status_afterwards (process : ScriptProcess) (left : Executor × SyscallContext) :
    (process.afterwards left).1.status =
      (left.2.interrupt.exitCode.map ExitStatus.exited).getD process.status := by
  unfold ScriptProcess.afterwards status
  split <;> rename_i here <;> rw [here] <;> rfl

/-! ### The end from outside -/

/-- **Ending a ready process from outside.** -/
theorem terminate_ready (ready : process.Ready) (site : Site) :
    process.terminate site =
      ({ process with
          executor := process.executor.destroy
          resident := { process.resident with
            fds := .empty
            interrupt := process.resident.interrupt.cancel
            lifecycle := { process.resident.lifecycle with
              shuttingDown := true, state := .terminated }
            gate := { process.resident.gate.close with joined := true, stopped := true } } },
        { site with terminals := process.resident.lifecycle.notify .terminated site.terminals }) := by
  have first : process.resident.lifecycle.beginShutdown =
      (true, { process.resident.lifecycle with shuttingDown := true }) := by
    unfold Lifecycle.beginShutdown
    rw [ready.staying]
    rfl
  have runs : process.resident.gate.endOutside =
      (true, { process.resident.gate.close with joined := true, stopped := true }) := by
    unfold QueueGate.endOutside
    rw [ready.unjoined, ready.working]
    rfl
  have unfinished : process.resident.lifecycle.state.isFinished = false := ready.isFinished
  unfold terminate
  simp only [first, runs, if_true, tearDown, reassemble, SyscallContext.of, Lifecycle.markTerminated,
    Lifecycle.isFinished, unfinished]
  rfl

/-- What ending a process that has ended changes is not to be seen. -/
theorem terminate_ended (ended : process.Ended) (site : Site) :
    ∃ executor lifecycle gate interrupt, process.terminate site =
        ({ process with
            executor
            resident := { process.resident with fds := .empty, interrupt, lifecycle, gate } }, site) ∧
      (executor = process.executor ∨ executor = process.executor.destroy) ∧
      (lifecycle = process.resident.lifecycle ∨
        lifecycle = { process.resident.lifecycle with shuttingDown := true }) ∧
      (interrupt = process.resident.interrupt ∨ interrupt = process.resident.interrupt.cancel) := by
  have finished : process.resident.lifecycle.state.isFinished = true := ended.isFinished
  have slots := ended.slots
  rcases process with ⟨path, symbols, policy, ⟨pid, args, fds, environment, interrupt, life, gate⟩,
    executor⟩
  cases slots
  unfold terminate Lifecycle.beginShutdown
  simp only [Bool.not_eq_true']
  split
  · generalize gate.endOutside = ending
    rcases ending with ⟨_ | _, gate⟩
    · refine ⟨executor, { life with shuttingDown := true }, gate, interrupt.cancel, ?_, .inl rfl,
        .inr rfl, .inr rfl⟩
      simp [reassemble, SyscallContext.of, Lifecycle.markTerminated, Lifecycle.isFinished, finished]
      rfl
    · refine ⟨executor.destroy, { life with shuttingDown := true }, gate, interrupt.cancel, ?_,
        .inr rfl, .inr rfl, .inr rfl⟩
      simp [tearDown, reassemble, SyscallContext.of, Lifecycle.markTerminated, Lifecycle.isFinished,
        finished, FdTable.clearAll]
  · exact ⟨executor, life, gate, interrupt, rfl, .inl rfl, .inl rfl, .inl rfl⟩

/-- **A process that is ended from outside has ended**, if it had not before. -/
theorem Standing.terminate (standing : process.Standing table) (site : Site) :
    (process.terminate site).1.Standing table ∧ (process.terminate site).1.Ended := by
  rcases standing.stage with ready | ended
  · have finished : (process.terminate site).1.Ended := by
      rw [terminate_ready ready]
      exact ⟨rfl, rfl, .inr ⟨rfl, ready.unexited, ready.unasked⟩⟩
    refine ⟨?_, finished⟩
    rw [terminate_ready ready] at finished ⊢
    exact ⟨standing.symbols, standing.table, standing.executorPid, standing.lifecyclePid,
      .inr finished⟩
  · obtain ⟨executor, lifecycle, gate, interrupt, result, engine, life, cancelled⟩ :=
      terminate_ended ended site
    rw [result]
    have finished : ({ process with
        executor
        resident := { process.resident with fds := .empty, interrupt, lifecycle, gate } } :
          ScriptProcess).Ended := by
      refine ⟨?_, rfl, ?_⟩
      · rcases engine with rfl | rfl
        · exact ended.engine
        · rfl
      · rcases life with rfl | rfl <;> rcases cancelled with rfl | rfl <;> exact ended.outcome
    refine ⟨⟨standing.symbols, ?_, ?_, ?_, .inr finished⟩, finished⟩
    · rcases engine with rfl | rfl <;> exact standing.table
    · rcases engine with rfl | rfl <;> exact standing.executorPid
    · rcases life with rfl | rfl <;> exact standing.lifecyclePid

theorem lasting_terminate (standing : process.Standing table) (site : Site) :
    Lasting process (process.terminate site).1 := by
  rcases standing.stage with ready | ended
  · rw [terminate_ready ready]
    exact ⟨rfl, rfl, rfl, rfl, rfl, rfl⟩
  · obtain ⟨executor, lifecycle, gate, interrupt, result, engine, life, -⟩ :=
      terminate_ended ended site
    rw [result]
    refine ⟨rfl, rfl, rfl, ?_, rfl, ?_⟩
    · rcases life with rfl | rfl <;> rfl
    · rcases engine with rfl | rfl <;> rfl

/-- **A ready process that is ended from outside announces that, and nothing else.** -/
theorem heard_terminate (standing : process.Standing table) (ready : process.Ready) (site : Site) :
    (process.terminate site).1.heard (process.terminate site).2 =
      (process.heard site).map fun events => events ++ [.terminated] := by
  rw [terminate_ready ready]
  show (process.resident.lifecycle.notify .terminated site.terminals).heard
    process.resident.lifecycle.terminal process.resident.pid = _
  unfold Lifecycle.notify heard
  rw [standing.lifecyclePid, Terminals.heard_notify]

/-- A process that had ended before announces nothing. -/
theorem heard_terminate_ended (ended : process.Ended) (site : Site) :
    (process.terminate site).1.heard (process.terminate site).2 = process.heard site := by
  obtain ⟨executor, lifecycle, gate, interrupt, result, -, life, -⟩ := terminate_ended ended site
  rw [result]
  rcases life with rfl | rfl <;> rfl

/-- Ending a process from outside reports nothing. -/
theorem sink_terminate (standing : process.Standing table) (site : Site) :
    (process.terminate site).2.sink = site.sink := by
  rcases standing.stage with ready | ended
  · rw [terminate_ready ready]
  · obtain ⟨executor, lifecycle, gate, interrupt, result, -⟩ := terminate_ended ended site
    rw [result]

/-- **Ending a process from outside asks for no exit.** -/
theorem asked_terminate (standing : process.Standing table) (site : Site) :
    Interrupt.Asked process.resident.interrupt [] (process.terminate site).1.resident.interrupt := by
  rcases standing.stage with ready | ended
  · rw [terminate_ready ready]
    exact (Interrupt.Asked.start _).cancel
  · obtain ⟨executor, lifecycle, gate, interrupt, result, -, -, cancelled⟩ :=
      terminate_ended ended site
    rw [result]
    rcases cancelled with rfl | rfl
    · exact .start _
    · exact (Interrupt.Asked.start _).cancel

theorem exitCode_terminate (standing : process.Standing table) (site : Site) :
    (process.terminate site).1.resident.interrupt.exitCode =
      process.resident.interrupt.exitCode :=
  (asked_terminate standing site).exitCode_eq_of_nil

/-- Ending a process from outside leaves the status as it was. -/
theorem status_terminate (standing : process.Standing table) (site : Site) :
    (process.terminate site).1.status = process.status := by
  rcases standing.stage with ready | ended
  · rw [terminate_ready ready]
    rfl
  · obtain ⟨executor, lifecycle, gate, interrupt, result, -, life, -⟩ := terminate_ended ended site
    rw [result]
    rcases life with rfl | rfl <;> rfl

/-! ### The failures of an execution -/

/-- The errors of an execution, in order. -/
def Execution.errors (execution : Execution) : List ScriptError :=
  (match execution.load with
    | .ok () => []
    | .error error => [error]) ++
  match execution.main with
    | some (.error error) => [error]
    | _ => []

/-- Whether the end of the main function ends the process. -/
def Execution.isFatal (execution : Execution) (policy : FaultPolicy) : Bool :=
  match execution.main with
  | some (.error error) => error.kind.isSome && policy = .terminate
  | _ => false

/-- Draws on several errors, in order. -/
def recordFailures (process : ScriptProcess) (site : Site) (errors : List ScriptError) :
    ScriptProcess × Site :=
  errors.foldl (fun held error => held.1.recordFailure held.2 error) (process, site)

/-- The status behind some errors. -/
def statusAfter (status : ExitStatus) (errors : List ScriptError) : ExitStatus :=
  ((ScriptError.failures errors).getLast?.map fun error => .faulted error.message).getD status

theorem recordFailure_faultPolicy (process : ScriptProcess) (site : Site) (error : ScriptError) :
    (process.recordFailure site error).1.faultPolicy = process.faultPolicy := by
  unfold recordFailure
  dsimp only
  split <;> rfl

/-- **The consequences of an execution** are those of its errors, in order, and perhaps the end. -/
theorem conclude_eq (process : ScriptProcess) (site : Site) (execution : Execution) :
    process.conclude site execution =
      if execution.isFatal process.faultPolicy then
        (process.recordFailures site execution.errors).1.terminate
          (process.recordFailures site execution.errors).2
      else process.recordFailures site execution.errors := by
  rcases execution with ⟨_ | ⟨⟨⟩⟩, _ | _ | _⟩
  all_goals
    simp [conclude, recordFailures, Execution.errors, Execution.isFatal, recordFailure_faultPolicy]

/-- A failure of a ready process is reported, recorded and announced. -/
theorem recordFailure_ready (ready : process.Ready) (site : Site) (error : ScriptError) :
    process.recordFailure site error =
      ({ process with resident := { process.resident with
          lifecycle := { process.resident.lifecycle with
            status := statusAfter process.status [error] } } },
        { site with
          sink := (site.sink.reportScriptError process.pid error).2
          terminals := (ScriptError.failures [error]).foldl (fun terminals failure =>
            process.resident.lifecycle.notify (.faulted failure.message) terminals)
              site.terminals }) := by
  unfold recordFailure statusAfter ScriptError.failures
  cases failed : error.kind with
  | none => simp [report, failed, status]
  | some kind =>
    simp [report, failed, Lifecycle.recordFault, ready.unexited]

/-- A failure of a process that has exited is reported, and nothing else. -/
theorem recordFailure_exited (exited : process.resident.lifecycle.hasExitStatus = true) (site : Site)
    (error : ScriptError) :
    process.recordFailure site error =
      (process, { site with sink := (site.sink.reportScriptError process.pid error).2 }) := by
  unfold recordFailure
  cases error.kind with
  | none => simp [report]
  | some kind => simp [report, Lifecycle.recordFault, exited]

/-- **What every failure keeps, several failures keep.** -/
theorem recordFailures_keep (holds : ScriptProcess × Site → Prop)
    (each : ∀ process site error, holds (process, site) → holds (process.recordFailure site error))
    (errors : List ScriptError) (start : holds (process, site)) :
    holds (process.recordFailures site errors) := by
  induction errors generalizing process site with
  | nil => exact start
  | cons error errors ih => exact ih (each process site error start)

theorem lasting_recordFailures (process : ScriptProcess) (site : Site) (errors : List ScriptError) :
    Lasting process (process.recordFailures site errors).1 := by
  refine recordFailures_keep (fun left => Lasting process left.1) ?_ errors (.refl process)
  intro other there error lasting
  refine lasting.trans ?_
  unfold ScriptProcess.recordFailure
  dsimp only
  split
  · unfold Lifecycle.recordFault
    split <;> exact ⟨rfl, rfl, rfl, rfl, rfl, rfl⟩
  · exact .refl other

/-- Failures ask for no exit. -/
theorem interrupt_recordFailures (process : ScriptProcess) (site : Site)
    (errors : List ScriptError) :
    (process.recordFailures site errors).1.resident.interrupt = process.resident.interrupt := by
  refine recordFailures_keep (fun left => left.1.resident.interrupt = process.resident.interrupt) ?_
    errors rfl
  intro other there error same
  refine Eq.trans ?_ same
  unfold ScriptProcess.recordFailure
  dsimp only
  split <;> rfl

/-- What is announced of failures. -/
def faultEvents (errors : List ScriptError) : List ProcessEvent :=
  (ScriptError.failures errors).map fun error => .faulted error.message

theorem Ready.recordFailure (ready : process.Ready) (site : Site) (error : ScriptError) :
    (process.recordFailure site error).1.Ready := by
  rw [recordFailure_ready ready]
  refine ⟨ready.state, ready.staying, ?_, ready.opened, ready.behind, ready.unjoined, ready.working,
    ready.uncancelled, ready.unasked, ready.sound⟩
  have unexited := ready.unexited
  unfold statusAfter ScriptError.failures
  cases failed : error.kind with
  | none => simpa [failed, status, Lifecycle.hasExitStatus] using unexited
  | some kind => simp [failed, Lifecycle.hasExitStatus]

theorem Standing.recordFailure (standing : process.Standing table) (ready : process.Ready)
    (site : Site) (error : ScriptError) : (process.recordFailure site error).1.Standing table := by
  have stage := ready.recordFailure site error
  rw [recordFailure_ready ready] at stage ⊢
  exact ⟨standing.symbols, standing.table, standing.executorPid, standing.lifecyclePid, .inl stage⟩

/-- A failure of a ready process is announced behind what came before. -/
theorem heard_recordFailure (standing : process.Standing table) (ready : process.Ready) (site : Site)
    (error : ScriptError) :
    (process.recordFailure site error).1.heard (process.recordFailure site error).2 =
      (process.heard site).map fun events => events ++ faultEvents [error] := by
  rw [recordFailure_ready ready]
  unfold heard faultEvents ScriptError.failures
  cases failed : error.kind with
  | none => simp [failed]
  | some kind =>
    simp only [failed, List.filter_cons, List.filter_nil, Option.isSome_some, if_true,
      List.foldl_cons, List.foldl_nil, List.map_cons, List.map_nil, Lifecycle.notify]
    rw [standing.lifecyclePid]
    exact Terminals.heard_notify ..

/-- **What several failures of a ready process leave behind.** -/
structure Recorded (process : ScriptProcess) (site : Site) (errors : List ScriptError)
    (after : ScriptProcess × Site) : Prop where
  ready : after.1.Ready
  pid : after.1.pid = process.pid
  heard : after.1.heard after.2 = (process.heard site).map fun events => events ++ faultEvents errors
  reports : after.2.sink.reports =
    site.sink.reports ++ errors.filterMap (ScriptError.reported? process.pid)
  status : after.1.status = statusAfter process.status errors

theorem statusAfter_cons (status : ExitStatus) (error : ScriptError) (errors : List ScriptError) :
    statusAfter status (error :: errors) = statusAfter (statusAfter status [error]) errors := by
  unfold statusAfter ScriptError.failures
  cases failed : error.kind with
  | none => simp [failed]
  | some kind =>
    simp only [failed, List.filter_cons, List.filter_nil, Option.isSome_some, if_true,
      List.getLast?_cons]
    cases (errors.filter fun error => error.kind.isSome).getLast? <;> rfl

theorem faultEvents_cons (error : ScriptError) (errors : List ScriptError) :
    faultEvents (error :: errors) = faultEvents [error] ++ faultEvents errors := by
  unfold faultEvents ScriptError.failures
  rw [← List.map_append, ← List.filter_append]
  rfl

/-- **Failures of a ready process are reported, recorded and announced one after the other.** -/
theorem recordFailures_ready (standing : process.Standing table) (ready : process.Ready)
    (site : Site) (errors : List ScriptError) :
    (process.recordFailures site errors).1.Standing table ∧
      process.Recorded site errors (process.recordFailures site errors) := by
  induction errors generalizing process site with
  | nil =>
    refine ⟨standing, ready, rfl, ?_, ?_, rfl⟩
    · simp [recordFailures, faultEvents, ScriptError.failures]
    · simp [recordFailures]
  | cons error errors ih =>
    have here := standing.recordFailure ready site error
    obtain ⟨standing', recorded⟩ := ih here (ready.recordFailure site error)
      (process.recordFailure site error).2
    have pid : (process.recordFailure site error).1.pid = process.pid := by
      rw [recordFailure_ready ready]
      rfl
    refine ⟨standing', recorded.ready, recorded.pid.trans pid, ?_, ?_, ?_⟩
    · refine recorded.heard.trans ?_
      rw [heard_recordFailure standing ready, faultEvents_cons error errors, map_append_append]
    · refine recorded.reports.trans ?_
      rw [pid, recordFailure_ready ready, Sink.reports_reportScriptError, List.append_assoc]
      cases reported : error.reported? process.pid <;> simp [reported]
    · refine recorded.status.trans ?_
      rw [statusAfter_cons, recordFailure_ready ready]
      rfl

/-- **Failures of a process that has exited are reported, and nothing else.** -/
theorem recordFailures_exited (exited : process.resident.lifecycle.hasExitStatus = true)
    (site : Site) (errors : List ScriptError) :
    ∃ sink, process.recordFailures site errors = (process, { site with sink }) ∧
      sink.reports = site.sink.reports ++ errors.filterMap (ScriptError.reported? process.pid) := by
  induction errors generalizing site with
  | nil => exact ⟨site.sink, rfl, by simp⟩
  | cons error errors ih =>
    obtain ⟨sink, result, reports⟩ :=
      ih { site with sink := (site.sink.reportScriptError process.pid error).2 }
    refine ⟨sink, ?_, ?_⟩
    · show (process.recordFailure site error).1.recordFailures
        (process.recordFailure site error).2 errors = _
      rw [recordFailure_exited exited]
      exact result
    · rw [reports, Sink.reports_reportScriptError, List.append_assoc]
      cases reported : error.reported? process.pid <;> simp [reported]

end ScriptProcess

end ScriptKernel
