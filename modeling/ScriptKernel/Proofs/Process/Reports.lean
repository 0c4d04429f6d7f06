/-
**What is reported of a process, and its status.**

* `perform_reports`: **every operation reports exactly the errors it meets**, in order, but for requested exits;
* `perform_status`: **only an execution records failures**; any other operation changes the status by ending the
  process with an exit, if at all;
* `execution_parts`: an execution goes on to the main function after a failed load, unless an exit was asked for;
* `reports_and_status`: all of it for every history: the status is the exit that was asked for first, or the last
  failure of an execution.
-/

import ScriptKernel.Proofs.Process.History

set_option autoImplicit false

namespace ScriptKernel

open ScriptProcess (Deed Execution Standing statusAfter)

/-- Only a requested exit is not reported. -/
theorem ScriptError.reported?_eq_none_iff (pid : Pid) (error : ScriptError) :
    error.reported? pid = none ↔ ∃ owner code, error = .exited owner code := by
  unfold reported?
  rw [Option.map_eq_none_iff]
  cases error with
  | exited owner code => exact ⟨fun _ => ⟨owner, code, rfl⟩, fun _ => rfl⟩
  | _ => exact ⟨nofun, fun ⟨_, _, same⟩ => nomatch same⟩

/-- The script errors that an operation records: those of an execution. -/
def Operation.recorded (operation : Operation) (process : ScriptProcess) (site : Site) :
    List ScriptError :=
  if operation.isExecution then operation.errors process site else []

/-- The script errors that a turn meets. -/
def Turn.errors (turn : Turn) : List ScriptError := turn.operation.errors turn.process turn.site

/-- The script errors that a turn records. -/
def Turn.recorded (turn : Turn) : List ScriptError := turn.operation.recorded turn.process turn.site

namespace ScriptProcess

variable {table : SyscallTable} {process : ScriptProcess} {site : Site}

/-! ### One operation -/

/-- **The consequences of an execution report its errors**, in order. -/
theorem reports_conclude (standing : process.Standing table)
    (stage : process.Ready ∨ process.resident.lifecycle.hasExitStatus = true) (site : Site)
    (execution : Execution) :
    (process.conclude site execution).2.sink.reports =
      site.sink.reports ++ execution.errors.filterMap (ScriptError.reported? process.pid) := by
  have recorded := standing.recordFailures stage site execution.errors
  have reports : (process.recordFailures site execution.errors).2.sink.reports =
      site.sink.reports ++ execution.errors.filterMap (ScriptError.reported? process.pid) := by
    rcases stage with ready | exited
    · exact (recordFailures_ready standing ready site execution.errors).2.reports
    · obtain ⟨sink, result, reports⟩ := recordFailures_exited exited site execution.errors
      rw [result]
      exact reports
  rw [conclude_eq]
  split
  · rw [sink_terminate recorded]
    exact reports
  · exact reports

/-- The status behind an execution: an exit stays, and otherwise its failures count. -/
theorem status_conclude (standing : process.Standing table)
    (stage : process.Ready ∨ process.resident.lifecycle.hasExitStatus = true) (site : Site)
    (execution : Execution) :
    (process.conclude site execution).1.status =
      if process.resident.lifecycle.hasExitStatus then process.status
      else statusAfter process.status execution.errors := by
  have recorded := standing.recordFailures stage site execution.errors
  have status : (process.recordFailures site execution.errors).1.status =
      if process.resident.lifecycle.hasExitStatus then process.status
      else statusAfter process.status execution.errors := by
    rcases stage with ready | exited
    · rw [ready.unexited]
      exact (recordFailures_ready standing ready site execution.errors).2.status
    · obtain ⟨sink, result, -⟩ := recordFailures_exited exited site execution.errors
      rw [result, exited]
      rfl
  rw [conclude_eq]
  split
  · rw [status_terminate recorded]
    exact status
  · exact status

/-- **Every operation reports exactly the errors it meets**, but for requested exits. -/
theorem perform_reports (standing : process.Standing table) (calm : table.Calm)
    (modest : table.Modest) (operation : Operation) (site : Site) :
    (operation.perform process site).2.sink.reports = site.sink.reports ++
      (operation.errors process site).filterMap (ScriptError.reported? process.pid) := by
  rcases standing.stage with ready | ended
  · have deed := deed_of_ready standing ready calm modest operation site
    generalize operation.perform process site = after at deed ⊢
    generalize operation.errors process site = errors at deed ⊢
    cases deed with
    | unknown number => rw [List.filterMap_nil, List.append_nil]
    | settings name value => rw [List.filterMap_nil, List.append_nil]
    | job _ left sink _ other keeps _ reports => exact reports
    | unhandled number left keeps =>
      rw [sink_terminate (standing.afterwards ready keeps), sink_afterwards keeps, List.filterMap_nil,
        List.append_nil]
    | ended => rw [sink_terminate standing, List.filterMap_nil, List.append_nil]
    | execution files left execution keeps =>
      rw [reports_conclude (standing.afterwards ready keeps) (stage_afterwards ready keeps),
        sink_afterwards keeps, (lasting_afterwards keeps).pid]
  · obtain ⟨unmoved, nothing⟩ := perform_ended standing ended operation site
    rw [nothing, unmoved.sink, List.filterMap_nil, List.append_nil]

/-- Errors that come after others. -/
theorem statusAfter_append (status : ExitStatus) (errors others : List ScriptError) :
    statusAfter status (errors ++ others) = statusAfter (statusAfter status errors) others := by
  induction errors generalizing status with
  | nil => rfl
  | cons error errors ih =>
    rw [List.cons_append, statusAfter_cons, ih, ← statusAfter_cons]

/-- **Only an execution records failures**; an exit counts before them. -/
theorem perform_status (standing : process.Standing table) (calm : table.Calm)
    (modest : table.Modest) (operation : Operation) (site : Site) :
    (operation.perform process site).1.status =
      ((operation.perform process site).1.resident.interrupt.exitCode.map ExitStatus.exited).getD
        (statusAfter process.status (operation.recorded process site)) := by
  rcases standing.stage with ready | ended
  · have deed := deed_of_ready standing ready calm modest operation site
    have unasked := ready.unasked
    unfold Operation.recorded
    generalize operation.perform process site = after at deed ⊢
    generalize operation.errors process site = errors at deed ⊢
    cases deed with
    | unknown number =>
      rw [unasked]
      rfl
    | settings name value =>
      show process.status = (process.resident.interrupt.exitCode.map ExitStatus.exited).getD _
      rw [unasked]
      rfl
    | job _ left sink _ other keeps =>
      rw [other]
      show (process.afterwards left).1.status = _
      rw [status_afterwards, interrupt_afterwards]
      rfl
    | unhandled number left keeps =>
      rw [status_terminate (standing.afterwards ready keeps), status_afterwards,
        exitCode_terminate (standing.afterwards ready keeps), interrupt_afterwards]
      rfl
    | ended _ other =>
      rw [other, status_terminate standing, exitCode_terminate standing, unasked]
      rfl
    | execution files left execution keeps =>
      have stage := stage_afterwards ready keeps
      rw [status_conclude (standing.afterwards ready keeps) stage,
        exitCode_conclude (standing.afterwards ready keeps) stage, interrupt_afterwards,
        status_afterwards]
      cases asked : left.2.interrupt.exitCode with
      | none =>
        rw [(ready.afterwards keeps asked).unexited]
        rfl
      | some code =>
        rw [afterwards_some asked]
        rfl
  · obtain ⟨unmoved, nothing⟩ := perform_ended standing ended operation site
    have none : operation.recorded process site = [] := by
      unfold Operation.recorded
      rw [nothing]
      split <;> rfl
    rw [unmoved.status, unmoved.exitCode, none]
    rcases ended.outcome with ⟨code, -, status, held⟩ | ⟨-, -, held⟩
    · rw [held]
      exact status
    · rw [held]
      rfl

/-- **The main function is called after a load, failed or not, unless an exit was asked for.** -/
theorem execution_parts (standing : process.Standing table) (alive : process.isAlive = true)
    (calm : table.Calm) (modest : table.Modest) (site : Site) (files : FileSystem) :
    ∃ loading middle main,
      process.executor.load files process.path (announced (process.handed site)) =
        (some loading, middle) ∧
      Operation.execution process site files = .ok ⟨loading, main⟩ ∧
      (main = none ↔ middle.2.interrupt.exitCode.isSome = true) ∧
      ∀ calling, main = some calling → ∃ left,
        middle.1.call entryPoint [Json.texts process.resident.args] middle.2 = (some calling, left) := by
  rcases standing.stage with ready | ended
  · obtain ⟨loading, middle, loaded, -, ⟨code, asked, executed, -⟩ |
      ⟨unasked, calling, left, called, -, executed, -⟩⟩ :=
        execute_ready standing ready calm modest site files
    · refine ⟨loading, middle, none, loaded, executed, ⟨fun _ => ?_, fun _ => rfl⟩, nofun⟩
      rw [asked]
      rfl
    · refine ⟨loading, middle, some calling, loaded, executed, ⟨nofun, fun asked => ?_⟩, ?_⟩
      · rw [unasked] at asked
        cases asked
      · rintro _ ⟨⟩
        exact ⟨left, called⟩
  · rw [ended.isAlive] at alive
    cases alive

end ScriptProcess

/-! ### Any number of operations -/

/-- **What a turn reports, and what it leaves alone.** -/
structure Turn.Reported (pid : Pid) (turn : Turn) : Prop where
  reports : turn.after.2.sink.reports =
    turn.site.sink.reports ++ turn.errors.filterMap (ScriptError.reported? pid)
  exits : ∀ error ∈ turn.errors,
    error.reported? pid = none ↔ ∃ owner code, error = .exited owner code
  parts : ∀ files, turn.operation = .execute files → turn.process.isAlive = true →
    ∃ loading middle main,
      turn.process.executor.load files turn.process.path
        (ScriptProcess.announced (turn.process.handed turn.site)) = (some loading, middle) ∧
      Operation.execution turn.process turn.site files = .ok ⟨loading, main⟩ ∧
      (main = none ↔ middle.2.interrupt.exitCode.isSome = true) ∧
      ∀ calling, main = some calling → ∃ left,
        middle.1.call entryPoint [Json.texts turn.process.resident.args] middle.2 =
          (some calling, left)
  other : turn.operation.isExecution = false →
    turn.after.1.status = turn.process.status ∨
      ∃ code, turn.after.1.resident.interrupt.exitCode = some code ∧
        turn.after.1.status = .exited code

/-- A turn of a process that stands. -/
theorem Turn.reported {table : SyscallTable} (turn : Turn) (standing : turn.process.Standing table)
    (calm : table.Calm) (modest : table.Modest) : turn.Reported turn.process.pid := by
  refine ⟨ScriptProcess.perform_reports standing calm modest turn.operation turn.site,
    fun error _ => error.reported?_eq_none_iff _, ?_, fun other => ?_⟩
  · intro files _ alive
    exact ScriptProcess.execution_parts standing alive calm modest turn.site files
  · have status := ScriptProcess.perform_status standing calm modest turn.operation turn.site
    unfold Operation.recorded at status
    rw [other] at status
    unfold Turn.after
    cases asked : (turn.operation.perform turn.process turn.site).1.resident.interrupt.exitCode with
    | none =>
      rw [asked] at status
      exact .inl status
    | some code =>
      rw [asked] at status
      exact .inr ⟨code, rfl, status⟩

/-- A process that was not asked to exit after a turn was not asked before. -/
theorem unasked_before {table : SyscallTable} {process : ScriptProcess}
    (standing : process.Standing table) {operation : Operation} {site : Site}
    (unasked : (operation.perform process site).1.resident.interrupt.exitCode = none) :
    process.resident.interrupt.exitCode = none := by
  rcases standing.stage with ready | ended
  · exact ready.unasked
  · rw [← (ScriptProcess.perform_ended standing ended operation site).1.exitCode]
    exact unasked

/-- **The status of a process that was not asked to exit is that of the failures recorded so far.** -/
theorem History.status {between : ScriptProcess → Site → Site → Prop} {table : SyscallTable}
    {process now : ScriptProcess} {site here : Site} {turns : List Turn}
    (history : History between process site turns now here) (standing : process.Standing table)
    (calm : table.Calm) (modest : table.Modest)
    (unasked : now.resident.interrupt.exitCode = none) :
    now.status = statusAfter process.status (turns.flatMap Turn.recorded) := by
  induction history with
  | start => rfl
  | turn operation history ih =>
    have standing' := history.standing standing calm modest
    rw [ScriptProcess.perform_status standing' calm modest, unasked, ih (unasked_before standing' unasked),
      List.flatMap_append, ScriptProcess.statusAfter_append, List.flatMap_singleton]
    rfl
  | meanwhile _ _ ih => exact ih unasked

/-- **What is reported of a process, and its status, in any history.** Each operation reports the errors it meets;
the status is the exit that was asked for first, if the process has exited, and else that of the last failure
which an execution recorded. -/
theorem reports_and_status {spec : ProcessSpec} {terminal : TerminalRef} {table : SyscallTable}
    {config : KernelConfig} {origin : Site} {process : ScriptProcess} (calm : table.Calm)
    (modest : table.Modest)
    (started : (ScriptProcess.start spec terminal table config origin).1 = .ok process)
    {between : ScriptProcess → Site → Site → Prop} {site : Site} {turns : List Turn}
    {now : ScriptProcess} {here : Site} (history : History between process site turns now here) :
    (∀ turn ∈ turns, turn.Reported spec.pid) ∧
      (now.state = .exited → ∀ asked, List.Forall₂ Turn.Asks turns asked →
        ∃ code, asked.flatten.head? = some code ∧ now.status = .exited code) ∧
      (now.state ≠ .exited →
        now.status = statusAfter .pending (turns.flatMap Turn.recorded)) := by
  have fresh := (ScriptProcess.start_ok started).1
  have pid : process.pid = spec.pid := by
    show process.resident.pid = spec.pid
    rw [fresh.resident]
    rfl
  have pending : process.status = .pending := by
    show process.resident.lifecycle.status = .pending
    rw [fresh.resident]
    rfl
  have consistent {asked : List (List ExitCode)} (each : List.Forall₂ Turn.Asks turns asked) :
      now.Consistent table asked.flatten := history.consistent fresh calm modest each
  refine ⟨fun turn taken => ?_, fun exited asked each => ?_, fun lasting => ?_⟩
  · obtain ⟨earlier, before⟩ := history.of_mem taken
    have same := (before.lasting fresh.standing calm modest).pid.trans pid
    exact same ▸ turn.reported (before.standing fresh.standing calm modest) calm modest
  · obtain ⟨code, status⟩ := (consistent each).exited.mp exited
    exact ⟨code, ((consistent each).first code).mp status, status⟩
  · have unasked : now.resident.interrupt.exitCode = none := by
      cases held : now.resident.interrupt.exitCode with
      | none => rfl
      | some code =>
        have ended := (history.standing fresh.standing calm modest).exited held
        exact absurd ended.2.1 lasting
    rw [← pending]
    exact history.status fresh.standing calm modest unasked

/-- A process whose script is not there has two failures; the last is its status. -/
theorem reports_of_missing_script : ∃ turns now here,
    History (fun _ _ _ => True) ScriptProcess.single Site.single turns now here ∧
      here.sink.reports.length = 2 ∧ (∀ turn ∈ turns, turn.Reported 1) ∧
      (now.state = .exited → ∀ asked, List.Forall₂ Turn.Asks turns asked →
        ∃ code, asked.flatten.head? = some code ∧ now.status = .exited code) ∧
      (now.state ≠ .exited →
        now.status = statusAfter .pending (turns.flatMap Turn.recorded)) := by
  have history : History (fun _ _ _ => True) ScriptProcess.single Site.single _ _ _ :=
    History.start.turn (.execute ⟨fun _ => .error .notFound⟩)
  refine ⟨_, _, _, history, by decide +kernel, ?_⟩
  exact reports_and_status SyscallTable.standard_calm SyscallTable.standard_modest
    ScriptProcess.single_started history

end ScriptKernel
