/-
**What can be done with a process from outside.**

* `Operation`, `Operation.perform`: the operations of a host on a process, and what each leaves;
* `Operation.errors`: the script errors an operation meets, in order;
* `load_ready`, `invoke_ready`, `withFds_ready`, `signal_ready`, `execute_ready`: **each operation on a ready
  process is one job and what follows from its answer**;
* `Deed`, `deed_of_ready`: the six shapes this comes to; `perform_ended`: a process that has ended refuses all.
-/

import ScriptKernel.Proofs.Process.Standing

set_option autoImplicit false

namespace ScriptKernel

open ScriptProcess (Execution Standing afterwards)

/-- **What a host can do with a process from outside.** -/
inductive Operation : Type 1
  | execute (files : FileSystem)
  | load (files : FileSystem) (path : String)
  | invoke (name : String) (args : List Json)
  | signal (number : Nat)
  | withFds (α : Type) (work : FdTable → α × FdTable)
  | setVariable (name value : String)
  | terminate

/-- The script error that an answer is, if it is one. -/
def ProcessError.scriptErrors {α : Type} : Except ProcessError α → List ScriptError
  | .error (.script error) => [error]
  | _ => []

namespace Operation

/-- The process and the site that an operation leaves. -/
def perform (operation : Operation) (process : ScriptProcess) (site : Site) :
    ScriptProcess × Site :=
  match operation with
  | .execute files => process.execute site files
  | .load files path => (process.load site files path).2
  | .invoke name args => (process.invoke site name args).2
  | .signal number => (process.signal site number).2
  | .withFds _ work => (process.withFds site work).2
  | .setVariable name value => (process.setVariable name value, site)
  | .terminate => process.terminate site

/-- How the execution of a process ends, if it is begun at all. -/
def execution (process : ScriptProcess) (site : Site) (files : FileSystem) :
    Except ProcessError Execution :=
  (process.run site (ScriptProcess.executionJob files process.path process.resident.args)).1

/-- **The script errors an operation meets**, in order: what is told to its caller, and for an execution those of
its two parts. -/
def errors (operation : Operation) (process : ScriptProcess) (site : Site) : List ScriptError :=
  match operation with
  | .execute files =>
    match execution process site files with
    | .ok execution => execution.errors
    | .error _ => []
  | .load files path => ProcessError.scriptErrors (process.load site files path).1
  | .invoke name args => ProcessError.scriptErrors (process.invoke site name args).1
  | .signal number => ProcessError.scriptErrors (process.signal site number).1
  | _ => []

/-- Whether an operation is an execution. -/
def isExecution : Operation → Bool
  | .execute _ => true
  | _ => false

end Operation

namespace ScriptProcess

variable {α : Type} {table : SyscallTable} {process : ScriptProcess} {site : Site}

/-! ### Ready processes -/

/-- The site after an answer whose failure is reported. -/
def reporting (process : ScriptProcess) (site : Site) (answer : Except ProcessError α) : Site :=
  match answer with
  | .ok _ => site
  | .error error => process.report site error

/-- Only a script error is reported. -/
theorem reporting_eq (process : ScriptProcess) (site : Site) (answer : Except ProcessError α) :
    ∃ sink, process.reporting site answer = { site with sink } ∧
      sink.reports = site.sink.reports ++
        (ProcessError.scriptErrors answer).filterMap (ScriptError.reported? process.pid) := by
  have nothing : site.sink.reports = site.sink.reports ++
      ([] : List ScriptError).filterMap (ScriptError.reported? process.pid) := by
    rw [List.filterMap_nil, List.append_nil]
  rcases answer with error | value
  · cases error with
    | script error =>
      refine ⟨_, rfl, ?_⟩
      rw [Sink.reports_reportScriptError]
      cases reported : error.reported? process.pid <;> simp [ProcessError.scriptErrors, reported]
    | _ => exact ⟨site.sink, rfl, nothing⟩
  · exact ⟨site.sink, rfl, nothing⟩

/-- What a job on a ready process leaves is put back together, and its failure is reported. -/
theorem runReporting_of_keeps (ready : process.Ready) {job : Job α} {site : Site}
    {answer : Except ProcessError α} {left : Executor × SyscallContext}
    (ended : job process.executor (process.handed site) = (some answer, left))
    (keeps : process.executor.Keeps (process.handed site) left) :
    process.runReporting site job = (answer, (process.afterwards left).1,
      (process.afterwards left).1.reporting (process.afterwards left).2 answer) := by
  unfold runReporting
  rw [run_of_keeps ready ended keeps]
  cases answer <;> rfl

/-- **A job on a ready process whose failure is reported.** -/
theorem runReporting_ready (ready : process.Ready) {job : Job α}
    (tame : Job.Tame process.executor.table job) (site : Site) :
    ∃ answer left, job process.executor (process.handed site) = (some answer, left) ∧
      process.executor.Keeps (process.handed site) left ∧
      process.runReporting site job = (answer, (process.afterwards left).1,
        (process.afterwards left).1.reporting (process.afterwards left).2 answer) := by
  obtain ⟨answer, left, ended, keeps⟩ := tame process.executor (process.handed site) rfl ready.sound
  exact ⟨answer, left, ended, keeps, runReporting_of_keeps ready ended keeps⟩

/-- **Loading another file.** -/
theorem load_ready (standing : process.Standing table) (ready : process.Ready) (calm : table.Calm)
    (modest : table.Modest) (site : Site) (files : FileSystem) (path : String) :
    ∃ answer left,
      process.executor.load files path (process.handed site) = (some answer, left) ∧
      process.executor.Leaves (process.handed site) left ∧
      process.load site files path = (answer.mapError .script, (process.afterwards left).1,
        (process.afterwards left).1.reporting (process.afterwards left).2
          (answer.mapError ProcessError.script)) := by
  obtain ⟨answer, left, loaded, leaves⟩ := Executor.load_leaves (standing.table ▸ calm)
    ready.sound files path (process.handed site)
  obtain ⟨told, left', ended, -, result⟩ := runReporting_ready ready
    (standing.table ▸ tame_load calm modest files path) site
  rw [entryJob_eq loaded] at ended
  cases ended
  exact ⟨answer, left, loaded, leaves, result⟩

/-- **Calling a function.** -/
theorem invoke_ready (standing : process.Standing table) (ready : process.Ready) (calm : table.Calm)
    (modest : table.Modest) (site : Site) (name : String) (args : List Json) :
    ∃ answer left,
      process.executor.call name args (process.handed site) = (some answer, left) ∧
      process.executor.Leaves (process.handed site) left ∧
      process.invoke site name args = (answer.mapError .script, (process.afterwards left).1,
        (process.afterwards left).1.reporting (process.afterwards left).2
          (answer.mapError ProcessError.script)) := by
  obtain ⟨answer, left, called, leaves⟩ := Executor.call_leaves (standing.table ▸ calm)
    ready.sound name args (process.handed site)
  obtain ⟨told, left', ended, -, result⟩ := runReporting_ready ready
    (standing.table ▸ tame_invoke calm modest name args) site
  rw [entryJob_eq called] at ended
  cases ended
  exact ⟨answer, left, called, leaves, result⟩

/-- Working on the slots. -/
theorem withFds_ready (ready : process.Ready) (site : Site) (work : FdTable → α × FdTable) :
    ∃ answer left, process.executor.Keeps (process.handed site) left ∧
      left.2.interrupt.exitCode = none ∧ left.2.heard = (process.handed site).heard ∧
      process.withFds site work = (.ok answer, process.afterwards left) := by
  obtain ⟨answer, left, ended, keeps, ran⟩ := run_ready ready (tame_withFds work) site
  cases ended
  exact ⟨_, _, keeps, ready.unasked, rfl, ran⟩

/-- **Delivering a signal that a script may handle**: the handler is called, or the signal ends the process
or not. -/
theorem signal_ready (standing : process.Standing table) (ready : process.Ready) (calm : table.Calm)
    (modest : table.Modest) (site : Site) {number : Nat} {signal : Signal}
    (known : Signal.ofNumber? number = some signal) (catchable : signal.isCatchable = true) :
    ∃ found middle,
      process.executor.hasFunction signalHandler (process.handed site) = (some found, middle) ∧
      process.executor.Leaves (process.handed site) middle ∧
      ((found = false ∧ process.signal site number =
          if signal.isFatal then (.ok .terminated,
            (process.afterwards middle).1.terminate (process.afterwards middle).2)
          else (.ok .ignored, process.afterwards middle)) ∨
        (found = true ∧ ∃ answer left,
          middle.1.call signalHandler [Json.nat signal.number] middle.2 = (some answer, left) ∧
          middle.1.Leaves middle.2 left ∧
          process.signal site number = ((answer.map SignalOutcome.handled).mapError .script,
            (process.afterwards left).1,
            (process.afterwards left).1.reporting (process.afterwards left).2
              (answer.mapError ProcessError.script)))) := by
  obtain ⟨told, left', ended, -, ran⟩ := runReporting_ready ready
    (standing.table ▸ tame_signalJob calm modest signal) site
  obtain ⟨found, middle, looked, leaves, delivered⟩ := signalJob_eq (standing.table ▸ calm) signal
    (process.handed site) rfl ready.sound
  refine ⟨found, middle, looked, leaves, ?_⟩
  have begun : process.signal site number =
      respond signal (process.runReporting site (signalJob signal)) := by
    unfold ScriptProcess.signal
    rw [known]
    simp only [ready.isAlive, catchable, Bool.not_true, Bool.false_eq_true, if_false]
  rcases delivered with ⟨absent, delivered⟩ | ⟨present, answer, left, called, further, delivered⟩
  · rw [delivered] at ended
    cases ended
    refine .inl ⟨absent, ?_⟩
    rw [begun, ran]
    rfl
  · rw [delivered] at ended
    cases ended
    refine .inr ⟨present, answer, _, called, further, ?_⟩
    rw [begun, ran]
    cases answer <;> rfl

/-- **Executing the script of the process**: it is loaded, its main function is called unless an exit was asked
for, and the consequences are drawn. -/
theorem execute_ready (standing : process.Standing table) (ready : process.Ready) (calm : table.Calm)
    (modest : table.Modest) (site : Site) (files : FileSystem) :
    ∃ loading middle,
      process.executor.load files process.path (announced (process.handed site)) =
        (some loading, middle) ∧
      process.executor.Leaves (announced (process.handed site)) middle ∧
      ((∃ code, middle.2.interrupt.exitCode = some code ∧
          Operation.execution process site files = .ok ⟨loading, none⟩ ∧
          process.execute site files =
            (process.afterwards middle).1.conclude (process.afterwards middle).2 ⟨loading, none⟩) ∨
        (middle.2.interrupt.exitCode = none ∧ ∃ calling left,
          middle.1.call entryPoint [Json.texts process.resident.args] middle.2 =
            (some calling, left) ∧
          middle.1.Leaves middle.2 left ∧
          Operation.execution process site files = .ok ⟨loading, some calling⟩ ∧
          process.execute site files =
            (process.afterwards left).1.conclude (process.afterwards left).2
              ⟨loading, some calling⟩)) := by
  obtain ⟨answer, left', ended, -, ran⟩ := run_ready ready
    (standing.table ▸ tame_executionJob calm modest files process.path process.resident.args) site
  obtain ⟨loading, middle, loaded, leaves, executed⟩ := executionJob_eq (standing.table ▸ calm) files
    process.path process.resident.args (process.handed site) rfl ready.sound
  refine ⟨loading, middle, loaded, leaves, ?_⟩
  unfold Operation.execution execute
  rw [ran]
  rcases executed with ⟨code, asked, executed⟩ | ⟨unasked, calling, left, called, further, executed⟩
  · rw [executed] at ended
    cases ended
    exact .inl ⟨code, asked, rfl, rfl⟩
  · rw [executed] at ended
    cases ended
    exact .inr ⟨unasked, calling, _, called, further, rfl, rfl⟩

/-! ### Processes that have ended -/

/-- **A process that has ended and stays as it is**, as far as anyone can see. -/
structure Unmoved (table : SyscallTable) (process : ScriptProcess) (site : Site)
    (after : ScriptProcess × Site) : Prop where
  standing : after.1.Standing table
  lasting : Lasting process after.1
  ended : after.1.Ended
  heard : after.1.heard after.2 = process.heard site
  sink : after.2.sink = site.sink
  status : after.1.status = process.status
  asked : Interrupt.Asked process.resident.interrupt [] after.1.resident.interrupt

theorem Unmoved.exitCode {after : ScriptProcess × Site}
    (unmoved : Unmoved table process site after) :
    after.1.resident.interrupt.exitCode = process.resident.interrupt.exitCode :=
  unmoved.asked.exitCode_eq_of_nil

theorem Unmoved.refl (standing : process.Standing table) (ended : process.Ended) (site : Site) :
    Unmoved table process site (process, site) :=
  ⟨standing, .refl process, ended, rfl, rfl, rfl, .start _⟩

theorem Unmoved.terminate (standing : process.Standing table) (ended : process.Ended) (site : Site) :
    Unmoved table process site (process.terminate site) := by
  exact ⟨(standing.terminate site).1, lasting_terminate standing site, (standing.terminate site).2,
    heard_terminate_ended ended site, sink_terminate standing site, status_terminate standing site,
    asked_terminate standing site⟩

theorem runReporting_ended (ended : process.Ended) (site : Site) (job : Job α) :
    process.runReporting site job = (.error (.terminated process.pid), process, site) := by
  unfold runReporting
  rw [run_ended ended]
  rfl

theorem execution_ended (ended : process.Ended) (site : Site) (files : FileSystem) :
    Operation.execution process site files = .error (.terminated process.pid) := by
  unfold Operation.execution
  rw [run_ended ended]

theorem execute_ended (ended : process.Ended) (site : Site) (files : FileSystem) :
    process.execute site files = (process, site) := by
  unfold execute
  rw [run_ended ended]
  rfl

/-- A signal to a process that has ended is refused, whatever its number. -/
theorem signal_ended (ended : process.Ended) (site : Site) (number : Nat) :
    ∃ error, process.signal site number = (.error error, process, site) ∧
      ProcessError.scriptErrors (.error error : Except ProcessError SignalOutcome) = [] := by
  unfold ScriptProcess.signal
  cases Signal.ofNumber? number with
  | none => exact ⟨_, rfl, rfl⟩
  | some signal =>
    simp only [ended.isAlive, Bool.not_false, if_true]
    exact ⟨_, rfl, rfl⟩

/-- **A process that has ended refuses every operation**: none meets an error of the script, and none changes
how the process stands. -/
theorem perform_ended (standing : process.Standing table) (ended : process.Ended)
    (operation : Operation) (site : Site) :
    Unmoved table process site (operation.perform process site) ∧
      operation.errors process site = [] := by
  cases operation with
  | execute files =>
    simp only [Operation.perform, Operation.errors, execute_ended ended, execution_ended ended]
    exact ⟨.refl standing ended site, trivial⟩
  | load files path =>
    simp only [Operation.perform, Operation.errors, load, runReporting_ended ended]
    exact ⟨.refl standing ended site, rfl⟩
  | invoke name args =>
    simp only [Operation.perform, Operation.errors, invoke, runReporting_ended ended]
    exact ⟨.refl standing ended site, rfl⟩
  | signal number =>
    obtain ⟨error, refused, quiet⟩ := signal_ended ended site number
    simp only [Operation.perform, Operation.errors, refused]
    exact ⟨.refl standing ended site, quiet⟩
  | withFds α work =>
    simp only [Operation.perform, Operation.errors, withFds, run_ended ended]
    exact ⟨.refl standing ended site, trivial⟩
  | setVariable name value =>
    exact ⟨⟨standing.setVariable name value, ⟨rfl, rfl, rfl, rfl, rfl, rfl⟩,
      ⟨ended.engine, ended.slots, ended.outcome⟩, rfl, rfl, rfl, .start _⟩, rfl⟩
  | terminate => exact ⟨.terminate standing ended site, rfl⟩

/-! ### Every operation on a ready process -/

/-- **What an operation on a ready process comes to**, with the errors it meets: nothing, a job, a job and the
end, the end, or an execution. What discreet host functions leave the terminal to hear stands beside each job. -/
inductive Deed (process : ScriptProcess) (site : Site) :
    Operation → ScriptProcess × Site → List ScriptError → Prop
  | unknown (number : Nat) : Deed process site (.signal number) (process, site) []
  | settings (name value : String) :
      Deed process site (.setVariable name value) (process.setVariable name value, site) []
  | job (operation : Operation) (left : Executor × SyscallContext) (sink : Sink)
      (errors : List ScriptError) (other : operation.isExecution = false)
      (keeps : process.executor.Keeps (process.handed site) left)
      (quiet : process.executor.table.Discreet → left.2.heard = process.heard site)
      (reports : sink.reports =
        site.sink.reports ++ errors.filterMap (ScriptError.reported? process.pid)) :
      Deed process site operation
        ((process.afterwards left).1, { (process.afterwards left).2 with sink }) errors
  | unhandled (number : Nat) (left : Executor × SyscallContext)
      (keeps : process.executor.Keeps (process.handed site) left)
      (quiet : process.executor.table.Discreet → left.2.heard = process.heard site) :
      Deed process site (.signal number)
        ((process.afterwards left).1.terminate (process.afterwards left).2) []
  | ended (operation : Operation) (other : operation.isExecution = false) :
      Deed process site operation (process.terminate site) []
  | execution (files : FileSystem) (left : Executor × SyscallContext) (execution : Execution)
      (keeps : process.executor.Keeps (process.handed site) left)
      (announced : process.executor.table.Discreet →
        left.2.heard = (process.heard site).map fun events => events ++ [.started]) :
      Deed process site (.execute files)
        ((process.afterwards left).1.conclude (process.afterwards left).2 execution)
        execution.errors

/-- What a script leaves the terminal to hear, where the host functions are discreet. -/
theorem heard_of_leaves (modest : process.executor.table.Modest) {context : SyscallContext}
    {left : Executor × SyscallContext} (leaves : process.executor.Leaves context left)
    (discreet : process.executor.table.Discreet) : left.2.heard = context.heard :=
  leaves.moves.heard_eq modest discreet

/-- What is handed to a job has been heard by the terminal of the process. -/
theorem heard_handed (process : ScriptProcess) (site : Site) :
    (process.handed site).heard = process.heard site := by
  show site.terminals.heard (process.resident.lifecycle.setRunning true).terminal _ = _
  unfold Lifecycle.setRunning
  split <;> rfl

/-- An execution has been announced when it begins. -/
theorem heard_announced (standing : process.Standing table) (site : Site) :
    (announced (process.handed site)).heard =
      (process.heard site).map fun events => events ++ [.started] := by
  have same : (process.handed site).lifecycle.pid = (process.handed site).pid := by
    show (process.resident.lifecycle.setRunning true).pid = process.resident.pid
    rw [← standing.lifecyclePid]
    unfold Lifecycle.setRunning
    split <;> rfl
  rw [← heard_handed]
  show ((process.handed site).lifecycle.notify .started (process.handed site).terminals).heard
    (process.handed site).lifecycle.terminal (process.handed site).pid = _
  unfold Lifecycle.notify
  rw [same]
  exact Terminals.heard_notify ..

/-- **Every operation on a ready process is a deed.** -/
theorem deed_of_ready (standing : process.Standing table) (ready : process.Ready) (calm : table.Calm)
    (modest : table.Modest) (operation : Operation) (site : Site) :
    process.Deed site operation (operation.perform process site) (operation.errors process site) := by
  have modest' : process.executor.table.Modest := standing.table ▸ modest
  have quiet {left : Executor × SyscallContext}
      (leaves : process.executor.Leaves (process.handed site) left)
      (discreet : process.executor.table.Discreet) : left.2.heard = process.heard site :=
    (heard_of_leaves modest' leaves discreet).trans (heard_handed process site)
  -- a job whose answer is reported
  have told {α : Type} {operation : Operation} {left : Executor × SyscallContext}
      (keeps : process.executor.Keeps (process.handed site) left)
      (heard : process.executor.table.Discreet → left.2.heard = process.heard site)
      (other : operation.isExecution = false) (answer : Except ProcessError α) :
      process.Deed site operation ((process.afterwards left).1,
        (process.afterwards left).1.reporting (process.afterwards left).2 answer)
        (ProcessError.scriptErrors answer) := by
    obtain ⟨sink, reported, reports⟩ :=
      (process.afterwards left).1.reporting_eq (process.afterwards left).2 answer
    rw [sink_afterwards keeps, (lasting_afterwards keeps).pid] at reports
    rw [reported]
    exact .job operation left sink _ other keeps heard reports
  cases operation with
  | execute files =>
    obtain ⟨loading, middle, -, leaves, ⟨code, -, executed, result⟩ |
      ⟨-, calling, left, -, further, executed, result⟩⟩ :=
        execute_ready standing ready calm modest site files
    all_goals
      have loaded := leaves.keeps modest'
      have first : process.executor.Keeps (process.handed site) middle :=
        ⟨loaded.rest, loaded.sound, (announced_carried _).trans loaded.carried⟩
      simp only [Operation.perform, Operation.errors, executed, result]
    · refine .execution files middle _ first fun discreet => ?_
      rw [heard_of_leaves modest' leaves discreet, heard_announced standing]
    · have second := further.keeps (first.table.symm ▸ modest')
      refine .execution files left _ (first.trans second) fun discreet => ?_
      rw [heard_of_leaves modest' (leaves.trans further) discreet, heard_announced standing]
  | load files path =>
    obtain ⟨answer, left, -, leaves, result⟩ :=
      load_ready standing ready calm modest site files path
    simp only [Operation.perform, Operation.errors, result]
    exact told (leaves.keeps modest') (quiet leaves) rfl _
  | invoke name args =>
    obtain ⟨answer, left, -, leaves, result⟩ :=
      invoke_ready standing ready calm modest site name args
    simp only [Operation.perform, Operation.errors, result]
    exact told (leaves.keeps modest') (quiet leaves) rfl _
  | signal number =>
    cases known : Signal.ofNumber? number with
    | none =>
      have refused : process.signal site number =
          (.error (.signal (.invalid number)), process, site) := by
        unfold ScriptProcess.signal
        rw [known]
      simp only [Operation.perform, Operation.errors, refused]
      exact .unknown number
    | some signal =>
      cases catchable : signal.isCatchable with
      | false =>
        have killed : process.signal site number = (.ok .terminated, process.terminate site) := by
          unfold ScriptProcess.signal
          simp only [known, ready.isAlive, catchable, Bool.not_true, Bool.not_false, if_true,
            Bool.false_eq_true, if_false]
        simp only [Operation.perform, Operation.errors, killed]
        exact .ended (.signal number) rfl
      | true =>
        obtain ⟨found, middle, -, leaves, ⟨-, result⟩ | ⟨-, answer, left, -, further, result⟩⟩ :=
          signal_ready standing ready calm modest site known catchable
        · simp only [Operation.perform, Operation.errors, result]
          cases signal.isFatal with
          | true => exact .unhandled number middle (leaves.keeps modest') (quiet leaves)
          | false =>
            exact told (leaves.keeps modest') (quiet leaves) rfl
              (.ok SignalOutcome.ignored : Except ProcessError SignalOutcome)
        · simp only [Operation.perform, Operation.errors, result]
          have both := leaves.trans further
          have same : ProcessError.scriptErrors
              ((answer.map SignalOutcome.handled).mapError ProcessError.script) =
              ProcessError.scriptErrors (answer.mapError ProcessError.script) := by
            cases answer <;> rfl
          rw [same]
          exact told (both.keeps modest') (quiet both) rfl _
  | withFds α work =>
    obtain ⟨answer, left, keeps, -, heard, result⟩ := withFds_ready ready site work
    simp only [Operation.perform, Operation.errors, result]
    exact told keeps (fun _ => heard.trans (heard_handed process site)) rfl
      (.ok answer : Except ProcessError α)
  | setVariable name value => exact .settings name value
  | terminate => exact .ended .terminate rfl

end ScriptProcess

end ScriptKernel
