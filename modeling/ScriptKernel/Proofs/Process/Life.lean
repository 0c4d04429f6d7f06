/-
**How often a process ends.**

Host functions may panic here, so a process need not stand as it does otherwise; its end is still told once.

* `SyscallTable.Reticent`: host functions that announce no event of any process;
* `SyscallContext.Announces`: what the terminal of a process hears of its end;
* `SyscallContext.Lived`: **a stretch of the life of a process**: it has ended behind it if it had before, its
  terminal has heard of one end if it has ended in between and of none otherwise, and of other processes nobody
  has heard anything;
* `ScriptProcess.Lives`: such a stretch, from a process to what an operation leaves of it;
* `lives_terminate`: a process that is ended from outside has ended; `lives_perform`: **every operation of a host
  leaves a stretch of the life of its process**.
-/

import ScriptKernel.Proofs.HostCall
import ScriptKernel.Proofs.Process.Announcements

set_option autoImplicit false

namespace ScriptKernel

/-! ### Host functions that announce nothing -/

/-- A host function that announces no event. -/
def Syscall.Reticent (syscall : Syscall) : Prop :=
  ∀ args context reference pid, (syscall.call args context).2.terminals.heard reference pid =
    context.terminals.heard reference pid

/-- A table of reticent host functions. -/
def SyscallTable.Reticent (table : SyscallTable) : Prop :=
  ∀ syscall ∈ table.syscalls, syscall.Reticent

/-- The standard host functions announce nothing. -/
theorem SyscallTable.standard_reticent : standard.Reticent := by
  intro syscall bound args context reference pid
  have effect := Syscall.standard_effect bound args context
  generalize (syscall.call args context).2 = after at effect
  cases effect with
  | line output => exact Terminals.heard_write_other _ _ _ _ _
  | nothing | slots | settings | exit => rfl

/-! ### Stretches of a life -/

namespace SyscallContext

/-- **What the terminal of a process hears over some time**: the end of the process, if it comes in between. -/
structure Announces (before after : SyscallContext) : Prop where
  lifecyclePid : after.lifecycle.pid = before.lifecycle.pid
  terminal : after.lifecycle.terminal = before.lifecycle.terminal
  heard : ∃ events, after.terminals.heard before.lifecycle.terminal before.lifecycle.pid =
      (before.terminals.heard before.lifecycle.terminal before.lifecycle.pid).map
        (fun known => known ++ events) ∧
    ends events + before.lifecycle.isFinished.toNat = after.lifecycle.isFinished.toNat

namespace Announces

variable {before middle after : SyscallContext}

/-- A process that has ended has ended for good. -/
theorem finished (announces : Announces before after)
    (finished : before.lifecycle.isFinished = true) : after.lifecycle.isFinished = true := by
  obtain ⟨events, -, count⟩ := announces.heard
  rw [finished] at count
  cases ended : after.lifecycle.isFinished with
  | true => rfl
  | false =>
    rw [ended] at count
    cases count

theorem trans (first : Announces before middle) (second : Announces middle after) :
    Announces before after := by
  obtain ⟨events, heard, count⟩ := first.heard
  obtain ⟨others, later, further⟩ := second.heard
  rw [first.terminal, first.lifecyclePid] at later
  refine ⟨second.lifecyclePid.trans first.lifecyclePid, second.terminal.trans first.terminal,
    events ++ others, ?_, ?_⟩
  · rw [later, heard, ScriptProcess.map_append_append]
  · rw [ends_append]
    omega

end Announces

/-- **What happens to a process and to its terminal over some time.** -/
structure Lived (before after : SyscallContext) : Prop where
  pid : after.pid = before.pid
  lifecyclePid : after.lifecycle.pid = before.lifecycle.pid
  terminal : after.lifecycle.terminal = before.lifecycle.terminal
  /-- Shutting down begins with the end. -/
  shutting : after.lifecycle.shuttingDown = true →
    before.lifecycle.shuttingDown = true ∨ after.lifecycle.isFinished = true
  /-- An end is heard, if it comes in between. -/
  heard : ∃ events, after.terminals.heard before.lifecycle.terminal before.lifecycle.pid =
      (before.terminals.heard before.lifecycle.terminal before.lifecycle.pid).map
        (fun known => known ++ events) ∧
    ends events + before.lifecycle.isFinished.toNat = after.lifecycle.isFinished.toNat
  others : ∀ reference stranger, stranger ≠ before.lifecycle.pid →
    after.terminals.heard reference stranger = before.terminals.heard reference stranger

namespace Lived

variable {before middle after : SyscallContext}

/-- Nothing is heard where the life of the process does not change. -/
theorem still (pid : after.pid = before.pid) (lifecycle : after.lifecycle = before.lifecycle)
    (heard : ∀ reference stranger, after.terminals.heard reference stranger =
      before.terminals.heard reference stranger) : Lived before after := by
  refine ⟨pid, by rw [lifecycle], by rw [lifecycle], fun began => .inl (lifecycle ▸ began),
    ⟨[], ?_, ?_⟩, fun reference stranger _ => heard reference stranger⟩
  · rw [heard]
    simp only [List.append_nil, Option.map_id']
  · rw [lifecycle]
    exact Nat.zero_add _

theorem refl (context : SyscallContext) : Lived context context :=
  still rfl rfl fun _ _ => rfl

theorem announces (lived : Lived before after) : Announces before after :=
  ⟨lived.lifecyclePid, lived.terminal, lived.heard⟩

/-- A process that has ended has ended for good. -/
theorem finished (lived : Lived before after) (finished : before.lifecycle.isFinished = true) :
    after.lifecycle.isFinished = true := lived.announces.finished finished

theorem trans (first : Lived before middle) (second : Lived middle after) : Lived before after := by
  obtain ⟨pid, terminal, heard⟩ := first.announces.trans second.announces
  refine ⟨second.pid.trans first.pid, pid, terminal, fun began => ?_, heard,
    fun reference stranger different => ?_⟩
  · rcases second.shutting began with earlier | ended
    · rcases first.shutting earlier with earlier | ended
      · exact .inl earlier
      · exact .inr (second.finished ended)
    · exact .inr ended
  · rw [second.others reference stranger (first.lifecyclePid ▸ different),
      first.others reference stranger different]

/-- A process changes its state, and neither ends nor is told of. -/
theorem restate (context : SyscallContext) {lifecycle : Lifecycle}
    (pid : lifecycle.pid = context.lifecycle.pid)
    (terminal : lifecycle.terminal = context.lifecycle.terminal)
    (shutting : lifecycle.shuttingDown = context.lifecycle.shuttingDown)
    (finished : lifecycle.isFinished = context.lifecycle.isFinished) :
    Lived context { context with lifecycle } := by
  refine ⟨rfl, pid, terminal, fun began => .inl (shutting.symm.trans began), ⟨[], ?_, ?_⟩,
    fun _ _ _ => rfl⟩
  · simp only [List.append_nil, Option.map_id']
  · show 0 + _ = lifecycle.isFinished.toNat
    rw [finished]
    exact Nat.zero_add _

/-- A process begins or stops to work. -/
theorem setRunning (context : SyscallContext) (running : Bool) :
    Lived context { context with lifecycle := context.lifecycle.setRunning running } := by
  refine restate context ?_ ?_ ?_ ?_
  all_goals
    unfold Lifecycle.setRunning
    split
    · rfl
  · rfl
  · rfl
  · rfl
  · rename_i goesOn
    rw [eq_false_of_ne_true goesOn]
    cases running <;> rfl

/-- The process goes on, and an event is told that is no end. -/
theorem tell (context : SyscallContext) {event : ProcessEvent} (goesOn : ¬ event.IsEnd) :
    Lived context { context with
      terminals := context.lifecycle.notify event context.terminals } := by
  refine ⟨rfl, rfl, rfl, .inl, ⟨[event], Terminals.heard_notify .., ?_⟩,
    fun reference stranger different => Terminals.heard_notify_other _ _ _ different event⟩
  have none : ends [event] = 0 := List.countP_eq_zero.mpr fun other here => by
    rw [List.mem_singleton.mp here]
    simpa using goesOn
  rw [none]
  exact Nat.zero_add _

/-- A process that has not ended ends, and that is told. -/
theorem finish {event : ProcessEvent} (isEnd : event.IsEnd) (pid : after.pid = before.pid)
    (lifecyclePid : after.lifecycle.pid = before.lifecycle.pid)
    (terminal : after.lifecycle.terminal = before.lifecycle.terminal)
    (goesOn : before.lifecycle.isFinished = false) (ended : after.lifecycle.isFinished = true)
    (told : after.terminals = before.lifecycle.notify event before.terminals) :
    Lived before after := by
  refine ⟨pid, lifecyclePid, terminal, fun _ => .inr ended, ⟨[event], ?_, ?_⟩,
    fun reference stranger different => ?_⟩
  · rw [told]
    exact Terminals.heard_notify ..
  · have one : ends [event] = 1 := by
      unfold ends
      rw [List.countP_singleton, if_pos (by simpa using isEnd)]
    rw [one, goesOn, ended]
    rfl
  · rw [told]
    exact Terminals.heard_notify_other _ _ _ different event

end Lived

/-- **Scripts announce nothing**, with reticent host functions. -/
theorem Moves.lived {table : SyscallTable} {budget : Option Duration} {before after : SyscallContext}
    (modest : table.Modest) (reticent : table.Reticent) (moves : Moves table budget before after) :
    Lived before after := by
  have carried := moves.carried modest
  refine .still carried.pid carried.lifecycle fun reference stranger => ?_
  induction moves with
  | refl => rfl
  | tail earlier move ih =>
    refine Eq.trans ?_ (ih (Moves.carried modest earlier))
    cases move with
    | call syscall bound args => exact reticent syscall bound args _ reference stranger
    | poll worked =>
      cases worked with
      | true => exact congrArg (Terminals.heard · reference stranger) (Site.passSlice_terminals _)
      | false => rfl
    | arm => rfl
    | disarm => rfl

end SyscallContext

open SyscallContext (Lived)

namespace ScriptProcess

variable {α : Type} {table : SyscallTable}

/-! ### Jobs -/

/-- **What a job leaves, however it ends**; its answer is not that the process is unknown. -/
structure Job.Lives (table : SyscallTable) (context : SyscallContext)
    (left : Executor.Answer (Except ProcessError α)) : Prop where
  lived : Lived context left.2.2
  table : left.2.1.table = table
  known : ∀ pid, left.1 ≠ some (.error (.notFound pid))

theorem Job.Lives.behind {context halfway : SyscallContext}
    {left : Executor.Answer (Except ProcessError α)} (lived : Lived context halfway)
    (lives : Job.Lives table halfway left) : Job.Lives table context left :=
  ⟨lived.trans lives.lived, lives.table, lives.known⟩

/-- What an entry leaves, with modest and reticent host functions. -/
theorem lived_of_serves (modest : table.Modest) (reticent : table.Reticent) {executor : Executor}
    {context : SyscallContext} {left : Executor × SyscallContext} (bound : executor.table = table)
    (serves : executor.Serves context left) : Lived context left.2 ∧ left.1.table = table := by
  obtain ⟨services, served⟩ := serves.served
  rw [bound] at served
  refine ⟨served.moves.lived modest reticent, ?_⟩
  rw [serves.rest]
  exact bound

theorem lives_entryJob (modest : table.Modest) (reticent : table.Reticent)
    {entry : Executor → SyscallContext → Executor.Answer (Except ScriptError α)}
    (serves : ∀ (executor : Executor) context, executor.Serves context (entry executor context).2)
    {executor : Executor} (bound : executor.table = table) (context : SyscallContext) :
    Job.Lives table context (entryJob entry executor context) := by
  obtain ⟨lived, same⟩ := lived_of_serves modest reticent bound (serves executor context)
  refine ⟨lived, same, fun pid => ?_⟩
  show ((entry executor context).1.map fun ended => ended.mapError ProcessError.script) ≠ _
  rcases (entry executor context).1 with _ | _ | _ <;> exact nofun

/-- An execution is announced, the script is loaded, and perhaps its main function is called. -/
theorem lives_executionJob (modest : table.Modest) (reticent : table.Reticent) (files : FileSystem)
    (path : String) (args : List String) {executor : Executor} (bound : executor.table = table)
    (context : SyscallContext) :
    Job.Lives table context (executionJob files path args executor context) := by
  have started : Lived context (announced context) :=
    .tell context (by decide : ¬ ProcessEvent.started.IsEnd)
  obtain ⟨lived, same⟩ := lived_of_serves modest reticent bound
    (executor.load_serves files path (announced context))
  have loading := started.trans lived
  unfold executionJob announced at *
  dsimp only
  generalize executor.load files path _ = loaded at *
  rcases loaded with ⟨_ | load, middle, halfway⟩
  · exact ⟨loading, same, nofun⟩
  · obtain ⟨lived, same⟩ := lived_of_serves modest reticent same
      (middle.call_serves entryPoint [Json.texts args] halfway)
    dsimp only
    split
    · exact ⟨loading, ‹_›, nofun⟩
    · split <;> rename_i called <;> rw [called] at lived same
      · exact ⟨loading.trans lived, same, nofun⟩
      · exact ⟨loading.trans lived, same, nofun⟩

/-- The handler of a signal is looked for, and called if there is one. -/
theorem lives_signalJob (modest : table.Modest) (reticent : table.Reticent) (signal : Signal)
    {executor : Executor} (bound : executor.table = table) (context : SyscallContext) :
    Job.Lives table context (signalJob signal executor context) := by
  obtain ⟨looking, same⟩ := lived_of_serves modest reticent bound
    (executor.hasFunction_serves signalHandler context)
  unfold signalJob
  split <;> rename_i looked <;> rw [looked] at looking same
  · exact ⟨looking, same, nofun⟩
  · exact ⟨looking, same, nofun⟩
  · refine .behind looking (lives_entryJob modest reticent (fun executor context => ?_) same _)
    exact executor.call_serves signalHandler [Json.nat signal.number] context

theorem lives_withFds (work : FdTable → α × FdTable) {executor : Executor}
    (bound : executor.table = table) (context : SyscallContext) :
    Job.Lives table context (some (Except.ok (work context.fds).1), executor,
      { context with fds := (work context.fds).2 }) :=
  ⟨.still rfl rfl fun _ _ => rfl, bound, nofun⟩

/-! ### One job -/

/-- **The guard around a job** lets the process end once at most. -/
theorem guarded_lives {job : Job α} {executor : Executor} (bound : executor.table = table)
    (lives : ∀ context, Job.Lives table context (job executor context)) (context : SyscallContext) :
    Job.Lives table context (guarded job executor context) := by
  unfold guarded
  split
  · exact ⟨.refl context, bound, nofun⟩
  · have worked := lives { context with lifecycle := context.lifecycle.setRunning true }
    have lived := (Lived.setRunning context true).trans worked.lived
    dsimp only
    split <;> rename_i ended <;> rw [ended] at worked lived
    · exact ⟨lived, worked.table, nofun⟩
    · rename_i answer left after
      have rested := lived.trans (.setRunning after false)
      split
      · exact ⟨rested, worked.table, worked.known⟩
      · rename_i code _
        refine ⟨rested.trans ?_, worked.table, worked.known⟩
        unfold tearDown Lifecycle.markExited
        dsimp only
        split
        · exact .still rfl rfl fun _ _ => rfl
        · rename_i goesOn
          exact .finish (.inr ⟨code, rfl⟩) rfl rfl rfl (eq_false_of_ne_true goesOn) rfl rfl

/-- Taking the engine down is not told. -/
theorem settle_lives (executor : Executor) (context : SyscallContext) :
    Lived context (settle executor context).2 ∧ (settle executor context).1.table = executor.table := by
  unfold settle tearDown
  dsimp only
  split <;> exact ⟨.still rfl rfl fun _ _ => rfl, rfl⟩

/-! ### Operations -/

/-- **What an operation leaves of a process.** -/
structure Lives (process : ScriptProcess) (site : Site) (after : ScriptProcess × Site) : Prop where
  lived : Lived (.of process.resident site) (.of after.1.resident after.2)
  table : after.1.executor.table = process.executor.table

variable {process : ScriptProcess} {site : Site}

theorem Lives.refl (process : ScriptProcess) (site : Site) : process.Lives site (process, site) :=
  ⟨.refl _, rfl⟩

theorem Lives.trans {middle after : ScriptProcess × Site} (first : process.Lives site middle)
    (second : middle.1.Lives middle.2 after) : process.Lives site after :=
  ⟨first.lived.trans second.lived, second.table.trans first.table⟩

/-- A report is not told to the terminal. -/
theorem lives_report (process : ScriptProcess) (site : Site) (error : ProcessError) :
    process.Lives site (process, process.report site error) := by
  refine ⟨?_, rfl⟩
  unfold report
  split <;> exact .still rfl rfl fun _ _ => rfl

/-- A job that lives. -/
def Lively (process : ScriptProcess) (job : Job α) : Prop :=
  ∀ context, Job.Lives process.executor.table context (job process.executor context)

/-- **Handing in a job.** -/
theorem lives_run {job : Job α} (lively : process.Lively job) (site : Site) :
    process.Lives site (process.run site job).2 ∧
      ∀ pid, (process.run site job).1 ≠ .error (.notFound pid) := by
  unfold run
  split
  · exact ⟨.refl process site, nofun⟩
  · split
    · refine ⟨.refl process site, fun pid => ?_⟩
      unfold refusal
      split <;> exact nofun
    · have guarding := guarded_lives rfl lively (.of process.resident site)
      generalize guarded job process.executor (.of process.resident site) = guarded at *
      rcases guarded with ⟨answer, executor, context⟩
      obtain ⟨settling, same⟩ := settle_lives executor context
      have lives : process.Lives site ({ process with
          executor := (settle executor context).1
          resident := (settle executor context).2.toResident },
            (settle executor context).2.toSite) :=
        ⟨guarding.lived.trans settling, same.trans guarding.table⟩
      dsimp only [reassemble]
      split
      · exact ⟨lives, fun pid same => guarding.known pid (congrArg some same)⟩
      · refine ⟨lives, fun pid => ?_⟩
        unfold refusal
        split <;> exact nofun

theorem lives_runReporting {job : Job α} (lively : process.Lively job) (site : Site) :
    process.Lives site (process.runReporting site job).2 ∧
      ∀ pid, (process.runReporting site job).1 ≠ .error (.notFound pid) := by
  obtain ⟨lives, known⟩ := lives_run lively site
  unfold runReporting
  split <;> rename_i ran <;> rw [ran] at lives known
  · exact ⟨lives, nofun⟩
  · exact ⟨lives.trans (lives_report _ _ _), known⟩

/-! ### The end from outside -/

/-- A process that shuts down ends, unless it has ended before. -/
theorem lived_markTerminated (before : SyscallContext) {middle : SyscallContext}
    (pid : middle.pid = before.pid)
    (shutting : middle.lifecycle = { before.lifecycle with shuttingDown := true })
    (terminals : middle.terminals = before.terminals) :
    let (_, lifecycle, told) := middle.lifecycle.markTerminated middle.terminals
    Lived before { middle with lifecycle, terminals := told } ∧ lifecycle.isFinished = true := by
  rw [shutting, terminals]
  unfold Lifecycle.markTerminated
  by_cases finished : before.lifecycle.isFinished = true
  · rw [if_pos (by exact finished)]
    refine ⟨⟨pid, rfl, rfl, fun _ => .inr finished, ⟨[], ?_, Nat.zero_add _⟩, fun _ _ _ => rfl⟩,
      finished⟩
    simp only [List.append_nil, Option.map_id']
  · rw [if_neg (by exact finished)]
    exact ⟨.finish (.inl rfl) pid rfl rfl (eq_false_of_ne_true finished) rfl rfl, rfl⟩

/-- **Ending a process from outside**: it has ended, unless someone else was about to end it. -/
theorem lives_terminate (process : ScriptProcess) (site : Site) :
    process.Lives site (process.terminate site) ∧
      (process.resident.lifecycle.shuttingDown = false →
        (process.terminate site).1.resident.lifecycle.isFinished = true) := by
  have ending (executor : Executor) (middle : SyscallContext)
      (table : executor.table = process.executor.table) (pid : middle.pid = process.resident.pid)
      (shutting : middle.lifecycle = { process.resident.lifecycle with shuttingDown := true })
      (terminals : middle.terminals = site.terminals) :
      let (_, lifecycle, told) := middle.lifecycle.markTerminated middle.terminals
      let after := process.reassemble executor { middle with lifecycle, terminals := told }
      process.Lives site after ∧ after.1.resident.lifecycle.isFinished = true := by
    obtain ⟨lived, finished⟩ := lived_markTerminated (.of process.resident site) pid shutting
      terminals
    exact ⟨⟨lived, table⟩, finished⟩
  unfold terminate Lifecycle.beginShutdown
  dsimp only
  split
  · generalize process.resident.gate.endOutside = ended
    rcases ended with ⟨runs, gate⟩
    let context : SyscallContext := .of { process.resident with
      lifecycle := { process.resident.lifecycle with shuttingDown := true }
      interrupt := process.resident.interrupt.cancel
      gate } site
    cases runs with
    | true =>
      obtain ⟨lives, finished⟩ := ending process.executor.destroy
        { context with fds := context.fds.clearAll } rfl rfl rfl rfl
      exact ⟨lives, fun _ => finished⟩
    | false =>
      obtain ⟨lives, finished⟩ := ending process.executor context rfl rfl rfl rfl
      exact ⟨lives, fun _ => finished⟩
  · rename_i later
    refine ⟨.refl process site, fun goesOn => ?_⟩
    rw [goesOn] at later
    exact absurd rfl later

/-! ### The operations of a host -/

/-- A failure that is recorded is told, and is no end. -/
theorem lives_recordFailure (process : ScriptProcess) (site : Site) (error : ScriptError) :
    process.Lives site (process.recordFailure site error) := by
  refine (lives_report process site (.script error)).trans ?_
  unfold recordFailure
  dsimp only
  generalize process.report site (.script error) = there
  split
  · unfold Lifecycle.recordFault
    split
    · exact .refl process there
    · have told : Lived (.of process.resident there) _ :=
        .tell _ (ProcessEvent.not_isEnd_faulted error.message)
      exact ⟨told.trans (.restate _ rfl rfl rfl rfl), rfl⟩
  · exact .refl process there

theorem lives_conclude (process : ScriptProcess) (site : Site) (execution : Execution) :
    process.Lives site (process.conclude site execution) := by
  have recorded : process.Lives site (process.recordFailures site execution.errors) :=
    recordFailures_keep (fun left => process.Lives site left)
      (fun other there error lives => lives.trans (lives_recordFailure other there error))
      execution.errors (.refl process site)
  rw [conclude_eq]
  split
  · exact recorded.trans (lives_terminate _ _).1
  · exact recorded

theorem lives_execute (modest : process.executor.table.Modest)
    (reticent : process.executor.table.Reticent) (site : Site) (files : FileSystem) :
    process.Lives site (process.execute site files) := by
  have ran := (lives_run (lives_executionJob modest reticent files process.path
    process.resident.args rfl) site).1
  unfold execute
  split <;> rename_i ended <;> rw [ended] at ran
  · exact ran.trans (lives_conclude _ _ _)
  · exact ran.trans (lives_report _ _ _)

theorem lives_invoke (modest : process.executor.table.Modest)
    (reticent : process.executor.table.Reticent) (site : Site) (name : String) (args : List Json) :
    process.Lives site (process.invoke site name args).2 :=
  (lives_runReporting (lives_entryJob modest reticent
    (fun executor => executor.call_serves name args) rfl) site).1

theorem lives_load (modest : process.executor.table.Modest)
    (reticent : process.executor.table.Reticent) (site : Site) (files : FileSystem) (path : String) :
    process.Lives site (process.load site files path).2 :=
  (lives_runReporting (lives_entryJob modest reticent
    (fun executor => executor.load_serves files path) rfl) site).1

/-- Delivering a signal; its answer is not that the process is unknown. -/
theorem lives_signal (modest : process.executor.table.Modest)
    (reticent : process.executor.table.Reticent) (site : Site) (number : Nat) :
    process.Lives site (process.signal site number).2 ∧
      ∀ pid, (process.signal site number).1 ≠ .error (.notFound pid) := by
  unfold ScriptProcess.signal
  split
  · exact ⟨.refl process site, nofun⟩
  · rename_i signal _
    split
    · exact ⟨.refl process site, nofun⟩
    · split
      · exact ⟨(lives_terminate process site).1, nofun⟩
      · obtain ⟨ran, known⟩ := lives_runReporting
          (lives_signalJob modest reticent signal rfl) site
        generalize process.runReporting site (signalJob signal) = told at ran known
        rcases told with ⟨error | _ | value, left⟩
        · exact ⟨ran, fun pid same => known pid (by cases same; rfl)⟩
        · unfold respond
          dsimp only
          split
          · exact ⟨ran.trans (lives_terminate _ _).1, nofun⟩
          · exact ⟨ran, nofun⟩
        · exact ⟨ran, nofun⟩

/-- **What any operation leaves of a process**, whether or not a host function panics in it. -/
theorem lives_perform (modest : process.executor.table.Modest)
    (reticent : process.executor.table.Reticent) (operation : Operation) (site : Site) :
    process.Lives site (operation.perform process site) := by
  cases operation with
  | execute files => exact lives_execute modest reticent site files
  | load files path => exact lives_load modest reticent site files path
  | invoke name args => exact lives_invoke modest reticent site name args
  | signal number => exact (lives_signal modest reticent site number).1
  | withFds α work =>
    refine (lives_run ?_ site).1
    exact lives_withFds work rfl
  | setVariable name value => exact ⟨.still rfl rfl fun _ _ => rfl, rfl⟩
  | terminate => exact (lives_terminate process site).1

end ScriptProcess

end ScriptKernel
