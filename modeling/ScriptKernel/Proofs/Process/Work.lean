/-
**What a job does to its process.**

* `ScriptProcess.Ready`, `ScriptProcess.Ended`: the two ways in which a process stands between jobs;
* `Job.Tame`: a job that answers and keeps to what it is handed; every job of a process is tame;
* `run_ready`: **a job on a ready process**: it is handed the process at work (`working`), and what it leaves is
  put back together: the process goes on, or it ends with the exit that was asked for (`afterwards`);
* `run_ended`: a process that has ended refuses every job.
-/

import ScriptKernel.Proofs.Executor
import ScriptKernel.ScriptProcess

set_option autoImplicit false

namespace ScriptKernel

/-! ### Jobs that keep to what they are handed -/

/-- **What a job leaves behind.** -/
structure Executor.Keeps (executor : Executor) (context : SyscallContext)
    (left : Executor × SyscallContext) : Prop where
  rest : left.1 = { executor with engine := left.1.engine }
  sound : left.1.engine.Sound
  carried : SyscallContext.Carried context left.2

namespace Executor

variable {executor : Executor} {context : SyscallContext} {left : Executor × SyscallContext}

theorem Leaves.keeps (modest : executor.table.Modest) (leaves : executor.Leaves context left) :
    executor.Keeps context left :=
  ⟨leaves.rest, leaves.sound, leaves.moves.carried modest⟩

theorem Keeps.table (keeps : executor.Keeps context left) : left.1.table = executor.table := by
  rw [keeps.rest]

theorem Keeps.pid (keeps : executor.Keeps context left) : left.1.pid = executor.pid := by
  rw [keeps.rest]

theorem Keeps.trans {last : Executor × SyscallContext} (first : executor.Keeps context left)
    (second : left.1.Keeps left.2 last) : executor.Keeps context last := by
  refine ⟨?_, second.sound, first.carried.trans second.carried⟩
  rw [second.rest, first.rest]

end Executor

namespace ScriptProcess

variable {α : Type}

/-- **A job that answers and keeps to what it is handed**, with the host functions of a table. -/
def Job.Tame (table : SyscallTable) (job : Job α) : Prop :=
  ∀ executor context, executor.table = table → executor.engine.Sound →
    ∃ answer left, job executor context = (some answer, left) ∧ executor.Keeps context left

variable {table : SyscallTable}

/-- A job that is an entry answers what the entry answers. -/
theorem entryJob_eq {entry : Executor → SyscallContext → Executor.Answer (Except ScriptError α)}
    {executor : Executor} {context : SyscallContext} {answer : Except ScriptError α}
    {left : Executor × SyscallContext} (ended : entry executor context = (some answer, left)) :
    entryJob entry executor context = (some (answer.mapError ProcessError.script), left) := by
  unfold entryJob
  rw [ended]
  rfl

/-- Entries into a script are tame jobs. -/
theorem tame_entryJob (modest : table.Modest)
    {entry : Executor → SyscallContext → Executor.Answer (Except ScriptError α)}
    (answers : ∀ executor context, executor.table = table → executor.engine.Sound →
      ∃ answer left, entry executor context = (some answer, left) ∧ executor.Leaves context left) :
    Job.Tame table (entryJob entry) := by
  intro executor context bound sound
  obtain ⟨answer, left, ended, leaves⟩ := answers executor context bound sound
  exact ⟨_, left, entryJob_eq ended, leaves.keeps (bound ▸ modest)⟩

theorem tame_load (calm : table.Calm) (modest : table.Modest) (files : FileSystem) (path : String) :
    Job.Tame table (entryJob fun executor => executor.load files path) :=
  tame_entryJob modest fun _ context bound sound =>
    Executor.load_leaves (bound ▸ calm) sound files path context

theorem tame_invoke (calm : table.Calm) (modest : table.Modest) (name : String) (args : List Json) :
    Job.Tame table (entryJob fun executor => executor.call name args) :=
  tame_entryJob modest fun _ context bound sound =>
    Executor.call_leaves (bound ▸ calm) sound name args context

theorem tame_withFds (work : FdTable → α × FdTable) :
    Job.Tame table (fun executor context =>
      (some (Except.ok (work context.fds).1), executor, { context with fds := (work context.fds).2 })) :=
  fun _ _ _ sound =>
    ⟨_, _, rfl, rfl, sound, ⟨rfl, rfl, rfl, rfl, rfl, Nat.le_refl _, rfl, [], .start _⟩⟩

/-- **Delivering a signal**: the handler is looked for, and called if there is one. -/
theorem signalJob_eq (calm : table.Calm) (signal : Signal) {executor : Executor}
    (context : SyscallContext) (bound : executor.table = table) (sound : executor.engine.Sound) :
    ∃ found middle, executor.hasFunction signalHandler context = (some found, middle) ∧
      executor.Leaves context middle ∧
      ((found = false ∧ signalJob signal executor context = (some (.ok none), middle)) ∨
        (found = true ∧ ∃ answer left,
          middle.1.call signalHandler [Json.nat signal.number] middle.2 = (some answer, left) ∧
          middle.1.Leaves middle.2 left ∧
          signalJob signal executor context =
            (some ((answer.map some).mapError ProcessError.script), left))) := by
  obtain ⟨found, middle, looked, leaves⟩ :=
    Executor.hasFunction_leaves (bound ▸ calm) sound signalHandler context
  refine ⟨found, middle, looked, leaves, ?_⟩
  cases found with
  | false =>
    refine .inl ⟨rfl, ?_⟩
    unfold signalJob
    rw [looked]
  | true =>
    obtain ⟨answer, left, called, further⟩ := Executor.call_leaves
      (leaves.table.trans bound ▸ calm) leaves.sound signalHandler [Json.nat signal.number] middle.2
    refine .inr ⟨rfl, answer, left, called, further, ?_⟩
    unfold signalJob entryJob
    simp only [looked, called]
    rfl

theorem tame_signalJob (calm : table.Calm) (modest : table.Modest) (signal : Signal) :
    Job.Tame table (signalJob signal) := by
  intro executor context bound sound
  obtain ⟨found, middle, -, leaves, ⟨-, ended⟩ | ⟨-, answer, left, -, further, ended⟩⟩ :=
    signalJob_eq calm signal context bound sound
  · exact ⟨_, middle, ended, leaves.keeps (bound ▸ modest)⟩
  · exact ⟨_, left, ended, (leaves.trans further).keeps (bound ▸ modest)⟩

/-- The context in which an execution begins: the terminal has heard that it has. -/
def announced (context : SyscallContext) : SyscallContext :=
  { context with terminals := context.lifecycle.notify .started context.terminals }

/-- **An execution**: the script is loaded, and its main function is called unless an exit was asked for. -/
theorem executionJob_eq (calm : table.Calm) (files : FileSystem)
    (path : String) (args : List String) {executor : Executor} (context : SyscallContext)
    (bound : executor.table = table) (sound : executor.engine.Sound) :
    ∃ loading middle, executor.load files path (announced context) = (some loading, middle) ∧
      executor.Leaves (announced context) middle ∧
      ((∃ code, middle.2.interrupt.exitCode = some code ∧
          executionJob files path args executor context =
            (some (.ok ⟨loading, none⟩), middle)) ∨
        (middle.2.interrupt.exitCode = none ∧ ∃ calling left,
          middle.1.call entryPoint [Json.texts args] middle.2 = (some calling, left) ∧
          middle.1.Leaves middle.2 left ∧
          executionJob files path args executor context =
            (some (.ok ⟨loading, some calling⟩), left))) := by
  obtain ⟨loading, middle, loaded, leaves⟩ :=
    Executor.load_leaves (bound ▸ calm) sound files path (announced context)
  refine ⟨loading, middle, loaded, leaves, ?_⟩
  have began : executor.load files path { context with
      terminals := context.lifecycle.notify .started context.terminals } = (some loading, middle) :=
    loaded
  cases held : middle.2.interrupt.exitCode with
  | some code =>
    refine .inl ⟨code, rfl, ?_⟩
    unfold executionJob
    simp only [began, held]
    rfl
  | none =>
    obtain ⟨calling, left, called, further⟩ := Executor.call_leaves
      (leaves.table.trans bound ▸ calm) leaves.sound entryPoint [Json.texts args] middle.2
    refine .inr ⟨rfl, calling, left, called, further, ?_⟩
    unfold executionJob
    simp only [began, held, called]
    rfl

theorem announced_carried (context : SyscallContext) :
    SyscallContext.Carried context (announced context) :=
  ⟨rfl, rfl, rfl, rfl, rfl, Nat.le_refl _, rfl, [], .start _⟩

theorem tame_executionJob (calm : table.Calm) (modest : table.Modest) (files : FileSystem)
    (path : String) (args : List String) : Job.Tame table (executionJob files path args) := by
  intro executor context bound sound
  obtain ⟨loading, middle, -, leaves, ⟨code, -, ended⟩ | ⟨-, calling, left, -, further, ended⟩⟩ :=
    executionJob_eq calm files path args context bound sound
  all_goals
    have loaded := leaves.keeps (bound ▸ modest)
    have first : executor.Keeps context middle :=
      ⟨loaded.rest, loaded.sound, (announced_carried context).trans loaded.carried⟩
  · exact ⟨_, middle, ended, first⟩
  · exact ⟨_, left, ended, first.trans (further.keeps (first.table.trans bound ▸ modest))⟩

/-! ### How a process stands between jobs -/

/-- **A process that takes work.** -/
structure Ready (process : ScriptProcess) : Prop where
  state : process.resident.lifecycle.state = .ready
  staying : process.resident.lifecycle.shuttingDown = false
  unexited : process.resident.lifecycle.hasExitStatus = false
  opened : process.resident.gate.closed = false
  behind : process.resident.gate.lastWaiting = false
  unjoined : process.resident.gate.joined = false
  working : process.resident.gate.stopped = false
  uncancelled : process.resident.interrupt.cancelled = false
  unasked : process.resident.interrupt.exitCode = none
  sound : process.executor.engine.Sound

/-- **A process that has ended**: by an exit that was asked for, or from outside. -/
structure Ended (process : ScriptProcess) : Prop where
  engine : process.executor.engine.isLive = false
  slots : process.resident.fds = .empty
  outcome :
    (∃ code, process.resident.lifecycle.state = .exited ∧
      process.resident.lifecycle.status = .exited code ∧
      process.resident.interrupt.exitCode = some code) ∨
    (process.resident.lifecycle.state = .terminated ∧
      process.resident.lifecycle.hasExitStatus = false ∧
      process.resident.interrupt.exitCode = none)

variable {process : ScriptProcess}

theorem Ready.isFinished (ready : process.Ready) : process.resident.lifecycle.isFinished = false := by
  unfold Lifecycle.isFinished
  rw [ready.state]
  rfl

theorem Ready.isAlive (ready : process.Ready) : process.isAlive = true := by
  unfold ScriptProcess.isAlive Resident.isAlive
  rw [ready.isFinished, ready.staying]
  rfl

theorem Ended.isFinished (ended : process.Ended) : process.resident.lifecycle.isFinished = true := by
  unfold Lifecycle.isFinished
  rcases ended.outcome with ⟨code, state, -⟩ | ⟨state, -⟩
  · rw [state]
    rfl
  · rw [state]
    rfl

theorem Ended.isAlive (ended : process.Ended) : process.isAlive = false := by
  unfold ScriptProcess.isAlive Resident.isAlive
  rw [ended.isFinished]
  rfl

/-! ### One job -/

/-- What a job is handed. -/
def handed (process : ScriptProcess) (site : Site) : SyscallContext :=
  { SyscallContext.of process.resident site with
    lifecycle := process.resident.lifecycle.setRunning true }

/-- **What becomes of a ready process after a job**: it goes on, or it ends with the exit asked for. -/
def afterwards (process : ScriptProcess) (left : Executor × SyscallContext) :
    ScriptProcess × Site :=
  match left.2.interrupt.exitCode with
  | none =>
    ({ process with
        executor := left.1
        resident := { left.2.toResident with lifecycle := process.resident.lifecycle } },
      left.2.toSite)
  | some code =>
    ({ process with
        executor := left.1.destroy
        resident := { left.2.toResident with
          fds := .empty
          lifecycle := { process.resident.lifecycle with state := .exited, status := .exited code } } },
      { left.2.toSite with
        terminals := process.resident.lifecycle.notify (.exited code) left.2.terminals })

/-- From ready to running and back. -/
theorem setRunning_setRunning {life : Lifecycle} (ready : life.state = .ready) :
    (life.setRunning true).setRunning false = life := by
  rcases life with ⟨pid, terminal, state, status, shuttingDown⟩
  cases ready
  rfl

/-- Ending a running process with an exit. -/
theorem markExited_setRunning {life : Lifecycle} (ready : life.state = .ready) (code : ExitCode)
    (terminals : Terminals) :
    life.markExited code terminals =
      (true, { life with state := .exited, status := .exited code },
        life.notify (.exited code) terminals) := by
  unfold Lifecycle.markExited Lifecycle.isFinished
  rw [ready]
  rfl

/-- The guard around a job that answered: what it leaves is what becomes of the process. -/
theorem guarded_ready (ready : process.Ready) {job : Job α} {site : Site}
    {answer : Except ProcessError α} {left : Executor × SyscallContext}
    (ended : job process.executor (process.handed site) = (some answer, left))
    (life : left.2.lifecycle = process.resident.lifecycle.setRunning true) :
    guarded job process.executor (.of process.resident site) =
      (some answer, (process.afterwards left).1.executor,
        .of (process.afterwards left).1.resident (process.afterwards left).2) := by
  rcases left with ⟨executor, context⟩
  have began : job process.executor { SyscallContext.of process.resident site with
      lifecycle := process.resident.lifecycle.setRunning true } = (some answer, executor, context) :=
    ended
  have unfinished : (SyscallContext.of process.resident site).lifecycle.isFinished = false :=
    ready.isFinished
  have rested : context.lifecycle.setRunning false = process.resident.lifecycle := by
    rw [life, setRunning_setRunning ready.state]
  have held : (SyscallContext.of process.resident site).lifecycle = process.resident.lifecycle := rfl
  unfold guarded afterwards
  rw [unfinished]
  simp only [held, began, rested, Bool.false_eq_true, if_false]
  cases context.interrupt.exitCode with
  | none => rfl
  | some code =>
    simp only [tearDown, markExited_setRunning ready.state]
    rfl

/-- Where no last job waits, nothing is taken down after a job. -/
theorem settle_eq (executor : Executor) {context : SyscallContext}
    (behind : context.gate.lastWaiting = false) : settle executor context = (executor, context) := by
  unfold settle QueueGate.afterJob
  rw [behind]
  rfl

/-- A job leaves the queue as it is, also where it asked for an exit. -/
theorem gate_afterwards {process : ScriptProcess} {site : Site} {left : Executor × SyscallContext}
    (keeps : process.executor.Keeps (process.handed site) left) :
    (process.afterwards left).1.resident.gate = process.resident.gate := by
  unfold afterwards
  split <;> exact keeps.carried.gate

/-- **What a job on a ready process leaves is put back together.** -/
theorem run_of_keeps (ready : process.Ready) {job : Job α} {site : Site}
    {answer : Except ProcessError α} {left : Executor × SyscallContext}
    (ended : job process.executor (process.handed site) = (some answer, left))
    (keeps : process.executor.Keeps (process.handed site) left) :
    process.run site job = (answer, process.afterwards left) := by
  have accepted : process.resident.gate.accept false = .ok () := by
    unfold QueueGate.accept
    rw [ready.opened]
    rfl
  have gate := gate_afterwards keeps
  have behind : (SyscallContext.of (process.afterwards left).1.resident
      (process.afterwards left).2).gate.lastWaiting = false := by
    show (process.afterwards left).1.resident.gate.lastWaiting = false
    rw [gate]
    exact ready.behind
  have same : { process with
      executor := (process.afterwards left).1.executor
      resident := (process.afterwards left).1.resident } = (process.afterwards left).1 := by
    unfold afterwards
    split <;> rfl
  unfold run
  rw [ready.isAlive, accepted]
  simp only [guarded_ready ready ended keeps.carried.lifecycle, settle_eq _ behind, reassemble, Bool.not_true,
    Bool.false_eq_true, if_false]
  exact congrArg (fun landed => (answer, landed, (process.afterwards left).2)) same

/-- **A job on a ready process** is handed the process at work, and what it leaves is put back together. -/
theorem run_ready (ready : process.Ready) {job : Job α} (tame : Job.Tame process.executor.table job)
    (site : Site) :
    ∃ answer left, job process.executor (process.handed site) = (some answer, left) ∧
      process.executor.Keeps (process.handed site) left ∧
      process.run site job = (answer, process.afterwards left) := by
  obtain ⟨answer, left, ended, keeps⟩ := tame process.executor (process.handed site) rfl ready.sound
  exact ⟨answer, left, ended, keeps, run_of_keeps ready ended keeps⟩

/-- **A process that has ended refuses every job.** -/
theorem run_ended (ended : process.Ended) (site : Site) (job : Job α) :
    process.run site job = (.error (.terminated process.pid), process, site) := by
  unfold run
  rw [ended.isAlive]
  rfl

end ScriptProcess

end ScriptKernel
