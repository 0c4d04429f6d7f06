/-
**How a process stands behind a job, whether the job answers or panics.**

The worker catches a panic and goes on, but what is done around a job is done only where the job answers.

* `Work`, `Work.job`: the jobs that a host hands in; work on the slots may panic by itself, a script does where a host
  function panics;
* `Job.Tidy`: what every such job leaves; `Work.deadline_of_panic`: a script that panics leaves its deadline set;
* `InOrder`: a process that is not seen at work, whose deadline is put away, and that has ended if it was asked to;
* `Settled`, `settled_of_answer`: **a job that answers settles its process**, also behind one that did not;
* `Abandoned`, `abandoned_of_panic`: **a job that panics leaves its process as it was at that moment**;
* `order_of_jobs`: both in any sequence of jobs; as long as all of them answer, the process is in order.
-/

import ScriptKernel.Proofs.Entry
import ScriptKernel.Proofs.Process.History

set_option autoImplicit false

namespace ScriptKernel

open SyscallContext (Carried)

namespace ScriptProcess

/-! ### The jobs of a host -/

/-- **What a host hands in**: loading and calling, both of them in turn, delivering a signal, and work on the slots. -/
inductive Work : Type 1
  | load (files : FileSystem) (path : String)
  | call (name : String) (args : List Json)
  | execution (files : FileSystem) (path : String) (args : List String)
  | signal (sent : Signal)
  | slots (α : Type) (work : FdTable → Option α × FdTable)

namespace Work

/-- What a job answers. -/
def Answer : Work → Type
  | .load .. => Unit
  | .call .. => Json
  | .execution .. => Execution
  | .signal _ => Option Json
  | .slots α _ => α

/-- The job. -/
def job : (work : Work) → Job work.Answer
  | .load files path => entryJob fun executor => executor.load files path
  | .call name args => entryJob fun executor => executor.call name args
  | .execution files path args => executionJob files path args
  | .signal sent => signalJob sent
  | .slots _ work => fun executor context =>
    let (answer, fds) := work context.fds
    (answer.map .ok, executor, { context with fds })

/-- Whether a job lets a script run for a limited time only. -/
def isTimed : Work → Bool
  | .load .. | .call .. | .execution .. => true
  | .signal _ | .slots .. => false

end Work

variable {α β : Type} {executor : Executor} {context : SyscallContext}

/-- **What a job leaves, however it ends**: an executor with another engine at most, the process as it was but for
exits; and no deadline, if it answers and found none. -/
structure Job.Tidy (executor : Executor) (context : SyscallContext) (ended : Executor.Answer α) : Prop where
  rest : ended.2.1 = { executor with engine := ended.2.1.engine }
  carried : Carried context ended.2.2
  deadline : ended.1.isSome = true → context.interrupt.deadline = 0 →
    ended.2.2.interrupt.deadline = 0

namespace Job.Tidy

/-- A job that goes on where an entry has answered. -/
theorem behind {first : Executor.Answer β} {ended : Executor.Answer α}
    (before : Job.Tidy executor context first) (answered : first.1.isSome = true)
    (after : Job.Tidy first.2.1 first.2.2 ended) : Job.Tidy executor context ended := by
  refine ⟨?_, before.carried.trans after.carried, fun settled none => ?_⟩
  · rw [after.rest, before.rest]
  · exact after.deadline settled (before.deadline answered none)

/-- A job that leaves what another leaves. -/
theorem same {first : Executor.Answer β} (tidy : Job.Tidy executor context first)
    {answer : Option α} (answered : answer.isSome = true → first.1.isSome = true) :
    Job.Tidy executor context (answer, first.2) :=
  ⟨tidy.rest, tidy.carried, fun settled => tidy.deadline (answered settled)⟩

/-- The beginning of an execution is announced before anything else. -/
theorem announced {ended : Executor.Answer α}
    (tidy : Job.Tidy executor (ScriptProcess.announced context) ended) :
    Job.Tidy executor context ended :=
  ⟨tidy.rest, (announced_carried context).trans tidy.carried, tidy.deadline⟩

/-- An entry that closes. -/
theorem of_closes (modest : executor.table.Modest) {ended : Executor.Answer α}
    (serves : executor.Serves context ended.2) (closes : executor.Closes context ended) :
    Job.Tidy executor context ended := by
  obtain ⟨services, served⟩ := serves.served
  refine ⟨serves.rest, served.moves.carried modest, fun settled _ => ?_⟩
  cases closes with
  | answered deadline => exact deadline
  | panicked => cases settled

theorem load (modest : executor.table.Modest) (files : FileSystem) (path : String)
    (context : SyscallContext) : Job.Tidy executor context (executor.load files path context) := by
  rcases executor.load_closes modest.steady files path context with closes | ⟨error, unread⟩
  · exact of_closes modest (executor.load_serves files path context) closes
  · rw [unread]
    exact ⟨rfl, .refl context, fun _ none => none⟩

theorem call (modest : executor.table.Modest) (name : String) (args : List Json)
    (context : SyscallContext) : Job.Tidy executor context (executor.call name args context) :=
  of_closes modest (executor.call_serves name args context) (executor.call_closes modest.steady name args context)

theorem hasFunction (modest : executor.table.Modest) (name : String) (context : SyscallContext) :
    Job.Tidy executor context (executor.hasFunction name context) := by
  obtain ⟨services, served⟩ := (executor.hasFunction_serves name context).served
  exact ⟨(executor.hasFunction_serves name context).rest, served.moves.carried modest,
    fun _ none => (executor.hasFunction_deadline modest.steady name context).trans none⟩

/-- The answer of an entry in the words of a job. -/
theorem entryJob (entry : Executor → SyscallContext → Executor.Answer (Except ScriptError α))
    (tidy : Job.Tidy executor context (entry executor context)) :
    Job.Tidy executor context (ScriptProcess.entryJob entry executor context) := by
  unfold ScriptProcess.entryJob
  refine tidy.same fun answered => ?_
  rwa [Option.isSome_map] at answered

/-- What keeps the table of an executor keeps its host functions modest. -/
theorem modest {ended : Executor.Answer α} (tidy : Job.Tidy executor context ended)
    (modest : executor.table.Modest) : ended.2.1.table.Modest := by
  rw [tidy.rest]
  exact modest

end Job.Tidy

namespace Work

/-- **Every job of a host is tidy.** -/
theorem tidy (modest : executor.table.Modest) (work : Work) (context : SyscallContext) :
    Job.Tidy executor context (work.job executor context) := by
  cases work with
  | load files path => exact .entryJob (fun executor => executor.load files path) (.load modest files path context)
  | call name args => exact .entryJob (fun executor => executor.call name args) (.call modest name args context)
  | slots α work =>
    exact ⟨rfl, ⟨rfl, rfl, rfl, rfl, rfl, Nat.le_refl _, rfl, [], .start _⟩, fun _ none => none⟩
  | execution files path args =>
    have loading := Job.Tidy.load modest files path (ScriptProcess.announced context)
    show Job.Tidy executor context (executionJob files path args executor context)
    unfold executionJob
    dsimp only
    generalize began : executor.load files path _ = loaded
    have tidy : Job.Tidy executor context loaded := (began ▸ loading).announced
    rcases loaded with ⟨_ | load, middle, halfway⟩
    · exact tidy.same id
    · dsimp only
      split
      · exact tidy.same fun _ => rfl
      · have calling := Job.Tidy.call (tidy.modest modest) entryPoint [Json.texts args] halfway
        split <;> rename_i called <;> rw [called] at calling
        · exact tidy.behind rfl (calling.same id)
        · exact tidy.behind rfl (calling.same fun _ => rfl)
  | signal sent =>
    have looking := Job.Tidy.hasFunction modest signalHandler context
    show Job.Tidy executor context (signalJob sent executor context)
    unfold signalJob
    split <;> rename_i looked <;> rw [looked] at looking
    · exact looking.same id
    · exact looking.same fun _ => rfl
    · refine looking.behind rfl (.entryJob _ ?_)
      refine (Job.Tidy.call (looking.modest modest) signalHandler [Json.nat sent.number] _).same ?_
      rw [Option.isSome_map]
      exact id

/-- Loading panics with its deadline set. -/
theorem deadline_of_load (modest : executor.table.Modest) {files : FileSystem} {path : String}
    (panicked : (executor.load files path context).1 = none) :
    (executor.load files path context).2.2.interrupt.deadline = 0 ↔ executor.callTimeout = none := by
  rcases executor.load_closes modest.steady files path context with closes | ⟨error, unread⟩
  · exact closes.deadline_of_panic panicked
  · rw [unread] at panicked
    cases panicked

/-- **A script whose time is limited panics with its deadline set.** -/
theorem deadline_of_panic (modest : executor.table.Modest) {work : Work} (timed : work.isTimed = true)
    (panicked : (work.job executor context).1 = none) :
    (work.job executor context).2.2.interrupt.deadline = 0 ↔ executor.callTimeout = none := by
  cases work with
  | load files path =>
    exact deadline_of_load modest (Option.map_eq_none_iff.mp panicked)
  | call name args =>
    exact (executor.call_closes modest.steady name args context).deadline_of_panic
      (Option.map_eq_none_iff.mp panicked)
  | signal | slots => cases timed
  | execution files path args =>
    have loading (failed : (executor.load files path (ScriptProcess.announced context)).1 = none) :=
      deadline_of_load modest failed
    have rest := (Job.Tidy.load modest files path (ScriptProcess.announced context)).rest
    have bound := (Job.Tidy.load modest files path (ScriptProcess.announced context)).modest modest
    have unanswered : (executionJob files path args executor context).1 = none := panicked
    show (executionJob files path args executor context).2.2.interrupt.deadline = 0 ↔ _
    unfold executionJob ScriptProcess.announced at *
    dsimp only at *
    generalize executor.load files path _ = loaded at *
    rcases loaded with ⟨_ | load, middle, halfway⟩
    · exact loading rfl
    · dsimp only at *
      have calling := middle.call_closes bound.steady entryPoint [Json.texts args] halfway
      split at unanswered
      · cases unanswered
      · rename_i goesOn
        rw [if_neg goesOn]
        split at unanswered <;> rename_i called <;> rw [called] at calling
        · dsimp only
          have set := calling.deadline_of_panic rfl
          rwa [rest] at set
        · cases unanswered

end Work

/-! ### One job -/

/-- **A process that no job is at work in**: it is not seen at work, and it has ended if it was asked to. -/
structure Settled (process : ScriptProcess) : Prop where
  idle : process.state ≠ .running
  ended : ∀ code, process.resident.interrupt.exitCode = some code →
    process.executor.engine.isLive = false ∧ process.resident.fds = .empty ∧ process.state = .exited

/-- **A process in order**: besides, no deadline is set. -/
structure InOrder (process : ScriptProcess) : Prop extends process.Settled where
  disarmed : process.resident.interrupt.deadline = 0

/-- **A process as a job left it that panicked**: it is seen at work, and nothing was taken down. -/
structure Abandoned (before : ScriptProcess) (left : Executor × SyscallContext)
    (process : ScriptProcess) : Prop where
  state : process.state = .running
  status : process.status = before.status
  executor : process.executor = left.1
  slots : process.resident.fds = left.2.fds
  interrupt : process.resident.interrupt = left.2.interrupt

/-- A process whose host functions keep to what they are handed, and that nobody is ending from inside a job. -/
structure Manned (process : ScriptProcess) : Prop where
  modest : process.executor.table.Modest
  unended : process.resident.gate.lastWaiting = false

/-- A process that hands the next job to its worker. -/
structure Takes (process : ScriptProcess) : Prop where
  alive : process.isAlive = true
  opened : process.resident.gate.closed = false

variable {process : ScriptProcess} {site : Site}

/-- A process that takes no job stays as it is. -/
theorem run_of_not_takes (away : ¬ process.Takes) (site : Site) (job : Job α) :
    (process.run site job).2.1 = process := by
  unfold run
  cases alive : process.isAlive with
  | false => rfl
  | true =>
    cases closed : process.resident.gate.closed with
    | false => exact absurd ⟨alive, closed⟩ away
    | true =>
      simp only [QueueGate.accept, closed, Bool.not_true, Bool.false_eq_true, if_false, if_true]

/-- A process that takes a job has not ended. -/
theorem Takes.unfinished (takes : process.Takes) :
    process.resident.lifecycle.isFinished = false := by
  have alive := takes.alive
  unfold ScriptProcess.isAlive Resident.isAlive at alive
  cases finished : process.resident.lifecycle.isFinished with
  | false => rfl
  | true =>
    rw [finished] at alive
    cases alive

/-- A process that takes a job hands it over, and puts together what it leaves. -/
theorem run_of_takes (takes : process.Takes) (site : Site) (job : Job α) {answer : Option (Except ProcessError α)}
    {left : Executor × SyscallContext}
    (ended : guarded job process.executor (.of process.resident site) = (answer, left))
    (behind : left.2.gate.lastWaiting = false) :
    (process.run site job).2.1 = (process.reassemble left.1 left.2).1 := by
  rcases left with ⟨executor, context⟩
  unfold run
  simp only [takes.alive, QueueGate.accept, takes.opened, Bool.not_true, Bool.false_eq_true, if_false,
    ended, settle_eq _ behind]
  split <;> rfl

/-- The life of a process that goes on, at work. -/
theorem setRunning_of_unfinished {life : Lifecycle} (unfinished : life.isFinished = false)
    (running : Bool) :
    life.setRunning running = { life with state := if running then .running else .ready } := by
  unfold Lifecycle.setRunning
  rw [unfinished]
  rfl

/-- **The guard leaves alone what a job leaves that panics.** -/
theorem guarded_of_panic (unfinished : process.resident.lifecycle.isFinished = false) {job : Job α}
    {left : Executor × SyscallContext}
    (ended : job process.executor (process.handed site) = (none, left)) :
    guarded job process.executor (.of process.resident site) = (none, left) := by
  rcases left with ⟨executor, context⟩
  have began : job process.executor { SyscallContext.of process.resident site with
      lifecycle := (SyscallContext.of process.resident site).lifecycle.setRunning true } =
        (none, executor, context) := ended
  have goesOn : (SyscallContext.of process.resident site).lifecycle.isFinished = false := unfinished
  unfold guarded
  simp only [goesOn, began, Bool.false_eq_true, if_false]

/-- **The guard settles what a job leaves that answers.** -/
theorem guarded_of_answer (unfinished : process.resident.lifecycle.isFinished = false) {job : Job α}
    {answer : Except ProcessError α} {left : Executor × SyscallContext}
    (ended : job process.executor (process.handed site) = (some answer, left))
    (life : left.2.lifecycle = (process.handed site).lifecycle) :
    ∃ final, guarded job process.executor (.of process.resident site) = (some answer, final) ∧
      final.2.gate = left.2.gate ∧ final.1.table = left.1.table ∧
      final.2.interrupt = left.2.interrupt ∧ final.2.lifecycle.state ≠ .running ∧
      ∀ code, left.2.interrupt.exitCode = some code → final.1.engine.isLive = false ∧
        final.2.fds = .empty ∧ final.2.lifecycle.state = .exited := by
  rcases left with ⟨executor, context⟩
  have began : job process.executor { SyscallContext.of process.resident site with
      lifecycle := (SyscallContext.of process.resident site).lifecycle.setRunning true } =
        (some answer, executor, context) := ended
  have goesOn : (SyscallContext.of process.resident site).lifecycle.isFinished = false := unfinished
  have rested : context.lifecycle.setRunning false =
      { process.resident.lifecycle with state := .ready } := by
    have working : context.lifecycle = process.resident.lifecycle.setRunning true := life
    rw [working, setRunning_of_unfinished unfinished, setRunning_of_unfinished rfl]
    rfl
  unfold guarded
  simp only [goesOn, began, rested, Bool.false_eq_true, if_false]
  cases asked : context.interrupt.exitCode with
  | none =>
    refine ⟨_, rfl, rfl, rfl, rfl, fun working => ?_, fun code given => ?_⟩
    · cases working
    · cases given
  | some code =>
    have ready : ({ process.resident.lifecycle with state := .ready } : Lifecycle).state = .ready := rfl
    simp only [tearDown, markExited_setRunning ready]
    refine ⟨_, rfl, rfl, rfl, rfl, fun working => ?_, fun _ _ => ⟨rfl, rfl, rfl⟩⟩
    cases working

/-- The process behind a job. -/
def behind (process : ScriptProcess) (work : Work) (site : Site) : ScriptProcess :=
  (process.run site work.job).2.1

/-- How a job ends in a process that takes it, with what it leaves. -/
def ending (process : ScriptProcess) (work : Work) (site : Site) :
    Executor.Answer (Except ProcessError work.Answer) :=
  work.job process.executor (process.handed site)

/-- **A job that answers settles its process**, whatever came before; it leaves no deadline where it found none. -/
theorem settled_of_answer (manned : process.Manned) (takes : process.Takes) {work : Work}
    (answered : (process.ending work site).1.isSome = true) :
    (process.behind work site).Settled ∧ (process.behind work site).Manned ∧
      (process.resident.interrupt.deadline = 0 →
        (process.behind work site).resident.interrupt.deadline = 0) := by
  have tidy : Job.Tidy process.executor (process.handed site) (process.ending work site) :=
    work.tidy manned.modest (process.handed site)
  obtain ⟨answer, here⟩ := Option.isSome_iff_exists.mp answered
  have ended : work.job process.executor (process.handed site) =
      (some answer, (process.ending work site).2) := Prod.ext here rfl
  obtain ⟨final, guarded, gate, table, interrupt, idle, exits⟩ :=
    guarded_of_answer takes.unfinished ended tidy.carried.lifecycle
  have free : final.2.gate.lastWaiting = false := by
    rw [gate, tidy.carried.gate]
    exact manned.unended
  unfold behind
  rw [run_of_takes takes site work.job guarded free]
  refine ⟨⟨idle, fun code asked => exits code ?_⟩, ⟨?_, free⟩, fun none => ?_⟩
  · rw [← interrupt]
    exact asked
  · show final.1.table.Modest
    rw [table]
    exact tidy.modest manned.modest
  · show final.2.interrupt.deadline = 0
    rw [interrupt]
    exact tidy.deadline answered none

/-- **A job that panics abandons its process.** -/
theorem abandoned_of_panic (manned : process.Manned) (takes : process.Takes) {work : Work}
    (panicked : (process.ending work site).1 = none) :
    process.Abandoned (process.ending work site).2 (process.behind work site) ∧
      (process.behind work site).Manned := by
  have tidy : Job.Tidy process.executor (process.handed site) (process.ending work site) :=
    work.tidy manned.modest (process.handed site)
  have ended : work.job process.executor (process.handed site) =
      (none, (process.ending work site).2) := Prod.ext panicked rfl
  have free : (process.ending work site).2.2.gate.lastWaiting = false := by
    rw [tidy.carried.gate]
    exact manned.unended
  have working : (process.ending work site).2.2.lifecycle =
      { process.resident.lifecycle with state := .running } :=
    tidy.carried.lifecycle.trans (setRunning_of_unfinished takes.unfinished true)
  unfold behind
  rw [run_of_takes takes site work.job (guarded_of_panic takes.unfinished ended) free]
  refine ⟨⟨?_, ?_, rfl, rfl, rfl⟩, tidy.modest manned.modest, free⟩
  · show (process.ending work site).2.2.lifecycle.state = .running
    rw [working]
  · show (process.ending work site).2.2.lifecycle.status = process.resident.lifecycle.status
    rw [working]

/-- No job takes from a process what the next one relies on. -/
theorem Manned.behind_job (manned : process.Manned) (work : Work) (site : Site) :
    (process.behind work site).Manned := by
  by_cases takes : process.Takes
  · cases ended : (process.ending work site).1 with
    | none => exact (abandoned_of_panic manned takes ended).2
    | some answer => exact (settled_of_answer manned takes (ended ▸ rfl)).2.1
  · unfold behind
    rwa [run_of_not_takes takes]

/-! ### Any number of jobs -/

/-- The process behind some jobs in turn, each at its site. -/
def behindAll (process : ScriptProcess) : List (Work × Site) → ScriptProcess
  | [] => process
  | (work, site) :: rest => (process.behind work site).behindAll rest

/-- None of some jobs in turn panics, of those that the process takes. -/
def AllAnswer (process : ScriptProcess) : List (Work × Site) → Prop
  | [] => True
  | (work, site) :: rest =>
    (process.Takes → (process.ending work site).1.isSome = true) ∧
      (process.behind work site).AllAnswer rest

theorem Manned.behind_jobs (manned : process.Manned) (jobs : List (Work × Site)) :
    (process.behindAll jobs).Manned := by
  induction jobs generalizing process with
  | nil => exact manned
  | cons job rest ih => exact ih (manned.behind_job job.1 job.2)

/-- **A job that does not panic keeps a process in order.** -/
theorem InOrder.behind_job (order : process.InOrder) (manned : process.Manned) {work : Work}
    (answers : process.Takes → (process.ending work site).1.isSome = true) :
    (process.behind work site).InOrder := by
  by_cases takes : process.Takes
  · obtain ⟨settled, -, deadline⟩ := settled_of_answer manned takes (answers takes)
    exact ⟨settled, deadline order.disarmed⟩
  · unfold behind
    rwa [run_of_not_takes takes]

theorem InOrder.behind_jobs (order : process.InOrder) (manned : process.Manned)
    {jobs : List (Work × Site)} (answers : process.AllAnswer jobs) :
    (process.behindAll jobs).InOrder := by
  induction jobs generalizing process with
  | nil => exact order
  | cons job rest ih =>
    exact ih (order.behind_job manned answers.1) (manned.behind_job job.1 job.2) answers.2

/-- **Jobs leave their process in order as long as they answer.** A process stays in order behind jobs none of which
panics. Whatever came before, the next job that answers settles the process; one that panics leaves it seen at work,
with the deadline of its script set, with its engine and its slots, and does not carry out the exit that was asked
for. -/
theorem order_of_jobs (manned : process.Manned) (order : process.InOrder)
    (jobs : List (Work × Site)) :
    (process.AllAnswer jobs → (process.behindAll jobs).InOrder) ∧
    ∀ (work : Work) (site : Site), (process.behindAll jobs).Takes →
      let ended := (process.behindAll jobs).ending work site
      let after := (process.behindAll jobs).behind work site
      (ended.1.isSome = true → after.Settled ∧
        ((process.behindAll jobs).resident.interrupt.deadline = 0 →
          after.resident.interrupt.deadline = 0)) ∧
      (ended.1 = none → (process.behindAll jobs).Abandoned ended.2 after ∧
        (work.isTimed = true →
          (after.resident.interrupt.deadline = 0 ↔
            (process.behindAll jobs).executor.callTimeout = none))) := by
  refine ⟨order.behind_jobs manned, fun work site takes => ⟨fun answered => ?_, fun panicked => ?_⟩⟩
  · obtain ⟨settled, -, deadline⟩ :=
      settled_of_answer (manned.behind_jobs jobs) takes answered
    exact ⟨settled, deadline⟩
  · obtain ⟨abandoned, -⟩ := abandoned_of_panic (manned.behind_jobs jobs) takes panicked
    refine ⟨abandoned, fun timed => ?_⟩
    rw [abandoned.interrupt]
    exact Work.deadline_of_panic (manned.behind_jobs jobs).modest timed panicked

/-! ### A host function that panics -/

/-- A host function that panics. -/
def boom : Syscall := ⟨"boom", fun _ context => (.panicked, context)⟩

/-- The standard host functions, and one that panics. -/
def brittleTable : SyscallTable := ⟨SyscallTable.standard.syscalls ++ [boom]⟩

theorem brittleTable_modest : brittleTable.Modest := by
  intro syscall bound
  rcases List.mem_append.mp bound with standard | last
  · exact SyscallTable.standard_modest syscall standard
  · rw [List.mem_singleton.mp last]
    exact fun _ context => .refl context

/-- A process whose script can make its host panic. -/
def brittle : ScriptProcess :=
  (start ⟨1, "main.js", [], []⟩ ⟨some 0⟩ brittleTable {} .single).1.toOption.get (by decide +kernel)

theorem brittle_started :
    (start ⟨1, "main.js", [], []⟩ ⟨some 0⟩ brittleTable {} .single).1 = .ok brittle :=
  eq_ok_get _ _

theorem brittle_manned : brittle.Manned := by
  have fresh := (start_ok brittle_started).1
  refine ⟨?_, ?_⟩
  · rw [fresh.table]
    exact brittleTable_modest
  · rw [fresh.resident]
    rfl

theorem brittle_takes : brittle.Takes := by
  have fresh := (start_ok brittle_started).1
  refine ⟨?_, ?_⟩
  · show brittle.resident.isAlive = true
    rw [fresh.resident]
    rfl
  · rw [fresh.resident]
    rfl

theorem brittle_inOrder : brittle.InOrder := by
  have fresh := (start_ok brittle_started).1
  refine ⟨⟨?_, fun code asked => ?_⟩, ?_⟩
  · show brittle.resident.lifecycle.state ≠ .running
    rw [fresh.resident]
    exact nofun
  · rw [fresh.interrupt] at asked
    cases asked
  · rw [fresh.interrupt]

/-- Loading a script that uses a slot and asks to exit while the arguments of the host function that panics are made. -/
def brittleWork : Work :=
  .load ⟨fun _ => .ok ("boom(\x7b toJSON: function () \x7b write(3, 'kept'); " ++
    "try \x7b exit(5); \x7d catch (e) \x7b\x7d return 1; \x7d \x7d);")⟩ "main.js"

set_option maxRecDepth 100000 in
/-- A script that makes its host panic leaves its deadline set. -/
theorem order_of_brittle :
    brittle.Manned ∧ brittle.InOrder ∧ brittle.Takes ∧
      brittle.Abandoned (brittle.ending brittleWork .single).2 (brittle.behind brittleWork .single) ∧
      (brittle.behind brittleWork .single).resident.interrupt.deadline ≠ 0 := by
  have panicked : (brittle.ending brittleWork .single).1 = none := by
    refine Option.not_isSome_iff_eq_none.mp ?_
    decide +kernel
  obtain ⟨-, next⟩ := order_of_jobs brittle_manned brittle_inOrder []
  simp only [behindAll] at next
  obtain ⟨abandoned, deadline⟩ := (next brittleWork .single brittle_takes).2 panicked
  refine ⟨brittle_manned, brittle_inOrder, brittle_takes, abandoned, fun unset => ?_⟩
  have unlimited : brittle.executor.callTimeout = none := (deadline rfl).mp unset
  rw [(start_ok brittle_started).1.callTimeout] at unlimited
  cases unlimited

set_option maxRecDepth 100000 in
/-- **A job that panics leaves its process seen at work**, with its deadline set, and with the engine and the slots
although an exit was asked for. -/
theorem exit_left_undone :
    (brittle.ending brittleWork .single).1.isSome = false ∧
      (brittle.behind brittleWork .single).state = .running ∧
      (brittle.behind brittleWork .single).resident.interrupt.deadline ≠ 0 ∧
      (brittle.behind brittleWork .single).resident.interrupt.exitCode = some 5 ∧
      (brittle.behind brittleWork .single).executor.engine.isLive = true ∧
      (brittle.behind brittleWork .single).resident.fds.get 3 = "kept" := by
  decide +kernel

end ScriptProcess

end ScriptKernel
