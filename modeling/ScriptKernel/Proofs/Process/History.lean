/-
**Histories of a process.**

* `Turn`, `History`: operations on a process in turn, with anything going on around it in between;
* `Turn.Asks`: the exit codes that are asked for in a turn;
* `Standing.perform`, `History.standing`: one operation keeps a process standing, and so does every history;
* `ScriptProcess.Consistent`: **state, engine, slots, status and exit codes of a process agree**, and its host
  functions are those it was built with;
* `process_consistent`: so they do after every history of every process that has come up.
-/

import ScriptKernel.Proofs.Process.Operation
import ScriptKernel.Proofs.Syscall.Standard
import Mathlib.Data.List.Forall2

set_option autoImplicit false

namespace ScriptKernel

open ScriptProcess (Execution Standing)

/-- An operation with the process and the site it begins with. -/
structure Turn where
  operation : Operation
  process : ScriptProcess
  site : Site

/-- The process and the site after a turn. -/
def Turn.after (turn : Turn) : ScriptProcess × Site := turn.operation.perform turn.process turn.site

/-- **The exit codes that are asked for in a turn**, in order. -/
def Turn.Asks (turn : Turn) (codes : List ExitCode) : Prop :=
  Interrupt.Asked turn.process.resident.interrupt codes turn.after.1.resident.interrupt

/-- **Operations on a process in turn.** Between two of them the site may change, in any way that is allowed. -/
inductive History (between : ScriptProcess → Site → Site → Prop) (process : ScriptProcess)
    (site : Site) : List Turn → ScriptProcess → Site → Prop
  | start : History between process site [] process site
  | turn {turns : List Turn} {now : ScriptProcess} {here : Site} (operation : Operation) :
      History between process site turns now here →
      History between process site (turns ++ [⟨operation, now, here⟩])
        (operation.perform now here).1 (operation.perform now here).2
  | meanwhile {turns : List Turn} {now : ScriptProcess} {here there : Site} :
      History between process site turns now here → between now here there →
      History between process site turns now there

namespace ScriptProcess

variable {table : SyscallTable} {process : ScriptProcess} {site : Site}

/-! ### One operation -/

/-- After a job a process is ready, or it has exited. -/
theorem stage_afterwards (ready : process.Ready) {left : Executor × SyscallContext}
    (keeps : process.executor.Keeps (process.handed site) left) :
    (process.afterwards left).1.Ready ∨
      (process.afterwards left).1.resident.lifecycle.hasExitStatus = true := by
  cases goes : left.2.interrupt.exitCode with
  | none => exact .inl (ready.afterwards keeps goes)
  | some code =>
    rw [afterwards_some goes]
    exact .inr rfl

theorem Standing.recordFailures (standing : process.Standing table)
    (stage : process.Ready ∨ process.resident.lifecycle.hasExitStatus = true) (site : Site)
    (errors : List ScriptError) : (process.recordFailures site errors).1.Standing table := by
  rcases stage with ready | exited
  · exact (recordFailures_ready standing ready site errors).1
  · obtain ⟨sink, result, -⟩ := recordFailures_exited exited site errors
    rw [result]
    exact standing

theorem Standing.conclude (standing : process.Standing table)
    (stage : process.Ready ∨ process.resident.lifecycle.hasExitStatus = true) (site : Site)
    (execution : Execution) : (process.conclude site execution).1.Standing table := by
  have recorded := standing.recordFailures stage site execution.errors
  rw [conclude_eq]
  split
  · exact (recorded.terminate _).1
  · exact recorded

theorem lasting_conclude (standing : process.Standing table)
    (stage : process.Ready ∨ process.resident.lifecycle.hasExitStatus = true) (site : Site)
    (execution : Execution) : Lasting process (process.conclude site execution).1 := by
  have recorded := standing.recordFailures stage site execution.errors
  have lasting := lasting_recordFailures process site execution.errors
  rw [conclude_eq]
  split
  · exact lasting.trans (lasting_terminate recorded _)
  · exact lasting

/-- The consequences of an execution ask for no exit. -/
theorem asked_conclude (standing : process.Standing table)
    (stage : process.Ready ∨ process.resident.lifecycle.hasExitStatus = true) (site : Site)
    (execution : Execution) :
    Interrupt.Asked process.resident.interrupt []
      (process.conclude site execution).1.resident.interrupt := by
  have recorded := standing.recordFailures stage site execution.errors
  have same := interrupt_recordFailures process site execution.errors
  rw [conclude_eq, ← same]
  split
  · exact asked_terminate recorded _
  · exact .start _

theorem exitCode_conclude (standing : process.Standing table)
    (stage : process.Ready ∨ process.resident.lifecycle.hasExitStatus = true) (site : Site)
    (execution : Execution) :
    (process.conclude site execution).1.resident.interrupt.exitCode =
      process.resident.interrupt.exitCode :=
  (asked_conclude standing stage site execution).exitCode_eq_of_nil

/-- **No operation changes what never changes.** -/
theorem Standing.lasting (standing : process.Standing table) (calm : table.Calm)
    (modest : table.Modest) (operation : Operation) (site : Site) :
    Lasting process (operation.perform process site).1 := by
  rcases standing.stage with ready | ended
  · have deed := deed_of_ready standing ready calm modest operation site
    generalize operation.perform process site = after at deed ⊢
    generalize operation.errors process site = errors at deed
    cases deed with
    | unknown number => exact .refl process
    | settings name value => exact ⟨rfl, rfl, rfl, rfl, rfl, rfl⟩
    | job _ left sink _ other keeps => exact lasting_afterwards keeps
    | unhandled number left keeps =>
      exact (lasting_afterwards keeps).trans
        (lasting_terminate (standing.afterwards ready keeps) _)
    | ended => exact lasting_terminate standing site
    | execution files left execution keeps =>
      exact (lasting_afterwards keeps).trans (lasting_conclude (standing.afterwards ready keeps)
        (stage_afterwards ready keeps) _ execution)
  · exact (perform_ended standing ended operation site).1.lasting

/-- **An operation asks for the exits that are asked for during its job.** -/
theorem Standing.asks (standing : process.Standing table) (calm : table.Calm)
    (modest : table.Modest) (operation : Operation) (site : Site) :
    ∃ codes, Turn.Asks ⟨operation, process, site⟩ codes := by
  unfold Turn.Asks Turn.after
  rcases standing.stage with ready | ended
  · have deed := deed_of_ready standing ready calm modest operation site
    have during {left : Executor × SyscallContext}
        (keeps : process.executor.Keeps (process.handed site) left) : ∃ codes,
          Interrupt.Asked process.resident.interrupt codes
            (process.afterwards left).1.resident.interrupt := by
      rw [interrupt_afterwards]
      exact keeps.carried.asked
    generalize operation.perform process site = after at deed ⊢
    generalize operation.errors process site = errors at deed
    cases deed with
    | unknown number => exact ⟨[], .start _⟩
    | settings name value => exact ⟨[], .start _⟩
    | job _ left sink _ other keeps => exact during keeps
    | unhandled number left keeps =>
      obtain ⟨codes, asked⟩ := during keeps
      exact ⟨codes ++ [], asked.trans (asked_terminate (standing.afterwards ready keeps) _)⟩
    | ended => exact ⟨[], asked_terminate standing site⟩
    | execution files left execution keeps =>
      obtain ⟨codes, asked⟩ := during keeps
      exact ⟨codes ++ [], asked.trans (asked_conclude (standing.afterwards ready keeps)
        (stage_afterwards ready keeps) _ execution)⟩
  · exact ⟨[], (perform_ended standing ended operation site).1.asked⟩

/-- **Every operation keeps a process standing.** -/
theorem Standing.perform (standing : process.Standing table) (calm : table.Calm)
    (modest : table.Modest) (operation : Operation) (site : Site) :
    (operation.perform process site).1.Standing table := by
  rcases standing.stage with ready | ended
  · have deed := deed_of_ready standing ready calm modest operation site
    generalize operation.perform process site = after at deed ⊢
    generalize operation.errors process site = errors at deed
    cases deed with
    | unknown number => exact standing
    | settings name value => exact standing.setVariable name value
    | job _ left sink _ other keeps => exact standing.afterwards ready keeps
    | unhandled number left keeps => exact ((standing.afterwards ready keeps).terminate _).1
    | ended => exact (standing.terminate site).1
    | execution files left execution keeps =>
      exact (standing.afterwards ready keeps).conclude (stage_afterwards ready keeps) _ execution
  · exact (perform_ended standing ended operation site).1.standing

end ScriptProcess

/-! ### Any number of operations -/

section

variable {between : ScriptProcess → Site → Site → Prop} {table : SyscallTable}
  {process now : ScriptProcess} {site here : Site} {turns : List Turn}

/-- **Every process in a history stands.** -/
theorem History.standing (history : History between process site turns now here)
    (standing : process.Standing table) (calm : table.Calm) (modest : table.Modest) :
    now.Standing table := by
  induction history with
  | start => exact standing
  | turn operation _ ih => exact ih.perform calm modest operation _
  | meanwhile _ _ ih => exact ih

/-- **No history changes what never changes.** -/
theorem History.lasting (history : History between process site turns now here)
    (standing : process.Standing table) (calm : table.Calm) (modest : table.Modest) :
    ScriptProcess.Lasting process now := by
  induction history with
  | start => exact .refl process
  | turn operation history ih =>
    exact ih.trans ((history.standing standing calm modest).lasting calm modest operation _)
  | meanwhile _ _ ih => exact ih

/-- Every turn of a history begins where another history ends. -/
theorem History.of_mem (history : History between process site turns now here) {turn : Turn}
    (taken : turn ∈ turns) :
    ∃ earlier, History between process site earlier turn.process turn.site := by
  induction history with
  | start => cases taken
  | @turn turns now here operation history ih =>
    rcases List.mem_append.mp taken with before | last
    · exact ih before
    · rw [List.mem_singleton.mp last]
      exact ⟨turns, history⟩
  | meanwhile _ _ ih => exact ih taken

/-- **Exit codes are asked for in every turn of a history.** -/
theorem History.asks (history : History between process site turns now here)
    (standing : process.Standing table) (calm : table.Calm) (modest : table.Modest) :
    ∃ asked, List.Forall₂ Turn.Asks turns asked := by
  induction history with
  | start => exact ⟨[], .nil⟩
  | turn operation history ih =>
    obtain ⟨asked, each⟩ := ih
    obtain ⟨codes, last⟩ := (history.standing standing calm modest).asks calm modest operation _
    exact ⟨asked ++ [codes], List.rel_append each (.cons last .nil)⟩
  | meanwhile _ _ ih => exact ih

/-- The codes of the last turn stand last. -/
theorem Turn.asks_last {last : Turn} {asked : List (List ExitCode)}
    (each : List.Forall₂ Turn.Asks (turns ++ [last]) asked) :
    ∃ before codes, asked = before ++ [codes] ∧ List.Forall₂ Turn.Asks turns before ∧
      last.Asks codes := by
  -- read backwards, the last turn stands first
  rw [← List.forall₂_reverse_iff, List.reverse_append] at each
  obtain ⟨codes, others, asks, rest, split⟩ := List.forall₂_cons_left_iff.mp each
  rw [List.reverse_eq_iff, List.reverse_cons] at split
  refine ⟨others.reverse, codes, split, ?_, asks⟩
  rw [← List.forall₂_reverse_iff, List.reverse_reverse]
  exact rest

/-- **The codes of all turns are those that were asked for from the beginning to the end.** -/
theorem History.asked (history : History between process site turns now here)
    {asked : List (List ExitCode)} (each : List.Forall₂ Turn.Asks turns asked) :
    Interrupt.Asked process.resident.interrupt asked.flatten now.resident.interrupt := by
  induction history generalizing asked with
  | start =>
    cases each
    exact .start _
  | turn operation _ ih =>
    obtain ⟨before, codes, rfl, earlier, asks⟩ := Turn.asks_last each
    rw [List.flatten_append, List.flatten_singleton]
    exact (ih earlier).trans asks
  | meanwhile _ _ ih => exact ih each

end

/-! ### Consistency -/

/-- **State, engine, slots, status and exit codes of a process agree.** The exit codes are those that were asked
for since the process came up, in order; the first of them is the one that counts. -/
structure ScriptProcess.Consistent (table : SyscallTable) (codes : List ExitCode)
    (process : ScriptProcess) : Prop where
  state : process.state = .ready ∨ process.state = .exited ∨ process.state = .terminated
  live : process.executor.engine.isLive = true ↔ process.state = .ready
  slots : process.state = .exited ∨ process.state = .terminated →
    ∀ fd, process.resident.fds.get fd = ""
  exited : process.state = .exited ↔ ∃ code, process.status = .exited code
  first : ∀ code, process.status = .exited code ↔ codes.head? = some code
  symbols : process.symbols = table.names

namespace ScriptProcess

variable {table : SyscallTable} {process : ScriptProcess} {codes : List ExitCode}

/-- A status that is no exit is none for any code. -/
theorem status_ne_exited (unexited : process.resident.lifecycle.hasExitStatus = false)
    (code : ExitCode) : process.status ≠ .exited code := by
  intro same
  unfold Lifecycle.hasExitStatus at unexited
  rw [show process.resident.lifecycle.status = .exited code from same] at unexited
  cases unexited

/-- The code that counts is the first that was asked for. -/
theorem exitCode_eq_head? (asked : Interrupt.Asked {} codes process.resident.interrupt) :
    process.resident.interrupt.exitCode = codes.head? := by
  rw [asked.exitCode_eq]
  exact Option.none_or

/-- **A process that stands is consistent.** -/
theorem Standing.consistent (standing : process.Standing table)
    (asked : Interrupt.Asked {} codes process.resident.interrupt) :
    process.Consistent table codes := by
  have first := exitCode_eq_head? asked
  rcases standing.stage with ready | ended
  · have state : process.state = .ready := ready.state
    have unexited := status_ne_exited ready.unexited
    refine ⟨.inl state, ⟨fun _ => state, fun _ => ready.sound.isLive⟩, ?_, ?_, ?_,
      standing.symbols⟩
    · rw [state]
      rintro (finished | finished) <;> cases finished
    · rw [state]
      exact ⟨nofun, fun ⟨code, exited⟩ => absurd exited (unexited code)⟩
    · intro code
      rw [← first, ready.unasked]
      exact ⟨fun exited => absurd exited (unexited code), nofun⟩
  · have slots (fd : Fd) : process.resident.fds.get fd = "" := by
      rw [ended.slots]
      exact FdTable.get_empty fd
    rcases ended.outcome with ⟨final, state, status, held⟩ | ⟨state, unexited, held⟩
    · have state : process.state = .exited := state
      have status : process.status = .exited final := status
      refine ⟨.inr (.inl state), ?_, fun _ => slots, ⟨fun _ => ⟨final, status⟩, fun _ => state⟩, ?_,
        standing.symbols⟩
      · rw [ended.engine, state]
        exact ⟨nofun, nofun⟩
      · intro code
        rw [← first, held, status]
        exact ⟨fun same => congrArg some (ExitStatus.exited.inj same),
          fun same => congrArg ExitStatus.exited (Option.some.inj same)⟩
    · have state : process.state = .terminated := state
      have unexited := status_ne_exited unexited
      refine ⟨.inr (.inr state), ?_, fun _ => slots, ?_, ?_, standing.symbols⟩
      · rw [ended.engine, state]
        exact ⟨nofun, nofun⟩
      · rw [state]
        exact ⟨nofun, fun ⟨code, exited⟩ => absurd exited (unexited code)⟩
      · intro code
        rw [← first, held]
        exact ⟨fun exited => absurd exited (unexited code), nofun⟩

/-- Nothing has been asked of a process that has just come up. -/
theorem Fresh.interrupt {spec : ProcessSpec} {terminal : TerminalRef} {config : KernelConfig}
    (fresh : process.Fresh spec terminal table config) : process.resident.interrupt = {} := by
  rw [fresh.resident]
  rfl

end ScriptProcess

/-- A process that has come up is consistent with the codes of all turns. -/
theorem History.consistent {spec : ProcessSpec} {terminal : TerminalRef} {table : SyscallTable}
    {config : KernelConfig} {process now : ScriptProcess}
    {between : ScriptProcess → Site → Site → Prop} {site here : Site} {turns : List Turn}
    (history : History between process site turns now here)
    (fresh : process.Fresh spec terminal table config) (calm : table.Calm) (modest : table.Modest)
    {asked : List (List ExitCode)} (each : List.Forall₂ Turn.Asks turns asked) :
    now.Consistent table asked.flatten :=
  (history.standing fresh.standing calm modest).consistent
    (fresh.interrupt ▸ history.asked each)

/-- **Every process is consistent after every history.** It has come up with any specification, table of host
functions and configuration; the host functions keep to what they are handed and do not panic. -/
theorem process_consistent {spec : ProcessSpec} {terminal : TerminalRef} {table : SyscallTable}
    {config : KernelConfig} {origin : Site} {process : ScriptProcess} (calm : table.Calm)
    (modest : table.Modest)
    (started : (ScriptProcess.start spec terminal table config origin).1 = .ok process)
    {between : ScriptProcess → Site → Site → Prop} {site : Site} {turns : List Turn}
    {now : ScriptProcess} {here : Site} (history : History between process site turns now here) :
    (∃ asked, List.Forall₂ Turn.Asks turns asked) ∧
      ∀ asked, List.Forall₂ Turn.Asks turns asked → now.Consistent table asked.flatten := by
  have fresh := (ScriptProcess.start_ok started).1
  exact ⟨history.asks fresh.standing calm modest,
    fun _ each => history.consistent fresh calm modest each⟩

/-- A site with one terminal. -/
def Site.single : Site := { terminals := ⟨#[some {}]⟩ }

/-- A process with the standard host functions at the only terminal. -/
def ScriptProcess.single : ScriptProcess :=
  (start ⟨1, "main.js", [], []⟩ ⟨some 0⟩ .standard {} .single).1.toOption.get (by decide +kernel)

/-- A success is the value it holds. -/
theorem eq_ok_get {α ε : Type} (answer : Except ε α) (held : answer.toOption.isSome) :
    answer = .ok (answer.toOption.get held) := by
  cases answer with
  | error error => cases held
  | ok value => rfl

theorem ScriptProcess.single_started :
    (start ⟨1, "main.js", [], []⟩ ⟨some 0⟩ .standard {} .single).1 = .ok single :=
  eq_ok_get _ _

/-- The process after a call of the host function that asks to exit. -/
theorem exited_process_consistent : ∃ turns now here,
    History (fun _ _ _ => True) ScriptProcess.single Site.single turns now here ∧
      now.state = .exited ∧ (∃ asked, List.Forall₂ Turn.Asks turns asked) ∧
      ∀ asked, List.Forall₂ Turn.Asks turns asked → now.Consistent .standard asked.flatten := by
  have history : History (fun _ _ _ => True) ScriptProcess.single Site.single _ _ _ :=
    History.start.turn (.invoke "exit" [Json.nat 3])
  refine ⟨_, _, _, history, by decide +kernel, ?_⟩
  exact process_consistent SyscallTable.standard_calm SyscallTable.standard_modest
    ScriptProcess.single_started history

end ScriptKernel
