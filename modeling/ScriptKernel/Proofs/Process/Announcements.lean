/-
**What the terminal of a process hears.**

* `round`: what an execution announces: that it has begun, and its failures;
* `Turn.Contributes`: **what one operation adds**: a round if it is an execution, the end of the process if it
  ends then, nothing if it is refused; where an exit was asked for, that exit and no failure;
* `Announced`: rounds of at most two failures each, and at most one end behind them;
* `announcements`: **so it is with every history of every process**: each operation adds its own, in order.
-/

import ScriptKernel.Proofs.Process.History

set_option autoImplicit false

namespace ScriptKernel

open ScriptProcess (Deed Execution Standing faultEvents)

/-- What an execution announces: that it has begun, and its failures. -/
def round (faults : List String) : List ProcessEvent := .started :: faults.map .faulted

/-- Whether a turn is an execution of a process that takes work. -/
def Turn.executes (turn : Turn) : Bool := turn.operation.isExecution && turn.process.isAlive

/-- **What the terminal hears of one operation.** -/
structure Operation.Contributes (operation : Operation) (process : ScriptProcess) (site : Site)
    (after : ScriptProcess × Site) (events : List ProcessEvent) : Prop where
  heard : after.1.heard after.2 = (process.heard site).map fun before => before ++ events
  refused : process.isAlive = false → events = []
  executed : operation.isExecution = true → process.isAlive = true →
    ∃ faults final, events = round faults ++ Option.toList final ∧ faults.length ≤ 2 ∧
      ∀ event ∈ final, event.IsEnd
  exited : process.isAlive = true → ∀ code, after.1.resident.interrupt.exitCode = some code →
    events = (if operation.isExecution then [.started] else []) ++ [.exited code]
  other : operation.isExecution = false →
    ∃ final, events = Option.toList final ∧ ∀ event ∈ final, event.IsEnd

/-- What the terminal hears of a turn. -/
def Turn.Contributes (turn : Turn) (events : List ProcessEvent) : Prop :=
  turn.operation.Contributes turn.process turn.site turn.after events

/-- **Rounds, and at most one end behind them.** -/
def Announced (rounds : Nat) (final : Option ProcessEvent) (events : List ProcessEvent) : Prop :=
  (∃ faults : List (List String), faults.length = rounds ∧ (∀ each ∈ faults, each.length ≤ 2) ∧
    events = faults.flatMap round ++ final.toList) ∧ ∀ event ∈ final, event.IsEnd

namespace ScriptProcess

variable {table : SyscallTable} {process : ScriptProcess} {site : Site}

/-! ### One operation on a ready process -/

/-- An execution has at most two errors. -/
theorem Execution.errors_length (execution : Execution) : execution.errors.length ≤ 2 := by
  rcases execution with ⟨_ | _, _ | _ | _⟩
  all_goals exact by simp [Execution.errors]

theorem faultEvents_eq (errors : List ScriptError) :
    faultEvents errors =
      ((ScriptError.failures errors).map fun error => error.message).map ProcessEvent.faulted := by
  rw [List.map_map]
  rfl

/-- The failures of an execution are at most two. -/
theorem Execution.failures_length (execution : Execution) :
    ((ScriptError.failures execution.errors).map fun error => error.message).length ≤ 2 := by
  rw [List.length_map]
  exact Nat.le_trans (List.length_filter_le _ _) execution.errors_length

/-- The end from outside is an end. -/
theorem isEnd_terminated : ∀ event ∈ some ProcessEvent.terminated, event.IsEnd := by
  rintro event ⟨⟩
  exact .inl rfl

/-- An exit that was asked for is an end. -/
theorem isEnd_exit {asked : Option ExitCode} :
    ∀ event ∈ asked.map ProcessEvent.exited, event.IsEnd := by
  cases asked with
  | none => exact nofun
  | some code =>
    rintro event ⟨⟩
    exact .inr ⟨code, rfl⟩

/-- A process that has ended is not ready. -/
theorem Ended.not_ready (ended : process.Ended) : ¬ process.Ready := by
  intro ready
  have alive := ready.isAlive
  rw [ended.isAlive] at alive
  cases alive

/-- **An execution that goes on** announces its failures, and perhaps the end they lead to. -/
theorem heard_conclude_ready (standing : process.Standing table) (ready : process.Ready)
    (site : Site) (execution : Execution) :
    ∃ final : Option ProcessEvent, (∀ event ∈ final, event.IsEnd) ∧
      (process.conclude site execution).1.heard (process.conclude site execution).2 =
        (process.heard site).map (fun events =>
          events ++ (faultEvents execution.errors ++ final.toList)) ∧
      ((process.conclude site execution).1.Ready → final = none) := by
  obtain ⟨standing', recorded⟩ := recordFailures_ready standing ready site execution.errors
  rw [conclude_eq]
  split
  · have finished := (standing'.terminate (process.recordFailures site execution.errors).2).2
    refine ⟨some .terminated, isEnd_terminated, ?_, fun again => absurd again finished.not_ready⟩
    rw [heard_terminate standing' recorded.ready, recorded.heard, map_append_append]
    rfl
  · refine ⟨none, nofun, ?_, fun _ => rfl⟩
    rw [recorded.heard]
    simp only [Option.toList_none, List.append_nil]

/-- **An execution that ends with an exit** announces nothing more. -/
theorem heard_conclude_exited (standing : process.Standing table) (ended : process.Ended)
    (exited : process.resident.lifecycle.hasExitStatus = true) (site : Site)
    (execution : Execution) :
    (process.conclude site execution).1.heard (process.conclude site execution).2 =
        process.heard site ∧
      (process.conclude site execution).1.Ended := by
  obtain ⟨sink, result, -⟩ := recordFailures_exited exited site execution.errors
  rw [conclude_eq, result]
  split
  · have unmoved := Unmoved.terminate standing ended { site with sink }
    exact ⟨unmoved.heard, unmoved.ended⟩
  · exact ⟨rfl, ended⟩

/-- An operation that is no execution adds at most the end of the process. -/
theorem contributes_final (ready : process.Ready) {operation : Operation}
    (other : operation.isExecution = false) {after : ScriptProcess × Site}
    {final : Option ProcessEvent} (ends : ∀ event ∈ final, event.IsEnd)
    (exited : ∀ code, after.1.resident.interrupt.exitCode = some code → final = some (.exited code))
    (heard : after.1.heard after.2 =
      (process.heard site).map fun before => before ++ final.toList) :
    operation.Contributes process site after final.toList := by
  refine ⟨heard, fun dead => ?_, fun execution => ?_, fun _ code asked => ?_,
    fun _ => ⟨final, rfl, ends⟩⟩
  · rw [ready.isAlive] at dead
    cases dead
  · rw [other] at execution
    cases execution
  · rw [exited code asked, other]
    rfl

/-- A process that is ready after a job was not asked to exit. -/
theorem unasked_of_ready {left : Executor × SyscallContext}
    (ready : (process.afterwards left).1.Ready) : left.2.interrupt.exitCode = none := by
  cases goes : left.2.interrupt.exitCode with
  | none => rfl
  | some code => exact absurd ready (ended_afterwards goes).not_ready

/-- **What an execution of a ready process contributes**: its round, and the end that follows. -/
theorem execution_contributes (standing : process.Standing table) (ready : process.Ready)
    {left : Executor × SyscallContext} (keeps : process.executor.Keeps (process.handed site) left)
    (announced : left.2.heard = (process.heard site).map fun events => events ++ [.started])
    (files : FileSystem) (execution : Execution) :
    ∃ faults final, (Operation.execute files).Contributes process site
        ((process.afterwards left).1.conclude (process.afterwards left).2 execution)
        (round faults ++ Option.toList final) ∧ faults.length ≤ 2 ∧
      (∀ event ∈ final, event.IsEnd) ∧
      (((process.afterwards left).1.conclude (process.afterwards left).2 execution).1.Ready →
        final = none) := by
  have standing' := standing.afterwards ready keeps
  have heard := heard_afterwards standing keeps
  rw [announced] at heard
  have alive (dead : process.isAlive = false) : False := by
    rw [ready.isAlive] at dead
    cases dead
  have exitCode := exitCode_conclude standing' (stage_afterwards ready keeps)
    (process.afterwards left).2 execution
  rw [interrupt_afterwards] at exitCode
  cases goes : left.2.interrupt.exitCode with
  | none =>
    obtain ⟨final, ends, concluded, quiet⟩ := heard_conclude_ready standing'
      (ready.afterwards keeps goes) (process.afterwards left).2 execution
    refine ⟨_, final, ⟨?_, fun dead => (alive dead).elim,
      fun _ _ => ⟨_, final, rfl, execution.failures_length, ends⟩, ?_, nofun⟩,
      execution.failures_length, ends, quiet⟩
    · rw [concluded, heard, goes, map_append_append, map_append_append]
      unfold round
      rw [← faultEvents_eq]
      rfl
    · intro _ code asked
      rw [exitCode, goes] at asked
      cases asked
  | some code =>
    have ends : ∀ event ∈ (some code).map ProcessEvent.exited, event.IsEnd := isEnd_exit
    have ended : (process.afterwards left).1.Ended := ended_afterwards goes
    have exited : (process.afterwards left).1.resident.lifecycle.hasExitStatus = true := by
      rw [afterwards_some goes]
      rfl
    obtain ⟨concluded, finished⟩ :=
      heard_conclude_exited standing' ended exited (process.afterwards left).2 execution
    refine ⟨[], some (.exited code), ⟨?_, fun dead => (alive dead).elim,
      fun _ _ => ⟨[], some (.exited code), rfl, Nat.zero_le 2, ?_⟩, ?_, nofun⟩, Nat.zero_le 2, ?_, ?_⟩
    · rw [concluded, heard, goes, map_append_append]
      rfl
    · exact ends
    · intro _ other asked
      rw [exitCode, goes] at asked
      cases asked
      rfl
    · exact ends
    · intro again
      exact absurd again finished.not_ready

/-- **What any operation on a ready process contributes.** -/
theorem ready_contributes (standing : process.Standing table) (ready : process.Ready)
    (calm : table.Calm) (modest : table.Modest) (discreet : table.Discreet)
    (operation : Operation) (site : Site) :
    ∃ final events, operation.Contributes process site (operation.perform process site) events ∧
      Announced operation.isExecution.toNat final events ∧
      ((operation.perform process site).1.Ready → final = none) := by
  have discreet' : process.executor.table.Discreet := standing.table ▸ discreet
  have once (final : Option ProcessEvent) {operation : Operation}
      (other : operation.isExecution = false) {after : ScriptProcess × Site}
      (ends : ∀ event ∈ final, event.IsEnd)
      (exited : ∀ code, after.1.resident.interrupt.exitCode = some code → final = some (.exited code))
      (heard : after.1.heard after.2 = (process.heard site).map fun before => before ++ final.toList)
      (quiet : after.1.Ready → final = none) :
      ∃ final events, operation.Contributes process site after events ∧
        Announced operation.isExecution.toNat final events ∧ (after.1.Ready → final = none) :=
    ⟨final, final.toList, contributes_final ready other ends exited heard,
      ⟨⟨[], other ▸ rfl, nofun, rfl⟩, ends⟩, quiet⟩
  have silent : (process.heard site).map (fun before => before ++ (none : Option ProcessEvent).toList) =
      process.heard site := by
    simp only [Option.toList_none, List.append_nil, Option.map_id']
  have unasked (final : Option ProcessEvent) (code : ExitCode)
      (asked : process.resident.interrupt.exitCode = some code) : final = some (.exited code) := by
    rw [ready.unasked] at asked
    cases asked
  have deed := deed_of_ready standing ready calm modest operation site
  generalize operation.perform process site = after at deed ⊢
  generalize operation.errors process site = errors at deed
  cases deed with
  | unknown number => exact once none rfl nofun (unasked none) silent.symm fun _ => rfl
  | settings name value => exact once none rfl nofun (unasked none) silent.symm fun _ => rfl
  | job _ left sink _ other keeps quiet =>
    refine once (left.2.interrupt.exitCode.map .exited) other isEnd_exit (fun code asked => ?_) ?_ ?_
    · rw [interrupt_afterwards] at asked
      rw [asked]
      rfl
    · have heard := heard_afterwards standing keeps
      rw [quiet discreet'] at heard
      exact heard
    · intro again
      rw [unasked_of_ready again]
      rfl
  | unhandled number left keeps quiet =>
    have standing' := standing.afterwards ready keeps
    have heard := heard_afterwards standing keeps
    rw [quiet discreet'] at heard
    have finished := (standing'.terminate (process.afterwards left).2).2
    cases goes : left.2.interrupt.exitCode with
    | none =>
      refine once (some .terminated) rfl isEnd_terminated (fun code asked => ?_) ?_
        fun again => absurd again finished.not_ready
      · rw [exitCode_terminate standing', interrupt_afterwards, goes] at asked
        cases asked
      · rw [heard_terminate standing' (ready.afterwards keeps goes), heard, goes, map_append_append]
        rfl
    | some code =>
      refine once ((some code).map .exited) rfl isEnd_exit (fun other asked => ?_) ?_
        fun again => absurd again finished.not_ready
      · rw [exitCode_terminate standing', interrupt_afterwards, goes] at asked
        cases asked
        rfl
      · rw [heard_terminate_ended (ended_afterwards goes), heard, goes]
  | ended _ other =>
    refine once (some .terminated) other isEnd_terminated (fun code asked => ?_)
      (heard_terminate standing ready site)
      fun again => absurd again (standing.terminate site).2.not_ready
    rw [exitCode_terminate standing] at asked
    exact unasked _ code asked
  | execution files left execution keeps announced =>
    obtain ⟨faults, final, contributes, few, ends, quiet⟩ :=
      execution_contributes standing ready keeps (announced discreet') files execution
    refine ⟨final, _, contributes, ⟨⟨[faults], rfl, ?_, ?_⟩, ends⟩, quiet⟩
    · intro each here
      rw [List.mem_singleton.mp here]
      exact few
    · rw [List.flatMap_cons, List.flatMap_nil, List.append_nil]

/-- An operation on a process that has ended contributes nothing. -/
theorem ended_contributes (standing : process.Standing table) (ended : process.Ended)
    (operation : Operation) (site : Site) :
    operation.Contributes process site (operation.perform process site) [] := by
  have unmoved := (perform_ended standing ended operation site).1
  have dead (alive : process.isAlive = true) : False := by
    rw [ended.isAlive] at alive
    cases alive
  refine ⟨?_, fun _ => rfl, fun _ alive => (dead alive).elim, fun alive => (dead alive).elim,
    fun _ => ⟨none, rfl, nofun⟩⟩
  rw [unmoved.heard]
  simp only [List.append_nil, Option.map_id']

end ScriptProcess

/-! ### Any number of operations -/

/-- Rounds and an end, behind other rounds. -/
theorem Announced.append {first second : Nat} {final : Option ProcessEvent}
    {before after : List ProcessEvent} (rounds : Announced first none before)
    (further : Announced second final after) : Announced (first + second) final (before ++ after) := by
  obtain ⟨⟨faults, count, few, rfl⟩, -⟩ := rounds
  obtain ⟨⟨others, count', few', rfl⟩, ends⟩ := further
  refine ⟨⟨faults ++ others, ?_, ?_, ?_⟩, ends⟩
  · rw [List.length_append, count, count']
  · intro each here
    rcases List.mem_append.mp here with here | here
    · exact few each here
    · exact few' each here
  · rw [List.flatMap_append, Option.toList_none, List.append_nil, List.append_assoc]

/-- Other things that happen at the site leave what the terminal has heard of a process as it was. -/
def Unheard (now : ScriptProcess) (here there : Site) : Prop := now.heard there = now.heard here

/-- **Each operation of a history adds its own to what the terminal hears**, and all together are rounds with at
most one end behind them. -/
theorem History.announced {table : SyscallTable} {process now : ScriptProcess} {site here : Site}
    {turns : List Turn} (history : History Unheard process site turns now here)
    (standing : process.Standing table) (calm : table.Calm) (modest : table.Modest)
    (discreet : table.Discreet) :
    ∃ contributions final, List.Forall₂ Turn.Contributes turns contributions ∧
      now.heard here = (process.heard site).map (fun before => before ++ contributions.flatten) ∧
      Announced (turns.countP Turn.executes) final contributions.flatten ∧
      (now.Ready → final = none) := by
  induction history with
  | start =>
    refine ⟨[], none, .nil, ?_, ⟨⟨[], rfl, nofun, rfl⟩, nofun⟩, fun _ => rfl⟩
    simp only [List.flatten_nil, List.append_nil, Option.map_id']
  | @turn turns now here operation history ih =>
    obtain ⟨contributions, final, each, heard, shape, quiet⟩ := ih
    have standing' := history.standing standing calm modest
    have later (events : List ProcessEvent) {after : ScriptProcess × Site}
        (added : after.1.heard after.2 = (now.heard here).map fun before => before ++ events) :
        after.1.heard after.2 = (process.heard site).map
          fun before => before ++ (contributions ++ [events]).flatten := by
      rw [added, heard, ScriptProcess.map_append_append, List.flatten_append, List.flatten_singleton]
    rcases standing'.stage with again | ended
    · obtain ⟨last, events, contributes, shape', quiet'⟩ := ScriptProcess.ready_contributes standing'
        again calm modest discreet operation here
      refine ⟨contributions ++ [events], last,
        List.rel_append each (.cons contributes .nil), later events contributes.heard, ?_, quiet'⟩
      rw [quiet again] at shape
      rw [List.countP_append, List.flatten_append, List.flatten_singleton]
      have counted : [(⟨operation, now, here⟩ : Turn)].countP Turn.executes =
          operation.isExecution.toNat := by
        rw [List.countP_singleton, Turn.executes, again.isAlive, Bool.and_true]
        cases operation.isExecution <;> rfl
      rw [counted]
      exact shape.append shape'
    · have contributes := ScriptProcess.ended_contributes standing' ended operation here
      refine ⟨contributions ++ [[]], final, List.rel_append each (.cons contributes .nil),
        later [] contributes.heard, ?_, fun again => ?_⟩
      · have counted : [(⟨operation, now, here⟩ : Turn)].countP Turn.executes = 0 := by
          rw [List.countP_singleton, Turn.executes, ended.isAlive, Bool.and_false]
          rfl
        rw [List.countP_append, List.flatten_append, List.flatten_singleton, List.append_nil, counted]
        exact shape
      · have finished := (ScriptProcess.perform_ended standing' ended operation here).1.ended
        exact absurd again finished.not_ready
  | meanwhile _ unheard ih =>
    obtain ⟨contributions, final, each, heard, shape, quiet⟩ := ih
    exact ⟨contributions, final, each, unheard.trans heard, shape, quiet⟩

/-- **What the terminal of a process hears of it in any history.** The terminal is attached when the process comes
up, and nothing else announces events in its name; then behind what was heard before stand the rounds of its
executions, one for each while it took work, and at most one end. -/
theorem announcements {spec : ProcessSpec} {terminal : TerminalRef} {table : SyscallTable}
    {config : KernelConfig} {origin : Site} {process : ScriptProcess} (calm : table.Calm)
    (modest : table.Modest) (discreet : table.Discreet)
    (started : (ScriptProcess.start spec terminal table config origin).1 = .ok process)
    {before : List ProcessEvent} (attached : origin.terminals.heard terminal spec.pid = some before)
    {turns : List Turn} {now : ScriptProcess} {here : Site}
    (history : History Unheard process origin turns now here) :
    ∃ contributions final, List.Forall₂ Turn.Contributes turns contributions ∧
      here.terminals.heard terminal spec.pid = some (before ++ contributions.flatten) ∧
      Announced (turns.countP Turn.executes) final contributions.flatten := by
  have fresh := (ScriptProcess.start_ok started).1
  have place : process.resident.lifecycle.terminal = terminal := by
    rw [fresh.resident]
    rfl
  have pid : process.resident.pid = spec.pid := by
    rw [fresh.resident]
    rfl
  have lasting := history.lasting fresh.standing calm modest
  obtain ⟨contributions, final, each, heard, shape, -⟩ :=
    history.announced fresh.standing calm modest discreet
  refine ⟨contributions, final, each, ?_, shape⟩
  have pid' : now.resident.pid = spec.pid := lasting.pid.trans pid
  unfold ScriptProcess.heard at heard
  rw [lasting.terminal, place, pid', pid, attached] at heard
  exact heard

/-- A process whose script is not there: an execution with two failures, and then an exit. -/
theorem announcements_of_missing_script : ∃ turns now here,
    History Unheard ScriptProcess.single Site.single turns now here ∧
      (here.terminals.heard ⟨some 0⟩ 1).map List.length = some 4 ∧
      ∃ contributions final, List.Forall₂ Turn.Contributes turns contributions ∧
        here.terminals.heard ⟨some 0⟩ 1 = some ([] ++ contributions.flatten) ∧
        Announced (turns.countP Turn.executes) final contributions.flatten := by
  have history : History Unheard ScriptProcess.single Site.single _ _ _ :=
    (History.start.turn (.execute ⟨fun _ => .error .notFound⟩)).turn (.invoke "exit" [Json.nat 3])
  refine ⟨_, _, _, history, by decide +kernel, ?_⟩
  exact announcements SyscallTable.standard_calm SyscallTable.standard_modest
    SyscallTable.standard_discreet ScriptProcess.single_started (by decide) history

end ScriptKernel
