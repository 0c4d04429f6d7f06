/-
**The status of a command.**

* `ScriptProcess.execution_faults`: where no exit was asked for, whatever part of an execution fails does so with a
  fault;
* `Launched`: the process in which the script of a command gets to run;
* `code_of_launched`, `code_of_unlaunched`: **the command ends with the status of that process, or with a failure**;
* `shellStatus`, `code_eq`: the status in terms of the exit codes that the script asked for and of the errors it met;
* `command_status`: **the status is zero exactly if the script ended without an error, or the code it asked for first is
  a multiple of 256**.
-/

import ScriptKernel.CommandLine
import ScriptKernel.Proofs.Manager.Answer
import ScriptKernel.Proofs.Process.Reports

set_option autoImplicit false

namespace ScriptKernel

open ScriptProcess (Standing statusAfter)

/-! ### The errors of an execution -/

namespace ScriptProcess

variable {table : SyscallTable} {process : ScriptProcess}

/-- **Where no exit was asked for, an execution meets faults only.** -/
theorem execution_faults (standing : process.Standing table) (ready : process.Ready)
    (calm : table.Calm) (modest : table.Modest) (site : Site) (files : FileSystem) :
    ∃ execution, Operation.execution process site files = .ok execution ∧
      ((process.execute site files).1.resident.interrupt.exitCode = none →
        ∀ error ∈ execution.errors, error.kind.isSome = true) := by
  obtain ⟨loading, middle, loaded, leaves, ⟨code, asked, executed, result⟩ |
    ⟨unasked, calling, left, called, further, executed, result⟩⟩ :=
      execute_ready standing ready calm modest site files
  all_goals
    have modest' : process.executor.table.Modest := standing.table ▸ modest
    have calm' : process.executor.table.Calm := standing.table ▸ calm
    have halfway := leaves.keeps modest'
    have first : process.executor.Keeps (process.handed site) middle :=
      ⟨halfway.rest, halfway.sound, (announced_carried _).trans halfway.carried⟩
  · refine ⟨_, executed, fun none => ?_⟩
    rw [result, exitCode_conclude (standing.afterwards ready first) (stage_afterwards ready first),
      interrupt_afterwards, asked] at none
    cases none
  · have second := first.trans (further.keeps (first.table.symm ▸ modest'))
    refine ⟨_, executed, fun none error met => ?_⟩
    rw [result, exitCode_conclude (standing.afterwards ready second) (stage_afterwards ready second),
      interrupt_afterwards] at none
    rcases List.mem_append.mp met with met | met
    · cases loading with
      | ok done => cases met
      | error failure =>
        rw [List.mem_singleton.mp met]
        exact Executor.load_faults calm' modest' ready.sound loaded unasked
    · cases calling with
      | ok value => cases met
      | error failure =>
        rw [List.mem_singleton.mp met]
        exact Executor.call_faults (first.table.symm ▸ calm') (first.table.symm ▸ modest') first.sound
          called none

end ScriptProcess

namespace CommandLine

variable {args : List String} {settings : Variables} {files : FileSystem} {process : ScriptProcess}
  {site : Site}

/-! ### The way to the script -/

/-- **The process in which the script of a command gets to run**, and the site it runs at: the arguments name a script,
the configuration can be read, the variables are texts, and the process comes up. -/
inductive Launched (args : List String) (settings : Variables) (files : FileSystem) :
    ScriptProcess → Site → Prop
  | intro {invocation : Invocation} {config : KernelConfig} {environment : List (String × String)}
      {process : ScriptProcess} {site : Site} (parsed : Invocation.parse args = .ok invocation)
      (configured : configuration invocation settings files = .ok config)
      (texts : textVariables? settings = some environment)
      (started : ScriptProcess.start
        (.of Manager.firstPid invocation.script invocation.args environment)
        ({} : Terminals).create.1 .standard config { terminals := ({} : Terminals).create.2 } =
          (.ok process, site)) :
      Launched args settings files process site

/-- The manager of a command, before there is a process. -/
def manager (config : KernelConfig) : Manager := { terminal := ({} : Terminals).create.1, config }

/-- The first process gets the first number. -/
theorem nextPid?_manager (config : KernelConfig) : (manager config).nextPid? = some Manager.firstPid :=
  rfl

/-- **A command whose script gets to run ends with the status of its process.** -/
theorem code_of_launched (launched : Launched args settings files process site) :
    (run args settings files).code = exitCode (process.execute site files).1.status := by
  obtain ⟨parsed, configured, texts, started⟩ := launched
  rename_i invocation config environment
  have spawned : (manager config).spawn { terminals := ({} : Terminals).create.2 } invocation.script
      invocation.args environment =
        (.ok Manager.firstPid, (manager config).put Manager.firstPid process, site) := by
    unfold Manager.spawn
    rw [nextPid?_manager]
    dsimp only [manager]
    rw [started]
  have known : ((manager config).put Manager.firstPid process).get Manager.firstPid = some process := by
    rw [Manager.get_put, Function.update_self]
  have executed := Manager.onProcess_some known site fun process site => ((), process.execute site files)
  have reached : (((manager config).put Manager.firstPid process).put Manager.firstPid
      (process.execute site files).1).get Manager.firstPid = some (process.execute site files).1 := by
    rw [Manager.get_put, Function.update_self]
  unfold manager at spawned executed reached
  unfold run
  simp only [parsed, configured, texts]
  unfold runScript
  dsimp only
  rw [spawned]
  dsimp only [Manager.execute]
  rw [executed]
  dsimp only
  rw [reached]
  rfl

/-- A process that does not come up is a failure. -/
theorem code_of_refused {invocation : Invocation} {config : KernelConfig}
    {environment : List (String × String)} {error : ProcessError} {site : Site}
    (refused : ScriptProcess.start
      (.of Manager.firstPid invocation.script invocation.args environment)
      ({} : Terminals).create.1 .standard config { terminals := ({} : Terminals).create.2 } =
        (.error error, site)) (files : FileSystem) :
    (runScript invocation config environment files).code = 1 := by
  obtain ⟨⟨reason, rfl⟩, -⟩ := ScriptProcess.start_error refused
  have unspawned : ((manager config).spawn { terminals := ({} : Terminals).create.2 }
      invocation.script invocation.args environment).1 =
        .error (.construction Manager.firstPid reason) := by
    unfold Manager.spawn
    rw [nextPid?_manager]
    dsimp only [manager]
    rw [refused]
    rfl
  unfold manager at unspawned
  unfold runScript
  dsimp only
  generalize Manager.spawn _ _ _ _ _ = left at unspawned ⊢
  rcases left with ⟨answer, rest⟩
  cases unspawned
  rfl

/-- **A command whose script does not get to run ends with a failure.** -/
theorem code_of_unlaunched (unlaunched : ∀ process site, ¬ Launched args settings files process site) :
    (run args settings files).code = 1 ∨ (run args settings files).code = panicCode := by
  unfold run
  cases parsed : Invocation.parse args with
  | error error => exact .inl rfl
  | ok invocation =>
    dsimp only
    cases configured : configuration invocation settings files with
    | error error => exact .inl rfl
    | ok config =>
      dsimp only
      cases texts : textVariables? settings with
      | none => exact .inr rfl
      | some environment =>
        cases started : ScriptProcess.start
            (.of Manager.firstPid invocation.script invocation.args environment)
            ({} : Terminals).create.1 .standard config { terminals := ({} : Terminals).create.2 } with
        | mk answer site =>
          cases answer with
          | ok process => exact absurd ⟨parsed, configured, texts, started⟩ (unlaunched process site)
          | error error => exact .inl (code_of_refused started files)

/-! ### The status -/

/-- **The status that a shell sees of a script**: of the code that was asked for first the low eight bits, and
otherwise whether the script met an error. -/
def shellStatus : List ExitCode → List ScriptError → Nat
  | code :: _, _ => (code % 256).toNat
  | [], [] => 0
  | [], _ :: _ => 1

theorem shellStatus_eq_zero_iff (codes : List ExitCode) (errors : List ScriptError) :
    shellStatus codes errors = 0 ↔
      (codes = [] ∧ errors = []) ∨ ∃ code rest, codes = code :: rest ∧ 256 ∣ code := by
  rcases codes with _ | ⟨code, rest⟩
  · cases errors <;> simp [shellStatus]
  · have low (code : Int) : (code % 256).toNat = 0 ↔ 256 ∣ code := by omega
    simp [shellStatus, low]

/-- Faults that nothing outweighs are told by the code of a failure. -/
theorem exitCode_statusAfter {errors : List ScriptError}
    (faults : ∀ error ∈ errors, error.kind.isSome = true) :
    exitCode (statusAfter .pending errors) = shellStatus [] errors := by
  have all : ScriptError.failures errors = errors := List.filter_eq_self.mpr faults
  unfold statusAfter
  rw [all]
  cases errors with
  | nil => rfl
  | cons error rest =>
    rw [List.getLast?_cons]
    rfl

/-- The exit that a process holds behind an execution is the first that the script asked for. -/
theorem asked_first {codes : List ExitCode} (unasked : process.resident.interrupt.exitCode = none)
    (asks : Turn.Asks ⟨.execute files, process, site⟩ codes) :
    (process.execute site files).1.resident.interrupt.exitCode = codes.head? := by
  have first := Interrupt.Asked.exitCode_eq asks
  rw [unasked] at first
  exact first

/-- **The status of a command in terms of what its script asked for and of the errors it met.** -/
theorem code_eq (launched : Launched args settings files process site) :
    ∃ execution, Operation.execution process site files = .ok execution ∧
      (∃ codes, Turn.Asks ⟨.execute files, process, site⟩ codes) ∧
      ∀ codes, Turn.Asks ⟨.execute files, process, site⟩ codes →
        (run args settings files).code = shellStatus codes execution.errors := by
  have code := code_of_launched launched
  obtain ⟨-, -, -, started⟩ := launched
  have fresh := (ScriptProcess.start_ok (congrArg Prod.fst started)).1
  have standing := fresh.standing
  have unasked : process.resident.interrupt.exitCode = none := by rw [fresh.interrupt]
  have pending : process.status = .pending := by
    show process.resident.lifecycle.status = .pending
    rw [fresh.resident]
    rfl
  have alive : process.isAlive = true := by
    show process.resident.isAlive = true
    rw [fresh.resident]
    rfl
  have ready : process.Ready := by
    rcases standing.stage with ready | ended
    · exact ready
    · rw [ended.isAlive] at alive
      cases alive
  obtain ⟨execution, executed, faults⟩ := ScriptProcess.execution_faults standing ready
    SyscallTable.standard_calm SyscallTable.standard_modest site files
  have status := ScriptProcess.perform_status standing SyscallTable.standard_calm
    SyscallTable.standard_modest (.execute files) site
  have recorded : (Operation.execute files).recorded process site = execution.errors := by
    unfold Operation.recorded
    simp only [Operation.isExecution, Operation.errors, executed, if_true]
  rw [recorded, pending] at status
  refine ⟨execution, executed, standing.asks SyscallTable.standard_calm SyscallTable.standard_modest
    (.execute files) site, fun codes asks => ?_⟩
  have asked := asked_first unasked asks
  have ended : (process.execute site files).1.status =
      ((process.execute site files).1.resident.interrupt.exitCode.map ExitStatus.exited).getD
        (statusAfter .pending execution.errors) := status
  rw [code, ended, asked]
  cases codes with
  | nil => exact exitCode_statusAfter (faults asked)
  | cons first rest => rfl

/-- **The status of a command is zero exactly if its script ended without an error, or asked first for an exit code
whose low eight bits are zero.** A command whose script does not get to run fails. -/
theorem command_status (args : List String) (settings : Variables) (files : FileSystem) :
    ((∀ process site, ¬ Launched args settings files process site) →
      (run args settings files).code ≠ 0) ∧
    ∀ process site, Launched args settings files process site →
      ∃ execution, Operation.execution process site files = .ok execution ∧
        (∃ codes, Turn.Asks ⟨.execute files, process, site⟩ codes) ∧
        ∀ codes, Turn.Asks ⟨.execute files, process, site⟩ codes →
          ((run args settings files).code = 0 ↔
            (codes = [] ∧ execution.errors = []) ∨
              ∃ code rest, codes = code :: rest ∧ 256 ∣ code) := by
  refine ⟨fun unlaunched => ?_, fun process site launched => ?_⟩
  · rcases code_of_unlaunched unlaunched with failed | panicked
    · rw [failed]
      exact Nat.one_ne_zero
    · rw [panicked]
      exact nofun
  · obtain ⟨execution, executed, asked, status⟩ := code_eq launched
    refine ⟨execution, executed, asked, fun codes asks => ?_⟩
    rw [status codes asks]
    exact shellStatus_eq_zero_iff codes execution.errors

/-! ### Two commands -/

/-- The site of a command, before its script runs. -/
def loneSite : Site := { terminals := ({} : Terminals).create.2 }

/-- The process of a command that names a script and nothing else. -/
def lone : ScriptProcess :=
  (ScriptProcess.start (.of Manager.firstPid "a.js" [] []) ({} : Terminals).create.1 .standard {}
    loneSite).1.toOption.get (by decide +kernel)

theorem lone_launched (files : FileSystem) : Launched ["a.js"] [] files lone loneSite := by
  have started : (ScriptProcess.start (.of Manager.firstPid "a.js" [] []) ({} : Terminals).create.1
      .standard {} loneSite).1 = .ok lone := eq_ok_get _ _
  exact @Launched.intro _ _ _ ⟨none, "a.js", []⟩ {} [] _ _ rfl rfl rfl
    (Prod.ext started (ScriptProcess.start_ok started).2)

/-- A script that asks to exit with a code. -/
def exitingFiles (code : String) : FileSystem := ⟨fun _ => .ok ("exit(" ++ code ++ ");")⟩

theorem lone_unasked : lone.resident.interrupt.exitCode = none := by decide +kernel

set_option maxRecDepth 100000 in
/-- A script that asks for the code 3 does not end with the status zero. -/
theorem command_status_of_exit :
    ∃ codes, Turn.Asks ⟨.execute (exitingFiles "3"), lone, loneSite⟩ codes ∧ codes.head? = some 3 ∧
      (run ["a.js"] [] (exitingFiles "3")).code ≠ 0 := by
  obtain ⟨execution, -, ⟨codes, asks⟩, status⟩ := (command_status ["a.js"] [] (exitingFiles "3")).2
    lone loneSite (lone_launched _)
  have asked : (lone.execute loneSite (exitingFiles "3")).1.resident.interrupt.exitCode = some 3 := by
    decide +kernel
  have first : codes.head? = some 3 := (asked_first lone_unasked asks).symm.trans asked
  refine ⟨codes, asks, first, fun success => ?_⟩
  rcases (status codes asks).mp success with ⟨rfl, -⟩ | ⟨code, rest, rfl, multiple⟩
  · rw [List.head?_nil] at first
    cases first
  · have same : code = 3 := Option.some.inj first
    rw [same] at multiple
    exact absurd multiple (by decide)

set_option maxRecDepth 100000 in
/-- **A script that asks for the code 256 ends with the status zero.** -/
theorem success_of_exit_256 :
    Launched ["a.js"] [] (exitingFiles "256") lone loneSite ∧
      (∃ codes, Turn.Asks ⟨.execute (exitingFiles "256"), lone, loneSite⟩ codes ∧
        codes.head? = some 256) ∧
      (run ["a.js"] [] (exitingFiles "256")).code = 0 := by
  obtain ⟨execution, -, ⟨codes, asks⟩, -⟩ := code_eq (lone_launched (exitingFiles "256"))
  have asked : (lone.execute loneSite (exitingFiles "256")).1.resident.interrupt.exitCode =
      some 256 := by decide +kernel
  exact ⟨lone_launched _, ⟨codes, asks, (asked_first lone_unasked asks).symm.trans asked⟩,
    by decide +kernel⟩

end CommandLine

end ScriptKernel
