/-
**What the standard host functions see of the place where they run.**

* `Syscall.Inward`: a host function that neither looks at the site nor changes it; all standard host functions are
  so but the one that prints (`standard_inward`);
* `SyscallContext.Alike`: two contexts that differ in what the process cannot tell of its site;
* `host_alike`, `run_alike`: **a script with the standard host functions does the same in both**;
* `call_adds`: what a standard host function adds to the site bears the number of its process.
-/

import ScriptKernel.Proofs.Outlook
import ScriptKernel.Proofs.Syscall.Standard

set_option autoImplicit false

namespace ScriptKernel

/-! ### Host functions that keep to the process -/

/-- **A host function that neither looks at the site nor changes it.** -/
def Syscall.Inward (syscall : Syscall) : Prop :=
  ∀ args resident, ∃ reply left, ∀ site,
    syscall.call args (.of resident site) = (reply, .of left site)

namespace Syscall

/-- A host function that checks its arguments first keeps to the process if it does so after the check. -/
theorem inward_of_check {α : Type} {name : String} (check : List Json → Except SyscallError α)
    {next : List Json → α → Body Json}
    (inward : ∀ args resident found, ∃ reply left, ∀ site,
      (ofBody name fun args => next args found).call args (.of resident site) =
        (reply, .of left site)) :
    (ofBody name fun args => do next args (← check args)).Inward := by
  intro args resident
  cases checked : check args with
  | ok found =>
    obtain ⟨reply, left, called⟩ := inward args resident found
    refine ⟨reply, left, fun site => ?_⟩
    rw [ofBody_check, checked]
    exact called site
  | error error =>
    refine ⟨.failed error, resident, fun site => ?_⟩
    rw [ofBody_check, checked]

theorem inward_write : write.Inward :=
  inward_of_check (fun args => Fd.ofJson (arg args 0)) fun args resident fd =>
    ⟨_, { resident with fds := resident.fds.append fd (textArg (arg args 1)) }, fun _ => rfl⟩

theorem inward_read : read.Inward :=
  inward_of_check (fun args => Fd.ofJson (arg args 0)) fun _ resident fd =>
    ⟨.returned (.text (resident.fds.get fd)), { resident with fds := resident.fds.clear fd }, fun _ => rfl⟩

theorem inward_close : close.Inward :=
  inward_of_check (fun args => Fd.ofJson (arg args 0)) fun _ resident fd =>
    ⟨_, { resident with fds := resident.fds.clear fd }, fun _ => rfl⟩

theorem inward_getenv : getenv.Inward :=
  inward_of_check (fun args => stringArg args 0) fun _ resident name =>
    ⟨.returned (Json.ofOption Json.text (resident.environment.get name)), resident, fun _ => rfl⟩

theorem inward_setenv : setenv.Inward := by
  intro args resident
  cases named : stringArg args 0 with
  | error error =>
    refine ⟨.failed error, resident, fun site => ?_⟩
    rw [setenv_call, named]
  | ok name =>
    by_cases valid : isVariableName name = true
    · refine ⟨.returned .null, { resident with
        environment := resident.environment.set name (textArg (arg args 1)) }, fun site => ?_⟩
      rw [setenv_call, named]
      exact if_pos valid
    · refine ⟨.failed (.invalidArgument ("invalid variable name " ++ quoted name)), resident,
        fun site => ?_⟩
      rw [setenv_call, named]
      exact if_neg valid

theorem inward_getpid : getpid.Inward :=
  fun _ resident => ⟨.returned (Json.nat resident.pid), resident, fun _ => rfl⟩

theorem inward_getargs : getargs.Inward :=
  fun _ resident => ⟨.returned (Json.texts resident.args), resident, fun _ => rfl⟩

theorem inward_exit : exit.Inward :=
  inward_of_check (fun args => ExitCode.ofJson (arg args 0)) fun _ resident code =>
    ⟨_, { resident with interrupt := resident.interrupt.requestExit code }, fun _ => rfl⟩

/-- **All standard host functions keep to the process but the one that prints.** -/
theorem standard_inward {syscall : Syscall} (bound : syscall ∈ SyscallTable.standard.syscalls) :
    syscall = print ∨ syscall.Inward := by
  simp only [SyscallTable.standard, List.mem_cons, List.not_mem_nil, or_false] at bound
  rcases bound with rfl | rfl | rfl | rfl | rfl | rfl | rfl | rfl | rfl
  · exact .inl rfl
  · exact .inr inward_write
  · exact .inr inward_read
  · exact .inr inward_close
  · exact .inr inward_getenv
  · exact .inr inward_setenv
  · exact .inr inward_getpid
  · exact .inr inward_getargs
  · exact .inr inward_exit

/-- **Printing** sends a line to the terminal of the process, in its name, and tells whether it is there. -/
theorem print_told (args : List Json) (resident : Resident) (site : Site) :
    print.call args (.of resident site) =
      let sent := site.terminals.write resident.lifecycle.terminal ⟨resident.pid, .stdout, line args⟩
      if sent.1 then (.returned .null, .of resident { site with terminals := sent.2 })
      else (.failed (.unavailable "terminal detached"), .of resident site) := by
  rw [print_call]
  unfold SyscallContext.writeTerminal
  dsimp only [SyscallContext.of]
  cases site.terminals.write resident.lifecycle.terminal ⟨resident.pid, .stdout, line args⟩ with
  | mk arrived terminals => cases arrived <;> rfl

end Syscall

/-! ### Contexts that a process cannot tell apart -/

namespace SyscallContext

/-- **Two contexts that differ in what the process cannot tell of its site.** -/
structure Alike (pid : Pid) (first second : SyscallContext) : Prop where
  resident : first.toResident = second.toResident
  site : Site.Alike pid first.toSite second.toSite

variable {pid : Pid} {first second : SyscallContext}

theorem Alike.of {resident : Resident} {here there : Site} (alike : Site.Alike pid here there) :
    Alike pid (.of resident here) (.of resident there) := ⟨rfl, alike⟩

/-- Contexts that are alike hold one process at two sites. -/
theorem Alike.eq_of (alike : Alike pid first second) : ∃ resident here there,
    first = .of resident here ∧ second = .of resident there ∧ Site.Alike pid here there := by
  obtain ⟨resident, here⟩ := first
  obtain ⟨_, there⟩ := second
  obtain ⟨rfl, site⟩ := alike
  exact ⟨_, here, there, rfl, rfl, site⟩

end SyscallContext

open SyscallContext (Alike)

variable {pid : Pid} {first second : SyscallContext}

/-- **A standard host function does the same in contexts that are alike.** -/
theorem Syscall.standard_alike {syscall : Syscall} (bound : syscall ∈ SyscallTable.standard.syscalls)
    (args : List Json) (alike : Alike pid first second) :
    (syscall.call args first).1 = (syscall.call args second).1 ∧
      Alike pid (syscall.call args first).2 (syscall.call args second).2 := by
  obtain ⟨resident, here, there, rfl, rfl, site⟩ := alike.eq_of
  rcases standard_inward bound with rfl | inward
  · obtain ⟨arrives, sent⟩ :=
      site.write resident.lifecycle.terminal ⟨resident.pid, .stdout, line args⟩
    rw [print_told, print_told]
    dsimp only
    rw [arrives]
    split
    · exact ⟨rfl, .of sent⟩
    · exact ⟨rfl, .of site⟩
  · obtain ⟨reply, left, called⟩ := inward args resident
    rw [called, called]
    exact ⟨rfl, .of site⟩

/-- **What a standard host function adds to its site bears the number of its process.** -/
theorem Syscall.standard_adds {syscall : Syscall} (bound : syscall ∈ SyscallTable.standard.syscalls)
    (args : List Json) (context : SyscallContext) :
    context.toSite.Adds context.pid (syscall.call args context).2.toSite := by
  obtain ⟨resident, site⟩ := context
  rcases standard_inward bound with rfl | inward
  · show site.Adds resident.pid (print.call args (.of resident site)).2.toSite
    rw [print_told]
    dsimp only
    split
    · exact .write site resident.lifecycle.terminal .stdout (line args)
    · exact .refl site
  · obtain ⟨reply, left, called⟩ := inward args resident
    show site.Adds resident.pid (syscall.call args (.of resident site)).2.toSite
    rw [called]
    exact .refl site

/-! ### Scripts with the standard host functions -/

/-- **The host answers the same in contexts that are alike**, and leaves them alike. -/
theorem SyscallTable.host_alike (question : Script.Question) (alike : Alike pid first second) :
    (SyscallTable.standard.host question first).1 = (SyscallTable.standard.host question second).1 ∧
      Alike pid (SyscallTable.standard.host question first).2
        (SyscallTable.standard.host question second).2 := by
  cases question with
  | exiting =>
    refine ⟨?_, alike⟩
    show first.interrupt.exitCode.isSome = second.interrupt.exitCode.isSome
    rw [show first.interrupt = second.interrupt from congrArg Resident.interrupt alike.resident]
  | poll worked =>
    obtain ⟨resident, here, there, rfl, rfl, site⟩ := alike.eq_of
    have looked : Site.Alike pid (if worked then here.passSlice else here)
        (if worked then there.passSlice else there) := by
      cases worked with
      | true => exact site.passSlice
      | false => exact site
    show (resident.interrupt.shouldInterrupt (if worked then here.passSlice else here).clock).1 =
        (resident.interrupt.shouldInterrupt (if worked then there.passSlice else there).clock).1 ∧
      Alike pid (.of { resident with interrupt := (resident.interrupt.shouldInterrupt
          (if worked then here.passSlice else here).clock).2 } (if worked then here.passSlice else here))
        (.of { resident with interrupt := (resident.interrupt.shouldInterrupt
          (if worked then there.passSlice else there).clock).2 }
          (if worked then there.passSlice else there))
    rw [looked.clock]
    exact ⟨rfl, .of looked⟩
  | call index args =>
    cases found : SyscallTable.standard.syscalls[index]? with
    | none =>
      simp only [host, found]
      exact ⟨rfl, alike⟩
    | some syscall =>
      simp only [host, found]
      exact Syscall.standard_alike (List.mem_of_getElem? found) args alike

/-- **A script runs the same in contexts that are alike**, and leaves them alike. -/
theorem Script.Dialogue.run_alike {α : Type} (dialogue : Script.Dialogue α)
    (alike : Alike pid first second) :
    (dialogue.run SyscallTable.standard.host first).1 = (dialogue.run SyscallTable.standard.host second).1 ∧
      Alike pid (dialogue.run SyscallTable.standard.host first).2
        (dialogue.run SyscallTable.standard.host second).2 := by
  induction dialogue generalizing first second with
  | done value => exact ⟨rfl, alike⟩
  | ask question next ih =>
    obtain ⟨answer, left⟩ := SyscallTable.host_alike question alike
    unfold run
    dsimp only
    rw [answer]
    exact ih _ left

end ScriptKernel
