/-
**What the standard host functions touch.**

* `SyscallContext.Effect`: the five things a standard host function can do: nothing, change the slots, change
  the variables, write a text, ask to exit;
* `Syscall.standard_effect`: none does anything else;
* `SyscallTable.standard_modest`, `standard_calm`, `standard_discreet`: so they keep to what they are handed, do
  not panic, and announce nothing.
-/

import ScriptKernel.Proofs.Context
import ScriptKernel.Proofs.Syscall.Reply

set_option autoImplicit false

namespace ScriptKernel

/-- **What a standard host function can do to its context.** -/
inductive SyscallContext.Effect (context : SyscallContext) : SyscallContext → Prop
  | nothing : Effect context context
  | slots (fds : FdTable) : Effect context { context with fds }
  | settings (environment : Environment) : Effect context { context with environment }
  | line (output : Output) : Effect context
      { context with
        terminals := (context.terminals.write context.lifecycle.terminal output).2 }
  | exit (code : ExitCode) : Effect context (context.requestExit code)

namespace SyscallContext.Effect

variable {before after : SyscallContext}

theorem within (effect : Effect before after) : Within before after := by
  cases effect with
  | nothing => exact .refl _
  | slots fds => exact ⟨rfl, rfl, rfl, rfl, rfl, Nat.le_refl _, [], rfl⟩
  | settings environment => exact ⟨rfl, rfl, rfl, rfl, rfl, Nat.le_refl _, [], rfl⟩
  | line output => exact ⟨rfl, rfl, rfl, rfl, rfl, Nat.le_refl _, [], rfl⟩
  | exit code => exact ⟨rfl, rfl, rfl, rfl, rfl, Nat.le_refl _, [code], rfl⟩

theorem heard_eq (effect : Effect before after) :
    after.terminals.heard before.lifecycle.terminal before.pid = before.heard := by
  cases effect with
  | line output => exact Terminals.heard_write _ _ _ output
  | nothing => rfl
  | slots fds => rfl
  | settings environment => rfl
  | exit code => rfl

end SyscallContext.Effect

namespace Syscall

open SyscallContext (Effect)

/-- A host function that returns or fails does not panic. -/
theorem ofBody_calm (name : String) (body : List Json → Body Json) : (ofBody name body).Calm := by
  intro args context
  unfold ofBody
  dsimp only
  split
  · exact nofun
  · exact nofun

/-- **A standard host function does one of five things.** -/
theorem standard_effect {syscall : Syscall} (bound : syscall ∈ SyscallTable.standard.syscalls)
    (args : List Json) (context : SyscallContext) :
    Effect context (syscall.call args context).2 := by
  simp only [SyscallTable.standard, List.mem_cons, List.not_mem_nil, or_false] at bound
  rcases bound with rfl | rfl | rfl | rfl | rfl | rfl | rfl | rfl | rfl
  · rw [print_call]
    split
    · rename_i after written
      obtain ⟨-, rfl⟩ := SyscallContext.writeTerminal_eq_ok written
      exact .line _
    · exact .nothing
  · rw [write_call]
    cases Fd.ofJson (arg args 0) with
    | ok fd => exact .slots _
    | error error => exact .nothing
  · rw [read_call]
    cases Fd.ofJson (arg args 0) with
    | ok fd => exact .slots _
    | error error => exact .nothing
  · rw [close_call]
    cases Fd.ofJson (arg args 0) with
    | ok fd => exact .slots _
    | error error => exact .nothing
  · rw [getenv_call]
    cases stringArg args 0 <;> exact .nothing
  · rw [setenv_call]
    cases stringArg args 0 with
    | error error => exact .nothing
    | ok name =>
      dsimp only
      split
      · exact .settings _
      · exact .nothing
  · exact .nothing
  · exact .nothing
  · rw [exit_call]
    cases ExitCode.ofJson (arg args 0) with
    | ok code => exact .exit code
    | error error => exact .nothing

end Syscall

namespace SyscallTable

theorem standard_modest : standard.Modest :=
  fun _ bound args context => (Syscall.standard_effect bound args context).within

theorem standard_discreet : standard.Discreet :=
  fun _ bound args context => (Syscall.standard_effect bound args context).heard_eq

/-- A standard host function returns or fails. -/
theorem standard_calm : standard.Calm := by
  intro syscall bound args context
  simp only [standard, List.mem_cons, List.not_mem_nil, or_false] at bound
  rcases bound with rfl | rfl | rfl | rfl | rfl | rfl | rfl | rfl | rfl <;>
    exact Syscall.ofBody_calm _ _ args context

end SyscallTable

end ScriptKernel
