/-
**Host functions do not see why a script was stopped.**

* `SyscallContext.marked`: a context with another marker for that reason;
* `Syscall.Oblivious`: **a host function that does the same whatever the marker is**, and leaves it alone; all standard
  host functions are so (`SyscallTable.standard_oblivious`);
* `SyscallTable.Oblivious.respects`: a host with such functions answers alike in contexts that differ in the marker.
-/

import ScriptKernel.Engine
import ScriptKernel.Proofs.Interrupt
import ScriptKernel.Proofs.Script.Slot
import ScriptKernel.Proofs.Syscall.Reply

set_option autoImplicit false

namespace ScriptKernel

/-- A context with another marker for the reason for which a script was stopped. -/
def SyscallContext.marked (context : SyscallContext) (marker : Option InterruptReason) :
    SyscallContext :=
  { context with interrupt := { context.interrupt with tripped := marker } }

/-- **A host function that does not see the marker.** -/
def Syscall.Oblivious (syscall : Syscall) : Prop :=
  ∀ args (context : SyscallContext) marker, syscall.call args (context.marked marker) =
    ((syscall.call args context).1, (syscall.call args context).2.marked marker)

/-- A table of host functions that do not see the marker. -/
def SyscallTable.Oblivious (table : SyscallTable) : Prop :=
  ∀ syscall ∈ table.syscalls, syscall.Oblivious

/-! ### The standard host functions -/

theorem SyscallContext.writeTerminal_marked (context : SyscallContext) (stream : Stream) (text : String)
    (marker : Option InterruptReason) : (context.marked marker).writeTerminal stream text =
      (context.writeTerminal stream text).map fun after => after.marked marker := by
  unfold writeTerminal marked
  dsimp only
  rcases context.terminals.write context.lifecycle.terminal ⟨context.pid, stream, text⟩ with
    ⟨arrived, terminals⟩
  cases arrived <;> rfl

theorem SyscallContext.requestExit_marked (context : SyscallContext) (code : ExitCode)
    (marker : Option InterruptReason) :
    (context.marked marker).requestExit code = (context.requestExit code).marked marker := by
  unfold requestExit marked
  dsimp only
  rw [Interrupt.requestExit_eq, Interrupt.requestExit_eq]

namespace Syscall

theorem oblivious_print : print.Oblivious := by
  intro args context marker
  rw [print_call, print_call, SyscallContext.writeTerminal_marked]
  cases context.writeTerminal .stdout (line args) <;> rfl

theorem oblivious_write : write.Oblivious := by
  intro args context marker
  rw [write_call, write_call]
  cases Fd.ofJson (arg args 0) <;> rfl

theorem oblivious_read : read.Oblivious := by
  intro args context marker
  rw [read_call, read_call]
  cases Fd.ofJson (arg args 0) <;> rfl

theorem oblivious_close : close.Oblivious := by
  intro args context marker
  rw [close_call, close_call]
  cases Fd.ofJson (arg args 0) <;> rfl

theorem oblivious_getenv : getenv.Oblivious := by
  intro args context marker
  rw [getenv_call, getenv_call]
  cases stringArg args 0 <;> rfl

theorem oblivious_setenv : setenv.Oblivious := by
  intro args context marker
  rw [setenv_call, setenv_call]
  cases stringArg args 0 with
  | error error => rfl
  | ok name =>
    dsimp only
    cases isVariableName name <;> rfl

theorem oblivious_getpid : getpid.Oblivious := fun _ _ _ => rfl

theorem oblivious_getargs : getargs.Oblivious := fun _ _ _ => rfl

theorem oblivious_exit : exit.Oblivious := by
  intro args context marker
  rw [exit_call, exit_call]
  cases ExitCode.ofJson (arg args 0) with
  | error error => rfl
  | ok code =>
    exact congrArg (Prod.mk (SyscallReply.returned .null)) (context.requestExit_marked code marker)

end Syscall

/-- **The standard host functions do not see the marker.** -/
theorem SyscallTable.standard_oblivious : standard.Oblivious := by
  intro syscall bound
  simp only [standard, List.mem_cons, List.not_mem_nil, or_false] at bound
  rcases bound with rfl | rfl | rfl | rfl | rfl | rfl | rfl | rfl | rfl
  · exact Syscall.oblivious_print
  · exact Syscall.oblivious_write
  · exact Syscall.oblivious_read
  · exact Syscall.oblivious_close
  · exact Syscall.oblivious_getenv
  · exact Syscall.oblivious_setenv
  · exact Syscall.oblivious_getpid
  · exact Syscall.oblivious_getargs
  · exact Syscall.oblivious_exit

/-! ### The host -/

/-- **Two contexts that differ in the marker at most.** -/
def SyscallContext.SameButMarker (first second : SyscallContext) : Prop :=
  ∃ marker, second = first.marked marker

theorem SyscallContext.SameButMarker.of_eq {first second : SyscallContext} (same : first = second) :
    SameButMarker first second := by
  cases same
  exact ⟨first.interrupt.tripped, rfl⟩

/-- A look does not see the marker; it may put another in its place. -/
theorem Interrupt.shouldInterrupt_marked (interrupt : Interrupt) (marker : Option InterruptReason)
    (now : Duration) : ∃ noted, ({ interrupt with tripped := marker } : Interrupt).shouldInterrupt now =
      ((interrupt.shouldInterrupt now).1, { (interrupt.shouldInterrupt now).2 with tripped := noted }) := by
  have unseen : ({ interrupt with tripped := marker } : Interrupt).reason? now = interrupt.reason? now :=
    rfl
  unfold shouldInterrupt
  rw [unseen]
  cases interrupt.reason? now with
  | none => exact ⟨marker, rfl⟩
  | some reason => exact ⟨some reason, rfl⟩

/-- **A host whose functions do not see the marker answers the same whatever it is.** -/
theorem SyscallTable.Oblivious.respects {table : SyscallTable} (oblivious : table.Oblivious) :
    Script.Part.Respects table.host SyscallContext.SameButMarker := by
  rintro question first _ ⟨marker, rfl⟩
  cases question with
  | exiting => exact ⟨rfl, marker, rfl⟩
  | poll worked =>
    have looked (clock : Duration) (site : Site) :
        (first.interrupt.shouldInterrupt clock).1 =
            ((first.marked marker).interrupt.shouldInterrupt clock).1 ∧
          SyscallContext.SameButMarker
            (.of { first.toResident with interrupt := (first.interrupt.shouldInterrupt clock).2 } site)
            (.of { (first.marked marker).toResident with
              interrupt := ((first.marked marker).interrupt.shouldInterrupt clock).2 } site) := by
      obtain ⟨noted, same⟩ := first.interrupt.shouldInterrupt_marked marker clock
      have same : (first.marked marker).interrupt.shouldInterrupt clock = _ := same
      rw [same]
      exact ⟨rfl, noted, rfl⟩
    cases worked with
    | true => exact looked first.toSite.passSlice.clock first.toSite.passSlice
    | false => exact looked first.clock first.toSite
  | call index args =>
    have called : table.host (.call index args) (first.marked marker) =
        ((table.host (.call index args) first).1, (table.host (.call index args) first).2.marked marker) := by
      unfold host
      dsimp only
      cases found : table.syscalls[index]? with
      | none => rfl
      | some syscall => exact oblivious syscall (List.mem_of_getElem? found) args first marker
    rw [called]
    exact ⟨rfl, marker, rfl⟩

end ScriptKernel
