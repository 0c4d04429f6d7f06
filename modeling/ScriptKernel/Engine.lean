/-
**Script engines.**

An engine holds the memory of a script from its creation until it is destroyed.

* `Engine.create`, `Engine.destroy`: the two ends;
* `Engine.enter`: runs a part of a script with the host functions of a table;
* `SyscallTable.host`: how host functions and interrupts answer a script.
-/

import ScriptKernel.Script.Entry
import ScriptKernel.Script.Globals

set_option autoImplicit false

namespace ScriptKernel

open Script (Dialogue Host Memory Outcome Realm Run)

/-- The host that a script with the host functions of a table talks to. -/
def SyscallTable.host (table : SyscallTable) : Host SyscallContext
  | .exiting, context => (context.interrupt.exitCode.isSome, context)
  | .poll worked, context =>
    let site := if worked then context.toSite.passSlice else context.toSite
    let looked := context.interrupt.shouldInterrupt site.clock
    (looked.1, .of { context.toResident with interrupt := looked.2 } site)
  | .call index args, context =>
    match table.syscalls[index]? with
    | some syscall => syscall.call args context
    | none => (.returned .null, context)

/-- An engine: the memory of its script, until it is destroyed. -/
structure Engine where
  memory : Option Memory
  deriving Inhabited

namespace Engine

/-- The least memory an engine can start in. -/
def leastMemory : Nat := 65536

/-- Makes an engine. -/
def create (limits : EngineLimits) : Except EngineError Engine :=
  if 0 < limits.memoryLimit ∧ limits.memoryLimit < leastMemory then
    .error (.creation "Allocation failed while creating object")
  else .ok ⟨some { realm := Realm.initial }⟩

/-- Whether the engine has not been destroyed. -/
def isLive (engine : Engine) : Bool := engine.memory.isSome

/-- Destroys the engine. -/
def destroy (_ : Engine) : Engine := ⟨none⟩

/-- The engine in short. -/
def describe (engine : Engine) : String :=
  "EngineContext \x7b live: " ++ toString engine.isLive ++ " \x7d"

/-- Runs a part of a script. -/
def enter {α : Type} (engine : Engine) (table : SyscallTable) (part : Run α)
    (context : SyscallContext) : Except EngineError (Outcome α) × Engine × SyscallContext :=
  match engine.memory with
  | none => (.error .destroyed, engine, context)
  | some memory =>
    let ((outcome, memory), context) := Dialogue.run table.host (part.part memory) context
    (.ok outcome, ⟨some memory⟩, context)

end Engine

end ScriptKernel
