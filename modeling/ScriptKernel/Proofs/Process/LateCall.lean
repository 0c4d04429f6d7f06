/-
**Calls after the request of an exit.**

The check for an exit stands at the beginning of a call and at its end. Between them the arguments are made,
and what they run may request the exit and catch what is thrown for it; then the body still runs.

* `Service.Bounded`: what that leaves of the rule that nothing runs after the request;
* `late_calls`: **in every run of a script the calls are so bounded**, and where an exit has been requested
  before, nothing is called and nothing changed;
* `late_body_runs`: a text that is printed after the request of the exit.
-/

import ScriptKernel.Proofs.HostCall
import ScriptKernel.Proofs.Process.History

set_option autoImplicit false

namespace ScriptKernel

open Script (Dialogue Memory Run)
open SyscallContext (Idle)

/-- **How far calls reach beyond the request of an exit.** -/
structure Service.Bounded (table : SyscallTable) (services : List Service) : Prop where
  /-- A body runs after the request only where the request was made while its own arguments were. -/
  enclosed : ∀ {place later : Nat} {first second : Service}, place < later →
    services[place]? = some first → services[later]? = some second →
    (first.left table).Requested → later ≤ place + second.inner
  /-- A body that did not have the exit requested before its call began, and finds it requested, owes it to
  a call that its own arguments made. -/
  culprit : ∀ {later : Nat} {second : Service}, services[later]? = some second →
    second.found.Requested → ∃ (place : Nat) (first : Service), services[place]? = some first ∧
      place < later ∧ later ≤ place + second.inner ∧ ¬ first.found.Requested ∧
      (first.left table).Requested

/-- A call whose arguments make no calls is not made once an exit has been requested. -/
theorem Service.Bounded.unasked {table : SyscallTable} {services : List Service}
    (bounded : Service.Bounded table services) {place : Nat} {service : Service}
    (here : services[place]? = some service) (plain : service.inner = 0) :
    ¬ service.found.Requested := by
  intro late
  obtain ⟨earlier, first, -, before, reach, -⟩ := bounded.culprit here late
  rw [plain] at reach
  exact absurd before (Nat.not_lt.mpr reach)

/-- **What calls still do once an exit has been requested.** Any part of any script runs on any memory and in
any context, with host functions that keep to what they are handed. -/
theorem late_calls {α : Type} {table : SyscallTable} (modest : table.Modest) (run : Run α)
    (memory : Memory) (context : SyscallContext) :
    ∃ services : List Service,
      (run.part memory).calls table.host context = services.map Service.asked ∧
      Service.Bounded table services ∧
      (context.Requested →
        services = [] ∧ Idle context (Dialogue.run table.host (run.part memory) context).2) := by
  obtain ⟨services, calls, served⟩ : Script.Part.ServedRun table none (run.part memory) context :=
    run.built.serves memory context
  exact ⟨services, calls, ⟨served.enclosed modest, served.culprit⟩, served.idle⟩

/-! ### A text that is printed late -/

/-- A script that prints something which asks to exit while it is made into a text. -/
def lateSource : String :=
  "print(\x7b toJSON: function () \x7b try \x7b exit(3); \x7d catch (e) \x7b\x7d return 'late'; \x7d \x7d);"

/-- The memory of the only process. -/
def lateMemory : Memory := ScriptProcess.single.executor.engine.memory.getD default

/-- The only process at the beginning of an entry. -/
def lateContext : SyscallContext :=
  (SyscallContext.of ScriptProcess.single.resident .single).armed none

/-- The calls that the script makes in the only process. -/
def lateTrace : List (Nat × List Json × SyscallContext) :=
  ((Script.evaluateReported lateSource).part lateMemory).calls SyscallTable.standard.host lateContext

set_option maxRecDepth 100000 in
/-- The script asks to exit, and after that it prints. -/
theorem lateTrace_eq :
    lateTrace.map (fun call => (call.1, call.2.2.interrupt.exitCode)) = [(8, none), (0, some 3)] := by
  decide +kernel

/-- The calls of the script that prints late are bounded, and yet one of them is late. -/
theorem late_calls_of_argument :
    ∃ services : List Service,
      services.map (fun service => (service.index, service.found.interrupt.exitCode)) =
        [(8, none), (0, some 3)] ∧
      Service.Bounded .standard services := by
  obtain ⟨services, calls, bounded, -⟩ := late_calls SyscallTable.standard_modest
    (Script.evaluateReported lateSource) lateMemory lateContext
  refine ⟨services, ?_, bounded⟩
  rw [← lateTrace_eq, lateTrace, calls, List.map_map]
  rfl

set_option maxRecDepth 100000 in
/-- **A body runs although an exit has been requested**, and its text reaches the terminal of a process that
ends with that exit. -/
theorem late_body_runs :
    (∃ call ∈ lateTrace, call.2.2.Requested) ∧
      let executed := ScriptProcess.single.execute .single ⟨fun _ => .ok lateSource⟩
      executed.1.status = .exited 3 ∧
        (executed.2.terminals.log? ⟨some 0⟩).map (fun log => log.stdout 1) = some "late\n" := by
  constructor
  · have late : (0, some 3) ∈ lateTrace.map fun call => (call.1, call.2.2.interrupt.exitCode) := by
      rw [lateTrace_eq]
      exact .tail _ (.head _)
    obtain ⟨call, made, same⟩ := List.mem_map.mp late
    refine ⟨call, made, fun unasked => ?_⟩
    have code : call.2.2.interrupt.exitCode = some 3 := congrArg Prod.snd same
    rw [unasked] at code
    cases code
  · decide +kernel

end ScriptKernel
