/-
**A part of a script on its way through the host.**

* `Part.Passes`, `Run.Passes`: a part that runs from one memory and one state of the host to another, with the
  calls of host functions it makes on the way;
* `Passes.bind`, `Passes.contained`: parts put together, their calls one after the other;
* `passes_callHost`: the call of a host function: it is made once, with the arguments that were made for it.
-/

import ScriptKernel.Proofs.HostCall
import ScriptKernel.Proofs.Script.Memory

set_option autoImplicit false

namespace ScriptKernel

open Script (Dialogue Memory Outcome Part Run)

/-- A call of a host function, with the context in which its body ran. -/
abbrev Asked : Type := Nat × List Json × SyscallContext

namespace Script

variable {α β : Type} {table : SyscallTable}

/-! ### Parts -/

namespace Part

/-- **A part that runs from one memory and context to another**, with the calls it makes on the way. -/
structure Passes (table : SyscallTable) (part : Part α) (before : Memory × SyscallContext)
    (asked : List Asked) (outcome : Outcome α) (after : Memory × SyscallContext) : Prop where
  run : Dialogue.run table.host (part before.1) before.2 = ((outcome, after.1), after.2)
  calls : Dialogue.calls table.host (part before.1) before.2 = asked

variable {before middle after : Memory × SyscallContext} {asked more : List Asked}

/-- A part that goes on, however the first one ended. -/
theorem Passes.andThen {first : Part α} {next : Outcome α → Part β} {outcome : Outcome α}
    {last : Outcome β} (passes : first.Passes table before asked outcome middle)
    (continues : (next outcome).Passes table middle more last after) :
    (first.andThen next).Passes table before (asked ++ more) last after := by
  constructor
  · rw [Part.andThen_apply, Dialogue.run_bind, passes.run]
    exact continues.run
  · rw [Part.andThen_apply, Dialogue.calls_bind, passes.run, passes.calls]
    exact congrArg (asked ++ ·) continues.calls

theorem passes_finish (outcome : Outcome α) (state : Memory × SyscallContext) :
    (finish outcome).Passes table state [] outcome state := ⟨rfl, rfl⟩

/-- The host is asked for an exit. -/
theorem passes_exiting (state : Memory × SyscallContext) :
    (ask .exiting).Passes table state [] (.value state.2.interrupt.exitCode.isSome) state :=
  ⟨rfl, rfl⟩

/-- The host looks in. -/
theorem passes_poll (worked : Bool) (state : Memory × SyscallContext) :
    (ask (.poll worked)).Passes table state []
      (.value (table.host (.poll worked) state.2).1) (state.1, (table.host (.poll worked) state.2).2) :=
  ⟨rfl, rfl⟩

/-- The body of a host function runs. -/
theorem passes_callNow (index : Nat) (args : List Json) (state : Memory × SyscallContext) :
    (callNow index args).Passes table state [(index, args, state.2)]
      (ofReply (table.host (.call index args) state.2).1)
      (state.1, (table.host (.call index args) state.2).2) :=
  ⟨rfl, rfl⟩

/-- **The call of a host function is made once**, with the arguments that were made for it. -/
theorem passes_callHost {arguments : Part (List Json)} {args : List Json} (index : Nat)
    (running : before.2.interrupt.exitCode = none)
    (made : arguments.Passes table before asked (.value args) after) :
    (callHost index arguments).Passes table before (asked ++ [(index, args, after.2)])
      (ofReply (table.host (.call index args) after.2).1)
      (after.1, (table.host (.call index args) after.2).2) := by
  have looked : (ask .exiting).Passes table before [] _ before := passes_exiting before
  rw [running] at looked
  exact looked.andThen (made.andThen (passes_callNow index args after))

end Part

/-! ### Runs -/

namespace Run

/-- A run that goes from one memory and context to another, with the calls it makes on the way. -/
def Passes (table : SyscallTable) (run : Run α) (before : Memory × SyscallContext)
    (asked : List Asked) (outcome : Outcome α) (after : Memory × SyscallContext) : Prop :=
  run.part.Passes table before asked outcome after

variable {before middle after : Memory × SyscallContext} {asked more : List Asked}

/-- A run that ends at once calls nothing and leaves the context as it was. -/
theorem Ends.passes {run : Run α} {first last : Memory} {outcome : Outcome α}
    (ends : run.Ends first outcome last) (table : SyscallTable) (context : SyscallContext) :
    run.Passes table (first, context) [] outcome (last, context) := by
  constructor
  · rw [show run.part first = .done (outcome, last) from ends]
    rfl
  · rw [show run.part first = .done (outcome, last) from ends]
    rfl

/-- A run goes on from the value of another. -/
theorem Passes.bind {first : Run α} {next : α → Run β} {answer : α} {outcome : Outcome β}
    (passes : first.Passes table before asked (.value answer) middle)
    (continues : (next answer).Passes table middle more outcome after) :
    (first >>= next).Passes table before (asked ++ more) outcome after :=
  Part.Passes.andThen passes continues

/-- Nothing goes on from an exception. -/
theorem Passes.bind_thrown {first : Run α} {exception : Value}
    (passes : first.Passes table before asked (.thrown exception) after) (next : α → Run β) :
    (first >>= next).Passes table before asked (.thrown exception) after := by
  have whole : (first >>= next).Passes table before (asked ++ []) (.thrown exception) after :=
    Part.Passes.andThen passes (Part.passes_finish (.thrown exception) after)
  rwa [List.append_nil] at whole

/-- A run that ends at once goes on. -/
theorem Ends.bind_passes {first : Run α} {next : α → Run β} {answer : α} {outcome : Outcome β}
    {start last : Memory} {context : SyscallContext} (ends : first.Ends start (.value answer) last)
    (continues : (next answer).Passes table (last, context) more outcome after) :
    (first >>= next).Passes table (start, context) more outcome after :=
  (ends.passes table context).bind continues

/-- A value or an exception is kept as an answer; no panic waits. -/
theorem Passes.guarded {run : Run α} {outcome : Outcome α} {kept : Except Value α}
    (passes : run.Passes table before asked outcome after) (quiet : after.1.panicking = false)
    (known : (∃ answer, outcome = .value answer ∧ kept = .ok answer) ∨
      ∃ exception, outcome = .thrown exception ∧ kept = .error exception) :
    (Script.guarded run).Passes table before asked (.value kept) after := by
  have heard : run.heard.Passes table before (asked ++ []) outcome after := by
    refine Part.Passes.andThen passes ?_
    rcases known with ⟨answer, rfl, -⟩ | ⟨exception, rfl, -⟩
    · exact Part.passes_finish _ after
    · constructor
      · simp only [quiet]
        rfl
      · simp only [quiet]
        rfl
  have whole : (Script.guarded run).Passes table before (asked ++ [] ++ []) (.value kept) after := by
    refine Part.Passes.andThen heard ?_
    rcases known with ⟨answer, rfl, rfl⟩ | ⟨exception, rfl, rfl⟩
    · exact Part.passes_finish _ after
    · exact Part.passes_finish _ after
  rwa [List.append_nil, List.append_nil] at whole

/-- What is contained ends as it did, if it did not panic. -/
theorem Passes.contained {run : Run α} {outcome : Outcome α}
    (passes : run.Passes table before asked outcome after) (calm : outcome ≠ .panicked) :
    run.contained.Passes table before asked outcome after := by
  have whole : run.contained.Passes table before (asked ++ []) outcome after := by
    refine Part.Passes.andThen passes ?_
    cases outcome with
    | panicked => exact absurd rfl calm
    | _ => exact Part.passes_finish _ after
  rwa [List.append_nil] at whole

end Run

end Script

end ScriptKernel
