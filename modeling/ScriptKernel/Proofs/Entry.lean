/-
**The two ends of an entry.**

An entry sets its deadline, and puts it away with the marker that says why the script was stopped; between the two,
host functions and the looks of the host leave the deadline where it is.

* `Executor.Closes`: **an entry that answers has put both away; one that panics leaves the deadline where it was set**;
* `enter_closes`, `evaluate_closes`, `call_closes`: so do the entries of a script, and `load_closes` a file that can be
  read;
* `hasFunction_deadline`: looking for a function leaves the deadline alone;
* `armed_deadline`: a deadline that was set is none only where no time was allowed.
-/

import ScriptKernel.Proofs.HostCall

set_option autoImplicit false

namespace ScriptKernel

open Script (Fault Run)
open SyscallContext (Moves)

/-! ### Between the two ends -/

/-- **No answer of the host moves a deadline.** -/
theorem SyscallTable.host_deadline {table : SyscallTable} (steady : table.Steady)
    (question : Script.Question) (context : SyscallContext) :
    (table.host question context).2.interrupt.deadline = context.interrupt.deadline := by
  cases question with
  | exiting => rfl
  | poll worked =>
    cases worked with
    | true => exact Interrupt.shouldInterrupt_deadline _ _
    | false => exact Interrupt.shouldInterrupt_deadline _ _
  | call index args =>
    rcases table.host_call index args context with ⟨syscall, bound, called⟩ | nothing
    · rw [called]
      exact (steady syscall bound args context).deadline
    · rw [nothing]

/-- **Nothing that a script does moves its deadline.** -/
theorem Engine.enter_deadline {α : Type} {table : SyscallTable} (steady : table.Steady)
    (engine : Engine) (run : Run α) (context : SyscallContext) :
    (engine.enter table run context).2.2.interrupt.deadline = context.interrupt.deadline := by
  unfold Engine.enter
  cases engine.memory with
  | none => rfl
  | some memory =>
    exact Script.Dialogue.run_invariant table.host
      (fun state => state.interrupt.deadline = context.interrupt.deadline)
      (fun question state here => (table.host_deadline steady question state).trans here)
      (run.part memory) context rfl

namespace Executor

variable {α : Type} {executor : Executor} {context : SyscallContext}

theorem runJobs_deadline (steady : executor.table.Steady) (context : SyscallContext) :
    (executor.runJobs context).2.2.interrupt.deadline = context.interrupt.deadline := by
  have deadline := executor.engine.enter_deadline steady (Script.runJobs .standard) context
  unfold runJobs
  split <;> rename_i entered <;> rw [entered] at deadline <;> exact deadline

/-- **Looking for a function leaves the deadline where it is.** -/
theorem hasFunction_deadline (steady : executor.table.Steady) (name : String)
    (context : SyscallContext) :
    (executor.hasFunction name context).2.2.interrupt.deadline = context.interrupt.deadline := by
  have deadline := executor.engine.enter_deadline steady (Script.hasFunction name) context
  unfold hasFunction
  split <;> rename_i entered <;> rw [entered] at deadline <;> exact deadline

/-! ### Both ends -/

/-- **How an entry leaves its deadline**: one that answers has put it away, with the marker that says why the script was
stopped; one that panics leaves it where it was set. -/
inductive Closes (executor : Executor) (context : SyscallContext) : Answer α → Prop
  | answered {answer : α} {left : Executor × SyscallContext}
      (deadline : left.2.interrupt.deadline = 0) (tripped : left.2.interrupt.tripped = none) :
      Closes executor context (some answer, left)
  | panicked {left : Executor × SyscallContext}
      (deadline : left.2.interrupt.deadline = (executor.arm context).interrupt.deadline) :
      Closes executor context (none, left)

theorem Closes.map {β : Type} {ended : Answer α} (closes : executor.Closes context ended) (say : α → β) :
    executor.Closes context (ended.1.map say, ended.2) := by
  cases closes with
  | answered deadline tripped => exact .answered deadline tripped
  | panicked deadline => exact .panicked deadline

/-- **Every entry closes.** -/
theorem enter_closes (steady : executor.table.Steady) (part : Run (Except Fault α))
    (context : SyscallContext) : executor.Closes context (executor.enter part context) := by
  have inside := executor.engine.enter_deadline steady part (executor.arm context)
  -- the jobs that wait are run whether the part answered or the engine is gone
  have jobs (engine : Engine) (after : SyscallContext)
      (kept : after.interrupt.deadline = (executor.arm context).interrupt.deadline) :
      (({ executor with engine } : Executor).runJobs after).2.2.interrupt.deadline =
        (executor.arm context).interrupt.deadline :=
    (@runJobs_deadline { executor with engine } steady after).trans kept
  unfold enter
  generalize executor.engine.enter executor.table part (executor.arm context) = ended at *
  rcases ended with ⟨ended, engine, after⟩
  have ran := jobs engine after inside
  dsimp only
  split
  · split <;> rename_i finished <;> rw [finished] at ran
    · exact .panicked ran
    · exact .answered rfl rfl
  · split <;> rename_i finished <;> rw [finished] at ran
    · exact .panicked ran
    · exact .answered rfl rfl
  · exact .panicked inside

/-- Evaluating a script closes. -/
theorem evaluate_closes (steady : executor.table.Steady) (origin source : String)
    (context : SyscallContext) : executor.Closes context (executor.evaluate origin source context) := by
  have closes := enter_closes steady (evaluation source) context
  unfold evaluate
  split <;> rename_i entered <;> rw [entered] at closes <;> cases closes
  · exact .panicked ‹_›
  all_goals exact .answered ‹_› ‹_›

/-- Calling a function closes. -/
theorem call_closes (steady : executor.table.Steady) (name : String) (args : List Json)
    (context : SyscallContext) : executor.Closes context (executor.call name args context) := by
  have closes := enter_closes steady (Script.callFunction name args) context
  unfold call
  split <;> rename_i entered <;> rw [entered] at closes <;> cases closes
  · exact .panicked ‹_›
  all_goals exact .answered ‹_› ‹_›

/-- **Loading a file that can be read closes**; one that cannot be read is answered at once. -/
theorem load_closes (steady : executor.table.Steady) (files : FileSystem) (path : String)
    (context : SyscallContext) :
    executor.Closes context (executor.load files path context) ∨
      ∃ error, executor.load files path context = (some (.error error), executor, context) := by
  unfold load
  cases files.read path with
  | error error => exact .inr ⟨_, rfl⟩
  | ok source => exact .inl (evaluate_closes steady path source context)

/-- **A deadline that was set is none only where no time was allowed.** -/
theorem armed_deadline (executor : Executor) (context : SyscallContext) :
    (executor.arm context).interrupt.deadline = 0 ↔ executor.callTimeout = none := by
  unfold arm Interrupt.arm
  cases executor.callTimeout with
  | none => simp
  | some allowed =>
    have positive : Interrupt.deadlineAfter context.clock allowed ≠ 0 := by
      rw [Interrupt.deadlineAfter_eq]
      exact Nat.ne_of_gt (Interrupt.ticks_pos _)
    simp [positive]

/-- **A panic leaves a deadline set**, where time was limited. -/
theorem Closes.deadline_of_panic {ended : Answer α} (closes : executor.Closes context ended)
    (panicked : ended.1 = none) : ended.2.2.interrupt.deadline = 0 ↔ executor.callTimeout = none := by
  cases closes with
  | answered => cases panicked
  | panicked set =>
    rw [set]
    exact executor.armed_deadline context

end Executor

end ScriptKernel
