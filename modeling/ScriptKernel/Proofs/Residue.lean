/-
**What an entry leaves behind for the next.**

An entry may leave an exception that waits, and the reason for which its script was stopped. Neither is seen by a later
entry.

* `Engine.wiped`, `Executor.wiped`: an engine and an executor without the exception that waits;
* `Executor.Indistinct`: two endings of an entry that differ in that exception at most, and in what is not told apart
  of their contexts;
* `enter_blind`, `evaluate_blind`, `load_blind`, `call_blind`: **an entry that sets a deadline ends the same and in the
  same context**, whichever exception waits and whatever the marker says;
* `hasFunction_blind`: looking for a function ends the same up to the marker, for host functions that do not see it.
-/

import ScriptKernel.Proofs.Entry
import ScriptKernel.Proofs.Syscall.Oblivious

set_option autoImplicit false

namespace ScriptKernel

open Script (Fault Run)
open SyscallContext (SameButMarker)

variable {α : Type} {alike : SyscallContext → SyscallContext → Prop} {first second : SyscallContext}

/-! ### Engines -/

namespace Engine

/-- An engine without the exception that waits. -/
def wiped (engine : Engine) : Engine := ⟨engine.memory.map Script.Memory.wiped⟩

/-- **A part of a script is blind to the exception that waits in its engine.** -/
theorem enter_blind {table : SyscallTable} (respects : Script.Part.Respects table.host alike)
    {here there : Engine} (same : here.wiped = there.wiped) (related : alike first second)
    (run : Run α) : ∃ ended left right before after,
      here.enter table run first = (ended, left, before) ∧
      there.enter table run second = (ended, right, after) ∧
      left.wiped = right.wiped ∧ alike before after := by
  rcases here with ⟨_ | memory⟩ <;> rcases there with ⟨_ | other⟩
  · exact ⟨_, _, _, _, _, rfl, rfl, rfl, related⟩
  · cases same
  · cases same
  · have memories : memory.wiped = other.wiped := Option.some.inj (Engine.mk.inj same)
    have ended := run.built.blind respects memory other first second memories related
    unfold enter
    dsimp only
    generalize Script.Dialogue.run table.host (run.part memory) first = left at ended
    generalize Script.Dialogue.run table.host (run.part other) second = right at ended
    cases ended with
    | intro outcome same related =>
      exact ⟨_, _, _, _, _, rfl, rfl, congrArg (fun memory => Engine.mk (some memory)) same, related⟩

end Engine

/-! ### Executors -/

namespace Executor

variable {here there : Executor}

/-- An executor without the exception that waits. -/
def wiped (executor : Executor) : Executor := { executor with engine := executor.engine.wiped }

/-- Executors that differ in the exception that waits differ in their engines at most. -/
theorem wiped_eq (same : here.wiped = there.wiped) :
    ∃ engine, there = { here with engine } ∧ here.engine.wiped = engine.wiped := by
  obtain ⟨pid, engines, callTimeout, table⟩ := Executor.mk.inj same
  refine ⟨there.engine, ?_, engines⟩
  rw [pid, callTimeout, table]

theorem wiped_of (executor : Executor) {left right : Engine} (same : left.wiped = right.wiped) :
    ({ executor with engine := left } : Executor).wiped =
      ({ executor with engine := right } : Executor).wiped := by
  unfold wiped
  rw [same]

theorem wiped_wiped (executor : Executor) : executor.wiped.wiped = executor.wiped := by
  rcases executor with ⟨pid, ⟨_ | memory⟩, callTimeout, table⟩ <;> rfl

/-- **Two endings of an entry that differ in the exception that waits at most**, and in what is not told apart of their
contexts. -/
inductive Indistinct (alike : SyscallContext → SyscallContext → Prop) : Answer α → Answer α → Prop
  | intro (reply : Option α) {here there : Executor} {first second : SyscallContext} :
      here.wiped = there.wiped → alike first second →
      Indistinct alike (reply, here, first) (reply, there, second)

theorem Indistinct.map {β : Type} {left right : Answer α} (indistinct : Indistinct alike left right)
    (say : α → β) : Indistinct alike (left.1.map say, left.2) (right.1.map say, right.2) := by
  cases indistinct with
  | intro reply same related => exact .intro _ same related

theorem Indistinct.mono {wider : SyscallContext → SyscallContext → Prop} {left right : Answer α}
    (indistinct : Indistinct alike left right)
    (wide : ∀ first second, alike first second → wider first second) : Indistinct wider left right := by
  cases indistinct with
  | intro reply same related => exact .intro _ same (wide _ _ related)

/-- A host answers the same in the same context. -/
theorem respects_eq (table : SyscallTable) : Script.Part.Respects table.host Eq := by
  rintro question first _ rfl
  exact ⟨rfl, rfl⟩

theorem runJobs_blind (same : here.wiped = there.wiped) (context : SyscallContext) :
    Indistinct Eq (here.runJobs context) (there.runJobs context) := by
  obtain ⟨engine, rfl, engines⟩ := wiped_eq same
  obtain ⟨ended, left, right, before, after, ran, ran', same, related⟩ :=
    Engine.enter_blind (respects_eq here.table) engines rfl (Script.runJobs .standard)
  unfold runJobs
  dsimp only
  rw [ran, ran']
  rcases ended with error | (count | _ | _ | _) <;> exact .intro _ (here.wiped_of same) related

/-- **An entry ends the same and in the same context** whichever exception waits and whatever the marker says. -/
theorem enter_blind (same : here.wiped = there.wiped) (related : SameButMarker first second)
    (part : Run (Except Fault α)) : Indistinct Eq (here.enter part first) (there.enter part second) := by
  obtain ⟨engine, rfl, engines⟩ := wiped_eq same
  obtain ⟨marker, rfl⟩ := related
  -- setting the deadline puts the marker away
  have armed : ({ here with engine } : Executor).arm (first.marked marker) = here.arm first := rfl
  obtain ⟨ended, left, right, before, _, ran, ran', same, rfl⟩ :=
    Engine.enter_blind (respects_eq here.table) engines (Eq.refl (here.arm first)) part
  have jobs := runJobs_blind (here.wiped_of same) before
  unfold enter
  dsimp only
  rw [armed, ran, ran']
  dsimp only
  generalize ({ here with engine := left } : Executor).runJobs before = finished at jobs
  generalize ({ here with engine := right } : Executor).runJobs before = finished' at jobs
  rcases ended with error | (answer | _ | _ | _)
  -- where the part has answered or the engine is gone, the jobs that wait decide
  · cases jobs with
    | intro count same related => cases related; cases count <;> exact .intro _ same rfl
  · cases jobs with
    | intro count same related => cases related; cases count <;> exact .intro _ same rfl
  all_goals exact .intro _ (here.wiped_of same) rfl

/-- The exception that waits is no reason for a fault. -/
theorem classify_blind (same : here.wiped = there.wiped) : here.classify = there.classify := by
  obtain ⟨engine, rfl, -⟩ := wiped_eq same
  rfl

theorem pid_blind (same : here.wiped = there.wiped) : here.pid = there.pid := by
  obtain ⟨engine, rfl, -⟩ := wiped_eq same
  rfl

theorem evaluate_blind (same : here.wiped = there.wiped) (related : SameButMarker first second)
    (origin source : String) :
    Indistinct Eq (here.evaluate origin source first) (there.evaluate origin source second) := by
  have entered := enter_blind same related (evaluation source)
  unfold evaluate
  generalize here.enter (evaluation source) first = left at entered
  generalize there.enter (evaluation source) second = right at entered
  cases entered with
  | intro reply same related =>
    cases related
    rcases reply with _ | ⟨error | fault | done, reason⟩
    · exact .intro _ same rfl
    · dsimp only
      rw [pid_blind same]
      exact .intro _ same rfl
    · dsimp only
      rw [classify_blind same]
      exact .intro _ same rfl
    · exact .intro _ same rfl

theorem call_blind (same : here.wiped = there.wiped) (related : SameButMarker first second)
    (name : String) (args : List Json) :
    Indistinct Eq (here.call name args first) (there.call name args second) := by
  have entered := enter_blind same related (Script.callFunction name args)
  unfold call
  generalize here.enter (Script.callFunction name args) first = left at entered
  generalize there.enter (Script.callFunction name args) second = right at entered
  cases entered with
  | intro reply same related =>
    cases related
    rcases reply with _ | ⟨error | fault | value, reason⟩
    · exact .intro _ same rfl
    · dsimp only
      rw [pid_blind same]
      exact .intro _ same rfl
    · cases fault with
      | missing =>
        dsimp only
        rw [pid_blind same]
        exact .intro _ same rfl
      | exception _ | engine _ =>
        dsimp only
        rw [classify_blind same, pid_blind same]
        exact .intro _ same rfl
    · exact .intro _ same rfl

/-- **Loading a file ends the same**; one that cannot be read leaves the marker where it was. -/
theorem load_blind (same : here.wiped = there.wiped) (related : SameButMarker first second)
    (files : FileSystem) (path : String) :
    Indistinct SameButMarker (here.load files path first) (there.load files path second) := by
  unfold load
  cases files.read path with
  | error error => exact .intro _ same related
  | ok source => exact (evaluate_blind same related path source).mono fun _ _ => .of_eq

/-- **Looking for a function ends the same up to the marker.** -/
theorem hasFunction_blind (oblivious : here.table.Oblivious) (same : here.wiped = there.wiped)
    (related : SameButMarker first second) (name : String) :
    Indistinct SameButMarker (here.hasFunction name first) (there.hasFunction name second) := by
  obtain ⟨engine, rfl, engines⟩ := wiped_eq same
  obtain ⟨ended, left, right, before, after, ran, ran', same, related⟩ :=
    Engine.enter_blind oblivious.respects engines related (Script.hasFunction name)
  unfold hasFunction
  dsimp only
  rw [ran, ran']
  rcases ended with error | (found | _ | _ | _) <;> exact .intro _ (here.wiped_of same) related

end Executor

end ScriptKernel
