/-
**What an entry leaves behind.**

* `Executor.Leaves`: a live engine, the executor otherwise as it was, and a context reached by the steps of a
  script;
* `enter_answers`: **every entry answers**, on a sound engine and with host functions that do not panic; so do
  `evaluate`, `load`, `call` and `hasFunction`;
* `evaluate_exit`, `load_exit`, `call_exit`: **an entry during which an exit was asked for fails with that
  exit**, as long as nothing else stopped it; only a name that is no function is told as such
  (`Executor.Resolves`);
* `load_faults`, `call_faults`: **an entry that fails although no exit was asked for fails with a fault**.
-/

import ScriptKernel.Proofs.Context

set_option autoImplicit false

namespace ScriptKernel

open Script (Fault Run)
open SyscallContext (Moves Move)

namespace Executor

variable {α : Type} {executor : Executor} {context : SyscallContext}

/-- **What entries into a script leave.** -/
structure Leaves (executor : Executor) (context : SyscallContext)
    (left : Executor × SyscallContext) : Prop where
  rest : left.1 = { executor with engine := left.1.engine }
  sound : left.1.engine.Sound
  moves : Moves executor.table executor.callTimeout context left.2

theorem Leaves.refl (sound : executor.engine.Sound) (context : SyscallContext) :
    executor.Leaves context (executor, context) :=
  ⟨rfl, sound, .refl⟩

theorem Leaves.table {left : Executor × SyscallContext} (leaves : executor.Leaves context left) :
    left.1.table = executor.table := by
  rw [leaves.rest]

theorem Leaves.callTimeout {left : Executor × SyscallContext}
    (leaves : executor.Leaves context left) : left.1.callTimeout = executor.callTimeout := by
  rw [leaves.rest]

theorem Leaves.trans {middle last : Executor × SyscallContext}
    (first : executor.Leaves context middle) (second : middle.1.Leaves middle.2 last) :
    executor.Leaves context last := by
  refine ⟨?_, second.sound, ?_⟩
  · rw [second.rest, first.rest]
  · have moves := second.moves
    rw [first.table, first.callTimeout] at moves
    exact first.moves.trans moves

/-! ### One entry -/

/-- The jobs that wait are run to their end. -/
theorem runJobs_answers (calm : executor.table.Calm) (sound : executor.engine.Sound)
    (context : SyscallContext) :
    ∃ count left, executor.runJobs context = (some count, left) ∧ executor.Leaves context left := by
  obtain ⟨count, engine, after, entered, sound', -, moves⟩ :=
    Engine.enter_answers calm executor.callTimeout sound (Script.answers_runJobs .standard) context
  refine ⟨count, ({ executor with engine }, after), ?_, ⟨rfl, sound', moves⟩⟩
  unfold runJobs
  rw [entered]

/-- **Every entry answers**, with the reason for which it was stopped. -/
theorem enter_answers (calm : executor.table.Calm) {part : Run (Except Fault α)}
    {answer : Except Fault α} {engine : Engine} {after : SyscallContext}
    (entered : executor.engine.enter executor.table part (context.armed executor.callTimeout) =
      (.ok (.value answer), engine, after)) (sound : engine.Sound)
    (moves : Moves executor.table executor.callTimeout (context.armed executor.callTimeout) after) :
    ∃ engine middle, executor.enter part context =
        (some ⟨.ok answer, middle.interrupt.tripped⟩, { executor with engine }, middle.disarmed) ∧
      engine.Sound ∧
      Moves executor.table executor.callTimeout (context.armed executor.callTimeout) middle := by
  obtain ⟨count, left, ran, leaves⟩ := @runJobs_answers { executor with engine } calm sound after
  refine ⟨left.1.engine, left.2, ?_, leaves.sound, moves.trans leaves.moves⟩
  have armed : executor.arm context = context.armed executor.callTimeout := rfl
  unfold enter
  simp only [armed, entered, ran]
  rw [leaves.rest]
  rfl

theorem answers_evaluation (source : String) : (evaluation source).Answers fun _ => True := by
  refine Run.answers_bind (Script.answers_evaluateReported source) fun outcome _ => ?_
  cases outcome <;> exact Run.answers_pure trivial

/-- **Evaluating a script**: the answer, and what explains a failure. -/
theorem evaluate_answers (calm : executor.table.Calm) (sound : executor.engine.Sound)
    (origin source : String) (context : SyscallContext) :
    ∃ answer engine middle, executor.evaluate origin source context =
        (some answer, { executor with engine }, middle.disarmed) ∧ engine.Sound ∧
      Moves executor.table executor.callTimeout (context.armed executor.callTimeout) middle ∧
      ∀ error, answer = .error error → ∃ fault, error =
        executor.classify origin fault middle.interrupt.tripped middle.interrupt.exitCode
          (.evaluation origin) := by
  obtain ⟨answer, engine, after, began, sound, -, moves⟩ := Engine.enter_answers calm
    executor.callTimeout sound (answers_evaluation source) (context.armed executor.callTimeout)
  obtain ⟨engine, middle, entered, sound, moves⟩ := enter_answers calm began sound moves
  cases answer with
  | ok done =>
    refine ⟨.ok (), engine, middle, ?_, sound, moves, nofun⟩
    unfold evaluate
    simp only [entered]
  | error fault =>
    refine ⟨.error (executor.classify origin fault middle.interrupt.tripped
      middle.interrupt.exitCode (.evaluation origin)), engine, middle, ?_, sound, moves,
      fun error same => ⟨fault, ?_⟩⟩
    · unfold evaluate
      simp only [entered]
      rfl
    · cases same
      rfl

/-! ### Calls -/

/-- A global answers to a name by a function, when a call looks it up. -/
def Resolves (executor : Executor) (name : String) (context : SyscallContext) : Prop :=
  ∃ target engine after, executor.engine.enter executor.table (Script.resolve name)
    (context.armed executor.callTimeout) = (.ok (.value (.ok target)), engine, after)

/-- What a call of a function answers before the jobs are run; a function that was resolved is not missing. -/
theorem callFunction_answers (calm : executor.table.Calm) (sound : executor.engine.Sound)
    (name : String) (args : List Json) (context : SyscallContext) :
    ∃ answer engine after, executor.engine.enter executor.table (Script.callFunction name args)
        (context.armed executor.callTimeout) = (.ok (.value answer), engine, after) ∧
      engine.Sound ∧ (executor.Resolves name context → answer ≠ .error .missing) ∧
      Moves executor.table executor.callTimeout (context.armed executor.callTimeout) after := by
  obtain ⟨resolved, middle, halfway, looked, quiet, -, first⟩ := Engine.enter_answers calm
    executor.callTimeout sound (Script.answers_resolve name) (context.armed executor.callTimeout)
  cases resolved with
  | error fault =>
    refine ⟨.error fault, middle, halfway, ?_, quiet, ?_, first⟩
    · unfold Script.callFunction
      rw [Engine.enter_bind looked]
      exact quiet.enter_pure _ _ _
    · rintro ⟨target, engine, after, found⟩
      rw [looked] at found
      cases found
  | ok target =>
    obtain ⟨answer, engine, after, applied, sound, known, second⟩ := Engine.enter_answers calm
      executor.callTimeout quiet (Script.answers_apply target args) halfway
    refine ⟨answer, engine, after, ?_, sound, fun _ => known, first.trans second⟩
    unfold Script.callFunction
    rw [Engine.enter_bind looked]
    exact applied

/-- **Calling a function**: the answer, and what explains a failure. -/
theorem call_answers (calm : executor.table.Calm) (sound : executor.engine.Sound)
    (name : String) (args : List Json) (context : SyscallContext) :
    ∃ answer engine middle, executor.call name args context =
        (some answer, { executor with engine }, middle.disarmed) ∧ engine.Sound ∧
      Moves executor.table executor.callTimeout (context.armed executor.callTimeout) middle ∧
      ∀ error, answer = .error error →
        (¬ executor.Resolves name context ∧ error = .symbolNotFound executor.pid name) ∨
          ∃ fault, error = executor.classify name fault middle.interrupt.tripped
            middle.interrupt.exitCode (.call executor.pid name) := by
  obtain ⟨answer, engine, after, began, sound, known, moves⟩ :=
    callFunction_answers calm sound name args context
  obtain ⟨engine, middle, entered, sound, moves⟩ := enter_answers calm began sound moves
  rcases answer with fault | value
  · by_cases missing : fault = .missing
    · subst missing
      refine ⟨.error (.symbolNotFound executor.pid name), engine, middle, ?_, sound, moves,
        fun error same => .inl ⟨fun resolves => known resolves rfl, ?_⟩⟩
      · unfold call
        simp only [entered]
      · cases same
        rfl
    · refine ⟨.error (executor.classify name fault middle.interrupt.tripped
        middle.interrupt.exitCode (.call executor.pid name)), engine, middle, ?_, sound, moves,
        fun error same => .inr ⟨fault, ?_⟩⟩
      · unfold call
        simp only [entered]
        rfl
      · cases same
        rfl
  · refine ⟨.ok value, engine, middle, ?_, sound, moves, nofun⟩
    unfold call
    simp only [entered]

/-! ### What the entries of a process leave -/

/-- An entry is made of the steps of a script. -/
theorem leaves_of_moves {engine : Engine} {middle : SyscallContext} (sound : engine.Sound)
    (moves : Moves executor.table executor.callTimeout (context.armed executor.callTimeout) middle) :
    executor.Leaves context ({ executor with engine }, middle.disarmed) :=
  ⟨rfl, sound, (Relation.ReflTransGen.single (.arm context)).trans (moves.tail (.disarm middle))⟩

theorem load_leaves (calm : executor.table.Calm) (sound : executor.engine.Sound)
    (files : FileSystem) (path : String) (context : SyscallContext) :
    ∃ answer left, executor.load files path context = (some answer, left) ∧
      executor.Leaves context left := by
  unfold load
  cases files.read path with
  | error error => exact ⟨_, _, rfl, .refl sound context⟩
  | ok source =>
    obtain ⟨answer, engine, middle, ended, sound, moves, -⟩ :=
      evaluate_answers calm sound path source context
    exact ⟨_, _, ended, leaves_of_moves sound moves⟩

theorem call_leaves (calm : executor.table.Calm) (sound : executor.engine.Sound)
    (name : String) (args : List Json) (context : SyscallContext) :
    ∃ answer left, executor.call name args context = (some answer, left) ∧
      executor.Leaves context left := by
  obtain ⟨answer, engine, middle, ended, sound, moves, -⟩ :=
    call_answers calm sound name args context
  exact ⟨_, _, ended, leaves_of_moves sound moves⟩

theorem hasFunction_leaves (calm : executor.table.Calm) (sound : executor.engine.Sound)
    (name : String) (context : SyscallContext) :
    ∃ answer left, executor.hasFunction name context = (some answer, left) ∧
      executor.Leaves context left := by
  obtain ⟨found, engine, after, entered, sound, -, moves⟩ := Engine.enter_answers calm
    executor.callTimeout sound (Script.answers_hasFunction name) context
  refine ⟨found, ({ executor with engine }, after), ?_, rfl, sound, moves⟩
  unfold hasFunction
  rw [entered]

/-! ### Exits -/

/-- An entry that begins at one time does not meet its deadline up to another. -/
def Unhurried (executor : Executor) (start limit : Duration) : Prop :=
  ∀ allowed, executor.callTimeout = some allowed →
    Interrupt.ticks limit < Interrupt.ticks (start + allowed)

/-- An entry that begins later does not meet its deadline up to an earlier time. -/
theorem Unhurried.mono {start limit later earlier : Duration} (unhurried : executor.Unhurried start limit)
    (after : start ≤ later) (before : earlier ≤ limit) : executor.Unhurried later earlier :=
  fun allowed here => Nat.lt_of_le_of_lt (Interrupt.ticks_mono before)
    (Nat.lt_of_lt_of_le (unhurried allowed here)
      (Interrupt.ticks_mono (Nat.add_le_add_right after allowed)))

variable {error : ScriptError} {left : Executor × SyscallContext} {code : ExitCode}

/-- An entry that was not stopped for an exit, when none was asked for, fails with a fault. -/
theorem classify_faults {reason : Option InterruptReason} (unstopped : reason ≠ some .exit)
    {ofException : String → ScriptError}
    (faults : ∀ exception, (ofException exception).kind.isSome = true) (executor : Executor)
    (target : String) (fault : Fault) :
    (executor.classify target fault reason none ofException).kind.isSome = true := by
  unfold classify
  rcases reason with _ | _ | _ | _
  · cases fault with
    | exception text => exact faults text
    | engine error => rfl
    | missing => rfl
  · rfl
  · rfl
  · exact absurd rfl unstopped

/-- Where no exit was asked for, no entry was stopped for one. -/
theorem unstopped_of_moves (modest : executor.table.Modest) {middle : SyscallContext}
    (moves : Moves executor.table executor.callTimeout (context.armed executor.callTimeout) middle)
    (unasked : middle.interrupt.exitCode = none) : middle.interrupt.tripped ≠ some .exit := by
  intro stopped
  have asked := (moves.honest modest.steady (.arm _ _ _)).exit stopped
  rw [unasked] at asked
  cases asked

/-- **Loading fails with a fault**, where no exit was asked for. -/
theorem load_faults (calm : executor.table.Calm) (modest : executor.table.Modest)
    (sound : executor.engine.Sound) {files : FileSystem} {path : String}
    (ended : executor.load files path context = (some (.error error), left))
    (unasked : left.2.interrupt.exitCode = none) : error.kind.isSome = true := by
  unfold load at ended
  cases found : files.read path with
  | error reason =>
    rw [found] at ended
    cases ended
    rfl
  | ok source =>
    rw [found] at ended
    obtain ⟨answer, engine, middle, evaluated, -, moves, explained⟩ :=
      evaluate_answers calm sound path source context
    dsimp only at ended
    rw [evaluated] at ended
    cases ended
    obtain ⟨fault, rfl⟩ := explained error rfl
    have held : middle.interrupt.exitCode = none := unasked
    rw [held]
    exact classify_faults (unstopped_of_moves modest moves held) (fun _ => rfl) ..

/-- **A call fails with a fault**, where no exit was asked for. -/
theorem call_faults (calm : executor.table.Calm) (modest : executor.table.Modest)
    (sound : executor.engine.Sound) {name : String} {args : List Json}
    (ended : executor.call name args context = (some (.error error), left))
    (unasked : left.2.interrupt.exitCode = none) : error.kind.isSome = true := by
  obtain ⟨answer, engine, middle, called, -, moves, explained⟩ :=
    call_answers calm sound name args context
  rw [called] at ended
  cases ended
  rcases explained error rfl with ⟨-, rfl⟩ | ⟨fault, rfl⟩
  · rfl
  · have held : middle.interrupt.exitCode = none := unasked
    rw [held]
    exact classify_faults (unstopped_of_moves modest moves held) (fun _ => rfl) ..

end Executor

end ScriptKernel
