/-
**One process is made at a time.**

* `Crowd.Fresh`: a manager before any call has begun;
* `Effect.lock`: **what a step does with the lock**: it leaves it, takes it, or gives it back;
* `Crowd.Exclusive`: only a call that has the lock makes a process, and the number it has chosen stays free until
  its process has it; every step keeps this (`Exclusive.stepped`).
-/

import ScriptKernel.Proofs.Manager.Stepped

set_option autoImplicit false

namespace ScriptKernel.Manager

namespace Progress

/-- The number that a call has chosen for the process it makes. -/
def pid? : Progress → Option Pid
  | .chosen pid | .made pid _ => some pid
  | _ => none

/-- Whether a call goes on like this once it has ended a process. -/
def isBehind : Progress → Bool
  | .ended _ _ | .clearing _ _ | .answered _ => true
  | _ => false

/-- The number whose process a terminate ends, or has just ended. -/
def endedPid? : Progress → Option Pid
  | .ended pid _ | .ending _ _ (.ended pid _) => some pid
  | _ => none

/-- Only a call that has the lock has chosen a number. -/
theorem isMaking_of_pid? {progress : Progress} {pid : Pid} (chosen : progress.pid? = some pid) :
    progress.isMaking = true := by
  cases progress with
  | chosen | made => rfl
  | outside | searching | ending | ended | leaving | collecting | clearing | answered => cases chosen

/-- A call that has ended a process does not make one. -/
theorem not_isMaking_of_isBehind {progress : Progress} (behind : progress.isBehind = true) :
    progress.isMaking = false := by
  cases progress with
  | ended | clearing | answered => rfl
  | outside | searching | chosen | made | ending | leaving | collecting => cases behind

end Progress

/-- **A call does only what it is for.** -/
structure Call.Sound (call : Call) : Prop where
  /-- Whoever ends a process goes on with something else than making one. -/
  behind : ∀ number part next, call.progress = .ending number part next → next.isBehind = true
  /-- Only a terminate ends the process of its number. -/
  own : ∀ pid, call.progress.endedPid? = some pid → call.task = .terminate pid

namespace Crowd

variable {crowd after shared : Crowd} {caller : Nat} {call : Call} {progress : Progress}

/-- A manager before any call has begun. -/
structure Fresh (crowd : Crowd) : Prop where
  calls : ∀ call ∈ crowd.calls, call.progress = .outside
  members : crowd.members = []
  table : crowd.table = fun _ => none
  locked : crowd.locked = false
  log : crowd.log = []

/-! ### The lock -/

theorem Passes.not_making (sound : call.Sound) (passes : Passes crowd call progress)
    (idle : call.progress.isMaking = false) : progress.isMaking = false := by
  cases passes with
  | free same | taken same =>
    rw [same] at idle
    cases idle
  | again same => exact Progress.not_isMaking_of_isBehind (sound.behind _ _ _ same)
  | unknown | sweep | direct | absent | collected | skipped | cleared | left | last => rfl

/-- **What a step does with the lock.** -/
theorem Effect.lock_cases (sound : call.Sound) (effect : Effect crowd caller call progress shared) :
    (shared.locked = crowd.locked ∧ (call.progress.isMaking = false → progress.isMaking = false)) ∨
      (crowd.locked = false ∧ shared.locked = true) ∨
      (call.progress.isMaking = true ∧ progress.isMaking = false) := by
  cases effect with
  | pass passes => exact .inl ⟨rfl, passes.not_making sound⟩
  | lock _ _ free => exact .inr (.inl ⟨free, rfl⟩)
  | unlock had =>
    refine .inr (.inr ⟨?_, rfl⟩)
    rcases had with same | same <;> rw [same] <;> rfl
  | make chosen =>
    refine .inl ⟨rfl, fun idle => ?_⟩
    rw [chosen] at idle
    cases idle
  | insert made =>
    refine .inr (.inr ⟨?_, rfl⟩)
    rw [made]
    rfl
  | find _ finds => exact .inl ⟨rfl, fun _ => by cases finds <;> rfl⟩
  | remove _ removes => exact .inl ⟨rfl, fun _ => by cases removes <;> rfl⟩
  | begin | join => exact .inl ⟨rfl, fun _ => rfl⟩
  | mark same => exact .inl ⟨rfl, fun _ => Progress.not_isMaking_of_isBehind (sound.behind _ _ _ same)⟩

/-- **Only one call at a time makes a process.** -/
structure Exclusive (crowd : Crowd) : Prop where
  sound : ∀ (caller : Nat) (call : Call), crowd.calls[caller]? = some call → call.Sound
  locked : ∀ (caller : Nat) (call : Call), crowd.calls[caller]? = some call →
    call.progress.isMaking = true → crowd.locked = true
  alone : ∀ (caller other : Nat) (call second : Call), crowd.calls[caller]? = some call →
    crowd.calls[other]? = some second → call.progress.isMaking = true →
    second.progress.isMaking = true → caller = other
  /-- The number that was chosen stays free. -/
  free : ∀ (caller : Nat) (call : Call) (pid : Pid), crowd.calls[caller]? = some call →
    call.progress.pid? = some pid → crowd.table pid = none

theorem Fresh.exclusive (fresh : crowd.Fresh) : crowd.Exclusive := by
  have outside (caller : Nat) (call : Call) (here : crowd.calls[caller]? = some call) :
      call.progress = .outside := fresh.calls call (List.mem_of_getElem? here)
  refine ⟨fun caller call here => ⟨fun number part next same => ?_, fun pid same => ?_⟩,
    fun caller call here making => ?_, fun caller other call second here _ making _ => ?_,
    fun caller call pid here _ => ?_⟩
  · cases (outside caller call here).symm.trans same
  · rw [outside caller call here] at same
    cases same
  · rw [outside caller call here] at making
    cases making
  · rw [outside caller call here] at making
    cases making
  · rw [fresh.table]

namespace Exclusive

/-- Ending a process is followed by what was to follow. -/
theorem behind_effect (sound : call.Sound) (effect : Effect crowd caller call progress shared)
    {number : Nat} {part : Part} {next : Progress} (same : progress = .ending number part next) :
    next.isBehind = true := by
  have behind {other : Progress} (isBehind : other.isBehind = true)
      (equal : other = .ending number part next) : next.isBehind = true := by
    rw [equal] at isBehind
    cases isBehind
  cases effect with
  | pass passes =>
    cases passes with
    | direct | last =>
      cases same
      rfl
    | again before => exact behind (sound.behind _ _ _ before) same
    | free | taken | unknown | sweep | absent | collected | skipped | cleared | left => cases same
  | find _ finds =>
    cases finds with
    | terminate =>
      cases same
      rfl
    | sweep => cases same
  | remove _ removes =>
    cases removes with
    | terminate => cases same
    | sweep =>
      cases same
      rfl
  | begin before | join before =>
    cases same
    exact sound.behind _ _ _ before
  | mark before => exact behind (sound.behind _ _ _ before) same
  | lock | unlock | make | insert => cases same

/-- What a terminate goes on with once it has ended a process belongs to it. -/
theorem own_next (sound : call.Sound) {number : Nat} {part : Part} {next : Progress}
    (same : call.progress = .ending number part next) {pid : Pid}
    (ended : next.endedPid? = some pid) : call.task = .terminate pid := by
  have behind : next.isBehind = true := sound.behind _ _ _ same
  refine sound.own pid ?_
  rw [same]
  cases next with
  | ended => exact ended
  | clearing | answered => cases ended
  | outside | searching | chosen | made | ending | leaving | collecting => cases behind

/-- A call that has begun to end a process is for that. -/
theorem own_effect (sound : call.Sound) (effect : Effect crowd caller call progress shared) {pid : Pid}
    (ended : progress.endedPid? = some pid) : call.task = .terminate pid := by
  -- another part of ending a process is followed by the same
  have onward {number : Nat} {part later : Part} {next : Progress}
      (same : call.progress = .ending number part next)
      (ended : (Progress.ending number later next).endedPid? = some pid) :
      call.task = .terminate pid := by
    refine sound.own pid ?_
    rw [same]
    cases next with
    | ended => exact ended
    | _ => cases ended
  cases effect with
  | pass passes =>
    cases passes with
    | again same => exact own_next sound same ended
    | free | taken | unknown | sweep | direct | absent | collected | skipped | cleared | left
    | last => cases ended
  | find _ finds =>
    cases finds with
    | terminate task =>
      cases ended
      exact task
    | sweep => cases ended
  | remove _ removes => cases removes <;> cases ended
  | begin same | join same => exact onward same ended
  | mark same => exact own_next sound same ended
  | lock | unlock | make | insert => cases ended

/-- A call that chooses a number finds it free. -/
theorem free_effect (exclusive : crowd.Exclusive) (here : crowd.calls[caller]? = some call)
    (effect : Effect crowd caller call progress shared) {pid : Pid}
    (chosen : progress.pid? = some pid) : shared.table pid = none := by
  have idle {other : Progress} (isBehind : other.isBehind = true) (same : other.pid? = some pid) :
      False := by
    have making := Progress.isMaking_of_pid? same
    rw [Progress.not_isMaking_of_isBehind isBehind] at making
    cases making
  have sound := exclusive.sound caller call here
  cases effect with
  | pass passes =>
    cases passes with
    | free _ empty =>
      cases chosen
      exact empty
    | again before => exact absurd chosen (idle (sound.behind _ _ _ before))
    | taken | unknown | sweep | direct | absent | collected | skipped | cleared | left | last =>
      cases chosen
  | make before =>
    cases chosen
    refine exclusive.free caller call pid here ?_
    rw [before]
    rfl
  | find _ finds => cases finds <;> cases chosen
  | remove _ removes => cases removes <;> cases chosen
  | mark before => exact absurd chosen (idle (sound.behind _ _ _ before))
  | lock | unlock | insert | begin | join => cases chosen

/-- A number that another call has chosen stays free. -/
theorem free_other (exclusive : crowd.Exclusive) (here : crowd.calls[caller]? = some call)
    (effect : Effect crowd caller call progress shared) {other : Nat} {second : Call} {pid : Pid}
    (different : other ≠ caller) (there : crowd.calls[other]? = some second)
    (chosen : second.progress.pid? = some pid) : shared.table pid = none := by
  have empty : crowd.table pid = none := exclusive.free other second pid there chosen
  cases effect with
  | insert made =>
    have making : call.progress.isMaking = true := by
      rw [made]
      rfl
    exact absurd (exclusive.alone other caller second call there here
      (Progress.isMaking_of_pid? chosen) making) different
  | @remove removed number =>
    show Function.update crowd.table removed none pid = none
    by_cases same : pid = removed
    · rw [same, Function.update_self]
    · rw [Function.update_of_ne same]
      exact empty
  | pass | lock | unlock | make | find | begin | join | mark => exact empty

/-- **Every step keeps the lock.** -/
theorem stepped (step : Stepped crowd after) (exclusive : crowd.Exclusive) : after.Exclusive := by
  cases step with
  | exit => exact ⟨exclusive.sound, exclusive.locked, exclusive.alone, exclusive.free⟩
  | @call caller call progress shared here effect =>
    have sound := exclusive.sound caller call here
    have lock := effect.lock_cases sound
    -- whoever else has the lock keeps it, and this call does not have it
    have other (number : Nat) (second : Call) (different : number ≠ caller)
        (there : crowd.calls[number]? = some second) (making : second.progress.isMaking = true) :
        shared.locked = true ∧ progress.isMaking = false := by
      have held := exclusive.locked number second there making
      have idle : call.progress.isMaking = false := by
        by_contra both
        exact different (exclusive.alone number caller second call there here making
          (eq_true_of_ne_false both))
      rcases lock with ⟨same, still⟩ | ⟨free, -⟩ | ⟨had, -⟩
      · exact ⟨same.trans held, still idle⟩
      · cases held.symm.trans free
      · cases idle.symm.trans had
    refine ⟨fun number later there => ?_, fun number later there making => ?_,
      fun first second one two there found making too => ?_, fun number later pid there chosen => ?_⟩
    · rcases calls_progress effect.calls here there with ⟨rfl, rfl⟩ | ⟨-, found⟩
      · exact ⟨fun _ _ _ => behind_effect sound effect, fun _ => own_effect sound effect⟩
      · exact exclusive.sound number later found
    · rcases calls_progress effect.calls here there with ⟨rfl, rfl⟩ | ⟨different, found⟩
      · rcases lock with ⟨same, still⟩ | ⟨-, taken⟩ | ⟨-, given⟩
        · by_cases had : call.progress.isMaking = true
          · exact same.trans (exclusive.locked number call here had)
          · cases (still (eq_false_of_ne_true had)).symm.trans making
        · exact taken
        · cases given.symm.trans making
      · exact (other number later different found making).1
    · rcases calls_progress effect.calls here there with ⟨rfl, rfl⟩ | ⟨different, before⟩ <;>
        rcases calls_progress effect.calls here found with ⟨rfl, rfl⟩ | ⟨apart, behind⟩
      · rfl
      · cases (other second two apart behind too).2.symm.trans making
      · cases (other first one different before making).2.symm.trans too
      · exact exclusive.alone first second one two before behind making too
    · rcases calls_progress effect.calls here there with ⟨rfl, rfl⟩ | ⟨different, found⟩
      · exact exclusive.free_effect here effect chosen
      · exact exclusive.free_other here effect different found chosen

theorem run (exclusive : crowd.Exclusive) (schedule : List Move) : (crowd.run schedule).Exclusive :=
  run_invariant stepped schedule exclusive

end Exclusive

end Crowd

end ScriptKernel.Manager
