/-
**A process at work.**

* `Crowd.Tame`, `Crowd.Discreet`: no job has done more to how its own process stands than to end it, or has done
  anything to it;
* `Crowd.Ender`: a caller that has begun the end of the process, or closed its queue;
* `Crowd.Guarded`: **only one caller ends the process**, after the worker has ended, so that a process that has let
  a job in does not end before the job is at work; every step keeps this (`Guarded.stepped`).
-/

import ScriptKernel.Proofs.Process.Stepped
import ScriptKernel.Proofs.Queue.Closing

set_option autoImplicit false

namespace ScriptKernel

namespace Lifecycle

/-- A process that its own job has ended. -/
def endedInside (life : Lifecycle) : Lifecycle := { life with state := .terminated, shuttingDown := true }

/-- Being at work or not is not the end. -/
theorem isFinished_setRunning (life : Lifecycle) (running : Bool) :
    (life.setRunning running).isFinished = life.isFinished := by
  unfold setRunning
  by_cases finished : life.isFinished = true
  · rw [if_pos finished]
  · rw [if_neg finished, eq_false_of_ne_true finished]
    cases running <;> rfl

/-- A failure that is recorded is not the end. -/
theorem state_recordFault (life : Lifecycle) (message : String) (terminals : Terminals) :
    (life.recordFault message terminals).1.state = life.state := by
  unfold recordFault
  split <;> rfl

theorem shuttingDown_recordFault (life : Lifecycle) (message : String) (terminals : Terminals) :
    (life.recordFault message terminals).1.shuttingDown = life.shuttingDown := by
  unfold recordFault
  split <;> rfl

theorem shuttingDown_setRunning (life : Lifecycle) (running : Bool) :
    (life.setRunning running).shuttingDown = life.shuttingDown := by
  unfold setRunning
  split <;> rfl

theorem shuttingDown_markExited (life : Lifecycle) (code : ExitCode) (terminals : Terminals) :
    (life.markExited code terminals).2.1.shuttingDown = life.shuttingDown := by
  unfold markExited
  split <;> rfl

theorem shuttingDown_markTerminated (life : Lifecycle) (terminals : Terminals) :
    (life.markTerminated terminals).2.1.shuttingDown = life.shuttingDown := by
  unfold markTerminated
  split <;> rfl

end Lifecycle

namespace ScriptProcess

/-- Whether a caller is about to end the worker. -/
def Progress.ends : Progress → Bool
  | .cancelling _ | .ending _ => true
  | _ => false

variable {α : Type}

/-- Whether the worker has not begun with a job. -/
def Phase.isChecking : Phase α → Bool
  | .checking => true
  | _ => false

/-- Whether the worker has let in a job that was not at work yet. -/
def Phase.isAdmitted : Phase α → Bool
  | .starting | .working => true
  | _ => false

namespace Crowd

variable {origin crowd after shared : Crowd α} {number : Nat} {call : Call α} {progress : Progress}

/-- What the calls are for. -/
def tasks (crowd : Crowd α) : List (Task α) := crowd.calls.map Call.task

/-- **No job has done more to how its own process stands than to end it.** -/
def Tame (crowd : Crowd α) : Prop :=
  ∀ stint ∈ crowd.ran, (stint.left.lifecycle = stint.context.lifecycle ∨
      stint.left.lifecycle = stint.context.lifecycle.endedInside) ∧
    stint.left.pid = stint.context.pid

/-- **No job has touched how its own process stands**: it has not called the process from the worker. -/
def Discreet (crowd : Crowd α) : Prop :=
  ∀ stint ∈ crowd.ran, stint.left.lifecycle = stint.context.lifecycle ∧
    stint.left.pid = stint.context.pid

theorem Discreet.tame (discreet : crowd.Discreet) : crowd.Tame := fun stint here =>
  ⟨.inl (discreet stint here).1, (discreet stint here).2⟩

/-- A caller that has begun the end of the process, or the shutdown of its queue. -/
def Ender (crowd : Crowd α) (number : Nat) : Prop :=
  (∃ call, crowd.calls[number]? = some call ∧ call.progress.ends = true) ∨
    ∃ closing, crowd.queue.closings[number]? = some closing ∧ closing.ending ≠ .outside

/-! ### What a step leaves as it is -/

theorem Stepped.tasks (step : Stepped crowd after) : after.tasks = crowd.tasks := by
  have kept (calls : List (Call α)) (number : Nat) {change : Call α → Call α}
      (keeps : ∀ call, (change call).task = call.task) :
      (calls.modify number change).map Call.task = calls.map Call.task :=
    Queue.map_modify Call.task keeps calls number
  cases step with
  | answer => exact kept _ _ fun _ => rfl
  | advance => exact kept _ _ fun _ => rfl
  | @act place _ progress shared _ acts =>
    show (shared.calls.modify place _).map Call.task = _
    rw [acts.apart.1]
    exact kept _ _ fun _ => rfl
  | queue | last => rfl
  | serve _ serves =>
    cases serves with
    | reply => exact kept _ _ fun _ => rfl
    | refuse | accept | start | perform | stop | settle | leave | exit => rfl

/-- Jobs that were at work stay noted. -/
theorem Stepped.ran (step : Stepped crowd after) : ∃ more, after.ran = crowd.ran ++ more := by
  have same : crowd.ran = crowd.ran ++ [] := (List.append_nil _).symm
  cases step with
  | answer | advance | queue | last => exact ⟨[], same⟩
  | act _ acts => exact ⟨[], acts.apart.2.2.2.1.trans same⟩
  | serve _ serves =>
    cases serves with
    | perform => exact ⟨_, rfl⟩
    | refuse | accept | start | stop | settle | leave | exit | reply => exact ⟨[], same⟩

theorem Stepped.tame (step : Stepped crowd after) (tame : after.Tame) :
    crowd.Tame := by
  obtain ⟨more, longer⟩ := step.ran
  intro stint here
  refine tame stint ?_
  rw [longer]
  exact List.mem_append_left _ here

/-! ### Callers that end the process -/

/-- A step of a call changes nothing else of who ends the process. -/
theorem ender_modify {calls : List (Call α)} {change : Call α → Call α} {place : Nat}
    (ender : (∃ call, (calls.modify place change)[number]? = some call ∧ call.progress.ends = true))
    (changed : ∀ call, calls[place]? = some call → (change call).progress.ends = true →
      call.progress.ends = true) :
    ∃ call, calls[number]? = some call ∧ call.progress.ends = true := by
  obtain ⟨call, there, ends⟩ := ender
  rcases Queue.modify_cases there with ⟨-, found⟩ | ⟨rfl, old, found, rfl⟩
  · exact ⟨call, found, ends⟩
  · exact ⟨old, found, changed old found ends⟩

theorem ender_of_isEnding (ending : crowd.isEnding number = true) : crowd.Ender number := by
  unfold isEnding at ending
  split at ending
  · rename_i here
    exact .inl ⟨_, here, rfl⟩
  · cases ending

/-- The queue is closed only by a caller that ends the process. -/
theorem ender_queue {queue : Queue.Crowd Unit Unit} {move : Queue.Move}
    (moved : Queue.Crowd.Moved crowd.queue move queue)
    (permitted : crowd.permits move = true ∨ move = .finish)
    (ender : ∃ closing, queue.closings[number]? = some closing ∧ closing.ending ≠ .outside) :
    crowd.Ender number := by
  obtain ⟨closing, there, begun⟩ := ender
  rcases moved.closing there begun with before | rfl | rfl
  · exact .inr before
  · rcases permitted with permitted | other
    · exact ender_of_isEnding permitted
    · cases other
  · rcases permitted with permitted | other <;> contradiction

/-- **A caller begins the end of the process only if nobody has before.** -/
theorem Stepped.ender (step : Stepped crowd after) (ender : after.Ender number) :
    crowd.Ender number ∨
      (crowd.life.shuttingDown = false ∧ after.life.shuttingDown = true ∧
        ∀ other, after.Ender other → crowd.Ender other ∨ other = number) := by
  cases step with
  | answer here =>
    rcases ender with ends | begun
    · exact .inl (.inl (ender_modify ends fun _ _ => nofun))
    · exact .inl (.inr begun)
  | advance here advances =>
    rcases ender with ends | begun
    · refine .inl (.inl (ender_modify ends fun _ _ => ?_))
      cases advances <;> exact nofun
    · exact .inl (.inr begun)
  | queue permitted taken =>
    have moved := Queue.Crowd.moved_of_step taken
    rcases ender with ends | begun
    · exact .inl (.inl ends)
    · exact .inl (ender_queue moved (.inl permitted) begun)
  | last _ taken =>
    have moved := Queue.Crowd.moved_of_step taken
    rcases ender with ends | begun
    · exact .inl (.inl ends)
    · exact .inl (ender_queue moved (.inr rfl) begun)
  | serve _ serves =>
    cases serves with
    | reply _ taken =>
      have moved := Queue.Crowd.moved_of_step taken
      rcases ender with ends | begun
      · exact .inl (.inl (ender_modify ends fun _ _ => id))
      · exact .inl (ender_queue moved (.inr rfl) begun)
    | refuse | accept | start | perform | stop | settle | leave | exit => exact .inl ender
  | @act place call progress shared here acts =>
    have stays (same : shared.calls = crowd.calls) (queue : shared.queue = crowd.queue)
        (still : progress.ends = true → call.progress.ends = true) {other : Nat}
        (ender : (shared.progress place progress).Ender other) : crowd.Ender other := by
      rcases ender with ends | begun
      · have ends : ∃ call, (crowd.calls.modify place fun call => { call with progress })[other]? =
            some call ∧ call.progress.ends = true := same ▸ ends
        refine .inl (ender_modify ends fun old found now => ?_)
        cases here.symm.trans found
        exact still now
      · exact .inr (queue ▸ begun)
    generalize before : call.progress = reached at acts stays
    cases acts with
    | report | record | late | mark => exact .inl (stays rfl rfl nofun ender)
    | cancel => exact .inl (stays rfl rfl (fun _ => rfl) ender)
    | @begin todo staying =>
      have others {other : Nat}
          (ender : ((crowd.restate crowd.life.beginShutdown.2 crowd.site.terminals).progress place
            (.cancelling todo)).Ender other) : crowd.Ender other ∨ other = place := by
        rcases ender with ⟨later, there, ends⟩ | begun
        · rcases Queue.modify_cases there with ⟨-, found⟩ | ⟨same, -⟩
          · exact .inl (.inl ⟨later, found, ends⟩)
          · exact .inr same.symm
        · exact .inl (.inr begun)
      rcases others ender with old | rfl
      · exact .inl old
      · exact .inr ⟨staying, rfl, fun other => others⟩

/-! ### Every step -/

/-- **A process at work**: one caller ends it, and not while a job is about to work. -/
structure Guarded (origin crowd : Crowd α) : Prop where
  orderly : Queue.Crowd.Orderly origin.queue crowd.queue
  single : crowd.queue.Sealed
  alone : ∀ number other, crowd.Ender number → crowd.Ender other → number = other
  shutting : ∀ number, crowd.Ender number → crowd.life.shuttingDown = true
  holding : crowd.phase.isChecking = false → ∃ number, crowd.queue.stage = .running (.job number)
  goesOn : crowd.phase.isAdmitted = true → crowd.life.isFinished = false
  pid : crowd.process.pid = origin.process.pid
  tasks : crowd.tasks = origin.tasks

/-- A process before any call has begun. -/
theorem fresh_queue (process : ScriptProcess) (site : Site) (capacity : Nat) (tasks : List (Task α)) :
    (fresh process site capacity tasks).queue.Fresh := by
  refine ⟨?_, ?_, rfl, rfl, rfl, rfl, rfl⟩ <;> simp [fresh]

theorem fresh_guarded (process : ScriptProcess) (site : Site) (capacity : Nat)
    (tasks : List (Task α)) :
    Guarded (fresh process site capacity tasks) (fresh process site capacity tasks) := by
  have queue := fresh_queue process site capacity tasks
  have nobody (number : Nat) : ¬ (fresh process site capacity tasks).Ender number := by
    rintro (⟨call, here, ends⟩ | ⟨closing, here, begun⟩)
    · have here : (tasks.map fun task => ({ task } : Call α))[number]? = some call := here
      rw [List.getElem?_map] at here
      obtain ⟨task, -, rfl⟩ := Option.map_eq_some_iff.mp here
      cases ends
    · exact begun (queue.closings closing (List.mem_of_getElem? here))
  exact ⟨queue.orderly, queue.sealed, fun number _ ender => absurd ender (nobody number),
    fun number ender => absurd ender (nobody number), nofun, nofun, rfl, rfl⟩

/-- What a job leaves of the process that it has worked for. -/
theorem tame_last {stint : Stint} (longer : after.ran = crowd.ran ++ [stint])
    (tame : after.Tame) :
    (stint.left.lifecycle = stint.context.lifecycle ∨
      stint.left.lifecycle = stint.context.lifecycle.endedInside) ∧
      stint.left.pid = stint.context.pid := by
  refine tame stint ?_
  rw [longer]
  exact List.mem_append_right _ (.head _)

/-- Shutting down is not taken back. -/
theorem Stepped.shutting (step : Stepped crowd after) (tame : after.Tame)
    (down : crowd.life.shuttingDown = true) : after.life.shuttingDown = true := by
  cases step with
  | answer | advance | queue | last => exact down
  | @act _ call _ _ _ acts =>
    generalize call.progress = reached at acts
    cases acts with
    | report | cancel => exact down
    | record => exact (Lifecycle.shuttingDown_recordFault _ _ _).trans down
    | begin | late => rfl
    | mark => exact (Lifecycle.shuttingDown_markTerminated _ _).trans down
  | serve _ serves =>
    cases serves with
    | refuse | accept | settle | leave | reply => exact down
    | start | stop => exact (Lifecycle.shuttingDown_setRunning _ _).trans down
    | exit => exact (Lifecycle.shuttingDown_markExited _ _ _).trans down
    | perform =>
      rcases (tame_last rfl tame).1 with kept | ended
      · exact (congrArg Lifecycle.shuttingDown kept).trans down
      · exact congrArg Lifecycle.shuttingDown ended

/-- The queue moves by a step of its own, or with the end of a job. -/
theorem Stepped.queue_cases (step : Stepped crowd after) :
    after.queue = crowd.queue ∨ ∃ move, crowd.queue.step move = some after.queue ∧
      (crowd.permits move = true ∨ move = .finish) := by
  cases step with
  | answer | advance => exact .inl rfl
  | act _ acts => exact .inl acts.apart.2.1
  | queue permitted taken => exact .inr ⟨_, taken, .inl permitted⟩
  | last _ taken => exact .inr ⟨_, taken, .inr rfl⟩
  | serve _ serves =>
    cases serves with
    | reply _ taken => exact .inr ⟨_, taken, .inr rfl⟩
    | refuse | accept | start | perform | stop | settle | leave | exit => exact .inl rfl

/-- A process keeps its number. -/
theorem Stepped.pid (step : Stepped crowd after) (tame : after.Tame) :
    after.process.pid = crowd.process.pid := by
  cases step with
  | answer | advance | queue | last => rfl
  | act _ acts => exact acts.apart.2.2.2.2
  | serve _ serves =>
    cases serves with
    | perform => exact (tame_last rfl tame).2
    | refuse | accept | start | stop | settle | leave | exit | reply => rfl

namespace Guarded

/-- A closed queue belongs to a process that is shutting down. -/
theorem shuttingDown (guarded : Guarded origin crowd) (closed : crowd.queue.closed = true) :
    crowd.life.shuttingDown = true := by
  obtain ⟨number, closing, here, begun⟩ := guarded.single.begun closed
  exact guarded.shutting number (.inr ⟨closing, here, begun⟩)

/-- The queue has one shutdown, since one caller ends the process. -/
theorem single_step (guarded : Guarded origin crowd) (step : Stepped crowd after) :
    after.queue.Sealed := by
  rcases step.queue_cases with same | ⟨move, taken, permitted⟩
  · rw [same]
    exact guarded.single
  · refine guarded.single.moved (Queue.Crowd.moved_of_step taken) ?_ ?_ ?_
    · rintro rfl
      rcases permitted with permitted | other <;> contradiction
    · rintro number rfl
      rcases permitted with permitted | other <;> contradiction
    · rintro number rfl other closing there begun
      rcases permitted with permitted | finish
      · exact guarded.alone number other (ender_of_isEnding permitted) (.inr ⟨closing, there, begun⟩)
      · cases finish

/-- While the worker has begun with a job it holds one. -/
theorem holding_step (guarded : Guarded origin crowd) (step : Stepped crowd after)
    (begun : after.phase.isChecking = false) :
    ∃ number, after.queue.stage = .running (.job number) := by
  cases step with
  | answer | advance => exact guarded.holding begun
  | @act _ _ progress shared _ acts =>
    obtain ⟨-, queue, phase, -⟩ := acts.apart
    have begun : crowd.phase.isChecking = false := phase ▸ begun
    obtain ⟨number, running⟩ := guarded.holding begun
    exact ⟨number, (congrArg Queue.Crowd.stage queue).trans running⟩
  | @queue move _ permitted taken =>
    obtain ⟨number, running⟩ := guarded.holding begun
    have goesOn : move ≠ .finish := by
      rintro rfl
      cases permitted
    exact ⟨number, ((Queue.Crowd.moved_of_step taken).running goesOn).1 running⟩
  | last running =>
    obtain ⟨number, other⟩ := guarded.holding begun
    cases running.symm.trans other
  | @serve number _ running serves =>
    cases serves with
    | reply => cases begun
    | refuse | accept | start | perform | stop | settle | leave | exit => exact ⟨number, running⟩

/-- **No other party ends the process while a job is about to work.** -/
theorem goesOn_step (guarded : Guarded origin crowd) (step : Stepped crowd after)
    (admitted : after.phase.isAdmitted = true) : after.life.isFinished = false := by
  cases step with
  | answer | advance | queue | last => exact guarded.goesOn admitted
  | @act number call _ _ _ acts =>
    generalize call.progress = reached at acts
    cases acts with
    | report | begin | late | cancel => exact guarded.goesOn admitted
    | record =>
      have state := Lifecycle.state_recordFault crowd.life
      exact (congrArg ProcessState.isFinished (state _ _)).trans (guarded.goesOn admitted)
    | mark there ended =>
      -- the worker has ended, so that it holds no job
      have stopped := guarded.single.waited number _ there ended
      have begun : crowd.phase.isChecking = false := by
        cases phase : crowd.phase with
        | checking =>
          have admitted : crowd.phase.isAdmitted = true := admitted
          rw [phase] at admitted
          cases admitted
        | _ => rfl
      obtain ⟨other, running⟩ := guarded.holding begun
      cases stopped.symm.trans running
  | serve _ serves =>
    cases serves with
    | refuse | perform | stop | settle | leave | exit | reply => cases admitted
    | accept _ unfinished => exact unfinished
    | start starting =>
      have before : crowd.phase.isAdmitted = true := by
        rw [starting]
        rfl
      exact (Lifecycle.isFinished_setRunning _ _).trans (guarded.goesOn before)

/-- **Every step keeps the process guarded.** -/
theorem stepped (step : Stepped crowd after) (tame : after.Tame)
    (guarded : Guarded origin crowd) : Guarded origin after := by
  have down := step.shutting tame
  refine ⟨?_, guarded.single_step step, fun number other one two => ?_, fun number ender => ?_,
    guarded.holding_step step, guarded.goesOn_step step, (step.pid tame).trans guarded.pid,
    step.tasks.trans guarded.tasks⟩
  · rcases step.queue_cases with same | ⟨move, taken, -⟩
    · rw [same]
      exact guarded.orderly
    · exact guarded.orderly.stepped (Queue.Crowd.of_step taken)
  · rcases step.ender one with first | ⟨staying, -, only⟩
    · rcases step.ender two with second | ⟨staying, -, -⟩
      · exact guarded.alone number other first second
      · cases (guarded.shutting number first).symm.trans staying
    · rcases only other two with second | same
      · cases (guarded.shutting other second).symm.trans staying
      · exact same.symm
  · rcases step.ender ender with old | ⟨-, begun, -⟩
    · exact down (guarded.shutting number old)
    · exact begun

end Guarded

end Crowd

end ScriptProcess

end ScriptKernel
