/-
**What the worker of a process has done for each call.**

* `Crowd.stints`: the times when the job of a call was at work;
* `Ran`, `Served`: **a job that was at work once, on a process that had not ended**, with the answer it gave; or one that
  the worker refused since the process had ended, and that was never at work;
* `Phase.Accounts`: what is known of the job that the worker holds;
* `Crowd.Accounted`: what is known of every call; every step keeps this (`Accounted.stepped`).
-/

import ScriptKernel.Proofs.Process.Guarded

set_option autoImplicit false

namespace ScriptKernel.ScriptProcess

variable {α : Type}

/-! ### One call -/

/-- The job gave this answer, and the process had not ended when it went to work. -/
def Stint.Yields (stint : Stint) (errand : Errand α) (answer : Except ProcessError α) : Prop :=
  stint.context.lifecycle.isFinished = false ∧
    (errand.job stint.way stint.executor stint.context).1 = some answer

/-- **The job of a call was at work once**, and gave this answer. -/
def Ran (task : Option (Task α)) (stints : List Stint) (answer : Except ProcessError α) : Prop :=
  ∃ errand stint, task = some (.run errand) ∧ stints = [stint] ∧ stint.Yields errand answer

/-- **What the worker can have replied**: the answer of the job, or a refusal of a job that was never at work. -/
def Served (task : Option (Task α)) (stints : List Stint) (pid : Pid)
    (answer : Except ProcessError α) : Prop :=
  Ran task stints answer ∨ (answer = .error (.terminated pid) ∧ stints = [])

/-- A job of its own fails only with its script. -/
theorem Ran.plain {task : Option (Task α)} {stints : List Stint} {error : ProcessError}
    (ran : Ran task stints (.error error)) : ∃ failure, error = .script failure := by
  obtain ⟨errand, stint, -, -, -, ended⟩ := ran
  exact errand.plain _ _ _ _ ended

/-- A job that was at work does not answer that the process has ended. -/
theorem Ran.not_terminated {task : Option (Task α)} {stints : List Stint} {pid : Pid} :
    ¬ Ran task stints (.error (.terminated pid)) := by
  intro ran
  obtain ⟨failure, other⟩ := ran.plain
  cases other

/-- The worker replies nothing about the queue. -/
theorem Served.not_queue {task : Option (Task α)} {stints : List Stint} {pid : Pid}
    {answer : Except ProcessError α} (served : Served task stints pid answer) (error : QueueError) :
    answer ≠ .error (.queue error) := by
  rintro rfl
  rcases served with ran | ⟨other, -⟩
  · obtain ⟨failure, other⟩ := ran.plain
    cases other
  · cases other

/-- What is known of the job that the worker holds, by how far the worker has come with it. -/
def Phase.Accounts (task : Option (Task α)) (stints : List Stint) (pid : Pid) : Phase α → Prop
  | .checking | .starting | .working => stints = []
  | .stopping answer | .settling answer | .exiting answer _ => Ran task stints answer
  | .replying answer => Served task stints pid answer

namespace Crowd

variable {origin crowd after : Crowd α} {number : Nat}

/-- The times when the job of a call was at work. -/
def stints (crowd : Crowd α) (number : Nat) : List Stint :=
  crowd.ran.filter fun stint => stint.number == number

/-- What the worker has replied to each call. -/
def outcomes (crowd : Crowd α) : List (Option (Except ProcessError α)) := crowd.calls.map Call.outcome

/-- **What is known of every call.** -/
structure Accounted (crowd : Crowd α) : Prop where
  unbegun : ∀ number, .began (.job number) ∉ crowd.queue.log → crowd.stints number = []
  current : ∀ number, crowd.queue.stage = .running (.job number) →
    crowd.phase.Accounts crowd.tasks[number]? (crowd.stints number) crowd.process.pid
  done : ∀ number, .finished (.job number) ∈ crowd.queue.log →
    ∃ answer, Served crowd.tasks[number]? (crowd.stints number) crowd.process.pid answer ∧
      ∀ outcome, crowd.outcomes[number]? = some outcome → outcome = some answer
  replied : ∀ (number : Nat) (answer : Except ProcessError α),
    crowd.outcomes[number]? = some (some answer) → .finished (.job number) ∈ crowd.queue.log

/-! ### What a step leaves as it is -/

theorem stints_of_ran (same : after.ran = crowd.ran) (number : Nat) :
    after.stints number = crowd.stints number := by
  unfold stints
  rw [same]

/-- A job goes to work. -/
theorem stints_append {stint : Stint} (longer : after.ran = crowd.ran ++ [stint]) (number : Nat) :
    after.stints number =
      crowd.stints number ++ if stint.number == number then [stint] else [] := by
  unfold stints
  rw [longer, List.filter_append, List.filter_cons]
  rfl

/-- Steps that leave the queue and the replies as they are. -/
theorem Accounted.frame (accounted : crowd.Accounted) (queue : after.queue = crowd.queue)
    (tasks : after.tasks = crowd.tasks) (outcomes : after.outcomes = crowd.outcomes)
    (ran : after.ran = crowd.ran) (pid : after.process.pid = crowd.process.pid)
    (phase : ∀ number, crowd.phase.Accounts crowd.tasks[number]? (crowd.stints number)
        crowd.process.pid →
      after.phase.Accounts crowd.tasks[number]? (crowd.stints number) crowd.process.pid) :
    after.Accounted := by
  refine ⟨fun number unbegun => ?_, fun number running => ?_, fun number finished => ?_,
    fun number answer replied => ?_⟩
  · rw [queue] at unbegun
    rw [stints_of_ran ran]
    exact accounted.unbegun number unbegun
  · rw [queue] at running
    rw [stints_of_ran ran, tasks, pid]
    exact phase number (accounted.current number running)
  · rw [queue] at finished
    rw [stints_of_ran ran, tasks, pid, outcomes]
    exact accounted.done number finished
  · rw [outcomes] at replied
    rw [queue]
    exact accounted.replied number answer replied

/-- The replies are not touched by what a caller does. -/
theorem outcomes_modify (calls : List (Call α)) (number : Nat) {change : Call α → Call α}
    (keeps : ∀ call, (change call).outcome = call.outcome) :
    (calls.modify number change).map Call.outcome = calls.map Call.outcome :=
  Queue.map_modify Call.outcome keeps calls number

/-! ### The queue -/

/-- A job that the worker has received and not begun has not begun before. -/
theorem unbegun_of_holding (orderly : Queue.Crowd.Orderly origin.queue crowd.queue)
    (held : crowd.queue.stage = .holding (.job number)) :
    .began (.job number) ∉ crowd.queue.log := by
  have steady := orderly.steady
  rw [held] at steady
  obtain ⟨-, -, unfinished⟩ := steady.holding orderly.once
  intro began
  have serial : Queue.began crowd.queue.log = Queue.finished crowd.queue.log :=
    steady.serial.trans (List.append_nil _)
  have finished := Queue.mem_began.mpr began
  rw [serial] at finished
  exact unfinished (Queue.mem_finished.mp finished)

/-- A job at work has begun, and has not finished. -/
theorem begun_of_running (orderly : Queue.Crowd.Orderly origin.queue crowd.queue)
    (running : crowd.queue.stage = .running (.job number)) :
    .began (.job number) ∈ crowd.queue.log ∧ .finished (.job number) ∉ crowd.queue.log := by
  have steady := orderly.steady
  rw [running] at steady
  obtain ⟨-, -, unfinished⟩ := steady.running orderly.once
  refine ⟨Queue.mem_began.mp ?_, unfinished⟩
  rw [steady.serial]
  exact List.mem_append_right _ (.head _)

/-- A step of the queue by itself. -/
theorem Accounted.queue (accounted : crowd.Accounted) (guarded : Guarded origin crowd)
    {move : Queue.Move} {queue : Queue.Crowd Unit Unit} (permitted : crowd.permits move = true)
    (taken : crowd.queue.step move = some queue) : (crowd.requeue queue).Accounted := by
  have moved := Queue.Crowd.moved_of_step taken
  have goesOn : move ≠ .finish := by
    rintro rfl
    cases permitted
  obtain ⟨events, longer⟩ := moved.log
  have kept {event : Queue.Event} (here : event ∈ crowd.queue.log) : event ∈ queue.log := by
    rw [longer]
    exact List.mem_append_left _ here
  refine ⟨fun number unbegun => ?_, fun number running => ?_, fun number finished => ?_,
    fun number answer replied => kept (accounted.replied number answer replied)⟩
  · exact accounted.unbegun number fun began => unbegun (kept began)
  · rcases (moved.running goesOn).2.1 running with before | held
    · exact accounted.current number before
    · -- the worker takes up the job, so that it has none before
      have checking : crowd.phase = .checking := by
        cases phase : crowd.phase with
        | checking => rfl
        | _ =>
          have begun : crowd.phase.isChecking = false := by
            rw [phase]
            rfl
          obtain ⟨other, busy⟩ := guarded.holding begun
          cases held.symm.trans busy
      show crowd.phase.Accounts _ _ _
      rw [checking]
      exact accounted.unbegun number (unbegun_of_holding guarded.orderly held)
  · exact accounted.done number ((moved.running goesOn).2.2.2 finished)

/-! ### The worker -/

/-- The job of a call goes to work. -/
theorem Accounted.perform (accounted : crowd.Accounted) (guarded : Guarded origin crowd)
    (running : crowd.queue.stage = .running (.job number)) {stint : Stint} {errand : Errand α}
    {answer : Except ProcessError α} (mine : stint.number = number)
    (task : crowd.tasks[number]? = some (.run errand)) (yields : stint.Yields errand answer)
    (working : crowd.phase = .working) (queue : after.queue = crowd.queue)
    (tasks : after.tasks = crowd.tasks) (outcomes : after.outcomes = crowd.outcomes)
    (pid : after.process.pid = crowd.process.pid) (ran : after.ran = crowd.ran ++ [stint])
    (phase : after.phase = .stopping answer) : after.Accounted := by
  obtain ⟨began, unfinished⟩ := begun_of_running guarded.orderly running
  have none : crowd.stints number = [] := by
    have current := accounted.current number running
    rw [working] at current
    exact current
  have self : after.stints number = [stint] := by
    rw [stints_append ran, none, if_pos (beq_iff_eq.mpr mine)]
    rfl
  have other {place : Nat} (different : place ≠ number) :
      after.stints place = crowd.stints place := by
    have apart : ¬ (stint.number == place) = true := by
      rw [mine]
      exact fun same => different (eq_of_beq same).symm
    rw [stints_append ran, if_neg apart]
    exact List.append_nil _
  refine ⟨fun place unbegun => ?_, fun place runs => ?_, fun place finished => ?_,
    fun place answer replied => ?_⟩
  · rw [queue] at unbegun
    have different : place ≠ number := by
      rintro rfl
      exact unbegun began
    rw [other different]
    exact accounted.unbegun place unbegun
  · rw [queue] at runs
    cases running.symm.trans runs
    rw [phase, self, tasks]
    exact ⟨errand, stint, task, rfl, yields⟩
  · rw [queue] at finished
    have different : place ≠ number := by
      rintro rfl
      exact unfinished finished
    rw [other different, tasks, pid, outcomes]
    exact accounted.done place finished
  · rw [outcomes] at replied
    rw [queue]
    exact accounted.replied place answer replied

/-- The worker replies to a call. -/
theorem Accounted.reply (accounted : crowd.Accounted)
    (running : crowd.queue.stage = .running (.job number)) {answer : Except ProcessError α}
    (replying : crowd.phase = .replying answer) {queue : Queue.Crowd Unit Unit}
    (taken : crowd.queue.step .finish = some queue) :
    ({ crowd.requeue queue with
      calls := crowd.calls.modify number fun call => { call with outcome := some answer }
      phase := .checking } : Crowd α).Accounted := by
  have served : Served crowd.tasks[number]? (crowd.stints number) crowd.process.pid answer := by
    have current := accounted.current number running
    rw [replying] at current
    exact current
  have kept : (crowd.calls.modify number fun call => { call with outcome := some answer }).map
      Call.task = crowd.calls.map Call.task := by
    refine Queue.map_modify Call.task ?_ crowd.calls number
    exact fun _ => rfl
  have moved := Queue.Crowd.moved_of_step taken
  cases moved with
  | finishLast other => cases running.symm.trans other
  | advance _ own => rcases own with own | own | own <;> cases own
  | @finish place reply state busy =>
    cases running.symm.trans busy
    refine ⟨fun place unbegun => accounted.unbegun place fun began => ?_, fun place runs => ?_,
      fun place finished => ?_, fun place reply replied => ?_⟩
    · exact unbegun (List.mem_append_left _ began)
    · cases runs
    · show ∃ other, Served (List.map Call.task _)[place]? _ _ other ∧ _
      rw [kept]
      by_cases same : place = number
      · subst same
        refine ⟨answer, served, fun outcome found => ?_⟩
        have found : ((crowd.calls.modify place fun call => { call with outcome := some answer }).map
            Call.outcome)[place]? = some outcome := found
        rw [List.getElem?_map, List.getElem?_modify_eq] at found
        obtain ⟨call, there, rfl⟩ := Option.map_eq_some_iff.mp found
        obtain ⟨old, -, rfl⟩ := Option.map_eq_some_iff.mp there
        rfl
      · have before : .finished (.job place) ∈ crowd.queue.log := by
          refine (Queue.mem_append_event ?_).mp finished
          rintro ⟨⟩
          exact same rfl
        obtain ⟨other, known, told⟩ := accounted.done place before
        refine ⟨other, known, fun outcome found => told outcome ?_⟩
        have found : ((crowd.calls.modify number fun call => { call with outcome := some answer }).map
            Call.outcome)[place]? = some outcome := found
        rw [List.getElem?_map, List.getElem?_modify_ne _ _ (Ne.symm same), ← List.getElem?_map] at found
        exact found
    · by_cases same : place = number
      · rw [same]
        exact List.mem_append_right _ (.head _)
      · refine List.mem_append_left _ (accounted.replied place reply ?_)
        have replied : ((crowd.calls.modify number fun call => { call with outcome := some answer }).map
            Call.outcome)[place]? = some (some reply) := replied
        rw [List.getElem?_map, List.getElem?_modify_ne _ _ (Ne.symm same), ← List.getElem?_map] at replied
        exact replied

/-- The worker does its next step with a job. -/
theorem Accounted.serve (accounted : crowd.Accounted) (guarded : Guarded origin crowd)
    (tame : after.Tame) (running : crowd.queue.stage = .running (.job number))
    (serves : Serves crowd number after) : after.Accounted := by
  -- what is known of the job goes over to the next phase
  have onward {before later : Phase α} (now : crowd.phase = before)
      (keeps : ∀ place, before.Accounts crowd.tasks[place]? (crowd.stints place) crowd.process.pid →
        later.Accounts crowd.tasks[place]? (crowd.stints place) crowd.process.pid) (place : Nat)
      (known : crowd.phase.Accounts crowd.tasks[place]? (crowd.stints place) crowd.process.pid) :
      later.Accounts crowd.tasks[place]? (crowd.stints place) crowd.process.pid := by
    rw [now] at known
    exact keeps place known
  cases serves with
  | refuse checking =>
    exact accounted.frame rfl rfl rfl rfl rfl (onward checking fun _ none => .inr ⟨rfl, none⟩)
  | accept checking => exact accounted.frame rfl rfl rfl rfl rfl (onward checking fun _ => id)
  | start starting => exact accounted.frame rfl rfl rfl rfl rfl (onward starting fun _ => id)
  | stop stopping => exact accounted.frame rfl rfl rfl rfl rfl (onward stopping fun _ => id)
  | settle settling => exact accounted.frame rfl rfl rfl rfl rfl (onward settling fun _ => .inl)
  | leave settling => exact accounted.frame rfl rfl rfl rfl rfl (onward settling fun _ => id)
  | exit exiting => exact accounted.frame rfl rfl rfl rfl rfl (onward exiting fun _ => .inl)
  | @perform way call errand answer executor context working here task ended =>
    have unfinished : crowd.life.isFinished = false := by
      refine guarded.goesOn ?_
      rw [working]
      rfl
    have mine : crowd.tasks[number]? = some (.run errand) := by
      show (crowd.calls.map Call.task)[number]? = _
      rw [List.getElem?_map, here]
      exact congrArg some task
    have yields : Stint.Yields ⟨number, way, crowd.process.executor, crowd.context, context⟩ errand
        answer := ⟨unfinished, congrArg Prod.fst ended⟩
    exact accounted.perform guarded running rfl mine yields working rfl rfl rfl
      (tame_last rfl tame).2 rfl rfl
  | reply replying taken => exact accounted.reply running replying taken

/-- **Every step keeps the accounts.** -/
theorem Accounted.stepped (step : Stepped crowd after) (tame : after.Tame)
    (guarded : Guarded origin crowd) (accounted : crowd.Accounted) : after.Accounted := by
  have tasks := step.tasks
  cases step with
  | answer =>
    exact accounted.frame rfl tasks (outcomes_modify _ _ fun _ => rfl) rfl rfl fun _ => id
  | advance =>
    exact accounted.frame rfl tasks (outcomes_modify _ _ fun _ => rfl) rfl rfl fun _ => id
  | @act place _ progress shared _ acts =>
    obtain ⟨calls, queue, phase, ran, pid⟩ := acts.apart
    have replies : (shared.progress place progress).outcomes = crowd.outcomes := by
      show (shared.calls.modify place _).map Call.outcome = _
      rw [calls]
      exact outcomes_modify _ _ fun _ => rfl
    exact accounted.frame queue tasks replies ran pid fun _ known => phase ▸ known
  | queue permitted taken => exact accounted.queue guarded permitted taken
  | serve running serves => exact accounted.serve guarded tame running serves
  | @last number queue running taken =>
    have moved := Queue.Crowd.moved_of_step taken
    cases moved with
    | advance _ own => rcases own with own | own | own <;> cases own
    | finish other => cases running.symm.trans other
    | finishLast =>
      refine ⟨fun place unbegun => accounted.unbegun place fun began => ?_, nofun,
        fun place finished => accounted.done place ?_, fun place answer replied => ?_⟩
      · exact unbegun (List.mem_append_left _ began)
      · exact (Queue.mem_append_event (by nofun)).mp finished
      · exact List.mem_append_left _ (accounted.replied place answer replied)

theorem fresh_accounted (process : ScriptProcess) (site : Site) (capacity : Nat)
    (tasks : List (Task α)) : (fresh process site capacity tasks).Accounted := by
  refine ⟨fun _ _ => rfl, nofun, nofun, fun number answer replied => ?_⟩
  have replied : ((tasks.map fun task => ({ task } : Call α)).map Call.outcome)[number]? =
      some (some answer) := replied
  rw [List.map_map, List.getElem?_map] at replied
  obtain ⟨task, -, other⟩ := Option.map_eq_some_iff.mp replied
  cases other

end Crowd

end ScriptKernel.ScriptProcess
