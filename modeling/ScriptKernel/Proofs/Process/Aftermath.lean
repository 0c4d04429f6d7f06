/-
**What is still announced of a process that has ended.**

The failure of an execution is recorded by its caller, some time after the worker has replied. By then another caller,
or the script itself, may have ended the process.

* `Lifecycle.Coherent`: a process has the status of an exit exactly if it has exited; every step keeps this;
* `Call.owed`, `Crowd.owed`: the failures that callers have still to record;
* `Crowd.Aftermath`: what a process that has ended comes to, and what is told of it on the way; every step keeps this
  (`Reached.aftermath`);
* `told_after_end`: **after an exit nothing is told, and the status stays; of a process that was ended from outside
  failures are told, exactly those that were owed when it ended**;
* `failure_after_end`: such a failure does come after the last event.
-/

import ScriptKernel.Proofs.Process.Answered

set_option autoImplicit false

namespace ScriptKernel

namespace Lifecycle

variable {life : Lifecycle}

/-- **A process has the status of an exit exactly if it has exited.** -/
def Coherent (life : Lifecycle) : Prop := life.hasExitStatus = true ↔ life.state = .exited

namespace Coherent

/-- A process that has not ended has no status of an exit. -/
theorem unexited (coherent : life.Coherent) (unfinished : life.isFinished = false) :
    life.hasExitStatus = false := by
  refine eq_false_of_ne_true fun has => ?_
  have finished : life.isFinished = true := congrArg ProcessState.isFinished (coherent.mp has)
  cases unfinished.symm.trans finished

theorem setRunning (coherent : life.Coherent) (running : Bool) : (life.setRunning running).Coherent := by
  unfold Lifecycle.setRunning
  by_cases finished : life.isFinished = true
  · rw [if_pos finished]
    exact coherent
  · rw [if_neg finished]
    have unexited := coherent.unexited (eq_false_of_ne_true finished)
    refine ⟨fun has => ?_, ?_⟩
    · cases unexited.symm.trans has
    · cases running <;> exact nofun

theorem recordFault (coherent : life.Coherent) (message : String) (terminals : Terminals) :
    (life.recordFault message terminals).1.Coherent := by
  unfold Lifecycle.recordFault
  by_cases has : life.hasExitStatus = true
  · rw [if_pos has]
    exact coherent
  · rw [if_neg has]
    exact ⟨nofun, fun exited => absurd (coherent.mpr exited) has⟩

theorem markExited (coherent : life.Coherent) (code : ExitCode) (terminals : Terminals) :
    (life.markExited code terminals).2.1.Coherent := by
  unfold Lifecycle.markExited
  by_cases finished : life.isFinished = true
  · rw [if_pos finished]
    exact coherent
  · rw [if_neg finished]
    exact ⟨fun _ => rfl, fun _ => rfl⟩

theorem markTerminated (coherent : life.Coherent) (terminals : Terminals) :
    (life.markTerminated terminals).2.1.Coherent := by
  unfold Lifecycle.markTerminated
  by_cases finished : life.isFinished = true
  · rw [if_pos finished]
    exact coherent
  · rw [if_neg finished]
    have unexited := coherent.unexited (eq_false_of_ne_true finished)
    exact ⟨fun has => absurd (unexited.symm.trans has) nofun, nofun⟩

theorem endedInside (coherent : life.Coherent) (unfinished : life.isFinished = false) :
    life.endedInside.Coherent :=
  ⟨fun has => absurd ((coherent.unexited unfinished).symm.trans has) nofun, nofun⟩

end Coherent

/-- A process that has ended does not end again. -/
theorem markExited_of_finished (finished : life.isFinished = true) (code : ExitCode)
    (terminals : Terminals) : life.markExited code terminals = (false, life, terminals) := if_pos finished

theorem markTerminated_of_finished (finished : life.isFinished = true) (terminals : Terminals) :
    life.markTerminated terminals = (false, life, terminals) := if_pos finished

/-- Nor does it go back to work. -/
theorem setRunning_of_finished (finished : life.isFinished = true) (running : Bool) :
    life.setRunning running = life := if_pos finished

end Lifecycle

namespace ScriptProcess

variable {α : Type}

/-! ### Failures that are owed -/

/-- The messages of the failures that are recorded among some consequences. -/
def failures (todo : List Consequence) : List String :=
  todo.filterMap fun consequence =>
    match consequence with
    | .record error => some error.message
    | _ => none

/-- The failures that a caller will record, once it has its answer. -/
def Task.failures (policy : FaultPolicy) : Task α → Except ProcessError α → List String
  | .run errand, answer => ScriptProcess.failures (errand.after policy answer)
  | .terminate, _ => []

/-- What a caller has still to do about its answer. -/
def Progress.todo : Progress → List Consequence
  | .left todo | .cancelling todo | .ending todo => todo
  | _ => []

/-- **The failures that a call has still to record.** -/
def Call.owed (policy : FaultPolicy) (call : Call α) : List String :=
  if call.progress.isPast then failures call.progress.todo
  else call.outcome.elim [] (call.task.failures policy)

/-- The answer of the job that the worker holds, once it has one. -/
def Phase.answer? : Phase α → Option (Except ProcessError α)
  | .checking | .starting | .working => none
  | .stopping answer | .settling answer | .exiting answer _ | .replying answer => some answer

theorem Call.owed_of_past (policy : FaultPolicy) {call : Call α} (past : call.progress.isPast = true) :
    call.owed policy = failures call.progress.todo := if_pos past

/-- What a call owes that has no answer yet. -/
theorem Call.owed_of_unanswered (policy : FaultPolicy) {call : Call α}
    (unanswered : call.progress.isPast = false) :
    call.owed policy = call.outcome.elim [] (call.task.failures policy) :=
  if_neg (Bool.eq_false_iff.mp unanswered)

/-- A worker with an answer has begun with a job. -/
theorem Phase.begun_of_answer {phase : Phase α} {answer : Except ProcessError α}
    (answered : phase.answer? = some answer) : phase.isChecking = false := by
  cases phase with
  | checking => cases answered
  | starting | working | stopping | settling | exiting | replying => rfl

/-- A caller that is told of an error records nothing. -/
theorem Task.failures_error (policy : FaultPolicy) (task : Task α) (error : ProcessError) :
    task.failures policy (.error error) = [] := by
  cases task with
  | terminate => rfl
  | run errand =>
    show ScriptProcess.failures (if errand.reports then [.report error] else []) = []
    cases errand.reports <;> rfl

namespace Crowd

variable {origin crowd middle after later : Crowd α} {number : Nat} {call : Call α}

/-- The failures that the worker is about to tell a caller of. -/
def atHand (crowd : Crowd α) : List String :=
  match crowd.queue.stage, crowd.phase.answer? with
  | .running (.job number), some answer =>
    (crowd.tasks[number]?).elim [] fun task => task.failures crowd.process.faultPolicy answer
  | _, _ => []

/-- **The failures that have still to be recorded.** -/
def owed (crowd : Crowd α) : List String :=
  crowd.atHand ++ crowd.calls.flatMap (Call.owed crowd.process.faultPolicy)

/-- The events of the process that its terminal has received. -/
def heard (crowd : Crowd α) : Option (List ProcessEvent) :=
  crowd.site.terminals.heard crowd.life.terminal crowd.life.pid

/-- **What a process that has ended comes to.** -/
structure Aftermath (crowd later : Crowd α) (told : List String) : Prop where
  state : later.life.state = crowd.life.state
  heard : later.heard = crowd.heard.map fun events => events ++ told.map ProcessEvent.faulted
  status : later.life.status = told.getLast?.elim crowd.life.status ExitStatus.faulted
  exited : crowd.life.state = .exited → told = []
  terminated : crowd.life.state = .terminated → (told ++ later.owed).Perm crowd.owed

/-- Nothing is heard. -/
theorem map_append_nil (heard : Option (List ProcessEvent)) :
    (heard.map fun events => events ++ []) = heard := by
  cases heard with
  | none => rfl
  | some events => exact congrArg some (List.append_nil events)

namespace Aftermath

/-- Nothing is told. -/
theorem quiet (state : later.life.state = crowd.life.state) (heard : later.heard = crowd.heard)
    (status : later.life.status = crowd.life.status) (owed : later.owed.Perm crowd.owed) :
    Aftermath crowd later [] := by
  exact ⟨state, heard.trans (map_append_nil _).symm, status, fun _ => rfl, fun _ => owed⟩

theorem refl (crowd : Crowd α) : Aftermath crowd crowd [] := quiet rfl rfl rfl (.refl _)

/-- **What is told first, and what is told then.** -/
theorem trans {first second : List String} (one : Aftermath crowd middle first)
    (two : Aftermath middle later second) : Aftermath crowd later (first ++ second) := by
  refine ⟨two.state.trans one.state, ?_, ?_, fun exited => ?_, fun terminated => ?_⟩
  · rw [two.heard, one.heard, map_append_append, List.map_append]
  · rw [two.status, one.status, List.getLast?_append]
    cases second.getLast? <;> rfl
  · rw [one.exited exited, two.exited (one.state.trans exited)]
    rfl
  · have rest := two.terminated (one.state.trans terminated)
    rw [List.append_assoc]
    exact (rest.append_left first).trans (one.terminated terminated)

end Aftermath

/-! ### The status of an exit -/

/-- **Every step keeps the status coherent.** -/
theorem Guarded.coherent (guarded : Guarded origin crowd) (step : Stepped crowd after)
    (tame : after.Tame) (coherent : crowd.life.Coherent) : after.life.Coherent := by
  cases step with
  | answer | advance | queue | last => exact coherent
  | @act _ call _ _ _ acts =>
    generalize call.progress = before at acts
    cases acts with
    | report | begin | late | cancel => exact coherent
    | record => exact coherent.recordFault _ _
    | mark => exact coherent.markTerminated _
  | serve _ serves =>
    cases serves with
    | refuse | accept | settle | leave | reply => exact coherent
    | start | stop => exact coherent.setRunning _
    | exit => exact coherent.markExited _ _
    | @perform way call errand answer executor context working =>
      have unfinished : crowd.life.isFinished = false := by
        refine guarded.goesOn ?_
        rw [working]
        rfl
      show context.lifecycle.Coherent
      have left : context.lifecycle = crowd.life ∨ context.lifecycle = crowd.life.endedInside :=
        (tame_last rfl tame).1
      rcases left with kept | ended
      · rw [kept]
        exact coherent
      · rw [ended]
        exact coherent.endedInside unfinished

/-! ### What is owed -/

/-- What is gathered from a list, one entry of which changes. -/
theorem perm_flatMap_modify {β γ : Type} {gather : β → List γ} {change : β → β}
    {gained lost : List γ} {entries : List β} {entry : β} (here : entries[number]? = some entry)
    (own : (gained ++ gather (change entry)).Perm (lost ++ gather entry)) :
    (gained ++ (entries.modify number change).flatMap gather).Perm
      (lost ++ entries.flatMap gather) := by
  induction entries generalizing number with
  | nil => cases here
  | cons head rest ih =>
    cases number with
    | zero =>
      cases here
      rw [List.modify_zero_cons, List.flatMap_cons, List.flatMap_cons, ← List.append_assoc,
        ← List.append_assoc]
      exact own.append_right _
    | succ number =>
      rw [List.modify_succ_cons, List.flatMap_cons, List.flatMap_cons]
      refine (List.perm_append_comm_assoc gained (gather head) _).trans ?_
      refine ((ih here).append_left (gather head)).trans ?_
      exact List.perm_append_comm_assoc (gather head) lost _

/-- What the worker has at hand depends on its job, and on the answer. -/
theorem atHand_eq (stage : after.queue.stage = crowd.queue.stage)
    (phase : after.phase.answer? = crowd.phase.answer?) (tasks : after.tasks = crowd.tasks)
    (policy : after.process.faultPolicy = crowd.process.faultPolicy) :
    after.atHand = crowd.atHand := by
  unfold atHand
  rw [stage, phase, tasks, policy]

/-- A worker without an answer has nothing at hand. -/
theorem atHand_of_unanswered (unanswered : crowd.phase.answer? = none) : crowd.atHand = [] := by
  unfold atHand
  rw [unanswered]
  cases crowd.queue.stage with
  | running message => cases message <;> rfl
  | idle | holding | leaving | stopped => rfl

/-- A worker with an answer is about to tell its caller. -/
theorem atHand_of_answer {answer : Except ProcessError α}
    (running : crowd.queue.stage = .running (.job number))
    (answered : crowd.phase.answer? = some answer) :
    crowd.atHand =
      (crowd.tasks[number]?).elim [] fun task => task.failures crowd.process.faultPolicy answer := by
  unfold atHand
  rw [running, answered]

/-- It is not about to tell of a failure if it tells of an error. -/
theorem atHand_of_error {error : ProcessError}
    (running : crowd.queue.stage = .running (.job number))
    (answered : crowd.phase.answer? = some (.error error)) : crowd.atHand = [] := by
  rw [atHand_of_answer running answered]
  cases crowd.tasks[number]? with
  | none => rfl
  | some task => exact task.failures_error _ _

/-- The step of one call. -/
theorem owed_modify {told : List String} {change : Call α → Call α}
    (here : crowd.calls[number]? = some call) (calls : after.calls = crowd.calls.modify number change)
    (hand : after.atHand = crowd.atHand)
    (policy : after.process.faultPolicy = crowd.process.faultPolicy)
    (own : (told ++ (change call).owed crowd.process.faultPolicy).Perm
      (call.owed crowd.process.faultPolicy)) : (told ++ after.owed).Perm crowd.owed := by
  unfold owed
  rw [hand, calls, policy]
  refine (List.perm_append_comm_assoc told crowd.atHand _).trans (.append_left crowd.atHand ?_)
  show (told ++ _).Perm ([] ++ _)
  exact perm_flatMap_modify here own

/-- A call without a reply owes nothing before it has an answer. -/
theorem Reached.unreplied_of_unbegun (reached : Reached origin crowd)
    (here : crowd.calls[number]? = some call) (unbegun : .began (.job number) ∉ crowd.queue.log) :
    call.outcome = none := by
  cases outcome : call.outcome with
  | none => rfl
  | some answer =>
    have finished := Queue.mem_finished.mpr (reached.accounted.finished_of_replied here outcome)
    refine absurd (Queue.mem_began.mp ?_) unbegun
    rw [reached.guarded.orderly.steady.serial]
    exact List.mem_append_left _ finished

/-- A caller that has not come to the process owes nothing. -/
theorem Reached.owed_outside (reached : Reached origin crowd) (outside : origin.Outside)
    (here : crowd.calls[number]? = some call) (before : call.progress = .outside)
    (policy : FaultPolicy) : call.owed policy = [] := by
  obtain ⟨one, there⟩ := reached.guarded.submission outside here
  have unsubmitted := ((reached.told number call one here there).outside before).1
  have unsent := (reached.guarded.orderly.placed number one there).unsent (.inl unsubmitted)
  have unbegun := reached.guarded.unbegun_of_unsent unsent
  rw [Call.owed_of_unanswered policy (congrArg Progress.isPast before),
    reached.unreplied_of_unbegun here unbegun]
  rfl

/-- Nor does one whose job the queue has refused. -/
theorem Reached.owed_refused (reached : Reached origin crowd) (outside : origin.Outside)
    {error : QueueError} (here : crowd.calls[number]? = some call)
    (before : call.progress = .refused error) (policy : FaultPolicy) : call.owed policy = [] := by
  obtain ⟨one, there⟩ := reached.guarded.submission outside here
  have refused := ((reached.told number call one here there).refused error before).2
  cases reached.guarded.closed_of_refused outside there refused
  have unbegun : .began (.job number) ∉ crowd.queue.log := fun began =>
    reached.guarded.orderly.unbegun outside.replies there refused (Queue.mem_began.mpr began)
  rw [Call.owed_of_unanswered policy (congrArg Progress.isPast before),
    reached.unreplied_of_unbegun here unbegun]
  rfl

/-- **A caller who is told an answer owes what it makes of it**, as it did before. -/
theorem Reached.owed_answer (reached : Reached origin crowd) (outside : origin.Outside)
    {errand : Errand α} {answer : Except ProcessError α} (here : crowd.calls[number]? = some call)
    (task : call.task = .run errand) (answers : Answers crowd number call answer)
    (policy : FaultPolicy) : failures (errand.after policy answer) = call.owed policy := by
  cases answers with
  | turnedAway before =>
    rw [reached.owed_outside outside here before]
    exact Task.failures_error policy (.run errand) _
  | heard before replied =>
    rw [Call.owed_of_unanswered policy (congrArg Progress.isPast before), replied, task]
    rfl
  | explained before =>
    rw [reached.owed_refused outside here before]
    exact Task.failures_error policy (.run errand) _

/-- A caller that comes further without an answer owes what it owed. -/
theorem Reached.owed_advance (reached : Reached origin crowd) (outside : origin.Outside)
    {progress : Progress} (here : crowd.calls[number]? = some call)
    (advances : Advances crowd number call progress) (policy : FaultPolicy) :
    ({ call with progress } : Call α).owed policy = call.owed policy := by
  cases advances with
  | setOut before =>
    rw [reached.owed_outside outside here before]
    rfl
  | admitted before | refused before =>
    have unanswered : call.progress.isPast = false := congrArg Progress.isPast before
    exact Eq.trans (Call.owed_of_unanswered policy rfl)
      (Call.owed_of_unanswered policy unanswered).symm

/-! ### Steps after the end -/

namespace Aftermath

/-- Nothing happens to how the process stands. -/
theorem still (life : later.life = crowd.life)
    (terminals : later.site.terminals = crowd.site.terminals) (owed : later.owed.Perm crowd.owed) :
    Aftermath crowd later [] := by
  refine quiet (congrArg Lifecycle.state life) ?_ (congrArg Lifecycle.status life) owed
  unfold Crowd.heard
  rw [life, terminals]

end Aftermath

/-- **A caller draws a consequence.** -/
theorem aftermath_act (finished : crowd.life.isFinished = true) (coherent : crowd.life.Coherent)
    {progress : Progress} {shared : Crowd α} (here : crowd.calls[number]? = some call)
    (acts : Acts crowd number call.progress progress shared) :
    ∃ told, Aftermath crowd (shared.progress number progress) told := by
  have owes (policy : FaultPolicy) : call.owed policy = failures call.progress.todo :=
    Call.owed_of_past policy acts.past.1
  have owed (told : List String)
      (own : told ++ failures progress.todo = failures call.progress.todo) :
      (told ++ (shared.progress number progress).owed).Perm crowd.owed := by
    obtain ⟨calls, queue, phase, -⟩ := acts.apart
    refine owed_modify here (congrArg (List.modify · number _) calls)
      (atHand_eq (congrArg Queue.Crowd.stage queue) (congrArg Phase.answer? phase)
        (Stepped.act here acts).tasks acts.policy) acts.policy ?_
    rw [owes, ← own]
    exact .of_eq (congrArg (told ++ ·) (Call.owed_of_past _ acts.past.2))
  generalize call.progress = before at acts owed
  cases acts with
  | @report error todo =>
    refine ⟨[], .quiet rfl ?_ rfl (owed [] rfl)⟩
    cases error <;> rfl
  | @record error todo =>
    by_cases has : crowd.life.hasExitStatus = true
    · have same : crowd.life.recordFault error.message crowd.site.terminals =
          (crowd.life, crowd.site.terminals) := if_pos has
      rw [same]
      refine ⟨[], rfl, (map_append_nil _).symm, rfl, fun _ => rfl, fun terminated => ?_⟩
      cases (coherent.mp has).symm.trans terminated
    · have same : crowd.life.recordFault error.message crowd.site.terminals =
          ({ crowd.life with status := .faulted error.message },
            crowd.life.notify (.faulted error.message) crowd.site.terminals) := if_neg has
      rw [same]
      refine ⟨[error.message], rfl, ?_, rfl, fun exited => absurd (coherent.mpr exited) has,
        fun _ => ?_⟩
      · exact Terminals.heard_notify _ _ _ _
      · rw [same] at owed
        exact owed [error.message] rfl
  | begin | late | cancel => exact ⟨[], .quiet rfl rfl rfl (owed [] rfl)⟩
  | mark =>
    have same := Lifecycle.markTerminated_of_finished finished crowd.site.terminals
    refine ⟨[], .still ?_ ?_ (owed [] rfl)⟩
    · exact congrArg (fun left => left.2.1) same
    · exact congrArg (fun left => left.2.2) same

/-- A step that touches no call. -/
theorem owed_eq (calls : after.calls = crowd.calls) (hand : after.atHand = crowd.atHand)
    (policy : after.process.faultPolicy = crowd.process.faultPolicy) : after.owed = crowd.owed := by
  unfold owed
  rw [hand, calls, policy]

/-- A caller whose job the worker holds has no answer yet. -/
theorem Reached.unanswered (reached : Reached origin crowd) (outside : origin.Outside)
    (running : crowd.queue.stage = .running (.job number)) (here : crowd.calls[number]? = some call) :
    call.progress.isPast = false := by
  have guarded := reached.guarded
  obtain ⟨one, there⟩ := guarded.submission outside here
  obtain ⟨began, unfinished⟩ := begun_of_running guarded.orderly running
  have placed := guarded.orderly.placed number one there
  refine eq_false_of_ne_true fun past => ?_
  rcases (reached.told number call one here there).past past with before | ⟨answer, answered⟩
  · exact guarded.unbegun_of_unsent (placed.unsent (.inl before)) began
  · cases answer with
    | ok value =>
      have ran := (placed.replied value (placed.ok value answered)).mem
      exact unfinished (Queue.mem_finished.mp ran)
    | error error =>
      cases guarded.closed_of_refused outside there answered
      have unbegun := guarded.orderly.unbegun outside.replies there answered
      exact unbegun (Queue.mem_began.mpr began)

/-- What the queue does leaves the worker what it has at hand. -/
theorem Guarded.atHand_queue (guarded : Guarded origin crowd) {move : Queue.Move}
    {queue : Queue.Crowd Unit Unit} (permitted : crowd.permits move = true)
    (taken : crowd.queue.step move = some queue) : (crowd.requeue queue).atHand = crowd.atHand := by
  cases answered : crowd.phase.answer? with
  | none =>
    have still : (crowd.requeue queue).phase.answer? = none := answered
    rw [atHand_of_unanswered answered, atHand_of_unanswered still]
  | some answer =>
    obtain ⟨number, running⟩ := guarded.holding (Phase.begun_of_answer answered)
    have goesOn : move ≠ .finish := by
      rintro rfl
      cases permitted
    have still := ((Queue.Crowd.moved_of_step taken).running goesOn).1 running
    exact atHand_eq (still.trans running.symm) rfl rfl rfl

/-- What the worker has at hand is owed by the caller that it replies to. -/
theorem Reached.owed_reply (reached : Reached origin crowd) (outside : origin.Outside)
    (running : crowd.queue.stage = .running (.job number)) {answer : Except ProcessError α}
    (replying : crowd.phase = .replying answer) (queue : Queue.Crowd Unit Unit) :
    ({ crowd.requeue queue with
      calls := crowd.calls.modify number fun call => { call with outcome := some answer }
      phase := .checking } : Crowd α).owed.Perm crowd.owed := by
  have hand := atHand_of_answer running (congrArg Phase.answer? replying)
  unfold owed
  rw [hand, atHand_of_unanswered rfl]
  cases here : crowd.calls[number]? with
  | none =>
    have nobody : crowd.tasks[number]? = none := by
      unfold tasks
      rw [List.getElem?_map, here]
      rfl
    rw [nobody]
    show ((crowd.calls.modify number _).flatMap _).Perm _
    rw [List.modify_eq_self (List.getElem?_eq_none_iff.mp here)]
    exact .refl _
  | some call =>
    have mine : crowd.tasks[number]? = some call.task := by
      unfold tasks
      rw [List.getElem?_map, here]
      rfl
    have unanswered := reached.unanswered outside running here
    have before (policy : FaultPolicy) : call.owed policy = [] := by
      rw [Call.owed_of_unanswered policy unanswered, reached.unreplied running here]
      rfl
    have now (policy : FaultPolicy) : ({ call with outcome := some answer } : Call α).owed policy =
        call.task.failures policy answer := Call.owed_of_unanswered policy unanswered
    rw [mine]
    refine perm_flatMap_modify here ?_
    rw [before, now]
    exact .of_eq (List.append_nil _).symm

/-- **The worker does its next step with a job.** -/
theorem Reached.aftermath_serve (reached : Reached origin crowd) (outside : origin.Outside)
    (finished : crowd.life.isFinished = true)
    (running : crowd.queue.stage = .running (.job number)) (serves : Serves crowd number after) :
    Aftermath crowd after [] := by
  have busy {phase : Phase α} (now : crowd.phase = phase) (admitted : phase.isAdmitted = true) :
      False := by
    have unfinished := reached.guarded.goesOn (now ▸ admitted)
    cases unfinished.symm.trans finished
  have onward {before : Phase α} (now : crowd.phase = before)
      (phase : after.phase.answer? = before.answer?) (calls : after.calls = crowd.calls)
      (queue : after.queue = crowd.queue)
      (policy : after.process.faultPolicy = crowd.process.faultPolicy) :
      after.owed.Perm crowd.owed := by
    refine .of_eq (owed_eq calls ?_ policy)
    exact atHand_eq (congrArg Queue.Crowd.stage queue) (now ▸ phase)
      (congrArg (List.map Call.task) calls) policy
  cases serves with
  | refuse checking =>
    refine .still rfl rfl (.of_eq (owed_eq rfl ?_ rfl))
    rw [atHand_of_unanswered (congrArg Phase.answer? checking)]
    exact atHand_of_error running rfl
  | accept _ unfinished => cases unfinished.symm.trans finished
  | start starting => exact (busy starting rfl).elim
  | perform working => exact (busy working rfl).elim
  | stop stopping =>
    exact .still (Lifecycle.setRunning_of_finished finished false) rfl (onward stopping rfl rfl rfl rfl)
  | settle settling => exact .still rfl rfl (onward settling rfl rfl rfl rfl)
  | leave settling => exact .still rfl rfl (onward settling rfl rfl rfl rfl)
  | @exit answer code exiting =>
    have same := Lifecycle.markExited_of_finished finished code crowd.site.terminals
    refine .still ?_ ?_ (onward exiting rfl rfl rfl rfl)
    · exact congrArg (fun left => left.2.1) same
    · exact congrArg (fun left => left.2.2) same
  | reply replying => exact .still rfl rfl (reached.owed_reply outside running replying _)

/-- **Every step after the end tells of failures that are owed, if of any.** -/
theorem Reached.aftermath_step (reached : Reached origin crowd) (outside : origin.Outside)
    (finished : crowd.life.isFinished = true) (coherent : crowd.life.Coherent)
    (step : Stepped crowd after) : ∃ told, Aftermath crowd after told := by
  cases step with
  | answer here task answers =>
    refine ⟨[], .still rfl rfl ?_⟩
    have tasks := (Stepped.answer here task answers).tasks
    show ([] ++ _).Perm _
    refine owed_modify here rfl (atHand_eq rfl rfl tasks rfl) rfl ?_
    exact .of_eq (reached.owed_answer outside here task answers _)
  | advance here advances =>
    refine ⟨[], .still rfl rfl ?_⟩
    have tasks := (Stepped.advance here advances).tasks
    show ([] ++ _).Perm _
    refine owed_modify here rfl (atHand_eq rfl rfl tasks rfl) rfl ?_
    exact .of_eq (reached.owed_advance outside here advances _)
  | act here acts => exact aftermath_act finished coherent here acts
  | queue permitted taken =>
    exact ⟨[], .still rfl rfl (.of_eq (owed_eq rfl (reached.guarded.atHand_queue permitted taken) rfl))⟩
  | serve running serves => exact ⟨[], reached.aftermath_serve outside finished running serves⟩
  | last running taken =>
    have unanswered : crowd.phase.answer? = none := by
      cases answered : crowd.phase.answer? with
      | none => rfl
      | some answer =>
        obtain ⟨number, busy⟩ := reached.guarded.holding (Phase.begun_of_answer answered)
        cases running.symm.trans busy
    refine ⟨[], .still rfl rfl (.of_eq (owed_eq rfl ?_ rfl))⟩
    rw [atHand_of_unanswered unanswered]
    exact atHand_of_unanswered unanswered

/-- What every schedule keeps, before the end and after. -/
theorem Reached.coherent_run (outside : origin.Outside) (reached : Reached origin crowd)
    (coherent : crowd.life.Coherent) (schedule : List Move) (tame : (crowd.run schedule).Tame) :
    (crowd.run schedule).life.Coherent := by
  have keeps {earlier later : Crowd α} (step : Stepped earlier later)
      (before : earlier.Tame → Reached origin earlier ∧ earlier.life.Coherent)
      (tame : later.Tame) : Reached origin later ∧ later.life.Coherent := by
    obtain ⟨reached, coherent⟩ := before (step.tame tame)
    exact ⟨reached.stepped outside step tame, reached.guarded.coherent step tame coherent⟩
  exact (run_invariant keeps schedule (fun _ => ⟨reached, coherent⟩) tame).2

/-- **Every schedule after the end tells of failures that are owed, if of any.** -/
theorem Reached.aftermath (outside : origin.Outside) (reached : Reached origin crowd)
    (finished : crowd.life.isFinished = true) (coherent : crowd.life.Coherent)
    (schedule : List Move) (tame : (crowd.run schedule).Tame) :
    ∃ told, Aftermath crowd (crowd.run schedule) told := by
  have keeps {earlier later : Crowd α} (step : Stepped earlier later)
      (before : earlier.Tame → Reached origin earlier ∧ earlier.life.Coherent ∧
        ∃ told, Aftermath crowd earlier told)
      (tame : later.Tame) : Reached origin later ∧ later.life.Coherent ∧
        ∃ told, Aftermath crowd later told := by
    obtain ⟨reached, coherent, first, aftermath⟩ := before (step.tame tame)
    have still : earlier.life.isFinished = true :=
      (congrArg ProcessState.isFinished aftermath.state).trans finished
    obtain ⟨second, further⟩ := reached.aftermath_step outside still coherent step
    exact ⟨reached.stepped outside step tame, reached.guarded.coherent step tame coherent,
      first ++ second, aftermath.trans further⟩
  exact (run_invariant keeps schedule (fun _ => ⟨reached, coherent, [], .refl crowd⟩) tame).2.2

/-- **What is told of a process after its end**, in any schedule of any calls. After an exit nothing is told, and the
status stays; after an end from outside exactly the failures are told, one after the other, that were owed when the
process ended. -/
theorem told_after_end (process : ScriptProcess) (site : Site) (capacity : Nat)
    (tasks : List (Task α)) (coherent : process.resident.lifecycle.Coherent)
    (schedule more : List Move)
    (finished : ((fresh process site capacity tasks).run schedule).life.isFinished = true)
    (tame : (((fresh process site capacity tasks).run schedule).run more).Tame) :
    ∃ told, Aftermath ((fresh process site capacity tasks).run schedule)
      (((fresh process site capacity tasks).run schedule).run more) told := by
  have outside := fresh_outside process site capacity tasks
  have start := fresh_reached process site capacity tasks
  have before : ((fresh process site capacity tasks).run schedule).Tame := by
    obtain ⟨rest, longer⟩ := run_ran ((fresh process site capacity tasks).run schedule) more
    intro stint here
    refine tame stint ?_
    rw [longer]
    exact List.mem_append_left _ here
  exact (start.run outside schedule before).aftermath outside finished
    (start.coherent_run outside coherent schedule before) more tame

/-- A caller executes a script that is not there, and another ends the process. -/
def failing : List (Task Execution) :=
  [.run (.execution ⟨fun _ => .error .notFound⟩ "main.js" []), .terminate]

/-- The execution has failed, its caller has reported that, and then the process is ended. -/
def failingSchedule : List Move :=
  [.look 0, .queue (.accept 0), .queue (.send 0), .queue .receive, .queue .begin, .work 0, .work 0,
    .work 0, .work 0, .work 0, .work 0, .queue (.hear 0), .learn 0, .act 0, .look 1, .act 1, .act 1,
    .queue (.beginEnd 1), .queue (.takeHandle 1), .queue (.sendLast 1), .queue .receive,
    .queue .begin, .work 0, .queue .leave, .queue (.join 1), .act 1]

set_option maxRecDepth 100000 in
/-- Two failures were owed when the process was ended, and both are told. -/
theorem told_after_end_of_failing : ∃ told,
    Aftermath ((fresh bare .single 2 failing).run failingSchedule)
      (((fresh bare .single 2 failing).run failingSchedule).run [.act 0, .act 0, .act 0]) told ∧
      ((fresh bare .single 2 failing).run failingSchedule).life.state = .terminated ∧
      ((fresh bare .single 2 failing).run failingSchedule).owed.length = 2 := by
  have coherent : bare.resident.lifecycle.Coherent := by
    unfold Lifecycle.Coherent
    decide +kernel
  have facts : (((fresh bare .single 2 failing).run failingSchedule).run
        [.act 0, .act 0, .act 0]).Tame ∧
      ((fresh bare .single 2 failing).run failingSchedule).life.state = .terminated ∧
      ((fresh bare .single 2 failing).run failingSchedule).owed.length = 2 := by
    unfold Tame
    decide +kernel
  obtain ⟨told, aftermath⟩ := told_after_end bare .single 2 failing coherent failingSchedule
    [.act 0, .act 0, .act 0] (congrArg ProcessState.isFinished facts.2.1) facts.1
  exact ⟨told, aftermath, facts.2⟩

set_option maxRecDepth 100000 in
/-- **A failure is told after the last event, and the status changes.** -/
theorem failure_after_end : ∃ (process : ScriptProcess) (site : Site) (tasks : List (Task Execution))
    (schedule more : List Move),
    ((fresh process site 2 tasks).run schedule).life.state = .terminated ∧
      ((fresh process site 2 tasks).run schedule).heard = some [.started, .terminated] ∧
      ((fresh process site 2 tasks).run schedule).life.status = .pending ∧
      (((fresh process site 2 tasks).run schedule).run more).heard =
        some [.started, .terminated, .faulted
          "Kernel Exec Error: cannot load main.js: No such file or directory (os error 2)"] ∧
      (((fresh process site 2 tasks).run schedule).run more).life.status =
        .faulted "Kernel Exec Error: cannot load main.js: No such file or directory (os error 2)" :=
  ⟨bare, .single, failing, failingSchedule, [.act 0], by decide +kernel⟩

end Crowd

end ScriptProcess

end ScriptKernel
