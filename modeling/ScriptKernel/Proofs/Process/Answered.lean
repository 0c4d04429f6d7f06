/-
**What the callers of a process are told.**

A call can be turned away in four places: before it hands in its job, by a closed queue, by a worker that drops the
job, and by a worker that finds that the process has ended.

* `Told`: what is known of a call and its submission at every point of its way;
* `Crowd.Reached`: what is known of a process with many callers; every step keeps this (`Reached.stepped`);
* `answered_once`: **a caller is told the answer of its own job, which was at work once on a process that had not
  ended, or that the process has ended, and then its job is never at work**; no caller is told anything about the
  queue.
-/

import ScriptKernel.Proofs.Process.History
import ScriptKernel.Proofs.Process.Served

set_option autoImplicit false

namespace ScriptKernel.ScriptProcess

variable {α : Type}

/-- **What is known of a call and its submission.** -/
structure Told (pid : Pid) (call : Call α) (one : Queue.Submission Unit Unit) : Prop where
  outside : call.progress = .outside → one.progress = .outside ∧ call.answer = none
  submitting : call.progress = .submitting → call.answer = none
  refused : ∀ error, call.progress = .refused error →
    call.answer = none ∧ one.progress = .answered (.error error)
  /-- It has not gone on without the answer of the queue. -/
  past : call.progress.isPast = true →
    one.progress = .outside ∨ ∃ answer, one.progress = .answered answer
  /-- It is told what the worker has replied, or that the process has ended. -/
  answered : ∀ answer, call.answer = some answer →
    (one.progress = .answered (.ok ()) ∧ call.outcome = some answer) ∨
      (answer = .error (.terminated pid) ∧
        (one.progress = .outside ∨ ∃ error, one.progress = .answered (.error error)))

namespace Told

variable {pid : Pid} {call : Call α} {one : Queue.Submission Unit Unit}

/-- A call that comes to a consequence keeps what it was told. -/
theorem leave (told : Told pid call one) {progress : Progress} (past : progress.isPast = true)
    (gone : one.progress = .outside ∨ ∃ answer, one.progress = .answered answer) :
    Told pid { call with progress } one := by
  refine ⟨fun same => ?_, fun same => ?_, fun error same => ?_, fun _ => gone, told.answered⟩
  all_goals
    have same : progress = _ := same
    rw [same] at past
    cases past

/-- A call is told an answer. -/
theorem tell {answer : Except ProcessError α} {todo : List Consequence}
    (known : (one.progress = .answered (.ok ()) ∧ call.outcome = some answer) ∨
      (answer = .error (.terminated pid) ∧
        (one.progress = .outside ∨ ∃ error, one.progress = .answered (.error error)))) :
    Told pid { call with progress := .left todo, answer := some answer } one := by
  refine ⟨nofun, nofun, nofun, fun _ => ?_, fun other same => ?_⟩
  · rcases known with ⟨answered, -⟩ | ⟨-, outside | ⟨error, refused⟩⟩
    · exact .inr ⟨_, answered⟩
    · exact .inl outside
    · exact .inr ⟨_, refused⟩
  · cases same
    exact known

/-- A submission whose progress does not change. -/
theorem still (told : Told pid call one) {later : Queue.Submission Unit Unit}
    (same : later.progress = one.progress) : Told pid call later := by
  refine ⟨?_, told.submitting, ?_, ?_, ?_⟩ <;> rw [same]
  · exact told.outside
  · exact told.refused
  · exact told.past
  · exact told.answered

/-- A submission on its way. -/
theorem submits (told : Told pid call one) (submitting : call.progress = .submitting)
    (later : Queue.Submission Unit Unit) : Told pid call later := by
  refine ⟨fun same => ?_, told.submitting, fun error same => ?_, fun past => ?_, fun answer same => ?_⟩
  · cases submitting.symm.trans same
  · cases submitting.symm.trans same
  · rw [submitting] at past
    cases past
  · cases (told.submitting submitting).symm.trans same

/-- The worker replies to a call that it has not replied to before. -/
theorem reply (told : Told pid call one) (unreplied : call.outcome = none)
    (outcome : Option (Except ProcessError α)) : Told pid { call with outcome } one := by
  refine ⟨told.outside, told.submitting, told.refused, told.past, fun answer same => ?_⟩
  rcases told.answered answer same with ⟨-, replied⟩ | ended
  · cases unreplied.symm.trans replied
  · exact .inr ended

end Told

namespace Crowd

variable {origin crowd after shared : Crowd α} {number : Nat} {call : Call α} {progress : Progress}

/-- **What is known of a process with many callers.** -/
structure Reached (origin crowd : Crowd α) : Prop where
  guarded : Guarded origin crowd
  accounted : crowd.Accounted
  truthful : crowd.queue.Truthful
  told : ∀ (number : Nat) (call : Call α) (one : Queue.Submission Unit Unit),
    crowd.calls[number]? = some call → crowd.queue.submissions[number]? = some one →
    Told crowd.process.pid call one

/-- The callers of a process are outside, each with a submission of its own, and its jobs reply. -/
structure Outside (origin : Crowd α) : Prop where
  equal : origin.queue.submissions.length = origin.tasks.length
  inside : ∀ one ∈ origin.queue.submissions, one.inside = false
  replies : ∀ one ∈ origin.queue.submissions, ∀ state, (one.work state).1 ≠ none

theorem fresh_outside (process : ScriptProcess) (site : Site) (capacity : Nat)
    (tasks : List (Task α)) : (fresh process site capacity tasks).Outside := by
  constructor <;> simp [fresh, Crowd.tasks]

theorem fresh_reached (process : ScriptProcess) (site : Site) (capacity : Nat)
    (tasks : List (Task α)) :
    Reached (fresh process site capacity tasks) (fresh process site capacity tasks) := by
  have queue := fresh_queue process site capacity tasks
  refine ⟨fresh_guarded process site capacity tasks, fresh_accounted process site capacity tasks,
    queue.truthful, fun number call one here there => ?_⟩
  have here : (tasks.map fun task => ({ task } : Call α))[number]? = some call := here
  rw [List.getElem?_map] at here
  obtain ⟨task, -, rfl⟩ := Option.map_eq_some_iff.mp here
  exact ⟨fun _ => ⟨(queue.submissions one (List.mem_of_getElem? there)).1, rfl⟩, nofun, nofun, nofun,
    nofun⟩

/-! ### Refusals -/

/-- A caller outside is refused only by a closed queue. -/
theorem Guarded.closed_of_refused (guarded : Guarded origin crowd) (outside : origin.Outside)
    {one : Queue.Submission Unit Unit} {error : QueueError}
    (there : crowd.queue.submissions[number]? = some one)
    (refused : one.progress = .answered (.error error)) : error = .closed := by
  rcases (guarded.orderly.placed number one there).error error refused with ⟨-, within⟩ | ⟨same, -⟩
  · obtain ⟨first, found, task⟩ := guarded.orderly.work there
    have without := outside.inside first (List.mem_of_getElem? found)
    have same : first.inside = one.inside := congrArg Prod.snd task
    cases (same.symm.trans without).symm.trans within
  · exact same

/-- **A refusal of the queue is told as the end of the process.** -/
theorem Reached.refusal (reached : Reached origin crowd) (outside : origin.Outside)
    {one : Queue.Submission Unit Unit} {error : QueueError}
    (there : crowd.queue.submissions[number]? = some one)
    (refused : one.progress = .answered (.error error)) :
    crowd.process.refusal error = .terminated crowd.process.pid := by
  cases reached.guarded.closed_of_refused outside there refused
  have closed := reached.truthful.refused number one there refused
  have down : crowd.process.resident.lifecycle.shuttingDown = true :=
    reached.guarded.shuttingDown closed
  have gone : crowd.process.isAlive = false := by
    unfold ScriptProcess.isAlive Resident.isAlive
    rw [down]
    exact Bool.and_false _
  unfold ScriptProcess.refusal
  rw [gone]
  rfl

/-! ### One step -/

/-- A caller is told an answer that is known. -/
theorem Reached.answer (reached : Reached origin crowd) (outside : origin.Outside)
    {one : Queue.Submission Unit Unit} {answer : Except ProcessError α}
    (here : crowd.calls[number]? = some call) (there : crowd.queue.submissions[number]? = some one)
    (answers : Answers crowd number call answer) :
    (one.progress = .answered (.ok ()) ∧ call.outcome = some answer) ∨
      (answer = .error (.terminated crowd.process.pid) ∧
        (one.progress = .outside ∨ ∃ error, one.progress = .answered (.error error))) := by
  have told := reached.told number call one here there
  cases answers with
  | turnedAway before => exact .inr ⟨rfl, .inl (told.outside before).1⟩
  | heard _ replied found answered =>
    cases there.symm.trans found
    exact .inl ⟨answered, replied⟩
  | @explained error before =>
    have refused := (told.refused error before).2
    rw [reached.refusal outside there refused]
    exact .inr ⟨rfl, .inr ⟨error, refused⟩⟩

/-- A call that is changed, and the others. -/
theorem told_modify {pid : Pid} {calls : List (Call α)} {submissions : List (Queue.Submission Unit Unit)}
    {change : Call α → Call α} {place : Nat}
    (told : ∀ (number : Nat) (call : Call α) (one : Queue.Submission Unit Unit),
      calls[number]? = some call → submissions[number]? = some one → Told pid call one)
    (this : ∀ call one, calls[place]? = some call → submissions[place]? = some one →
      Told pid (change call) one) (number : Nat) (call : Call α) (one : Queue.Submission Unit Unit)
    (here : (calls.modify place change)[number]? = some call)
    (there : submissions[number]? = some one) : Told pid call one := by
  rcases Queue.modify_cases here with ⟨-, found⟩ | ⟨rfl, old, found, rfl⟩
  · exact told number call one found there
  · exact this old one found there

/-- The queue moves by a step of its own. -/
theorem Reached.told_queue (reached : Reached origin crowd) {move : Queue.Move}
    {queue : Queue.Crowd Unit Unit} (permitted : crowd.permits move = true ∨ move = .finish)
    (taken : crowd.queue.step move = some queue) (number : Nat) (call : Call α)
    (one : Queue.Submission Unit Unit) (here : crowd.calls[number]? = some call)
    (there : queue.submissions[number]? = some one) : Told crowd.process.pid call one := by
  obtain ⟨before, found, same | own⟩ := (Queue.Crowd.moved_of_step taken).submission there
  · exact (reached.told number call before here found).still same
  · have submitting : crowd.isSubmitting number = true := by
      rcases permitted with permitted | rfl
      · rcases own with rfl | rfl | rfl <;> exact permitted
      · rcases own with own | own | own <;> cases own
    unfold isSubmitting at submitting
    rw [here] at submitting
    have on : call.progress = .submitting := by
      split at submitting
      · rename_i same
        cases same
        rfl
      · cases submitting
    exact (reached.told number call before here found).submits on one

/-- A job that was replied to has finished. -/
theorem Accounted.finished_of_replied (accounted : crowd.Accounted) {answer : Except ProcessError α}
    (here : crowd.calls[number]? = some call) (replied : call.outcome = some answer) :
    .finished (.job number) ∈ crowd.queue.log := by
  refine accounted.replied number answer ?_
  show (crowd.calls.map Call.outcome)[number]? = _
  rw [List.getElem?_map, here]
  exact congrArg some replied

/-- The worker has not replied before to the job that it holds. -/
theorem Reached.unreplied (reached : Reached origin crowd)
    (running : crowd.queue.stage = .running (.job number)) (here : crowd.calls[number]? = some call) :
    call.outcome = none := by
  have unfinished := (begun_of_running reached.guarded.orderly running).2
  cases outcome : call.outcome with
  | none => rfl
  | some answer => exact absurd (reached.accounted.finished_of_replied here outcome) unfinished

/-- **Every step keeps what is known of the calls.** -/
theorem Reached.told_step (reached : Reached origin crowd) (outside : origin.Outside)
    (step : Stepped crowd after) (tame : after.Tame) (number : Nat) (call : Call α)
    (one : Queue.Submission Unit Unit) (here : after.calls[number]? = some call)
    (there : after.queue.submissions[number]? = some one) : Told after.process.pid call one := by
  have pid := step.pid tame
  rw [pid]
  cases step with
  | answer found task answers =>
    refine told_modify reached.told (fun old one mine sent => ?_) number call one here there
    cases found.symm.trans mine
    exact .tell (reached.answer outside found sent answers)
  | advance found advances =>
    refine told_modify reached.told (fun old one mine sent => ?_) number call one here there
    cases found.symm.trans mine
    have told := reached.told _ _ _ found sent
    cases advances with
    | setOut before => exact told.leave rfl (.inl (told.outside before).1)
    | admitted before => exact ⟨nofun, fun _ => (told.outside before).2, nofun, nofun, told.answered⟩
    | refused before submitted answered =>
      cases sent.symm.trans submitted
      refine ⟨nofun, nofun, fun error same => ?_, nofun, told.answered⟩
      cases same
      exact ⟨told.submitting before, answered⟩
  | @act place _ progress shared found acts =>
    obtain ⟨calls, queue, -⟩ := acts.apart
    have here : (shared.calls.modify place fun call => { call with progress })[number]? = some call :=
      here
    have there : shared.queue.submissions[number]? = some one := there
    rw [calls] at here
    rw [queue] at there
    refine told_modify reached.told (fun old one mine sent => ?_) number call one here there
    cases found.symm.trans mine
    have told := reached.told _ _ one found sent
    exact told.leave acts.past.2 (told.past acts.past.1)
  | queue permitted taken => exact reached.told_queue (.inl permitted) taken number call one here there
  | last _ taken => exact reached.told_queue (.inr rfl) taken number call one here there
  | serve running serves =>
    cases serves with
    | refuse | accept | start | perform | stop | settle | leave | exit =>
      exact reached.told number call one here there
    | reply _ taken =>
      refine told_modify (reached.told_queue (.inr rfl) taken) (fun old one mine sent => ?_) number call
        one here there
      exact (reached.told_queue (.inr rfl) taken _ old one mine sent).reply
        (reached.unreplied running mine) _

/-- **Every step keeps what is known.** -/
theorem Reached.stepped (outside : origin.Outside) (step : Stepped crowd after)
    (tame : after.Tame) (reached : Reached origin crowd) : Reached origin after := by
  refine ⟨reached.guarded.stepped step tame,
    reached.accounted.stepped step tame reached.guarded, ?_,
    reached.told_step outside step tame⟩
  rcases step.queue_cases with same | ⟨move, taken, -⟩
  · rw [same]
    exact reached.truthful
  · exact reached.truthful.stepped (Queue.Crowd.of_step taken) reached.guarded.orderly
      reached.guarded.single outside.replies

theorem Reached.run (outside : origin.Outside) (reached : Reached origin crowd) (schedule : List Move)
    (tame : (crowd.run schedule).Tame) : Reached origin (crowd.run schedule) := by
  have keeps {crowd after : Crowd α} (step : Stepped crowd after)
      (before : crowd.Tame → Reached origin crowd) (tame : after.Tame) :
      Reached origin after := (before (step.tame tame)).stepped outside step tame
  exact run_invariant keeps schedule (fun _ => reached) tame

/-! ### What is told stays told -/

/-- A caller that was told an answer keeps it. -/
theorem Reached.keeps_answer (reached : Reached origin crowd) (step : Stepped crowd after)
    {one : Queue.Submission Unit Unit} {answer : Except ProcessError α}
    (here : crowd.calls[number]? = some call) (there : crowd.queue.submissions[number]? = some one)
    (told : call.answer = some answer) :
    ∃ later, after.calls[number]? = some later ∧ later.task = call.task ∧
      later.answer = some answer := by
  have known := reached.told number call one here there
  have kept {place : Nat} {change : Call α → Call α} (keeps : place = number →
      (change call).task = call.task ∧ (change call).answer = call.answer) :
      ∃ later, (crowd.calls.modify place change)[number]? = some later ∧
        later.task = call.task ∧ later.answer = some answer := by
    rw [List.getElem?_modify, here]
    by_cases same : place = number
    · obtain ⟨task, still⟩ := keeps same
      exact ⟨change call, congrArg some (if_pos same), task, still.trans told⟩
    · exact ⟨call, congrArg some (if_neg same), rfl, told⟩
  cases step with
  | answer found task answers =>
    refine kept fun same => ?_
    subst same
    cases here.symm.trans found
    -- it would have been told twice
    cases answers with
    | turnedAway before => cases (known.outside before).2.symm.trans told
    | heard before => cases (known.submitting before).symm.trans told
    | explained before => cases (known.refused _ before).1.symm.trans told
  | advance => exact kept fun _ => ⟨rfl, rfl⟩
  | @act place _ progress shared _ acts =>
    show ∃ later, (shared.calls.modify place _)[number]? = some later ∧ _
    rw [acts.apart.1]
    exact kept fun _ => ⟨rfl, rfl⟩
  | queue | last => exact ⟨call, here, rfl, told⟩
  | serve _ serves =>
    cases serves with
    | refuse | accept | start | perform | stop | settle | leave | exit => exact ⟨call, here, rfl, told⟩
    | reply => exact kept fun _ => ⟨rfl, rfl⟩

/-- Each call has its submission. -/
theorem Guarded.submission (guarded : Guarded origin crowd) (outside : origin.Outside)
    (here : crowd.calls[number]? = some call) :
    ∃ one, crowd.queue.submissions[number]? = some one := by
  obtain ⟨inside, -⟩ := List.getElem?_eq_some_iff.mp here
  have sent : crowd.queue.submissions.length = origin.queue.submissions.length := by
    have tasks := congrArg List.length guarded.orderly.tasks
    rwa [List.length_map, List.length_map] at tasks
  have calls : crowd.calls.length = origin.tasks.length := by
    rw [← guarded.tasks]
    exact (List.length_map _).symm
  have equal := outside.equal
  have bound : number < crowd.queue.submissions.length := by omega
  exact ⟨_, List.getElem?_eq_getElem bound⟩

/-! ### Answers -/

/-- A job that has not entered the queue has not begun. -/
theorem Guarded.unbegun_of_unsent (guarded : Guarded origin crowd)
    (absent : .entered (.job number) ∉ crowd.queue.log) :
    .began (.job number) ∉ crowd.queue.log := by
  intro began
  refine absent (Queue.mem_entered.mp ?_)
  exact ((Queue.began_sublist crowd.queue.log).trans guarded.orderly.steady.taken_sublist).subset
    (Queue.mem_began.mpr began)

/-- **What a caller is told is what the worker has served**, or the end of a process that its job never reached. -/
theorem Reached.served (reached : Reached origin crowd) (outside : origin.Outside)
    {one : Queue.Submission Unit Unit} {answer : Except ProcessError α}
    (here : crowd.calls[number]? = some call) (there : crowd.queue.submissions[number]? = some one)
    (told : call.answer = some answer) :
    Served crowd.tasks[number]? (crowd.stints number) crowd.process.pid answer := by
  have guarded := reached.guarded
  have placed := guarded.orderly.placed number one there
  rcases (reached.told number call one here there).answered answer told with
    ⟨-, replied⟩ | ⟨rfl, before | ⟨error, refused⟩⟩
  · have outcome : crowd.outcomes[number]? = some (some answer) := by
      show (crowd.calls.map Call.outcome)[number]? = _
      rw [List.getElem?_map, here]
      exact congrArg some replied
    obtain ⟨other, served, same⟩ :=
      reached.accounted.done number (reached.accounted.replied number answer outcome)
    cases same _ outcome
    exact served
  · have absent := placed.unsent (.inl before)
    exact .inr ⟨rfl, reached.accounted.unbegun number (guarded.unbegun_of_unsent absent)⟩
  · cases guarded.closed_of_refused outside there refused
    have unbegun := guarded.orderly.unbegun outside.replies there refused
    exact .inr ⟨rfl, reached.accounted.unbegun number fun began =>
      unbegun (Queue.mem_began.mpr began)⟩

/-- **How often the job of a call is at work**, now and whatever is done afterwards. -/
def Settled (crowd : Crowd α) (number : Nat) (stints : List Stint) : Prop :=
  ∀ more, (crowd.run more).Discreet → (crowd.run more).stints number = stints

theorem run_ran (crowd : Crowd α) (schedule : List Move) :
    ∃ more, (crowd.run schedule).ran = crowd.ran ++ more := by
  have keeps {earlier later : Crowd α} (step : Stepped earlier later)
      (before : ∃ more, earlier.ran = crowd.ran ++ more) : ∃ more, later.ran = crowd.ran ++ more := by
    obtain ⟨more, same⟩ := before
    obtain ⟨rest, longer⟩ := step.ran
    exact ⟨more ++ rest, by rw [longer, same, List.append_assoc]⟩
  exact run_invariant keeps schedule ⟨[], (List.append_nil _).symm⟩

/-- **What a caller was told holds whatever is done afterwards.** -/
theorem Reached.served_run (reached : Reached origin crowd) (outside : origin.Outside)
    {answer : Except ProcessError α} (here : crowd.calls[number]? = some call)
    (told : call.answer = some answer) (more : List Move) (tame : (crowd.run more).Tame) :
    Served origin.tasks[number]? ((crowd.run more).stints number) origin.process.pid answer := by
  have keeps {earlier later : Crowd α} (step : Stepped earlier later)
      (before : earlier.Tame → Reached origin earlier ∧
        ∃ call, earlier.calls[number]? = some call ∧ call.answer = some answer)
      (tame : later.Tame) : Reached origin later ∧
        ∃ call, later.calls[number]? = some call ∧ call.answer = some answer := by
    obtain ⟨reached, call, here, told⟩ := before (step.tame tame)
    obtain ⟨one, there⟩ := reached.guarded.submission outside here
    obtain ⟨last, found, -, still⟩ := reached.keeps_answer step here there told
    exact ⟨reached.stepped outside step tame, last, found, still⟩
  obtain ⟨later, last, found, still⟩ :=
    run_invariant keeps more (fun _ => ⟨reached, call, here, told⟩) tame
  obtain ⟨one, there⟩ := later.guarded.submission outside found
  rw [← later.guarded.tasks, ← later.guarded.pid]
  exact later.served outside found there still

/-- What holds of an answer at every later point settles how often its job is at work. -/
theorem settled_of_served {task : Option (Task α)} {pid : Pid} {answer : Except ProcessError α}
    (discreet : crowd.Discreet)
    (later : ∀ more, (crowd.run more).Discreet →
      Served task ((crowd.run more).stints number) pid answer) :
    (∃ errand stint, task = some (.run errand) ∧ stint.Yields errand answer ∧
        crowd.Settled number [stint]) ∨
      (answer = .error (.terminated pid) ∧ crowd.Settled number []) := by
  rcases later [] discreet with ⟨errand, stint, task, once, yields⟩ | ⟨ended, -⟩
  · have once : crowd.stints number = [stint] := once
    refine .inl ⟨errand, stint, task, yields, fun more quiet => ?_⟩
    -- the first time stays noted, and there is only one
    obtain ⟨rest, longer⟩ := run_ran crowd more
    have both : (crowd.run more).stints number =
        [stint] ++ rest.filter fun stint => stint.number == number := by
      rw [← once]
      unfold stints
      rw [longer, List.filter_append]
    rcases later more quiet with ⟨-, again, -, twice, -⟩ | ⟨-, never⟩
    · rw [both] at twice ⊢
      have nothing : (rest.filter fun stint => stint.number == number) = [] :=
        (List.cons.inj twice).2
      rw [nothing]
      rfl
    · rw [both] at never
      cases never
  · refine .inr ⟨ended, fun more quiet => ?_⟩
    subst ended
    rcases later more quiet with ran | ⟨-, none⟩
    · exact absurd ran Ran.not_terminated
    · exact none

/-- **What callers are told.** In any schedule of any calls from outside the worker, a caller who is told anything is
told the answer of its own job, which was at work once, and on a process that had not ended; or it is told that the
process has ended, and its job is never at work. Nobody is told anything about the queue. -/
theorem answered_once (process : ScriptProcess) (site : Site) (capacity : Nat) (tasks : List (Task α))
    (schedule : List Move) (discreet : ((fresh process site capacity tasks).run schedule).Discreet)
    {answer : Except ProcessError α}
    (here : ((fresh process site capacity tasks).run schedule).calls[number]? = some call)
    (told : call.answer = some answer) :
    ((∃ errand stint, tasks[number]? = some (.run errand) ∧ stint.Yields errand answer ∧
        ((fresh process site capacity tasks).run schedule).Settled number [stint]) ∨
      (answer = .error (.terminated process.pid) ∧
        ((fresh process site capacity tasks).run schedule).Settled number [])) ∧
      ∀ error, answer ≠ .error (.queue error) := by
  have outside := fresh_outside process site capacity tasks
  have reached := (fresh_reached process site capacity tasks).run outside schedule discreet.tame
  have same : (fresh process site capacity tasks).tasks = tasks := by
    simp [fresh, Crowd.tasks, Function.comp_def]
  have later (more : List Move)
      (quiet : (((fresh process site capacity tasks).run schedule).run more).Discreet) :=
    reached.served_run outside here told more quiet.tame
  rw [same] at later
  exact ⟨settled_of_served discreet later, (later [] discreet).not_queue⟩

end Crowd

/-- A process without host functions at the only terminal. -/
def bare : ScriptProcess :=
  (start ⟨1, "main.js", [], []⟩ ⟨some 0⟩ {} {} .single).1.toOption.get (by decide +kernel)

namespace Crowd

/-- Two callers add to a slot, and one ends the process. -/
def appending : List (Task Unit) :=
  [.run (.withFds fun table => ((), table.append 3 "+")), .terminate,
    .run (.withFds fun table => ((), table.append 3 "+"))]

/-- The second text is on its way while the first is added, and the queue is closed before its turn. -/
def overtaken : List Move :=
  [.look 0, .queue (.accept 0), .queue (.send 0), .queue .receive, .queue .begin, .look 2,
    .queue (.accept 2), .queue (.send 2), .look 1, .act 1, .act 1, .queue (.beginEnd 1), .work 0,
    .work 0, .work 0, .work 0, .work 0, .work 0, .queue (.hear 0), .learn 0, .queue .receive,
    .queue .begin, .queue (.hear 2), .learn 2, .learn 2]

set_option maxRecDepth 100000 in
/-- The worker drops the second job, and nothing that is done later brings it to work. -/
theorem answered_once_of_overtaken :
    (((fresh bare .single 2 appending).run overtaken).calls[2]?).bind Call.answer =
        some (.error (.terminated 1)) ∧
      ((fresh bare .single 2 appending).run overtaken).Settled 2 [] := by
  have discreet : ((fresh bare .single 2 appending).run overtaken).Discreet := by
    unfold Discreet
    decide +kernel
  have told : (((fresh bare .single 2 appending).run overtaken).calls[2]?).bind Call.answer =
      some (.error (.terminated 1)) := by decide +kernel
  obtain ⟨call, here, answered⟩ := Option.bind_eq_some_iff.mp told
  refine ⟨told, ?_⟩
  rcases (answered_once bare .single 2 appending overtaken discreet here answered).1 with
    ⟨errand, stint, -, ⟨-, yields⟩, -⟩ | ⟨-, never⟩
  · obtain ⟨failure, other⟩ := errand.plain _ _ _ _ yields
    cases other
  · exact never

end Crowd

end ScriptKernel.ScriptProcess
