/-
**The order of a queue with many callers.**

Looking at the closed flag, sending, running and replying are steps of their own, and any number of callers
take them in any order.

* `Crowd.Orderly`: the queue between two steps, with the worker of `Steady` and every submission `Placed`; every
  step keeps it (`Orderly.stepped`);
* `Crowd.Lawful`, `lawful_run`: **what the callers and the state can rely on in every schedule**: jobs run one at
  a time, in the order in which they entered, at most once; the state is what they made of it; an answer is the
  answer of the caller's own job, and a refusal means that it never ran.
-/

import ScriptKernel.Proofs.Queue.Placed

set_option autoImplicit false

namespace ScriptKernel.Queue

variable {σ ρ : Type}

/-! ### The whole queue -/

/-- A shutdown that has sent its message stays behind that. -/
theorem Ending.Advance.sent {before after : Ending} (advance : before.Advance after)
    (sent : before = .joining ∨ before = .over) : after = .joining ∨ after = .over := by
  rcases sent with rfl | rfl
  · cases advance
    exact .inr rfl
  · cases advance

/-- What a submission is for, and who makes it. -/
def Submission.task (one : Submission σ ρ) : Work σ ρ × Bool := (one.work, one.inside)

namespace Crowd

/-- **A queue that keeps its order.** -/
structure Orderly (origin crowd : Crowd σ ρ) : Prop where
  steady : Steady crowd.channel crowd.stage crowd.closed crowd.log
  once : (entered crowd.log).Nodup
  placed : ∀ (number : Nat) (one : Submission σ ρ), crowd.submissions[number]? = some one →
    one.Placed origin crowd.log number
  endings : ∀ (number : Nat) (closing : Closing σ), crowd.closings[number]? = some closing →
    .entered (.last number) ∈ crowd.log → closing.ending = .joining ∨ closing.ending = .over
  tasks : crowd.submissions.map Submission.task = origin.submissions.map Submission.task
  lasts : crowd.closings.map Closing.last = origin.closings.map Closing.last
  folded : crowd.state = origin.stateAfter (finished crowd.log)

/-- A queue to which nothing has happened yet. -/
structure Fresh (origin : Crowd σ ρ) : Prop where
  submissions : ∀ one ∈ origin.submissions, one.progress = .outside ∧ one.reply = .pending
  closings : ∀ closing ∈ origin.closings, closing.ending = .outside
  closed : origin.closed = false
  channel : origin.channel = []
  stage : origin.stage = .idle
  joined : origin.joined = false
  log : origin.log = []

variable {origin crowd after : Crowd σ ρ}

theorem Fresh.orderly (fresh : origin.Fresh) : Orderly origin origin := by
  have empty (event : Event) : event ∉ origin.log := by
    rw [fresh.log]
    exact List.not_mem_nil
  refine ⟨?_, ?_, fun number one here => ?_, fun number closing _ entered => absurd entered (empty _),
    rfl, rfl, ?_⟩
  · rw [fresh.channel, fresh.stage, fresh.log]
    exact .start origin.closed
  · rw [fresh.log]
    exact .nil
  · obtain ⟨outside, pending⟩ := fresh.submissions one (List.mem_of_getElem? here)
    refine ⟨fun _ => empty _, fun waiting => ?_, fun _ => ⟨empty _, .inl outside⟩, fun value heard => ?_,
      fun error refused => ?_, fun _ => ⟨empty _, empty _⟩, fun value replied => ?_, fun dropped => ?_⟩
    · cases outside.symm.trans waiting
    · cases outside.symm.trans heard
    · cases outside.symm.trans refused
    · cases pending.symm.trans replied
    · cases pending.symm.trans dropped
  · rw [fresh.log]
    rfl

namespace Orderly

/-- What a submission was for does not change. -/
theorem work (orderly : Orderly origin crowd) {number : Nat} {one : Submission σ ρ}
    (here : crowd.submissions[number]? = some one) :
    ∃ first, origin.submissions[number]? = some first ∧ first.task = one.task := by
  have same : (crowd.submissions.map Submission.task)[number]? =
      (origin.submissions.map Submission.task)[number]? := by rw [orderly.tasks]
  rw [List.getElem?_map, List.getElem?_map, here] at same
  obtain ⟨first, found, task⟩ := Option.map_eq_some_iff.mp same.symm
  exact ⟨first, found, task⟩

/-- What a shutdown does last does not change. -/
theorem last (orderly : Orderly origin crowd) {number : Nat} {closing : Closing σ}
    (here : crowd.closings[number]? = some closing) :
    ∃ first, origin.closings[number]? = some first ∧ first.last = closing.last := by
  have same : (crowd.closings.map Closing.last)[number]? =
      (origin.closings.map Closing.last)[number]? := by rw [orderly.lasts]
  rw [List.getElem?_map, List.getElem?_map, here] at same
  obtain ⟨first, found, last⟩ := Option.map_eq_some_iff.mp same.symm
  exact ⟨first, found, last⟩

/-- The jobs of a queue without panics reply. -/
theorem replied (orderly : Orderly origin crowd)
    (calm : ∀ one ∈ origin.submissions, ∀ state, (one.work state).1 ≠ none) {number : Nat}
    {one : Submission σ ρ} (here : crowd.submissions[number]? = some one) (state : σ) :
    (one.work state).1 ≠ none := by
  obtain ⟨first, found, same⟩ := orderly.work here
  have work : first.work = one.work := congrArg Prod.fst same
  rw [← work]
  exact calm first (List.mem_of_getElem? found) state

/-- A submission is changed, and the log grows by nothing that concerns the others. -/
theorem placed_modify {log : List Event} {number : Nat}
    {change : Submission σ ρ → Submission σ ρ}
    (others : ∀ (other : Nat) (one : Submission σ ρ), number ≠ other →
      crowd.submissions[other]? = some one → one.Placed origin log other)
    (this : ∀ one, crowd.submissions[number]? = some one → (change one).Placed origin log number)
    (other : Nat) (one : Submission σ ρ)
    (here : (crowd.submissions.modify number change)[other]? = some one) :
    one.Placed origin log other := by
  rcases modify_cases here with ⟨different, there⟩ | ⟨rfl, old, there, rfl⟩
  · exact others other one different there
  · exact this old there

/-- A message enters that has not entered before. -/
theorem once_enter (orderly : Orderly origin crowd) {message : Message}
    (new : .entered message ∉ crowd.log) :
    (entered (crowd.log ++ [.entered message])).Nodup := by
  rw [entered_append]
  refine List.nodup_append.mpr ⟨orderly.once, List.pairwise_singleton _ _, fun old here other last => ?_⟩
  rintro rfl
  cases List.mem_singleton.mp last
  exact new (mem_entered.mp here)

/-- An event that is not the entry of a last job says nothing of a shutdown. -/
theorem endings_append (orderly : Orderly origin crowd) {event : Event}
    (other : ∀ number, .entered (.last number) ≠ event) (number : Nat) (closing : Closing σ)
    (here : crowd.closings[number]? = some closing)
    (entered : .entered (.last number) ∈ crowd.log ++ [event]) :
    closing.ending = .joining ∨ closing.ending = .over :=
  orderly.endings number closing here ((mem_append_event (other number)).mp entered)

/-- An event that is not the end of a job leaves the state. -/
theorem folded_append (orderly : Orderly origin crowd) {event : Event}
    (none : event.finished? = none) :
    crowd.state = origin.stateAfter (finished (crowd.log ++ [event])) := by
  rw [finished_append_none none]
  exact orderly.folded

theorem once_append (orderly : Orderly origin crowd) {event : Event} (none : event.entered? = none) :
    (entered (crowd.log ++ [event])).Nodup := by
  rw [entered_append_none none]
  exact orderly.once

theorem tasks_progress (orderly : Orderly origin crowd) (number : Nat) (progress : Progress ρ) :
    (crowd.progress number progress).submissions.map Submission.task =
      origin.submissions.map Submission.task := by
  refine (map_modify Submission.task ?_ crowd.submissions number).trans orderly.tasks
  exact fun _ => rfl

theorem tasks_reply (orderly : Orderly origin crowd) (number : Nat) (reply : Reply ρ) :
    (crowd.reply number reply).submissions.map Submission.task =
      origin.submissions.map Submission.task := by
  refine (map_modify Submission.task ?_ crowd.submissions number).trans orderly.tasks
  exact fun _ => rfl

theorem lasts_ending (orderly : Orderly origin crowd) (number : Nat) (ending : Ending) :
    (crowd.ending number ending).closings.map Closing.last = origin.closings.map Closing.last := by
  refine (map_modify Closing.last ?_ crowd.closings number).trans orderly.lasts
  exact fun _ => rfl

/-! ### One step -/

/-- A submission that sends its message has not sent it before. -/
theorem sends (orderly : Orderly origin crowd) {number : Nat} {one : Submission σ ρ}
    (here : crowd.submissions[number]? = some one) (accepted : one.progress = .accepted) :
    Orderly origin ((crowd.progress number .waiting).enter (.job number)) := by
  have placed := orderly.placed number one here
  refine ⟨orderly.steady.enter _, orderly.once_enter (placed.unsent (.inr accepted)),
    placed_modify (fun other one different there => ?_) fun one there => ?_,
    orderly.endings_append nofun, orderly.tasks_progress number .waiting, orderly.lasts,
    orderly.folded_append rfl⟩
  · refine (orderly.placed other one there).append ?_ nofun nofun
    rintro ⟨⟩
    exact different rfl
  · cases here.symm.trans there
    exact placed.send accepted

/-- The submission of a job that the worker drops has been waiting. -/
theorem drops (orderly : Orderly origin crowd) {number : Nat}
    (held : crowd.stage = .holding (.job number)) (closed : crowd.closed = true) :
    Orderly origin { crowd.reply number .dropped with
      stage := .idle, log := crowd.log ++ [.dropped number] } := by
  have steady := orderly.steady
  rw [held] at steady
  obtain ⟨entered, undropped, unfinished⟩ := steady.holding orderly.once
  refine ⟨steady.drop closed, orderly.once_append rfl,
    placed_modify (fun other one different there => ?_) fun one there => ?_,
    orderly.endings_append nofun, orderly.tasks_reply number .dropped, orderly.lasts,
    orderly.folded_append rfl⟩
  · refine (orderly.placed other one there).append nofun ?_ nofun
    rintro ⟨⟩
    exact different rfl
  · exact (orderly.placed number one there).settle entered undropped unfinished nofun nofun nofun
      fun _ => .inl rfl

theorem begins (orderly : Orderly origin crowd) {message : Message}
    (held : crowd.stage = .holding message)
    (opened : ∀ number, message = .job number → crowd.closed = false) :
    Orderly origin { crowd with
      stage := .running message, log := crowd.log ++ [.began message] } := by
  have steady := orderly.steady
  rw [held] at steady
  exact ⟨steady.begin opened, orderly.once_append rfl,
    fun other one there => (orderly.placed other one there).append nofun nofun nofun,
    orderly.endings_append nofun, orderly.tasks, orderly.lasts, orderly.folded_append rfl⟩

/-- The job that ends is the next in the fold of the state. -/
theorem folded_job (orderly : Orderly origin crowd) {number : Nat} {one : Submission σ ρ}
    (here : crowd.submissions[number]? = some one) :
    (one.work crowd.state).2 =
      origin.stateAfter (finished (crowd.log ++ [.finished (.job number)])) := by
  obtain ⟨first, found, task⟩ := orderly.work here
  have work : first.work = one.work := congrArg Prod.fst task
  rw [finished_append]
  show _ = origin.stateAfter (finished crowd.log ++ [.job number])
  rw [stateAfter_append, ← orderly.folded, effect_job found, work]

theorem folded_last (orderly : Orderly origin crowd) {number : Nat} {closing : Closing σ}
    (here : crowd.closings[number]? = some closing) :
    closing.last crowd.state =
      origin.stateAfter (finished (crowd.log ++ [.finished (.last number)])) := by
  obtain ⟨first, found, last⟩ := orderly.last here
  rw [finished_append]
  show _ = origin.stateAfter (finished crowd.log ++ [.last number])
  rw [stateAfter_append, ← orderly.folded, effect_last found, last]

/-- A value that is sent is what the job yields in its turn. -/
theorem yields (orderly : Orderly origin crowd) {number : Nat} {one : Submission σ ρ}
    (here : crowd.submissions[number]? = some one) {value : ρ}
    (replied : Reply.of (one.work crowd.state).1 = .sent value) :
    origin.Yields (finished (crowd.log ++ [.finished (.job number)])) number value := by
  obtain ⟨first, found, task⟩ := orderly.work here
  have work : first.work = one.work := congrArg Prod.fst task
  refine ⟨finished crowd.log, [], first, finished_append _, found, ?_⟩
  rw [work, ← orderly.folded]
  cases answer : (one.work crowd.state).1 with
  | none =>
    rw [answer] at replied
    cases replied
  | some other =>
    rw [answer] at replied
    cases replied
    rfl

/-- The submission of a job that ends has been waiting. -/
theorem finishes (orderly : Orderly origin crowd) {number : Nat} {one : Submission σ ρ}
    (running : crowd.stage = .running (.job number))
    (here : crowd.submissions[number]? = some one) :
    Orderly origin { crowd.reply number (.of (one.work crowd.state).1) with
      state := (one.work crowd.state).2
      stage := .idle
      log := crowd.log ++ [.finished (.job number)] } := by
  have steady := orderly.steady
  rw [running] at steady
  obtain ⟨entered, undropped, unfinished⟩ := steady.running orderly.once
  refine ⟨steady.finish, orderly.once_append rfl,
    placed_modify (fun other one different there => ?_) fun one' there => ?_,
    orderly.endings_append nofun, orderly.tasks_reply number _, orderly.lasts,
    orderly.folded_job here⟩
  · refine (orderly.placed other one there).append nofun nofun ?_
    rintro ⟨⟩
    exact different rfl
  · cases here.symm.trans there
    refine (orderly.placed number one here).settle entered undropped unfinished nofun ?_
      (fun value replied => orderly.yields here replied) fun dropped => .inr ⟨rfl, crowd.state, ?_⟩
    · cases (one.work crowd.state).1 <;> exact nofun
    · cases answer : (one.work crowd.state).1 with
      | none => rfl
      | some other =>
        rw [answer] at dropped
        cases dropped

theorem finishesLast (orderly : Orderly origin crowd) {number : Nat} {closing : Closing σ}
    (running : crowd.stage = .running (.last number))
    (here : crowd.closings[number]? = some closing) :
    Orderly origin { crowd with
      state := closing.last crowd.state
      stage := .leaving
      log := crowd.log ++ [.finished (.last number)] } := by
  have steady := orderly.steady
  rw [running] at steady
  exact ⟨steady.finishLast, orderly.once_append rfl,
    fun other one there => (orderly.placed other one there).append nofun nofun nofun,
    orderly.endings_append nofun, orderly.tasks, orderly.lasts, orderly.folded_last here⟩

/-- A shutdown that comes further. -/
theorem endsOn (orderly : Orderly origin crowd) {number : Nat} {closing : Closing σ}
    {ending : Ending} (closed joined : Bool) (here : crowd.closings[number]? = some closing)
    (advances : closing.ending.Advance ending) (closes : crowd.closed = true → closed = true) :
    Orderly origin { crowd.ending number ending with closed, joined } := by
  refine { orderly with
    steady := orderly.steady.close closes
    endings := fun other one there entered => ?_
    lasts := orderly.lasts_ending number ending }
  rcases modify_cases there with ⟨-, found⟩ | ⟨rfl, old, found, rfl⟩
  · exact orderly.endings other one found entered
  · cases here.symm.trans found
    exact advances.sent (orderly.endings number closing here entered)

/-- A shutdown that sends its message has not sent it before. -/
theorem sendsLast (orderly : Orderly origin crowd) {number : Nat} {closing : Closing σ}
    {ending : Ending} (here : crowd.closings[number]? = some closing)
    (before : closing.ending = .closed ∨ closing.ending = .entitled)
    (behind : ending = .joining ∨ ending = .over) :
    Orderly origin ((crowd.ending number ending).enter (.last number)) := by
  have new : .entered (.last number) ∉ crowd.log := by
    intro entered
    have sent := orderly.endings number closing here entered
    rcases before with same | same <;> rw [same] at sent <;> rcases sent with other | other <;>
      cases other
  refine ⟨orderly.steady.enter _, orderly.once_enter new,
    fun other one there => (orderly.placed other one there).append nofun nofun nofun,
    fun other one there entered => ?_, orderly.tasks, orderly.lasts_ending number ending,
    orderly.folded_append rfl⟩
  rcases modify_cases there with ⟨different, found⟩ | ⟨rfl, old, found, rfl⟩
  · refine orderly.endings other one found ((mem_append_event ?_).mp entered)
    rintro ⟨⟩
    exact different rfl
  · exact behind

/-- **Every step keeps the order.** -/
theorem stepped (orderly : Orderly origin crowd) (step : Stepped crowd after) :
    Orderly origin after := by
  have steady := orderly.steady
  cases step with
  | @advance number one progress here advances =>
    refine { orderly with
      placed := placed_modify (fun other one _ => orderly.placed other one) fun one there => ?_
      tasks := orderly.tasks_progress number progress }
    cases here.symm.trans there
    exact (orderly.placed number _ here).advance advances
  | send here accepted => exact orderly.sends here accepted
  | receive idle queued =>
    rw [idle, queued] at steady
    exact { orderly with steady := steady.receive }
  | drop held closed => exact orderly.drops held closed
  | begin held opened => exact orderly.begins held opened
  | finish running here => exact orderly.finishes running here
  | finishLast running here => exact orderly.finishesLast running here
  | leave leaving =>
    rw [leaving] at steady
    exact { orderly with steady := steady.leave }
  | close => exact { orderly with steady := steady.close fun _ => rfl }
  | ending here advances closes => exact orderly.endsOn _ _ here advances closes
  | sendLast here before behind => exact orderly.sendsLast here before behind

theorem run (orderly : Orderly origin crowd) (schedule : List Move) :
    Orderly origin (crowd.run schedule) :=
  @run_invariant σ ρ crowd (Orderly origin) (fun step orderly => orderly.stepped step) schedule orderly

/-- A submission that has been refused as closed has not run. -/
theorem unbegun (orderly : Orderly origin crowd)
    (calm : ∀ one ∈ origin.submissions, ∀ state, (one.work state).1 ≠ none) {number : Nat}
    {one : Submission σ ρ} (here : crowd.submissions[number]? = some one)
    (refused : one.progress = .answered (.error .closed)) : .job number ∉ began crowd.log := by
  have placed := orderly.placed number one here
  rcases placed.error .closed refused with ⟨reentrant, -⟩ | ⟨-, absent | dropped⟩
  · cases reentrant
  · intro begins
    refine absent (mem_entered.mp ?_)
    exact ((began_sublist crowd.log).trans orderly.steady.taken_sublist).subset begins
  · rcases placed.dropped dropped with dropped | ⟨-, state, panics⟩
    · exact orderly.steady.unbegun orderly.once dropped
    · exact absurd panics (orderly.replied calm here state)

end Orderly

/-! ### Answers -/

/-- Only a submission that has not been answered comes further. -/
theorem Advance.unanswered {one : Submission σ ρ} {progress : Progress ρ}
    (advances : crowd.Advance one progress) (result : Except QueueError ρ) :
    one.progress ≠ .answered result := by
  intro final
  cases advances with
  | reentrant _ before | refused _ before | accepted _ before | unsent before | heard _ before
  | unheard before => cases final.symm.trans before

/-- A submission that has been answered. -/
def Answered (number : Nat) (result : Except QueueError ρ) (crowd : Crowd σ ρ) : Prop :=
  ∃ one, crowd.submissions[number]? = some one ∧ one.progress = .answered result

/-- An answer is not changed. -/
theorem Answered.stepped {number : Nat} {result : Except QueueError ρ} (step : Stepped crowd after)
    (answered : crowd.Answered number result) : after.Answered number result := by
  obtain ⟨one, here, final⟩ := answered
  -- a step changes how far a submission has come only if that has not been answered
  have kept {place : Nat} {change : Submission σ ρ → Submission σ ρ}
      (keeps : place = number → (change one).progress = one.progress) :
      ∃ later, (crowd.submissions.modify place change)[number]? = some later ∧
        later.progress = .answered result := by
    rw [List.getElem?_modify, here]
    by_cases same : place = number
    · exact ⟨change one, congrArg some (if_pos same), (keeps same).trans final⟩
    · exact ⟨one, congrArg some (if_neg same), final⟩
  cases step with
  | @advance place other progress there advances =>
    refine kept fun same => ?_
    subst same
    cases here.symm.trans there
    exact absurd final (advances.unanswered result)
  | @send place other there accepted _ =>
    refine kept fun same => ?_
    subst same
    cases here.symm.trans there
    cases final.symm.trans accepted
  | drop => exact kept fun _ => rfl
  | finish => exact kept fun _ => rfl
  | receive | begin | finishLast | leave | close | ending | sendLast => exact ⟨one, here, final⟩

theorem Answered.run {number : Nat} {result : Except QueueError ρ}
    (answered : crowd.Answered number result) (schedule : List Move) :
    (crowd.run schedule).Answered number result :=
  run_invariant Answered.stepped schedule answered

/-! ### What can be relied on -/

/-- **What callers and state can rely on** at every point of every schedule. -/
structure Lawful (origin crowd : Crowd σ ρ) : Prop where
  /-- Messages begin in the order in which they entered the channel. -/
  order : (began crowd.log).Sublist (entered crowd.log)
  /-- No message begins twice. -/
  once : (began crowd.log).Nodup
  /-- All that began has finished, but for the one at work. -/
  serial : began crowd.log = finished crowd.log ++ crowd.stage.current
  /-- The state is what the finished messages made of it, one after the other. -/
  folded : crowd.state = origin.stateAfter (finished crowd.log)
  /-- A value is the answer of the caller's own job, in its turn. -/
  own : ∀ number value, crowd.Answered number (.ok value) →
    origin.Yields (finished crowd.log) number value
  /-- The job of a caller that was refused never begins. -/
  refused : ∀ number, crowd.Answered number (.error .closed) → ∀ more,
    .job number ∉ began (crowd.run more).log
  /-- No job begins behind one that was dropped because the queue was closed. -/
  observed : crowd.log.Pairwise Event.Observes
  /-- Nothing begins behind a last job; so there is one at most. -/
  ended : crowd.log.Pairwise Event.Ends
  /-- A submission by a job of the queue is refused as such and sends nothing, and no other is. -/
  inside : ∀ (number : Nat) (one : Submission σ ρ), crowd.submissions[number]? = some one → one.inside = true →
    .entered (.job number) ∉ crowd.log ∧
      (one.progress = .outside ∨ one.progress = .answered (.error .reentrant))
  reentrant : ∀ (number : Nat) (one : Submission σ ρ), crowd.submissions[number]? = some one →
    one.progress = .answered (.error .reentrant) → one.inside = true
  /-- While a job runs, a submission it makes is refused at once, and nothing else changes. -/
  refusal : ∀ (number : Nat) (one : Submission σ ρ), crowd.submissions[number]? = some one → one.inside = true →
    one.progress = .outside → crowd.stage.isRunning = true →
      crowd.step (.accept number) = some (crowd.progress number (.answered (.error .reentrant)))

theorem Orderly.lawful (orderly : Orderly origin crowd)
    (calm : ∀ one ∈ origin.submissions, ∀ state, (one.work state).1 ≠ none) :
    Lawful origin crowd where
  order := (began_sublist crowd.log).trans orderly.steady.taken_sublist
  once := orderly.once.sublist ((began_sublist crowd.log).trans orderly.steady.taken_sublist)
  serial := orderly.steady.serial
  folded := orderly.folded
  own := by
    rintro number value ⟨one, here, heard⟩
    have placed := orderly.placed number one here
    exact placed.replied value (placed.ok value heard)
  refused := by
    intro number refused more
    obtain ⟨one, here, final⟩ := refused.run more
    exact (orderly.run more).unbegun calm here final
  observed := orderly.steady.observed
  ended := orderly.steady.ended
  inside := fun number one here within => (orderly.placed number one here).inside within
  reentrant := by
    intro number one here final
    rcases (orderly.placed number one here).error _ final with ⟨-, within⟩ | ⟨other, -⟩
    · exact within
    · cases other
  refusal := by
    rintro number ⟨work, inside, progress, reply⟩ here rfl rfl runs
    simp only [step, accept, here, runs, if_true]

/-- **Many callers, one worker.** Any number of calls with jobs that do not panic, a channel of any capacity, and
any schedule of their steps and of the worker's. -/
theorem lawful_run (fresh : origin.Fresh)
    (calm : ∀ one ∈ origin.submissions, ∀ state, (one.work state).1 ≠ none)
    (schedule : List Move) : Lawful origin (origin.run schedule) :=
  (fresh.orderly.run schedule).lawful calm

/-- A job that answers a count and makes it one greater. -/
def countUp : Work Nat Nat := fun count => (some count, count + 1)

/-- Two callers that count, one of them late, and a shutdown. -/
def counting : Crowd Nat Nat where
  capacity := 1
  state := 0
  submissions := [{ work := countUp }, { work := countUp }]
  closings := [{ last := (· + 10) }]

/-- The first caller hears its answer; the other is dropped, since the queue closes in between. -/
def countingSchedule : List Move :=
  [.accept 0, .accept 1, .send 0, .receive, .begin, .send 1, .beginEnd 0, .takeHandle 0, .finish,
    .hear 0, .receive, .sendLast 0, .begin, .hear 1, .receive, .begin, .finish, .leave, .join 0]

theorem lawful_counting :
    (counting.run countingSchedule).answers = [some (.ok 0), some (.error .closed)] ∧
      (counting.run countingSchedule).state = 11 ∧
      Lawful counting (counting.run countingSchedule) := by
  have fresh : counting.Fresh :=
    ⟨by simp [counting], by simp [counting], rfl, rfl, rfl, rfl, rfl⟩
  exact ⟨rfl, rfl, lawful_run fresh (by simp [counting, countUp]) countingSchedule⟩

end Crowd

end ScriptKernel.Queue
