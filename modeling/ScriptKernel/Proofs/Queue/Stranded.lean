/-
**Callers that wait for ever.**

A submission looks at the closed flag and sends its message in two steps. A shutdown can close the queue and
send its last job in between; then the worker ends before it comes to the message, and the channel keeps it.

* `Stranded`: a caller whose job is left behind; no schedule changes that (`Stranded.run`);
* `stranded_iff`: **once the worker has ended, the callers that wait for ever are those whose message is still in
  the channel**, behind the last job;
* `caller_left_behind`: there are such callers.
-/

import ScriptKernel.Proofs.Queue.Order

set_option autoImplicit false

namespace ScriptKernel.Queue.Crowd

variable {σ ρ : Type} {origin crowd after : Crowd σ ρ} {number : Nat}

/-- A caller that waits for a reply when there is no worker any more. -/
structure Stranded (number : Nat) (crowd : Crowd σ ρ) : Prop where
  stopped : crowd.stage = .stopped
  waits : ∃ one, crowd.submissions[number]? = some one ∧ one.progress = .waiting ∧
    one.reply = .pending

/-- **Nothing that is done afterwards reaches such a caller.** -/
theorem Stranded.stepped (step : Stepped crowd after) (stranded : crowd.Stranded number) :
    after.Stranded number := by
  obtain ⟨stopped, one, here, waiting, pending⟩ := stranded
  -- what another caller does leaves this one where it is
  have other {place : Nat} {change : Submission σ ρ → Submission σ ρ} (different : place ≠ number) :
      ∃ later, (crowd.submissions.modify place change)[number]? = some later ∧
        later.progress = .waiting ∧ later.reply = .pending := by
    rw [List.getElem?_modify, here]
    exact ⟨one, congrArg some (if_neg different), waiting, pending⟩
  cases step with
  | advance there advances =>
    refine ⟨stopped, other ?_⟩
    rintro rfl
    cases here.symm.trans there
    cases advances with
    | reentrant _ before | refused _ before | accepted _ before | unsent before =>
      cases waiting.symm.trans before
    | heard _ _ before | unheard _ before => cases pending.symm.trans before
  | send _ _ runs => exact absurd stopped runs
  | sendLast _ _ _ runs => exact absurd stopped runs
  | receive stage | drop stage | begin stage | finish stage | finishLast stage | leave stage =>
    cases stopped.symm.trans stage
  | close | ending => exact ⟨stopped, one, here, waiting, pending⟩

theorem Stranded.run (stranded : crowd.Stranded number) (schedule : List Move) :
    (crowd.run schedule).Stranded number :=
  run_invariant Stranded.stepped schedule stranded

/-- When the worker has ended, a message has been handled or is in the channel. -/
theorem Orderly.pending_iff (orderly : Orderly origin crowd) (stopped : crowd.stage = .stopped)
    {one : Submission σ ρ} (here : crowd.submissions[number]? = some one)
    (waiting : one.progress = .waiting) : one.reply = .pending ↔ .job number ∈ crowd.channel := by
  have steady := orderly.steady
  have once := orderly.once
  have placed := orderly.placed number one here
  rw [stopped] at steady
  have fifo : entered crowd.log = taken crowd.log ++ crowd.channel := steady.fifo
  have serial : began crowd.log = finished crowd.log := steady.serial.trans (List.append_nil _)
  constructor
  · intro pending
    obtain ⟨undropped, unfinished⟩ := placed.pending pending
    have entered := mem_entered.mpr (placed.sent waiting)
    rw [fifo] at entered
    refine (List.mem_append.mp entered).resolve_left fun taken => ?_
    obtain ⟨event, logged, same⟩ := List.mem_filterMap.mp taken
    cases event with
    | entered | finished => cases same
    | dropped => cases same; exact undropped logged
    | began =>
      cases same
      have finished := mem_began.mpr logged
      rw [serial] at finished
      exact unfinished (mem_finished.mp finished)
  · intro queued
    rw [fifo] at once
    have untaken : .job number ∉ taken crowd.log := fun taken =>
      (List.nodup_append.mp once).2.2 _ taken _ queued rfl
    cases reply : one.reply with
    | pending => rfl
    | sent value =>
      have finished := (placed.replied value reply).mem
      rw [← serial] at finished
      exact absurd ((began_sublist crowd.log).subset finished) untaken
    | dropped =>
      rcases placed.dropped reply with dropped | ⟨finished, -⟩
      · exact absurd (mem_taken_of_dropped dropped) untaken
      · have finished := mem_finished.mpr finished
        rw [← serial] at finished
        exact absurd ((began_sublist crowd.log).subset finished) untaken

/-- A caller whose reply has come, or is gone, hears of it. -/
theorem hear_answers {one : Submission σ ρ} (here : crowd.submissions[number]? = some one)
    (waiting : one.progress = .waiting) (settled : one.reply ≠ .pending) :
    ∃ result, (crowd.run [.hear number]).Answered number result := by
  have answered {result : Except QueueError ρ}
      (hears : crowd.hear number = some (crowd.progress number (.answered result))) :
      ∃ result, (crowd.run [.hear number]).Answered number result := by
    refine ⟨result, { one with progress := .answered result }, ?_, rfl⟩
    show ((crowd.hear number).getD crowd).submissions[number]? = _
    rw [hears]
    show (crowd.submissions.modify number _)[number]? = _
    rw [List.getElem?_modify_eq, here]
    rfl
  obtain ⟨work, inside, progress, reply⟩ := one
  cases waiting
  cases reply with
  | pending => exact absurd rfl settled
  | sent value => exact answered (by unfold hear; rw [here])
  | dropped => exact answered (by unfold hear; rw [here])

/-- **Who waits for ever.** When the worker has ended, the messages left in the channel are those that entered it
behind a last job, and a caller that waits does so for ever just if its message is among them. -/
theorem stranded_iff (fresh : origin.Fresh) (schedule : List Move)
    (stopped : (origin.run schedule).stage = .stopped) :
    (∃ before last, entered (origin.run schedule).log =
        before ++ .last last :: (origin.run schedule).channel) ∧
      ∀ (number : Nat) (one : Submission σ ρ), (origin.run schedule).submissions[number]? = some one →
        one.progress = .waiting →
        ((∀ more, ∃ later, ((origin.run schedule).run more).submissions[number]? = some later ∧
          later.progress = .waiting) ↔ .job number ∈ (origin.run schedule).channel) := by
  have orderly := fresh.orderly.run schedule
  have steady := orderly.steady
  rw [stopped] at steady
  constructor
  · obtain ⟨before, last, taken⟩ := steady.halted rfl
    refine ⟨before, last, ?_⟩
    rw [steady.fifo, taken]
    exact List.append_assoc ..
  · intro number one here waiting
    rw [← orderly.pending_iff stopped here waiting]
    constructor
    · intro always
      by_contra settled
      obtain ⟨result, later, there, answered⟩ := hear_answers here waiting settled
      obtain ⟨same, found, still⟩ := always [.hear number]
      cases there.symm.trans found
      cases answered.symm.trans still
    · intro pending more
      have stranded : (origin.run schedule).Stranded number :=
        ⟨stopped, one, here, waiting, pending⟩
      obtain ⟨later, there, still, -⟩ := (stranded.run more).waits
      exact ⟨later, there, still⟩

/-! ### A caller that is left behind -/

/-- One caller and a shutdown. -/
def raced : Crowd Nat Nat where
  capacity := 1
  state := 0
  submissions := [{ work := countUp }]
  closings := [{ last := id }]

/-- The caller is accepted; the shutdown closes the queue and sends its last job; then the caller sends its
message, and the worker ends with the last job. -/
def racingSchedule : List Move :=
  [.accept 0, .beginEnd 0, .takeHandle 0, .sendLast 0, .receive, .begin, .send 0, .finish, .leave,
    .join 0]

theorem raced_fresh : raced.Fresh :=
  ⟨by simp [raced], by simp [raced], rfl, rfl, rfl, rfl, rfl⟩

/-- The caller waits for ever, since its message is in the channel. -/
theorem stranded_of_race :
    (raced.run racingSchedule).stage = .stopped ∧ ∀ more,
      ∃ later, ((raced.run racingSchedule).run more).submissions[0]? = some later ∧
        later.progress = .waiting := by
  have stopped : (raced.run racingSchedule).stage = .stopped := rfl
  refine ⟨stopped, ?_⟩
  exact ((stranded_iff raced_fresh racingSchedule stopped).2 0 _ rfl rfl).mpr (.head _)

/-- **The worker has ended, the shutdown is over, and a job that was accepted is left in the channel**; its
caller is never answered. -/
theorem caller_left_behind :
    ∃ (origin : Crowd Nat Nat) (schedule : List Move), origin.Fresh ∧
      (origin.run schedule).stage = .stopped ∧
      (origin.run schedule).closings.map Closing.ending = [.over] ∧
      (origin.run schedule).channel = [.job 0] ∧
      ∀ more result, ¬ ((origin.run schedule).run more).Answered 0 result := by
  refine ⟨raced, racingSchedule, raced_fresh, rfl, rfl, rfl, fun more result answered => ?_⟩
  have stranded : (raced.run racingSchedule).Stranded 0 := ⟨rfl, _, rfl, rfl, rfl⟩
  obtain ⟨one, here, waiting, -⟩ := (stranded.run more).waits
  obtain ⟨other, there, final⟩ := answered
  cases here.symm.trans there
  cases waiting.symm.trans final

end ScriptKernel.Queue.Crowd
