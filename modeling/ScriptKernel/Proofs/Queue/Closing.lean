/-
**A queue that one caller closes.**

* `Crowd.Moved`, `moved_of_step`: **what each step does, by whose step it is**;
* `Moved.submission`: a submission comes further only by a step of its own;
* `Moved.running`: a message at work stays at work until it is finished;
* `Crowd.Sealed`: **only one caller closes the queue**, and once its shutdown is over the worker has ended; every step
  keeps this as long as no second shutdown begins (`Sealed.moved`);
* `Crowd.Truthful`: only a closed queue refuses as closed.
-/

import ScriptKernel.Proofs.Queue.Order

set_option autoImplicit false

namespace ScriptKernel.Queue.Crowd

variable {σ ρ : Type} {crowd after : Crowd σ ρ} {move : Move} {number : Nat}

/-! ### Whose step it is -/

/-- A step of a submission. -/
def Own (number : Nat) (move : Move) : Prop :=
  move = .accept number ∨ move = .send number ∨ move = .hear number

/-- **What the step of a party does.** -/
inductive Moved (crowd : Crowd σ ρ) : Move → Crowd σ ρ → Prop
  | advance {number : Nat} {move : Move} (progress : Progress ρ) : Own number move →
      Moved crowd move (crowd.progress number progress)
  | send (number : Nat) :
      Moved crowd (.send number) ((crowd.progress number .waiting).enter (.job number))
  | receive {message : Message} {rest : List Message} : crowd.stage = .idle →
      Moved crowd .receive { crowd with channel := rest, stage := .holding message }
  | drop {number : Nat} : crowd.stage = .holding (.job number) →
      Moved crowd .begin { crowd.reply number .dropped with
        stage := .idle, log := crowd.log ++ [.dropped number] }
  | begin {message : Message} : crowd.stage = .holding message →
      Moved crowd .begin { crowd with
        stage := .running message, log := crowd.log ++ [.began message] }
  | finish {number : Nat} {reply : Reply ρ} {state : σ} : crowd.stage = .running (.job number) →
      Moved crowd .finish { crowd.reply number reply with
        state, stage := .idle, log := crowd.log ++ [.finished (.job number)] }
  | finishLast {number : Nat} {state : σ} : crowd.stage = .running (.last number) →
      Moved crowd .finish { crowd with
        state, stage := .leaving, log := crowd.log ++ [.finished (.last number)] }
  | leave : crowd.stage = .leaving → Moved crowd .leave { crowd with stage := .stopped }
  | close : Moved crowd .close { crowd with closed := true }
  | beginEnd {number : Nat} {closing : Closing σ} : crowd.closings[number]? = some closing →
      closing.ending = .outside →
      Moved crowd (.beginEnd number) { crowd.ending number .closed with closed := true }
  | late {number : Nat} {closing : Closing σ} : crowd.closings[number]? = some closing →
      closing.ending = .closed → crowd.joined = true →
      Moved crowd (.takeHandle number) (crowd.ending number .over)
  | entitle {number : Nat} {closing : Closing σ} : crowd.closings[number]? = some closing →
      closing.ending = .closed →
      Moved crowd (.takeHandle number) { crowd.ending number .entitled with joined := true }
  | unsent {number : Nat} {closing : Closing σ} : crowd.closings[number]? = some closing →
      closing.ending = .entitled →
      Moved crowd (.sendLast number) (crowd.ending number .joining)
  | sendLast {number : Nat} {closing : Closing σ} : crowd.closings[number]? = some closing →
      closing.ending = .entitled →
      Moved crowd (.sendLast number) ((crowd.ending number .joining).enter (.last number))
  | waited {number : Nat} {closing : Closing σ} : crowd.closings[number]? = some closing →
      closing.ending = .joining → crowd.stage = .stopped →
      Moved crowd (.join number) (crowd.ending number .over)
  | untried (number : Nat) : Moved crowd (.tryLast number) (crowd.ending number .over)
  | tried (number : Nat) :
      Moved crowd (.tryLast number) ((crowd.ending number .over).enter (.last number))

theorem moved_of_finish (taken : crowd.finish = some after) : Moved crowd .finish after := by
  unfold finish at taken
  split at taken
  · cases taken
  · split at taken
    · rename_i running
      split at taken
      · cases taken
        exact .finish running
      · cases taken
    · rename_i running
      split at taken
      · cases taken
        exact .finishLast running
      · cases taken
    · cases taken

/-- **Every step does what it is for.** -/
theorem moved_of_step (taken : crowd.step move = some after) : Moved crowd move after := by
  cases move with
  | accept place =>
    simp only [step, accept] at taken
    split at taken
    · split at taken <;> cases taken
      exact .advance _ (.inl rfl)
    · split at taken <;> cases taken <;> exact .advance _ (.inl rfl)
    · cases taken
  | send place =>
    simp only [step, send] at taken
    split at taken
    · split at taken
      · cases taken
        exact .advance _ (.inr (.inl rfl))
      · split at taken <;> cases taken
        exact .send place
    · cases taken
  | hear place =>
    simp only [step, hear] at taken
    split at taken <;> cases taken <;> exact .advance _ (.inr (.inr rfl))
  | receive =>
    simp only [step, receive] at taken
    split at taken
    · rename_i idle _
      cases taken
      exact .receive idle
    · cases taken
  | begin =>
    simp only [step, begin] at taken
    split at taken
    · rename_i holding
      split at taken <;> cases taken
      · exact .drop holding
      · exact .begin holding
    · rename_i holding
      cases taken
      exact .begin holding
    · cases taken
  | finish => exact moved_of_finish taken
  | leave =>
    simp only [step, leave] at taken
    split at taken <;> cases taken
    rename_i leaving
    exact .leave leaving
  | close =>
    cases taken
    exact .close
  | beginEnd place =>
    simp only [step, beginEnd] at taken
    split at taken
    · rename_i here
      split at taken <;> cases taken
      exact .beginEnd here rfl
    · cases taken
  | takeHandle place =>
    simp only [step, takeHandle] at taken
    split at taken
    · rename_i here
      split at taken <;> cases taken
      · rename_i joined
        exact .late here rfl joined
      · exact .entitle here rfl
    · cases taken
  | sendLast place =>
    simp only [step, sendLast] at taken
    split at taken
    · rename_i here
      split at taken
      · cases taken
        exact .unsent here rfl
      · split at taken <;> cases taken
        exact .sendLast here rfl
    · cases taken
  | tryLast place =>
    simp only [step, tryLast] at taken
    split at taken
    · split at taken
      · cases taken
      · split at taken <;> cases taken
        · exact .tried place
        · exact .untried place
    · cases taken
  | join place =>
    simp only [step, join] at taken
    split at taken
    · rename_i here
      split at taken <;> cases taken
      rename_i stopped
      exact .waited here rfl stopped
    · cases taken

namespace Moved

/-- **A submission comes further only by a step of its own.** -/
theorem submission (moved : Moved crowd move after) {later : Submission σ ρ}
    (there : after.submissions[number]? = some later) :
    ∃ one, crowd.submissions[number]? = some one ∧
      (later.progress = one.progress ∨ Own number move) := by
  cases moved with
  | advance progress own =>
    rcases modify_cases there with ⟨-, found⟩ | ⟨rfl, old, found, rfl⟩
    · exact ⟨later, found, .inl rfl⟩
    · exact ⟨old, found, .inr own⟩
  | send place =>
    rcases modify_cases there with ⟨-, found⟩ | ⟨rfl, old, found, rfl⟩
    · exact ⟨later, found, .inl rfl⟩
    · exact ⟨old, found, .inr (.inr (.inl rfl))⟩
  | drop | finish =>
    rcases modify_cases there with ⟨-, found⟩ | ⟨-, old, found, rfl⟩
    · exact ⟨later, found, .inl rfl⟩
    · exact ⟨old, found, .inl rfl⟩
  | receive | begin | finishLast | leave | close | beginEnd | late | entitle | unsent | sendLast
  | waited | untried | tried => exact ⟨later, there, .inl rfl⟩

/-- The worker begins a message, goes on with it, or has none; a message that is not at work is not finished. -/
theorem running (moved : Moved crowd move after) (goesOn : move ≠ .finish) {message : Message} :
    (crowd.stage = .running message → after.stage = .running message) ∧
      (after.stage = .running message →
        crowd.stage = .running message ∨ crowd.stage = .holding message) ∧
      (.began message ∈ after.log →
        .began message ∈ crowd.log ∨ after.stage = .running message) ∧
      (.finished message ∈ after.log → .finished message ∈ crowd.log) := by
  -- a stage that is given does not run this message
  have idle {stage : Stage} (now : crowd.stage = stage) (other : ∀ message, stage ≠ .running message) :
      crowd.stage = .running message → False :=
    fun runs => other message (now.symm.trans runs)
  cases moved with
  | advance | close | beginEnd | late | entitle | unsent | waited | untried =>
    exact ⟨id, .inl, .inl, id⟩
  | send | sendLast | tried =>
    exact ⟨id, .inl, fun began => .inl ((mem_append_event (by nofun)).mp began),
      fun finished => (mem_append_event (by nofun)).mp finished⟩
  | receive now =>
    exact ⟨fun runs => (idle now nofun runs).elim, nofun, .inl, id⟩
  | drop now =>
    exact ⟨fun runs => (idle now nofun runs).elim, nofun,
      fun began => .inl ((mem_append_event (by nofun)).mp began),
      fun finished => (mem_append_event (by nofun)).mp finished⟩
  | @begin new now =>
    refine ⟨fun runs => (idle now nofun runs).elim, fun runs => .inr ?_, fun began => ?_,
      fun finished => (mem_append_event (by nofun)).mp finished⟩
    · cases runs
      exact now
    · rcases List.mem_append.mp began with old | last
      · exact .inl old
      · cases List.mem_singleton.mp last
        exact .inr rfl
  | leave now => exact ⟨fun runs => (idle now nofun runs).elim, nofun, .inl, id⟩
  | finish | finishLast => exact absurd rfl goesOn

/-- What has happened stays noted. -/
theorem log (moved : Moved crowd move after) : ∃ events, after.log = crowd.log ++ events := by
  cases moved with
  | advance | receive | leave | close | beginEnd | late | entitle | unsent | waited | untried =>
    exact ⟨[], (List.append_nil _).symm⟩
  | send | drop | begin | finish | finishLast | sendLast | tried => exact ⟨_, rfl⟩

/-- A worker that has ended stays so. -/
theorem stopped (moved : Moved crowd move after) (stopped : crowd.stage = .stopped) :
    after.stage = .stopped := by
  cases moved with
  | receive now | drop now | begin now | finish now | finishLast now | leave now =>
    cases stopped.symm.trans now
  | advance | send | close | beginEnd | late | entitle | unsent | sendLast | waited | untried | tried =>
    exact stopped

/-- A shutdown begins only by its own step. -/
theorem closing (moved : Moved crowd move after) {later : Closing σ}
    (there : after.closings[number]? = some later) (begun : later.ending ≠ .outside) :
    (∃ closing, crowd.closings[number]? = some closing ∧ closing.ending ≠ .outside) ∨
      move = .beginEnd number ∨ move = .tryLast number := by
  have old (here : crowd.closings[number]? = some later) :
      (∃ closing, crowd.closings[number]? = some closing ∧ closing.ending ≠ .outside) ∨
        move = .beginEnd number ∨ move = .tryLast number := .inl ⟨later, here, begun⟩
  -- this shutdown had begun before
  have further {place : Nat} {closing : Closing σ} {before ending : Ending}
      (here : crowd.closings[place]? = some closing) (reached : closing.ending = before)
      (past : before ≠ .outside)
      (there : (crowd.ending place ending).closings[number]? = some later) :
      (∃ closing, crowd.closings[number]? = some closing ∧ closing.ending ≠ .outside) ∨
        move = .beginEnd number ∨ move = .tryLast number := by
    rcases modify_cases there with ⟨-, found⟩ | ⟨rfl, -⟩
    · exact old found
    · exact .inl ⟨closing, here, fun outside => past (reached.symm.trans outside)⟩
  cases moved with
  | advance | send | receive | drop | begin | finish | finishLast | leave | close => exact old there
  | beginEnd =>
    rcases modify_cases there with ⟨-, found⟩ | ⟨rfl, -⟩
    · exact old found
    · exact .inr (.inl rfl)
  | untried | tried =>
    rcases modify_cases there with ⟨-, found⟩ | ⟨rfl, -⟩
    · exact old found
    · exact .inr (.inr rfl)
  | late here before => exact further here before nofun there
  | entitle here before => exact further here before nofun there
  | unsent here before => exact further here before nofun there
  | sendLast here before => exact further here before nofun there
  | waited here before => exact further here before nofun there

end Moved

/-! ### One shutdown -/

/-- **Only one caller closes the queue**, and no job of its own does. -/
structure Sealed (crowd : Crowd σ ρ) : Prop where
  alone : ∀ (number other : Nat) (closing second : Closing σ), crowd.closings[number]? = some closing →
    crowd.closings[other]? = some second → closing.ending ≠ .outside → second.ending ≠ .outside →
    number = other
  closed : ∀ (number : Nat) (closing : Closing σ), crowd.closings[number]? = some closing →
    closing.ending ≠ .outside → crowd.closed = true
  begun : crowd.closed = true → ∃ (number : Nat) (closing : Closing σ),
    crowd.closings[number]? = some closing ∧ closing.ending ≠ .outside
  joined : crowd.joined = true → ∃ (number : Nat) (closing : Closing σ),
    crowd.closings[number]? = some closing ∧ closing.ending ≠ .outside ∧ closing.ending ≠ .closed
  /-- A shutdown that is over has waited for the end of the worker. -/
  waited : ∀ (number : Nat) (closing : Closing σ), crowd.closings[number]? = some closing →
    closing.ending = .over → crowd.stage = .stopped

theorem Fresh.sealed (fresh : crowd.Fresh) : crowd.Sealed := by
  have outside (number : Nat) (closing : Closing σ) (here : crowd.closings[number]? = some closing) :
      closing.ending = .outside := fresh.closings closing (List.mem_of_getElem? here)
  refine ⟨fun number other closing _ here _ begun _ => absurd (outside number closing here) begun,
    fun number closing here begun => absurd (outside number closing here) begun, fun closed => ?_,
    fun joined => ?_, fun number closing here ended => ?_⟩
  · cases fresh.closed.symm.trans closed
  · cases fresh.joined.symm.trans joined
  · cases (outside number closing here).symm.trans ended

namespace Sealed

/-- The one shutdown comes further. -/
theorem onward {closing : Closing σ} {ending : Ending}
    (here : crowd.closings[number]? = some closing)
    (mine : ∀ (other : Nat) (second : Closing σ), crowd.closings[other]? = some second →
      second.ending ≠ .outside → number = other)
    (same : after.closings = (crowd.ending number ending).closings) (begun : ending ≠ .outside)
    (closed : after.closed = true) (joined : after.joined = true → ending ≠ .closed)
    (waited : ending = .over → after.stage = .stopped) : after.Sealed := by
  have self : after.closings[number]? = some { closing with ending } := by
    rw [same]
    show (crowd.closings.modify number _)[number]? = _
    rw [List.getElem?_modify_eq, here]
    rfl
  -- whatever has begun is this shutdown
  have only (other : Nat) (second : Closing σ) (there : after.closings[other]? = some second)
      (started : second.ending ≠ .outside) : number = other := by
    rw [same] at there
    rcases modify_cases there with ⟨-, found⟩ | ⟨rfl, -⟩
    · exact mine other second found started
    · rfl
  refine ⟨fun one other first second there found started too => ?_, fun _ _ _ _ => closed,
    fun _ => ⟨number, _, self, begun⟩, fun handed => ⟨number, _, self, begun, joined handed⟩,
    fun other second there ended => ?_⟩
  · exact (only one first there started).symm.trans (only other second found too)
  · have started : second.ending ≠ .outside := by
      rw [ended]
      exact nofun
    cases only other second there started
    cases self.symm.trans there
    exact waited ended

/-- A step that does nothing to the shutdowns. -/
theorem unmoved (single : crowd.Sealed) (closings : after.closings = crowd.closings)
    (closed : after.closed = crowd.closed) (joined : after.joined = crowd.joined)
    (stopped : crowd.stage = .stopped → after.stage = .stopped) : after.Sealed := by
  refine ⟨?_, ?_, ?_, ?_, fun number closing here ended => ?_⟩
  · rw [closings]
    exact single.alone
  · rw [closings, closed]
    exact single.closed
  · rw [closings, closed]
    exact single.begun
  · rw [closings, joined]
    exact single.joined
  · rw [closings] at here
    exact stopped (single.waited number closing here ended)

/-- **Every step keeps the queue to one shutdown**, unless another begins. -/
theorem moved (single : crowd.Sealed) (moved : Moved crowd move after) (apart : move ≠ .close)
    (outside : ∀ number, move ≠ .tryLast number)
    (first : ∀ number, move = .beginEnd number → ∀ (other : Nat) (closing : Closing σ),
      crowd.closings[other]? = some closing → closing.ending ≠ .outside → number = other) :
    after.Sealed := by
  -- a shutdown that has begun is the only one
  have mine {number : Nat} {closing : Closing σ} (here : crowd.closings[number]? = some closing)
      (begun : closing.ending ≠ .outside) (other : Nat) (second : Closing σ)
      (there : crowd.closings[other]? = some second) (started : second.ending ≠ .outside) :
      number = other :=
    single.alone number other closing second here there begun started
  have stopped := moved.stopped
  cases moved with
  | advance | send | receive | drop | begin | finish | finishLast | leave =>
    exact single.unmoved rfl rfl rfl stopped
  | close => exact absurd rfl apart
  | untried number | tried number => exact absurd rfl (outside number)
  | @beginEnd number closing here before =>
    have only := first number rfl
    refine onward here only rfl nofun rfl (fun joined => ?_) nofun
    obtain ⟨other, second, there, begun, -⟩ := single.joined joined
    cases only other second there begun
    cases here.symm.trans there
    exact absurd before begun
  | @late number closing here before joined =>
    have begun : closing.ending ≠ .outside := by
      rw [before]
      exact nofun
    obtain ⟨other, second, there, started, taken⟩ := single.joined joined
    cases mine here begun other second there started
    cases here.symm.trans there
    exact absurd before taken
  | @entitle number closing here before =>
    have begun : closing.ending ≠ .outside := by
      rw [before]
      exact nofun
    exact onward here (mine here begun) rfl nofun (single.closed number closing here begun)
      (fun _ => nofun) nofun
  | @unsent number closing here before | @sendLast number closing here before =>
    have begun : closing.ending ≠ .outside := by
      rw [before]
      exact nofun
    exact onward here (mine here begun) rfl nofun (single.closed number closing here begun)
      (fun _ => nofun) nofun
  | @waited number closing here before ended =>
    have begun : closing.ending ≠ .outside := by
      rw [before]
      exact nofun
    exact onward here (mine here begun) rfl nofun (single.closed number closing here begun)
      (fun _ => nofun) fun _ => ended

end Sealed

/-! ### Refusals -/

/-- **Only a closed queue sends a last job, or refuses as closed.** -/
structure Truthful (crowd : Crowd σ ρ) : Prop where
  sent : ∀ number, .entered (.last number) ∈ crowd.log → crowd.closed = true
  refused : ∀ (number : Nat) (one : Submission σ ρ), crowd.submissions[number]? = some one →
    one.progress = .answered (.error .closed) → crowd.closed = true

theorem Fresh.truthful (fresh : crowd.Fresh) : crowd.Truthful := by
  refine ⟨fun number entered => ?_, fun number one here refused => ?_⟩
  · rw [fresh.log] at entered
    cases entered
  · have outside := (fresh.submissions one (List.mem_of_getElem? here)).1
    cases outside.symm.trans refused

namespace Truthful

variable {origin : Crowd σ ρ}

/-- A queue whose worker has ended is closed. -/
theorem closed_of_stopped (truthful : crowd.Truthful) (orderly : Orderly origin crowd)
    (stopped : crowd.stage = .stopped) : crowd.closed = true := by
  have steady := orderly.steady
  rw [stopped] at steady
  obtain ⟨before, number, taken⟩ := steady.halted rfl
  refine truthful.sent number (mem_entered.mp ?_)
  refine steady.taken_sublist.subset ?_
  rw [taken]
  exact List.mem_append_right _ (.head _)

/-- A submission that is refused as closed finds the queue closed. -/
theorem closed_of_advance (truthful : crowd.Truthful) (orderly : Orderly origin crowd)
    (calm : ∀ one ∈ origin.submissions, ∀ state, (one.work state).1 ≠ none)
    {one : Submission σ ρ} {progress : Progress ρ} (here : crowd.submissions[number]? = some one)
    (advances : crowd.Advance one progress) (refused : progress = .answered (.error .closed)) :
    crowd.closed = true := by
  cases advances with
  | reentrant | accepted | heard => cases refused
  | refused _ _ closed => exact closed
  | unsent _ stopped => exact truthful.closed_of_stopped orderly stopped
  | unheard _ gone =>
    rcases (orderly.placed number one here).dropped gone with dropped | ⟨-, state, panics⟩
    · exact orderly.steady.dropped number dropped
    · exact absurd panics (orderly.replied calm here state)

/-- **Every step of a queue whose jobs do not panic keeps to this.** -/
theorem stepped (truthful : crowd.Truthful) (step : Stepped crowd after)
    (orderly : Orderly origin crowd) (single : crowd.Sealed)
    (calm : ∀ one ∈ origin.submissions, ∀ state, (one.work state).1 ≠ none) : after.Truthful := by
  -- submissions that are changed without an answer, in a queue that is closed if it was
  have quiet {closed : Bool} (closes : crowd.closed = true → closed = true) {place : Nat}
      {change : Submission σ ρ → Submission σ ρ}
      (keeps : ∀ one, (change one).progress = .answered (.error .closed) →
        one.progress = .answered (.error .closed)) (number : Nat) (one : Submission σ ρ)
      (there : (crowd.submissions.modify place change)[number]? = some one)
      (refused : one.progress = .answered (.error .closed)) : closed = true := by
    rcases modify_cases there with ⟨-, found⟩ | ⟨rfl, old, found, rfl⟩
    · exact closes (truthful.refused number one found refused)
    · exact closes (truthful.refused _ old found (keeps old refused))
  have unsent {event : Event} (other : ∀ number, .entered (.last number) ≠ event) (number : Nat)
      (entered : .entered (.last number) ∈ crowd.log ++ [event]) : crowd.closed = true :=
    truthful.sent number ((mem_append_event (other number)).mp entered)
  cases step with
  | advance here advances =>
    refine ⟨truthful.sent, fun number one there refused => ?_⟩
    rcases modify_cases there with ⟨-, found⟩ | ⟨rfl, old, found, rfl⟩
    · exact truthful.refused number one found refused
    · cases here.symm.trans found
      exact truthful.closed_of_advance orderly calm here advances refused
  | send => exact ⟨unsent nofun, quiet id nofun⟩
  | drop => exact ⟨unsent nofun, quiet id fun _ => id⟩
  | finish => exact ⟨unsent nofun, quiet id fun _ => id⟩
  | receive | leave => exact ⟨truthful.sent, truthful.refused⟩
  | begin => exact ⟨unsent nofun, truthful.refused⟩
  | finishLast => exact ⟨unsent nofun, truthful.refused⟩
  | close => exact ⟨fun _ _ => rfl, fun _ _ _ _ => rfl⟩
  | ending _ _ closes =>
    exact ⟨fun number entered => closes (truthful.sent number entered),
      fun number one there refused => closes (truthful.refused number one there refused)⟩
  | @sendLast number closing _ here before =>
    have begun : closing.ending ≠ .outside := by
      rcases before with before | before <;> rw [before] <;> exact nofun
    have closed := single.closed number closing here begun
    exact ⟨fun _ _ => closed, fun _ _ _ _ => closed⟩

end Truthful

end ScriptKernel.Queue.Crowd
