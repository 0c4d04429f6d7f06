/-
**What a step does to a crowded queue.**

* `entered`, `taken`, `began`, `finished`: the messages that something has happened to, in order;
* `Crowd.Stepped`: **all that one step of one party can do**: a submission or a shutdown comes further, a message
  enters the channel, or the worker does one of its five things;
* `Crowd.of_step`: every step does one of these;
* `Crowd.run_invariant`: what every step keeps, every schedule keeps.
-/

import ScriptKernel.Queue.Interleaving

set_option autoImplicit false

namespace ScriptKernel.Queue

/-! ### The messages of a log -/

namespace Event

/-- The message that entered the channel. -/
def entered? : Event → Option Message
  | .entered message => some message
  | _ => none

/-- The message that the worker started or dropped. -/
def taken? : Event → Option Message
  | .began message => some message
  | .dropped number => some (.job number)
  | _ => none

/-- The message that the worker started. -/
def began? : Event → Option Message
  | .began message => some message
  | _ => none

/-- The message that the worker finished. -/
def finished? : Event → Option Message
  | .finished message => some message
  | _ => none

end Event

/-- The messages that entered the channel. -/
def entered (log : List Event) : List Message := log.filterMap Event.entered?

/-- The messages that the worker started or dropped. -/
def taken (log : List Event) : List Message := log.filterMap Event.taken?

/-- The messages that the worker started. -/
def began (log : List Event) : List Message := log.filterMap Event.began?

/-- The messages that the worker finished. -/
def finished (log : List Event) : List Message := log.filterMap Event.finished?

/-- The message the worker has received and not yet started. -/
def Stage.held : Stage → List Message
  | .holding message => [message]
  | _ => []

/-- The message the worker runs. -/
def Stage.current : Stage → List Message
  | .running message => [message]
  | _ => []

/-- How a shutdown comes further without sending anything. -/
inductive Ending.Advance : Ending → Ending → Prop
  | closed : Advance .outside .closed
  | late : Advance .closed .over
  | entitled : Advance .closed .entitled
  | unsent : Advance .entitled .joining
  | over : Advance .joining .over

namespace Crowd

variable {σ ρ : Type} {crowd after : Crowd σ ρ}

/-! ### Steps -/

/-- How a submission comes further without sending anything. -/
inductive Advance (crowd : Crowd σ ρ) (one : Submission σ ρ) : Progress ρ → Prop
  | reentrant : one.inside = true → one.progress = .outside → crowd.stage.isRunning = true →
      Advance crowd one (.answered (.error .reentrant))
  | refused : one.inside = false → one.progress = .outside → crowd.closed = true →
      Advance crowd one (.answered (.error .closed))
  | accepted : one.inside = false → one.progress = .outside → crowd.closed = false →
      Advance crowd one .accepted
  | unsent : one.progress = .accepted → crowd.stage = .stopped →
      Advance crowd one (.answered (.error .closed))
  | heard (value : ρ) : one.progress = .waiting → one.reply = .sent value →
      Advance crowd one (.answered (.ok value))
  | unheard : one.progress = .waiting → one.reply = .dropped →
      Advance crowd one (.answered (.error .closed))

/-- **What one step of one party does.** -/
inductive Stepped (crowd : Crowd σ ρ) : Crowd σ ρ → Prop
  | advance {number : Nat} {one : Submission σ ρ} {progress : Progress ρ} :
      crowd.submissions[number]? = some one → Advance crowd one progress →
      Stepped crowd (crowd.progress number progress)
  | send {number : Nat} {one : Submission σ ρ} : crowd.submissions[number]? = some one →
      one.progress = .accepted → crowd.stage ≠ .stopped →
      Stepped crowd ((crowd.progress number .waiting).enter (.job number))
  | receive {message : Message} {rest : List Message} : crowd.stage = .idle →
      crowd.channel = message :: rest →
      Stepped crowd { crowd with channel := rest, stage := .holding message }
  | drop {number : Nat} : crowd.stage = .holding (.job number) → crowd.closed = true →
      Stepped crowd { crowd.reply number .dropped with
        stage := .idle, log := crowd.log ++ [.dropped number] }
  | begin {message : Message} : crowd.stage = .holding message →
      (∀ number, message = .job number → crowd.closed = false) →
      Stepped crowd { crowd with
        stage := .running message, log := crowd.log ++ [.began message] }
  | finish {number : Nat} {one : Submission σ ρ} : crowd.stage = .running (.job number) →
      crowd.submissions[number]? = some one →
      Stepped crowd { crowd.reply number (.of (one.work crowd.state).1) with
        state := (one.work crowd.state).2
        stage := .idle
        log := crowd.log ++ [.finished (.job number)] }
  | finishLast {number : Nat} {closing : Closing σ} : crowd.stage = .running (.last number) →
      crowd.closings[number]? = some closing →
      Stepped crowd { crowd with
        state := closing.last crowd.state
        stage := .leaving
        log := crowd.log ++ [.finished (.last number)] }
  | leave : crowd.stage = .leaving → Stepped crowd { crowd with stage := .stopped }
  | close : Stepped crowd { crowd with closed := true }
  | ending {number : Nat} {closing : Closing σ} {ending : Ending} {closed joined : Bool} :
      crowd.closings[number]? = some closing → closing.ending.Advance ending →
      (crowd.closed = true → closed = true) →
      Stepped crowd { crowd.ending number ending with closed, joined }
  | sendLast {number : Nat} {closing : Closing σ} {ending : Ending} :
      crowd.closings[number]? = some closing →
      closing.ending = .closed ∨ closing.ending = .entitled → ending = .joining ∨ ending = .over →
      crowd.stage ≠ .stopped → Stepped crowd ((crowd.ending number ending).enter (.last number))

theorem of_accept {number : Nat} (taken : crowd.accept number = some after) : Stepped crowd after := by
  unfold accept at taken
  split at taken
  · rename_i here
    split at taken
    · rename_i runs
      cases taken
      exact .advance here (.reentrant rfl rfl runs)
    · cases taken
  · rename_i here
    split at taken
    · rename_i closed
      cases taken
      exact .advance here (.refused rfl rfl closed)
    · rename_i opened
      cases taken
      exact .advance here (.accepted rfl rfl (eq_false_of_ne_true opened))
  · cases taken

theorem of_send {number : Nat} (taken : crowd.send number = some after) : Stepped crowd after := by
  unfold send at taken
  split at taken
  · rename_i here
    split at taken
    · rename_i stopped
      cases taken
      exact .advance here (.unsent rfl stopped)
    · rename_i runs
      split at taken
      · cases taken
        exact .send here rfl runs
      · cases taken
  · cases taken

theorem of_hear {number : Nat} (taken : crowd.hear number = some after) : Stepped crowd after := by
  unfold hear at taken
  split at taken
  · rename_i here
    cases taken
    exact .advance here (.heard _ rfl rfl)
  · rename_i here
    cases taken
    exact .advance here (.unheard rfl rfl)
  · cases taken

theorem of_receive (taken : crowd.receive = some after) : Stepped crowd after := by
  unfold receive at taken
  split at taken
  · rename_i idle queued
    cases taken
    exact .receive idle queued
  · cases taken

theorem of_begin (taken : crowd.begin = some after) : Stepped crowd after := by
  unfold begin at taken
  split at taken
  · rename_i holding
    split at taken
    · rename_i closed
      cases taken
      exact .drop holding closed
    · rename_i opened
      cases taken
      exact .begin holding fun _ _ => eq_false_of_ne_true opened
  · rename_i holding
    cases taken
    exact .begin holding nofun
  · cases taken

theorem of_finish (taken : crowd.finish = some after) : Stepped crowd after := by
  unfold finish at taken
  split at taken
  · cases taken
  · split at taken
    · rename_i running
      split at taken
      · rename_i here
        cases taken
        exact .finish running here
      · cases taken
    · rename_i running
      split at taken
      · rename_i here
        cases taken
        exact .finishLast running here
      · cases taken
    · cases taken

theorem of_leave (taken : crowd.leave = some after) : Stepped crowd after := by
  unfold leave at taken
  split at taken
  · rename_i leaving
    cases taken
    exact .leave leaving
  · cases taken

theorem of_beginEnd {number : Nat} (taken : crowd.beginEnd number = some after) :
    Stepped crowd after := by
  unfold beginEnd at taken
  split at taken
  · rename_i here
    split at taken
    · cases taken
      exact .ending here .closed fun _ => rfl
    · cases taken
  · cases taken

theorem of_takeHandle {number : Nat} (taken : crowd.takeHandle number = some after) :
    Stepped crowd after := by
  unfold takeHandle at taken
  split at taken
  · rename_i here
    split at taken
    · cases taken
      exact .ending here .late id
    · cases taken
      exact .ending here .entitled id
  · cases taken

theorem of_sendLast {number : Nat} (taken : crowd.sendLast number = some after) :
    Stepped crowd after := by
  unfold sendLast at taken
  split at taken
  · rename_i here
    split at taken
    · cases taken
      exact .ending here .unsent id
    · rename_i runs
      split at taken
      · cases taken
        exact .sendLast here (.inr rfl) (.inl rfl) runs
      · cases taken
  · cases taken

theorem of_tryLast {number : Nat} (taken : crowd.tryLast number = some after) :
    Stepped crowd after := by
  unfold tryLast at taken
  split at taken
  · rename_i here
    split at taken
    · cases taken
    · rename_i runs
      split at taken
      · cases taken
        refine .sendLast here (.inl rfl) (.inr rfl) fun stopped => runs ?_
        rw [stopped]
        rfl
      · cases taken
        exact .ending here .late id
  · cases taken

theorem of_join {number : Nat} (taken : crowd.join number = some after) : Stepped crowd after := by
  unfold join at taken
  split at taken
  · rename_i here
    split at taken
    · cases taken
      exact .ending here .over id
    · cases taken
  · cases taken

/-- **Every step does one of these things.** -/
theorem of_step {move : Move} (taken : crowd.step move = some after) : Stepped crowd after := by
  cases move with
  | accept number => exact of_accept taken
  | send number => exact of_send taken
  | hear number => exact of_hear taken
  | receive => exact of_receive taken
  | begin => exact of_begin taken
  | finish => exact of_finish taken
  | leave => exact of_leave taken
  | close =>
    cases taken
    exact .close
  | beginEnd number => exact of_beginEnd taken
  | takeHandle number => exact of_takeHandle taken
  | sendLast number => exact of_sendLast taken
  | tryLast number => exact of_tryLast taken
  | join number => exact of_join taken

/-- **What every step keeps, every schedule keeps.** -/
theorem run_invariant {kept : Crowd σ ρ → Prop}
    (keeps : ∀ {crowd after : Crowd σ ρ}, Stepped crowd after → kept crowd → kept after)
    (schedule : List Move) (before : kept crowd) : kept (crowd.run schedule) := by
  induction schedule generalizing crowd with
  | nil => exact before
  | cons move rest ih =>
    refine ih ?_
    show kept ((crowd.step move).getD crowd)
    cases taken : crowd.step move with
    | none => exact before
    | some after => exact keeps (of_step taken) before

end Crowd

end ScriptKernel.Queue
