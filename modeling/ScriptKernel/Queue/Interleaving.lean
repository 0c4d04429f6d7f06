/-
**A queue with many callers.**

Each caller and the worker move in steps of their own, in any order. A submission looks at the closed flag,
then sends its message, then waits for its reply; a shutdown closes the queue, takes the worker's handle, sends
its message and waits for the worker's end. The worker receives a message, looks at the closed flag, runs the
job and replies. Messages travel through a channel of bounded length, in the order in which they enter it; one
that has not been received when the worker ends stays where it is.

* `Submission`, `Closing`: calls in progress, from outside or by a job of the queue itself;
* `Stage`, `Event`: what the worker does, and what has happened so far;
* `Crowd`: the queue with every call in progress;
* `Crowd.step`: one step of one party, if it can move;
* `Crowd.run`: a schedule of steps; steps that cannot be taken are passed over.
-/

import ScriptKernel.Queue

set_option autoImplicit false

namespace ScriptKernel.Queue

/-- A piece of work on the state of the worker: its answer unless it panics, and the state it leaves. -/
abbrev Work (σ ρ : Type) : Type := σ → Option ρ × σ

/-- How far a submission has come. -/
inductive Progress (ρ : Type)
  | outside
  | accepted
  | waiting
  | answered (result : Except QueueError ρ)

/-- What has become of the reply to a job. -/
inductive Reply (ρ : Type)
  | pending
  | sent (value : ρ)
  /-- The job is gone and has not replied. -/
  | dropped

/-- The reply to a job that has run; one that has panicked does not reply. -/
def Reply.of {ρ : Type} : Option ρ → Reply ρ
  | some value => .sent value
  | none => .dropped

/-- A submission. -/
structure Submission (σ ρ : Type) where
  work : Work σ ρ
  /-- Whether it is made by a job of this queue. -/
  inside : Bool := false
  progress : Progress ρ := .outside
  reply : Reply ρ := .pending

/-- How far a shutdown has come. -/
inductive Ending
  | outside
  | closed
  | entitled
  | joining
  | over
  deriving DecidableEq, Repr

/-- A shutdown. -/
structure Closing (σ : Type) where
  last : σ → σ
  /-- Whether it is made by a job of this queue. -/
  inside : Bool := false
  ending : Ending := .outside

/-- What travels to the worker: the number of a submission or of a shutdown. -/
inductive Message
  | job (number : Nat)
  | last (number : Nat)
  deriving DecidableEq, Repr

/-- What the worker does. -/
inductive Stage
  | idle
  | holding (message : Message)
  | running (message : Message)
  /-- It has run a last job, and its end of the channel is still there. -/
  | leaving
  | stopped
  deriving DecidableEq, Repr

/-- Whether a job runs. -/
def Stage.isRunning : Stage → Bool
  | .running _ => true
  | _ => false

/-- What has happened to a message. -/
inductive Event
  | entered (message : Message)
  | began (message : Message)
  | finished (message : Message)
  | dropped (number : Nat)
  deriving DecidableEq, Repr

/-- A queue with every call in progress. -/
structure Crowd (σ ρ : Type) where
  capacity : Nat
  state : σ
  submissions : List (Submission σ ρ)
  closings : List (Closing σ)
  closed : Bool := false
  /-- Messages the worker has not received, in order. -/
  channel : List Message := []
  stage : Stage := .idle
  /-- The worker's handle has been taken. -/
  joined : Bool := false
  /-- What has happened, in order. -/
  log : List Event := []

/-- A step of one party. -/
inductive Move
  | accept (number : Nat)
  | send (number : Nat)
  | hear (number : Nat)
  | receive
  | begin
  | finish
  | leave
  | close
  | beginEnd (number : Nat)
  | takeHandle (number : Nat)
  | sendLast (number : Nat)
  | tryLast (number : Nat)
  | join (number : Nat)
  deriving DecidableEq, Repr

namespace Crowd

variable {σ ρ : Type}

/-- Notes how far a submission has come. -/
def progress (crowd : Crowd σ ρ) (number : Nat) (progress : Progress ρ) : Crowd σ ρ :=
  { crowd with submissions := crowd.submissions.modify number fun one => { one with progress } }

/-- Notes what has become of a reply. -/
def reply (crowd : Crowd σ ρ) (number : Nat) (reply : Reply ρ) : Crowd σ ρ :=
  { crowd with submissions := crowd.submissions.modify number fun one => { one with reply } }

/-- Notes how far a shutdown has come. -/
def ending (crowd : Crowd σ ρ) (number : Nat) (ending : Ending) : Crowd σ ρ :=
  { crowd with closings := crowd.closings.modify number fun one => { one with ending } }

/-- Whether the channel takes another message. -/
def hasRoom (crowd : Crowd σ ρ) : Bool := crowd.channel.length < crowd.capacity

/-- A message enters the channel. -/
def enter (crowd : Crowd σ ρ) (message : Message) : Crowd σ ρ :=
  { crowd with channel := crowd.channel ++ [message], log := crowd.log ++ [.entered message] }

/-! ### Submissions -/

/-- A submission looks at who makes it, and at whether the queue is closed. -/
def accept (crowd : Crowd σ ρ) (number : Nat) : Option (Crowd σ ρ) :=
  match crowd.submissions[number]? with
  | some ⟨_, true, .outside, _⟩ =>
    if crowd.stage.isRunning then some (crowd.progress number (.answered (.error .reentrant)))
    else none
  | some ⟨_, false, .outside, _⟩ =>
    if crowd.closed then some (crowd.progress number (.answered (.error .closed)))
    else some (crowd.progress number .accepted)
  | _ => none

/-- A submission that was accepted sends its message: refused once the worker has ended, and held up while
the channel is full. -/
def send (crowd : Crowd σ ρ) (number : Nat) : Option (Crowd σ ρ) :=
  match crowd.submissions[number]? with
  | some ⟨_, _, .accepted, _⟩ =>
    if crowd.stage = .stopped then some (crowd.progress number (.answered (.error .closed)))
    else if crowd.hasRoom then some ((crowd.progress number .waiting).enter (.job number))
    else none
  | _ => none

/-- A submission hears of its job, once there is something to hear. -/
def hear (crowd : Crowd σ ρ) (number : Nat) : Option (Crowd σ ρ) :=
  match crowd.submissions[number]? with
  | some ⟨_, _, .waiting, .sent value⟩ => some (crowd.progress number (.answered (.ok value)))
  | some ⟨_, _, .waiting, .dropped⟩ => some (crowd.progress number (.answered (.error .closed)))
  | _ => none

/-! ### The worker -/

/-- The worker takes the next message. -/
def receive (crowd : Crowd σ ρ) : Option (Crowd σ ρ) :=
  match crowd.stage, crowd.channel with
  | .idle, message :: rest => some { crowd with channel := rest, stage := .holding message }
  | _, _ => none

/-- The worker starts a message: a job is dropped once the queue is closed, a last job never is. -/
def begin (crowd : Crowd σ ρ) : Option (Crowd σ ρ) :=
  match crowd.stage with
  | .holding (.job number) =>
    if crowd.closed then
      some { crowd.reply number .dropped with stage := .idle, log := crowd.log ++ [.dropped number] }
    else
      some { crowd with
        stage := .running (.job number)
        log := crowd.log ++ [.began (.job number)] }
  | .holding (.last number) =>
    some { crowd with
      stage := .running (.last number)
      log := crowd.log ++ [.began (.last number)] }
  | _ => none

/-- Whether the job at work is in the middle of a call of its own. -/
def isCalling (crowd : Crowd σ ρ) : Bool :=
  crowd.closings.any fun closing => closing.inside && closing.ending = .closed

/-- The job at work ends, with its reply; after a last job the worker goes. -/
def finish (crowd : Crowd σ ρ) : Option (Crowd σ ρ) :=
  if crowd.isCalling then none
  else
    match crowd.stage with
    | .running (.job number) =>
      match crowd.submissions[number]? with
      | some submission =>
        let (value, state) := submission.work crowd.state
        some { crowd.reply number (.of value) with
          state
          stage := .idle
          log := crowd.log ++ [.finished (.job number)] }
      | none => none
    | .running (.last number) =>
      match crowd.closings[number]? with
      | some closing =>
        some { crowd with
          state := closing.last crowd.state
          stage := .leaving
          log := crowd.log ++ [.finished (.last number)] }
      | none => none
    | _ => none

/-- The worker gives up its end of the channel. -/
def leave (crowd : Crowd σ ρ) : Option (Crowd σ ρ) :=
  if crowd.stage = .leaving then some { crowd with stage := .stopped } else none

/-! ### Shutdowns -/

/-- A shutdown closes the queue. -/
def beginEnd (crowd : Crowd σ ρ) (number : Nat) : Option (Crowd σ ρ) :=
  match crowd.closings[number]? with
  | some ⟨_, inside, .outside⟩ =>
    if !inside || crowd.stage.isRunning then
      some { crowd.ending number .closed with closed := true }
    else none
  | _ => none

/-- A shutdown from outside takes the worker's handle; there is nothing to do for one that comes later. -/
def takeHandle (crowd : Crowd σ ρ) (number : Nat) : Option (Crowd σ ρ) :=
  match crowd.closings[number]? with
  | some ⟨_, false, .closed⟩ =>
    if crowd.joined then some (crowd.ending number .over)
    else some { crowd.ending number .entitled with joined := true }
  | _ => none

/-- A shutdown from outside sends its last job. -/
def sendLast (crowd : Crowd σ ρ) (number : Nat) : Option (Crowd σ ρ) :=
  match crowd.closings[number]? with
  | some ⟨_, _, .entitled⟩ =>
    if crowd.stage = .stopped then some (crowd.ending number .joining)
    else if crowd.hasRoom then some ((crowd.ending number .joining).enter (.last number))
    else none
  | _ => none

/-- A shutdown by a job of the queue sends its last job if the channel takes it at once. -/
def tryLast (crowd : Crowd σ ρ) (number : Nat) : Option (Crowd σ ρ) :=
  match crowd.closings[number]? with
  | some ⟨_, true, .closed⟩ =>
    if !crowd.stage.isRunning then none
    else if crowd.hasRoom then some ((crowd.ending number .over).enter (.last number))
    else some (crowd.ending number .over)
  | _ => none

/-- A shutdown from outside is over when the worker has ended. -/
def join (crowd : Crowd σ ρ) (number : Nat) : Option (Crowd σ ρ) :=
  match crowd.closings[number]? with
  | some ⟨_, _, .joining⟩ =>
    if crowd.stage = .stopped then some (crowd.ending number .over) else none
  | _ => none

/-! ### Schedules -/

/-- One step, if its party can take it. -/
def step (crowd : Crowd σ ρ) : Move → Option (Crowd σ ρ)
  | .accept number => crowd.accept number
  | .send number => crowd.send number
  | .hear number => crowd.hear number
  | .receive => crowd.receive
  | .begin => crowd.begin
  | .finish => crowd.finish
  | .leave => crowd.leave
  | .close => some { crowd with closed := true }
  | .beginEnd number => crowd.beginEnd number
  | .takeHandle number => crowd.takeHandle number
  | .sendLast number => crowd.sendLast number
  | .tryLast number => crowd.tryLast number
  | .join number => crowd.join number

/-- Takes the steps of a schedule that can be taken. -/
def run (crowd : Crowd σ ρ) (schedule : List Move) : Crowd σ ρ :=
  schedule.foldl (fun crowd move => (crowd.step move).getD crowd) crowd

/-- The answers given so far, one place per submission. -/
def answers (crowd : Crowd σ ρ) : List (Option (Except QueueError ρ)) :=
  crowd.submissions.map fun submission =>
    match submission.progress with
    | .answered result => some result
    | _ => none

end Crowd

/-- One job starts, others wait behind it, and the queue closes before it ends: what each caller hears. -/
def closeBehind {σ ρ : Type} (queue : Queue σ) (capacity : Nat) (first : Work σ ρ)
    (waiting : List (Work σ ρ)) : List (Option (Except QueueError ρ)) × Queue σ :=
  let crowd : Crowd σ ρ :=
    { capacity := max capacity 1
      state := queue.state
      closed := queue.gate.closed
      stage := if queue.gate.stopped then .stopped else .idle
      submissions := (first :: waiting).map fun work => { work }
      closings := [] }
  let numbers := (List.range waiting.length).map (· + 1)
  let crowd := crowd.run
    ([.accept 0, .send 0, .receive, .begin] ++
      numbers.flatMap (fun number => [.accept number, .send number]) ++ [.close, .finish] ++
      numbers.flatMap (fun number => [.receive, .begin, .send number]) ++
      numbers.flatMap (fun _ => [.receive, .begin]) ++ (0 :: numbers).map .hear)
  (crowd.answers, ⟨queue.gate.close, crowd.state⟩)

end ScriptKernel.Queue
