/-
**Job queues.**

One worker holds a state and runs jobs on it, one at a time. A job that panics leaves what it did; its
caller hears that the queue is closed, and the worker goes on.

* `QueueGate`: who may still hand in jobs, and whether the worker is still there;
* `QueueGate.accept`: refuses the worker itself and everyone once the queue is closed;
* `Queue.submit`, `Queue.shutdown`: the whole of a call by one caller at a time;
* the steps of several callers at a time are in `ScriptKernel.Queue.Interleaving`.
-/

import ScriptKernel.Error
import ScriptKernel.Text.Quoted

set_option autoImplicit false

namespace ScriptKernel

/-- What the holders of a queue can tell of it. -/
structure QueueGate where
  label : String
  closed : Bool := false
  /-- The last job was handed in from inside a running one. -/
  lastWaiting : Bool := false
  /-- The worker has ended. -/
  stopped : Bool := false
  /-- Someone has waited for the end of the worker. -/
  joined : Bool := false
  deriving DecidableEq, Repr

namespace QueueGate

/-- Whether a job may be handed in, from inside a job or from outside. -/
def accept (gate : QueueGate) (inside : Bool) : Except QueueError Unit :=
  if inside then .error .reentrant
  else if gate.closed then .error .closed
  else .ok ()

/-- Refuses further jobs. -/
def close (gate : QueueGate) : QueueGate := { gate with closed := true }

/-- Hands in a last job from inside a running one. -/
def endInside (gate : QueueGate) : QueueGate := { gate.close with lastWaiting := true }

/-- After a job: the worker runs the last job, if one waits, and ends. Tells whether one waited. -/
def afterJob (gate : QueueGate) : Bool × QueueGate :=
  if gate.lastWaiting && !gate.stopped then (true, { gate with lastWaiting := false, stopped := true })
  else (false, gate)

/-- Hands in a last job from outside and waits for the end of the worker. Tells whether it runs: not if
someone else has waited before, and not if the worker has ended. -/
def endOutside (gate : QueueGate) : Bool × QueueGate :=
  if gate.joined then (false, gate.close)
  else (!gate.stopped, { gate.close with joined := true, stopped := true })

/-- The gate in short. -/
def describe (gate : QueueGate) : String :=
  "QueueHandle \x7b label: " ++ quoted gate.label ++ ", closed: " ++ toString gate.closed ++ " \x7d"

end QueueGate

/-- A queue between jobs, and the state its worker holds. -/
structure Queue (σ : Type) where
  gate : QueueGate
  state : σ

/-- A job: its answer unless it panics, and the queue it leaves. -/
abbrev Queue.Job (σ ρ : Type) : Type := Queue σ → Option ρ × Queue σ

namespace Queue

variable {σ ρ : Type}

/-- How making the first state of a worker ends. -/
inductive Start (σ : Type)
  | made (state : σ)
  | failed (error : QueueError)
  | panicked

/-- Starts a queue. -/
def start (label : String) (first : Start σ) : Except QueueError (Queue σ) :=
  match first with
  | .made state => .ok ⟨{ label }, state⟩
  | .failed error => .error error
  | .panicked => .error (.spawn "worker exited during startup")

/-- Closes the queue. -/
def close (queue : Queue σ) : Queue σ := { queue with gate := queue.gate.close }

/-- Hands in a job and waits for its answer. -/
def submit (queue : Queue σ) (inside : Bool) (job : Job σ ρ) : Except QueueError ρ × Queue σ :=
  match queue.gate.accept inside with
  | .error error => (.error error, queue)
  | .ok () =>
    let (answer, after) := job queue
    let after := { after with gate := after.gate.afterJob.2 }
    match answer with
    | some value => (.ok value, after)
    | none => (.error .closed, after)

/-- Closes the queue, runs a last job and waits for the end of the worker; tells what the last job saw. -/
def shutdown (queue : Queue σ) (last : σ → σ) : Option σ × Queue σ :=
  let (runs, gate) := queue.gate.endOutside
  if runs then (some queue.state, ⟨gate, last queue.state⟩) else (none, ⟨gate, queue.state⟩)

end Queue

end ScriptKernel
