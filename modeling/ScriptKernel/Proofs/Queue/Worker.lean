/-
**The worker of a crowded queue.**

What the worker does is told by the log, the channel, and its stage; who the callers are does not matter.

* `Steady`: **messages leave the channel in the order in which they entered it**, one at a time; a job that is
  dropped shows that the queue is closed; nothing begins after a last job;
* `Steady.enter`, `receive`, `drop`, `begin`, `finish`, `finishLast`, `leave`: each step of the worker keeps this;
* `Steady.unbegun`, `holding`, `running`: no message is handled twice, if none enters twice.
-/

import ScriptKernel.Proofs.Queue.Stepped
import Mathlib.Data.List.Pairwise

set_option autoImplicit false

namespace ScriptKernel.Queue

variable {channel rest : List Message} {stage : Stage} {closed : Bool} {log : List Event}
  {message : Message} {event : Event} {number : Nat}

/-! ### Longer logs -/

theorem entered_append (event : Event) :
    entered (log ++ [event]) = entered log ++ event.entered?.toList :=
  List.filterMap_append.trans (congrArg _ (by cases event <;> rfl))

theorem entered_append_none (none : event.entered? = none) : entered (log ++ [event]) = entered log := by
  rw [entered_append, none]
  exact List.append_nil _

theorem taken_append (event : Event) :
    taken (log ++ [event]) = taken log ++ event.taken?.toList :=
  List.filterMap_append.trans (congrArg _ (by cases event <;> rfl))

theorem began_append (event : Event) :
    began (log ++ [event]) = began log ++ event.began?.toList :=
  List.filterMap_append.trans (congrArg _ (by cases event <;> rfl))

theorem finished_append (event : Event) :
    finished (log ++ [event]) = finished log ++ event.finished?.toList :=
  List.filterMap_append.trans (congrArg _ (by cases event <;> rfl))

theorem finished_append_none (none : event.finished? = none) :
    finished (log ++ [event]) = finished log := by
  rw [finished_append, none]
  exact List.append_nil _

theorem mem_entered : message ∈ entered log ↔ .entered message ∈ log := by
  have only (event : Event) : event.entered? = some message ↔ event = .entered message := by
    cases event <;> simp [Event.entered?]
  simp [entered, List.mem_filterMap, only]

theorem mem_began : message ∈ began log ↔ .began message ∈ log := by
  have only (event : Event) : event.began? = some message ↔ event = .began message := by
    cases event <;> simp [Event.began?]
  simp [began, List.mem_filterMap, only]

theorem mem_finished : message ∈ finished log ↔ .finished message ∈ log := by
  have only (event : Event) : event.finished? = some message ↔ event = .finished message := by
    cases event <;> simp [Event.finished?]
  simp [finished, List.mem_filterMap, only]

theorem mem_taken_of_dropped (dropped : .dropped number ∈ log) : .job number ∈ taken log :=
  List.mem_filterMap.mpr ⟨_, dropped, rfl⟩

/-- What began was taken. -/
theorem began_sublist (log : List Event) : (began log).Sublist (taken log) := by
  induction log with
  | nil => exact .slnil
  | cons event rest ih =>
    cases event with
    | entered | finished => exact ih
    | began message => exact ih.cons_cons message
    | dropped number => exact ih.cons (.job number)

/-- A longer log has one event more. -/
theorem mem_append_event {other : Event} (different : other ≠ event) :
    other ∈ log ++ [event] ↔ other ∈ log := by
  rw [List.mem_append, List.mem_singleton]
  exact or_iff_left different

/-- A relation between events holds along a longer log if it leads to the new event. -/
theorem pairwise_append_event {related : Event → Event → Prop} (along : log.Pairwise related)
    (new : ∀ earlier ∈ log, related earlier event) : (log ++ [event]).Pairwise related := by
  refine List.pairwise_append.mpr ⟨along, List.pairwise_singleton _ _, fun earlier here later last => ?_⟩
  rw [List.mem_singleton.mp last]
  exact new earlier here

/-! ### The worker -/

/-- Whether the worker runs its last job, or has run it. -/
def Stage.isFinal : Stage → Bool
  | .running (.last _) | .leaving | .stopped => true
  | _ => false

/-- No job begins behind one that was dropped. -/
def Event.Observes (earlier later : Event) : Prop :=
  ∀ number other, earlier = .dropped number → later ≠ .began (.job other)

/-- Nothing begins behind a last job. -/
def Event.Ends (earlier later : Event) : Prop :=
  ∀ number message, earlier = .began (.last number) → later ≠ .began message

/-- The worker did not take the same message with both. -/
def Event.Apart (first second : Event) : Prop :=
  ∀ message, first.taken? = some message → second.taken? ≠ some message

instance : Std.Symm Event.Apart :=
  ⟨fun _ _ apart message here there => apart message there here⟩

/-- **A worker that does its work in order.** -/
structure Steady (channel : List Message) (stage : Stage) (closed : Bool) (log : List Event) :
    Prop where
  /-- Messages leave the channel as they entered it. -/
  fifo : entered log = taken log ++ (stage.held ++ channel)
  /-- One runs at a time. -/
  serial : began log = finished log ++ stage.current
  /-- Only a closed queue drops a job. -/
  dropped : ∀ number, .dropped number ∈ log → closed = true
  /-- With a last job the worker has come to its end. -/
  reached : ∀ number, .began (.last number) ∈ log → stage.isFinal = true
  /-- A worker that has come to its end has taken a last job, and nothing behind it. -/
  halted : stage.isFinal = true → ∃ before number, taken log = before ++ [.last number]
  observed : log.Pairwise Event.Observes
  ended : log.Pairwise Event.Ends

namespace Steady

theorem start (closed : Bool) : Steady [] .idle closed [] :=
  ⟨rfl, rfl, nofun, nofun, nofun, .nil, .nil⟩

/-- Closing the queue changes nothing for the worker. -/
theorem close {later : Bool} (steady : Steady channel stage closed log)
    (closes : closed = true → later = true) : Steady channel stage later log :=
  { steady with dropped := fun number dropped => closes (steady.dropped number dropped) }

/-- A message enters the channel. -/
theorem enter (steady : Steady channel stage closed log) (message : Message) :
    Steady (channel ++ [message]) stage closed (log ++ [.entered message]) := by
  refine ⟨?_, ?_, fun number dropped => steady.dropped number ((mem_append_event (by nofun)).mp dropped),
    fun number began => steady.reached number ((mem_append_event (by nofun)).mp began), fun final => ?_,
    pairwise_append_event steady.observed fun _ _ _ _ _ => nofun,
    pairwise_append_event steady.ended fun _ _ _ _ _ => nofun⟩
  · rw [entered_append, taken_append, steady.fifo]
    simp [Event.entered?, Event.taken?]
  · rw [began_append, finished_append, steady.serial]
    simp [Event.began?, Event.finished?]
  · rw [taken_append]
    simpa [Event.taken?] using steady.halted final

/-- The worker takes a message from the channel. -/
theorem receive (steady : Steady (message :: rest) .idle closed log) :
    Steady rest (.holding message) closed log :=
  ⟨steady.fifo, steady.serial, steady.dropped,
    fun number began => steady.reached number began, nofun, steady.observed, steady.ended⟩

/-- The worker drops a job of a closed queue. -/
theorem drop (steady : Steady channel (.holding (.job number)) closed log) (isClosed : closed = true) :
    Steady channel .idle closed (log ++ [.dropped number]) := by
  refine ⟨?_, ?_, fun _ _ => isClosed,
    fun other began => steady.reached other ((mem_append_event (by nofun)).mp began), nofun,
    pairwise_append_event steady.observed fun _ _ _ _ _ => nofun,
    pairwise_append_event steady.ended fun _ _ _ _ _ => nofun⟩
  · rw [entered_append, taken_append, steady.fifo]
    simp [Event.entered?, Event.taken?, Stage.held]
  · rw [began_append, finished_append, steady.serial]
    simp [Event.began?, Event.finished?, Stage.current]

/-- The worker starts what it holds: a last job, or a job of a queue that is not closed. -/
theorem begin (steady : Steady channel (.holding message) closed log)
    (opened : ∀ number, message = .job number → closed = false) :
    Steady channel (.running message) closed (log ++ [.began message]) := by
  refine ⟨?_, ?_, fun number dropped => steady.dropped number ((mem_append_event (by nofun)).mp dropped),
    fun number began => ?_, fun final => ?_,
    pairwise_append_event steady.observed fun earlier logged number other same => ?_,
    pairwise_append_event steady.ended fun earlier logged number other same => ?_⟩
  · rw [entered_append, taken_append, steady.fifo]
    simp [Event.entered?, Event.taken?, Stage.held]
  · rw [began_append, finished_append, steady.serial]
    simp [Event.began?, Event.finished?, Stage.current]
  · rcases List.mem_append.mp began with old | new
    · cases steady.reached number old
    · cases List.mem_singleton.mp new
      rfl
  · cases message with
    | job => cases final
    | last number => exact ⟨taken log, number, taken_append _⟩
  · -- a job was dropped before, so the queue is closed
    rintro ⟨⟩
    subst same
    have isClosed := steady.dropped number logged
    rw [opened other rfl] at isClosed
    cases isClosed
  · -- the worker would have come to its end
    subst same
    cases steady.reached number logged

/-- The worker finishes a job. -/
theorem finish (steady : Steady channel (.running (.job number)) closed log) :
    Steady channel .idle closed (log ++ [.finished (.job number)]) := by
  refine ⟨?_, ?_, fun other dropped => steady.dropped other ((mem_append_event (by nofun)).mp dropped),
    fun other began => steady.reached other ((mem_append_event (by nofun)).mp began), nofun,
    pairwise_append_event steady.observed fun _ _ _ _ _ => nofun,
    pairwise_append_event steady.ended fun _ _ _ _ _ => nofun⟩
  · rw [entered_append, taken_append, steady.fifo]
    simp [Event.entered?, Event.taken?, Stage.held]
  · rw [began_append, finished_append, steady.serial]
    simp [Event.began?, Event.finished?, Stage.current]

/-- The worker finishes a last job. -/
theorem finishLast (steady : Steady channel (.running (.last number)) closed log) :
    Steady channel .leaving closed (log ++ [.finished (.last number)]) := by
  refine ⟨?_, ?_, fun other dropped => steady.dropped other ((mem_append_event (by nofun)).mp dropped),
    fun _ _ => rfl, fun _ => ?_,
    pairwise_append_event steady.observed fun _ _ _ _ _ => nofun,
    pairwise_append_event steady.ended fun _ _ _ _ _ => nofun⟩
  · rw [entered_append, taken_append, steady.fifo]
    simp [Event.entered?, Event.taken?, Stage.held]
  · rw [began_append, finished_append, steady.serial]
    simp [Event.began?, Event.finished?, Stage.current]
  · rw [taken_append]
    simpa [Event.taken?] using steady.halted rfl

/-- The worker gives up its end of the channel. -/
theorem leave (steady : Steady channel .leaving closed log) : Steady channel .stopped closed log :=
  ⟨steady.fifo, steady.serial, steady.dropped, fun _ _ => rfl, fun _ => steady.halted rfl,
    steady.observed, steady.ended⟩

/-! ### No message twice -/

/-- What was taken had entered. -/
theorem taken_sublist (steady : Steady channel stage closed log) :
    (taken log).Sublist (entered log) := by
  rw [steady.fifo]
  exact List.sublist_append_left _ _

/-- A job that was dropped does not begin. -/
theorem unbegun (steady : Steady channel stage closed log) (once : (entered log).Nodup)
    (dropped : .dropped number ∈ log) : .job number ∉ began log := by
  intro begins
  have apart : log.Pairwise Event.Apart :=
    (List.pairwise_filterMap.mp (once.sublist steady.taken_sublist)).imp
      fun apart message here there => apart message here message there rfl
  exact apart.forall dropped (mem_began.mp begins) nofun _ rfl rfl

/-- A job that the worker holds has entered, and nothing has come of it. -/
theorem holding (steady : Steady channel (.holding (.job number)) closed log)
    (once : (entered log).Nodup) :
    .entered (.job number) ∈ log ∧ .dropped number ∉ log ∧ .finished (.job number) ∉ log := by
  have held : .job number ∈ entered log := by
    rw [steady.fifo]
    exact List.mem_append_right _ (.head _)
  have untaken : .job number ∉ taken log := by
    intro taken
    rw [steady.fifo] at once
    exact (List.nodup_append.mp once).2.2 _ taken _ (.head _) rfl
  refine ⟨mem_entered.mp held, fun dropped => untaken (mem_taken_of_dropped dropped),
    fun finished => untaken ?_⟩
  refine (began_sublist log).subset ?_
  rw [steady.serial]
  exact List.mem_append_left _ (mem_finished.mpr finished)

/-- A job that the worker runs has entered, and nothing has come of it. -/
theorem running (steady : Steady channel (.running (.job number)) closed log)
    (once : (entered log).Nodup) :
    .entered (.job number) ∈ log ∧ .dropped number ∉ log ∧ .finished (.job number) ∉ log := by
  have begins : .job number ∈ began log := by
    rw [steady.serial]
    exact List.mem_append_right _ (.head _)
  have serial := once.sublist ((began_sublist log).trans steady.taken_sublist)
  rw [steady.serial] at serial
  refine ⟨mem_entered.mp ?_, fun dropped => steady.unbegun once dropped begins, fun finished => ?_⟩
  · exact ((began_sublist log).trans steady.taken_sublist).subset begins
  · exact (List.nodup_append.mp serial).2.2 _ (mem_finished.mpr finished) _ (.head _) rfl

end Steady

end ScriptKernel.Queue
