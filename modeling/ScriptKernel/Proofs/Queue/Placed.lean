/-
**A submission among many.**

* `Crowd.stateAfter`, `Crowd.Yields`: what messages that are handled one after the other make of the state, and what
  the job of a submission answers in its turn;
* `Submission.Placed`: **what the log says of a submission at every point of its way**;
* `Placed.append`, `advance`, `send`, `settle`: it keeps saying so, whatever happens to others, and whatever happens
  to the submission itself.
-/

import ScriptKernel.Proofs.Queue.Worker

set_option autoImplicit false

namespace ScriptKernel.Queue

variable {σ ρ : Type}

/-! ### Lists with one place changed -/

theorem modify_cases {α : Type} {items : List α} {change : α → α} {place other : Nat} {item : α}
    (here : (items.modify place change)[other]? = some item) :
    (place ≠ other ∧ items[other]? = some item) ∨
      (place = other ∧ ∃ old, items[other]? = some old ∧ item = change old) := by
  rw [List.getElem?_modify] at here
  by_cases same : place = other
  · obtain ⟨old, found, changed⟩ := Option.map_eq_some_iff.mp here
    rw [if_pos same] at changed
    exact .inr ⟨same, old, found, changed.symm⟩
  · obtain ⟨old, found, changed⟩ := Option.map_eq_some_iff.mp here
    rw [if_neg same] at changed
    exact .inl ⟨same, found.trans (congrArg some changed)⟩

/-- A view that a change keeps sees nothing of it. -/
theorem map_modify {α β : Type} (view : α → β) {change : α → α}
    (keeps : ∀ item, view (change item) = view item) (items : List α) (place : Nat) :
    (items.modify place change).map view = items.map view := by
  refine List.ext_getElem? fun other => ?_
  rw [List.getElem?_map, List.getElem?_map, List.getElem?_modify]
  cases items[other]? with
  | none => rfl
  | some item =>
    show some (view (if place = other then change item else item)) = some (view item)
    split
    · rw [keeps]
    · rfl

/-! ### The state -/

namespace Crowd

/-- What a message makes of the state. -/
def effect (origin : Crowd σ ρ) (state : σ) : Message → σ
  | .job number =>
    match origin.submissions[number]? with
    | some one => (one.work state).2
    | none => state
  | .last number =>
    match origin.closings[number]? with
    | some closing => closing.last state
    | none => state

theorem effect_job {origin : Crowd σ ρ} {number : Nat} {one : Submission σ ρ}
    (here : origin.submissions[number]? = some one) (state : σ) :
    origin.effect state (.job number) = (one.work state).2 := by
  simp only [effect, here]

theorem effect_last {origin : Crowd σ ρ} {number : Nat} {closing : Closing σ}
    (here : origin.closings[number]? = some closing) (state : σ) :
    origin.effect state (.last number) = closing.last state := by
  simp only [effect, here]

/-- The state after messages that ran one after the other. -/
def stateAfter (origin : Crowd σ ρ) (messages : List Message) : σ :=
  messages.foldl origin.effect origin.state

theorem stateAfter_append (origin : Crowd σ ρ) (messages : List Message) (message : Message) :
    origin.stateAfter (messages ++ [message]) = origin.effect (origin.stateAfter messages) message := by
  unfold stateAfter
  rw [List.foldl_append]
  rfl

/-- **A value is the answer of a job** that ran among other messages. -/
def Yields (origin : Crowd σ ρ) (messages : List Message) (number : Nat) (value : ρ) : Prop :=
  ∃ before behind one, messages = before ++ .job number :: behind ∧
    origin.submissions[number]? = some one ∧ (one.work (origin.stateAfter before)).1 = some value

theorem Yields.append {origin : Crowd σ ρ} {messages : List Message} {number : Nat} {value : ρ}
    (yields : origin.Yields messages number value) (more : List Message) :
    origin.Yields (messages ++ more) number value := by
  obtain ⟨before, behind, one, rfl, here, answer⟩ := yields
  exact ⟨before, behind ++ more, one, List.append_assoc .., here, answer⟩

theorem Yields.mem {origin : Crowd σ ρ} {messages : List Message} {number : Nat} {value : ρ}
    (yields : origin.Yields messages number value) : .job number ∈ messages := by
  obtain ⟨before, behind, -, rfl, -⟩ := yields
  exact List.mem_append_right _ (.head _)

end Crowd

/-! ### Submissions -/

/-- What a log says of a submission. -/
structure Submission.Placed (origin : Crowd σ ρ) (log : List Event) (number : Nat) (one : Submission σ ρ) : Prop where
  unsent : one.progress = .outside ∨ one.progress = .accepted → .entered (.job number) ∉ log
  sent : one.progress = .waiting → .entered (.job number) ∈ log
  inside : one.inside = true → .entered (.job number) ∉ log ∧
    (one.progress = .outside ∨ one.progress = .answered (.error .reentrant))
  ok : ∀ value, one.progress = .answered (.ok value) → one.reply = .sent value
  error : ∀ error, one.progress = .answered (.error error) →
    (error = .reentrant ∧ one.inside = true) ∨
      (error = .closed ∧ (.entered (.job number) ∉ log ∨ one.reply = .dropped))
  pending : one.reply = .pending → .dropped number ∉ log ∧ .finished (.job number) ∉ log
  replied : ∀ value, one.reply = .sent value → origin.Yields (finished log) number value
  dropped : one.reply = .dropped → .dropped number ∈ log ∨
    (.finished (.job number) ∈ log ∧ ∃ state, (one.work state).1 = none)

namespace Submission.Placed

variable {origin : Crowd σ ρ} {log : List Event} {number : Nat} {one : Submission σ ρ}
  {event : Event}

/-- What happens to other messages does not matter to a submission. -/
theorem append (placed : one.Placed origin log number) (entered : .entered (.job number) ≠ event)
    (dropped : .dropped number ≠ event) (finished : .finished (.job number) ≠ event) :
    one.Placed origin (log ++ [event]) number := by
  have entered : .entered (.job number) ∈ log ++ [event] ↔ _ := mem_append_event entered
  have dropped : .dropped number ∈ log ++ [event] ↔ _ := mem_append_event dropped
  have finished : .finished (.job number) ∈ log ++ [event] ↔ _ := mem_append_event finished
  constructor
  · rw [entered]
    exact placed.unsent
  · rw [entered]
    exact placed.sent
  · rw [entered]
    exact placed.inside
  · exact placed.ok
  · rw [entered]
    exact placed.error
  · rw [dropped, finished]
    exact placed.pending
  · intro value replied
    rw [finished_append]
    exact (placed.replied value replied).append _
  · rw [dropped, finished]
    exact placed.dropped

/-- A submission comes further. -/
theorem advance {crowd : Crowd σ ρ} {progress : Progress ρ} (placed : one.Placed origin log number)
    (advances : crowd.Advance one progress) : ({ one with progress } : Submission σ ρ).Placed origin log number := by
  have rest := placed.inside
  cases advances with
  | reentrant within outside _ =>
    refine ⟨nofun, nofun, fun _ => ⟨placed.unsent (.inl outside), .inr rfl⟩, nofun,
      fun error same => ?_, placed.pending, placed.replied, placed.dropped⟩
    cases same
    exact .inl ⟨rfl, within⟩
  | refused without outside _ =>
    refine ⟨nofun, nofun, fun within => ?_, nofun, fun error same => ?_, placed.pending,
      placed.replied, placed.dropped⟩
    · cases without.symm.trans within
    · cases same
      exact .inr ⟨rfl, .inl (placed.unsent (.inl outside))⟩
  | accepted without outside _ =>
    refine ⟨fun _ => placed.unsent (.inl outside), nofun, fun within => ?_, nofun, nofun,
      placed.pending, placed.replied, placed.dropped⟩
    cases without.symm.trans within
  | unsent accepted _ =>
    refine ⟨nofun, nofun, fun within => ?_, nofun, fun error same => ?_, placed.pending,
      placed.replied, placed.dropped⟩
    · rw [accepted] at rest
      exact absurd (rest within).2 nofun
    · cases same
      exact .inr ⟨rfl, .inl (placed.unsent (.inr accepted))⟩
  | heard value waiting replied =>
    refine ⟨nofun, nofun, fun within => ?_, fun other same => ?_, nofun, placed.pending,
      placed.replied, placed.dropped⟩
    · rw [waiting] at rest
      exact absurd (rest within).2 nofun
    · cases same
      exact replied
  | unheard waiting gone =>
    refine ⟨nofun, nofun, fun within => ?_, nofun, fun error same => ?_, placed.pending,
      placed.replied, placed.dropped⟩
    · rw [waiting] at rest
      exact absurd (rest within).2 nofun
    · cases same
      exact .inr ⟨rfl, .inr gone⟩

/-- A submission that was accepted sends its message. -/
theorem send (placed : one.Placed origin log number) (accepted : one.progress = .accepted) :
    ({ one with progress := .waiting } : Submission σ ρ).Placed origin
      (log ++ [.entered (.job number)]) number := by
  have dropped : .dropped number ∈ log ++ [.entered (.job number)] ↔ _ := mem_append_event nofun
  have finished : .finished (.job number) ∈ log ++ [.entered (.job number)] ↔ _ :=
    mem_append_event nofun
  refine ⟨nofun, fun _ => List.mem_append_right _ (.head _), fun within => ?_, nofun, nofun, ?_, ?_,
    ?_⟩
  · have rest := (placed.inside within).2
    rw [accepted] at rest
    exact absurd rest nofun
  · rw [dropped, finished]
    exact placed.pending
  · intro value replied
    rw [finished_append]
    exact (placed.replied value replied).append _
  · rw [dropped, finished]
    exact placed.dropped

/-- A submission whose message the worker drops, or whose job it finishes, has been waiting for that. -/
theorem settle {reply : Reply ρ} (placed : one.Placed origin log number)
    (sent : .entered (.job number) ∈ log) (undropped : .dropped number ∉ log)
    (unfinished : .finished (.job number) ∉ log) (keeps : .entered (.job number) ≠ event)
    (settled : reply ≠ .pending)
    (replied : ∀ value, reply = .sent value →
      origin.Yields (Queue.finished (log ++ [event])) number value)
    (gone : reply = .dropped → event = .dropped number ∨
      (event = .finished (.job number) ∧ ∃ state, (one.work state).1 = none)) :
    ({ one with reply } : Submission σ ρ).Placed origin (log ++ [event]) number := by
  have entered : .entered (.job number) ∈ log ++ [event] ↔ _ := mem_append_event keeps
  have new : event ∈ log ++ [event] := List.mem_append_right _ (.head _)
  constructor
  · rw [entered]
    exact placed.unsent
  · rw [entered]
    exact placed.sent
  · rw [entered]
    exact placed.inside
  · intro value heard
    exact absurd (mem_finished.mp (placed.replied value (placed.ok value heard)).mem) unfinished
  · intro error answered
    rcases placed.error error answered with reentrant | ⟨closed, absent | dropped⟩
    · exact .inl reentrant
    · exact absurd sent absent
    · rcases placed.dropped dropped with dropped | ⟨finished, -⟩
      · exact absurd dropped undropped
      · exact absurd finished unfinished
  · exact fun pending => absurd pending settled
  · exact replied
  · intro same
    rcases gone same with rfl | ⟨rfl, panics⟩
    · exact .inl new
    · exact .inr ⟨new, panics⟩

end Submission.Placed

end ScriptKernel.Queue
