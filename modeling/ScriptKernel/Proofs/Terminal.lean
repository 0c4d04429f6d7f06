/-
**What a terminal hears of a process.**

* `Terminals.heard`: the events of a process that the terminal of a reference has received, if it is still
  there;
* `heard_notify`: an event is added behind the others; `heard_write`: a text adds none;
* `heard_notify_other`, `heard_write_other`: nothing else is heard of another process, or at another terminal;
* `ProcessEvent.IsEnd`, `ends`: the events that are the end of a process, and how many of them there are.
-/

import ScriptKernel.Lifecycle

set_option autoImplicit false

namespace ScriptKernel

/-! ### Ends -/

/-- The end of a process, as its terminal hears it. -/
def ProcessEvent.IsEnd (event : ProcessEvent) : Prop :=
  event = .terminated ∨ ∃ code, event = .exited code

theorem ProcessEvent.not_isEnd_faulted (message : String) : ¬ (faulted message).IsEnd := by
  rintro (same | ⟨_, same⟩) <;> cases same

instance : DecidablePred ProcessEvent.IsEnd
  | .started => .isFalse (by rintro (same | ⟨_, same⟩) <;> cases same)
  | .faulted message => .isFalse (ProcessEvent.not_isEnd_faulted message)
  | .exited code => .isTrue (.inr ⟨code, rfl⟩)
  | .terminated => .isTrue (.inl rfl)

/-- How many of the events are the end of a process. -/
def ends (events : List ProcessEvent) : Nat := events.countP fun event => event.IsEnd

theorem ends_append (first second : List ProcessEvent) :
    ends (first ++ second) = ends first + ends second :=
  List.countP_append

/-! ### What is heard -/

namespace Terminals

/-- The events of a process that a terminal has received, if the terminal is still there. -/
def heard (terminals : Terminals) (reference : TerminalRef) (pid : Pid) :
    Option (List ProcessEvent) :=
  (terminals.log? reference).map fun log => log.eventsOf pid

/-- What is sent to a reference arrives at its terminal, if that is still there. -/
theorem log?_send (terminals : Terminals) (reference : TerminalRef)
    (change : TerminalLog → TerminalLog) :
    (terminals.send reference change).2.log? reference =
      (terminals.log? reference).map change := by
  unfold send
  rcases reference with ⟨_ | place⟩
  · rfl
  · simp only
    split
    · show ((terminals.logs.modify place (Option.map change))[place]?).join =
        ((terminals.logs[place]?).join).map change
      rw [Array.getElem?_modify, if_pos rfl]
      cases terminals.logs[place]? <;> rfl
    · rename_i detached
      have gone : terminals.log? ⟨some place⟩ = none := by
        simpa [isAttached] using detached
      rw [gone]
      rfl

/-- What is sent arrives if the terminal is there. -/
theorem send_fst (terminals : Terminals) (reference : TerminalRef)
    (change : TerminalLog → TerminalLog) :
    (terminals.send reference change).1 = terminals.isAttached reference := by
  unfold send
  rcases reference with ⟨_ | place⟩
  · rfl
  · simp only
    split
    · rename_i attached
      exact attached.symm
    · rename_i detached
      exact (eq_false_of_ne_true detached).symm

/-- **An event is heard after those that came before it.** -/
theorem heard_notify (terminals : Terminals) (reference : TerminalRef) (pid : Pid)
    (event : ProcessEvent) :
    (terminals.notify reference pid event).2.heard reference pid =
      (terminals.heard reference pid).map fun events => events ++ [event] := by
  unfold heard notify
  rw [log?_send, Option.map_map, Option.map_map]
  congr 1
  funext log
  simp [TerminalLog.eventsOf, TerminalLog.notify]

/-- What is sent to a reference arrives at no other terminal. -/
theorem log?_send_other (terminals : Terminals) {reference other : TerminalRef}
    (different : other ≠ reference) (change : TerminalLog → TerminalLog) :
    (terminals.send reference change).2.log? other = terminals.log? other := by
  unfold send
  rcases reference with ⟨_ | place⟩
  · rfl
  · simp only
    split
    · rcases other with ⟨_ | elsewhere⟩
      · rfl
      · have apart : place ≠ elsewhere := fun same => different (by rw [same])
        show ((terminals.logs.modify place (Option.map change))[elsewhere]?).join = _
        rw [Array.getElem?_modify, if_neg apart]
        rfl
    · rfl

/-- An event of one process is not heard of another. -/
theorem heard_notify_other (terminals : Terminals) (reference other : TerminalRef) {pid stranger : Pid}
    (different : stranger ≠ pid) (event : ProcessEvent) :
    (terminals.notify reference pid event).2.heard other stranger =
      terminals.heard other stranger := by
  unfold heard notify
  by_cases same : other = reference
  · rw [same, log?_send, Option.map_map]
    congr 1
    funext log
    simp [TerminalLog.eventsOf, TerminalLog.notify, different.symm]
  · rw [log?_send_other _ same]

/-- A text is no event. -/
theorem heard_write (terminals : Terminals) (reference : TerminalRef) (pid : Pid)
    (output : Output) :
    (terminals.write reference output).2.heard reference pid = terminals.heard reference pid := by
  unfold heard write
  rw [log?_send, Option.map_map]
  rfl

/-- So a text is at no terminal. -/
theorem heard_write_other (terminals : Terminals) (reference other : TerminalRef) (pid : Pid)
    (output : Output) :
    (terminals.write reference output).2.heard other pid = terminals.heard other pid := by
  by_cases same : other = reference
  · rw [same, heard_write]
  · unfold heard write
    rw [log?_send_other _ same]

end Terminals

end ScriptKernel
