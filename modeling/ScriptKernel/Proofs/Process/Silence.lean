/-
**A process that has ended is silent.**

* `Terminals.written`: the texts that a terminal has received;
* `SyscallContext.Tells`: a stretch in which events are told and nothing is written;
* `Crowd.Stepped.tells`: no step outside a job writes anything;
* `Throng.Ended`: the end of the process is marked, or its terminal has heard of it;
* `Throng.Quiet`, `quiet_after_end`: **behind that nothing is written, and no script asks its host for anything**,
  whatever callers and the worker do in whatever order.
-/

import ScriptKernel.Proofs.Process.Throng

set_option autoImplicit false

namespace ScriptKernel

open SyscallContext (Announces)

namespace Terminals

/-- The texts that the terminal of a reference has received, if it is still there. -/
def written (terminals : Terminals) (reference : TerminalRef) : Option (Array Output) :=
  (terminals.log? reference).map TerminalLog.outputs

/-- An event is no text. -/
theorem written_notify (terminals : Terminals) (reference other : TerminalRef) (pid : Pid)
    (event : ProcessEvent) :
    (terminals.notify reference pid event).2.written other = terminals.written other := by
  unfold written notify
  by_cases same : other = reference
  · rw [same, log?_send, Option.map_map]
    rfl
  · rw [log?_send_other _ same]

end Terminals

namespace SyscallContext

variable {before middle after : SyscallContext}

/-- **A stretch in which events are told and nothing is written.** -/
structure Tells (before after : SyscallContext) : Prop extends Announces before after where
  written : ∀ reference, after.terminals.written reference = before.terminals.written reference

namespace Tells

/-- Nothing is told. -/
theorem still (lifecyclePid : after.lifecycle.pid = before.lifecycle.pid)
    (terminal : after.lifecycle.terminal = before.lifecycle.terminal)
    (finished : after.lifecycle.isFinished = before.lifecycle.isFinished)
    (terminals : after.terminals = before.terminals) : Tells before after := by
  refine ⟨⟨lifecyclePid, terminal, [], ?_, ?_⟩, fun reference => by rw [terminals]⟩
  · rw [terminals]
    simp only [List.append_nil, Option.map_id']
  · rw [finished]
    exact Nat.zero_add _

/-- One event is told. -/
theorem notify {event : ProcessEvent} (lifecyclePid : after.lifecycle.pid = before.lifecycle.pid)
    (terminal : after.lifecycle.terminal = before.lifecycle.terminal)
    (told : after.terminals = before.lifecycle.notify event before.terminals)
    (count : ends [event] + before.lifecycle.isFinished.toNat = after.lifecycle.isFinished.toNat) :
    Tells before after := by
  refine ⟨⟨lifecyclePid, terminal, [event], ?_, count⟩, fun reference => ?_⟩
  · rw [told]
    exact Terminals.heard_notify ..
  · rw [told]
    exact Terminals.written_notify ..

/-- A process begins or stops to work. -/
theorem setRunning {running : Bool} (life : after.lifecycle = before.lifecycle.setRunning running)
    (terminals : after.terminals = before.terminals) : Tells before after := by
  refine still ?_ ?_ ?_ terminals
  · rw [life]
    unfold Lifecycle.setRunning
    split <;> rfl
  · rw [life]
    unfold Lifecycle.setRunning
    split <;> rfl
  · rw [life, Lifecycle.isFinished_setRunning]

/-- A failure is recorded. -/
theorem recordFault {message : String}
    (left : (after.lifecycle, after.terminals) = before.lifecycle.recordFault message before.terminals) :
    Tells before after := by
  unfold Lifecycle.recordFault at left
  split at left
  · obtain ⟨life, terminals⟩ := Prod.mk.inj left
    exact still (by rw [life]) (by rw [life]) (by rw [life]) terminals
  · obtain ⟨life, terminals⟩ := Prod.mk.inj left
    refine notify (by rw [life]) (by rw [life]) terminals ?_
    rw [life]
    exact Nat.zero_add _

/-- A process exits. -/
theorem markExited {code : ExitCode}
    (left : (after.lifecycle, after.terminals) =
      (before.lifecycle.markExited code before.terminals).2) : Tells before after := by
  unfold Lifecycle.markExited at left
  split at left
  · obtain ⟨life, terminals⟩ := Prod.mk.inj left
    exact still (by rw [life]) (by rw [life]) (by rw [life]) terminals
  · rename_i goesOn
    obtain ⟨life, terminals⟩ := Prod.mk.inj left
    refine notify (by rw [life]) (by rw [life]) terminals ?_
    rw [life, eq_false_of_ne_true goesOn]
    rfl

/-- A process is ended from outside. -/
theorem markTerminated
    (left : (after.lifecycle, after.terminals) =
      (before.lifecycle.markTerminated before.terminals).2) : Tells before after := by
  unfold Lifecycle.markTerminated at left
  split at left
  · obtain ⟨life, terminals⟩ := Prod.mk.inj left
    exact still (by rw [life]) (by rw [life]) (by rw [life]) terminals
  · rename_i goesOn
    obtain ⟨life, terminals⟩ := Prod.mk.inj left
    refine notify (by rw [life]) (by rw [life]) terminals ?_
    rw [life, eq_false_of_ne_true goesOn]
    rfl

end Tells

end SyscallContext

open SyscallContext (Tells)

namespace ScriptProcess

/-! ### Outside a job -/

/-- **A step outside a job writes nothing.** -/
theorem Crowd.Stepped.tells {α : Type} {crowd after : Crowd α} (step : Stepped crowd after)
    (idle : after.ran = crowd.ran) : Tells crowd.context after.context := by
  cases step with
  | answer | advance | queue | last => exact .still rfl rfl rfl rfl
  | @act _ call _ _ _ acts =>
    generalize call.progress = before at acts
    cases acts with
    | @report error =>
      refine .still rfl rfl rfl ?_
      show (crowd.process.report crowd.site error).terminals = crowd.site.terminals
      unfold report
      cases error <;> rfl
    | record => exact .recordFault rfl
    | begin | late | cancel => exact .still rfl rfl rfl rfl
    | mark => exact .markTerminated rfl
  | serve _ serves =>
    cases serves with
    | refuse | accept | settle | leave | reply => exact .still rfl rfl rfl rfl
    | start | stop => exact .setRunning rfl rfl
    | exit => exact .markExited rfl
    | perform => exact absurd (List.append_right_eq_self.mp idle) (List.cons_ne_nil _ _)

namespace Throng

variable {origin throng after : Throng} {table : SyscallTable}

/-! ### A process that has ended -/

/-- The events of the process that its terminal has received. -/
def heard (throng : Throng) : Option (List ProcessEvent) :=
  throng.crowd.site.terminals.heard throng.crowd.life.terminal throng.crowd.life.pid

/-- **The end of the process**: it is marked, or its terminal has heard of one since the first call. -/
def Ended (origin throng : Throng) : Prop :=
  throng.crowd.life.isFinished = true ∨ ∃ before now,
    origin.heard = some before ∧ throng.heard = some now ∧ ends before < ends now

/-- **Nothing is written to any terminal, and no script asks its host for anything**: no host function is called. -/
structure Quiet (throng later : Throng) : Prop where
  written : ∀ reference,
    later.crowd.site.terminals.written reference = throng.crowd.site.terminals.written reference
  asked : later.asked = throng.asked

/-- **What a step announces.** -/
theorem Sheltered.announces (sheltered : throng.Sheltered table) (modest : table.Modest)
    (reticent : table.Reticent) (step : Stepped throng after) :
    Announces throng.crowd.context after.crowd.context := by
  cases step with
  | party step idle => exact (step.tells idle).toAnnounces
  | decline | wait | takeUp | answer | recover => exact Tells.toAnnounces (.still rfl rfl rfl rfl)
  | act working here =>
    exact (sheltered.gentle _ here _ _).1.lived.announces
  | ask working here =>
    exact (Gentle.host modest reticent sheltered.table _ _).lived.announces

/-- **Behind the end of the process a step writes nothing**, and the worker is not at work. -/
theorem Sheltered.quiet (sheltered : throng.Sheltered table)
    (finished : throng.crowd.life.isFinished = true) (step : Stepped throng after) :
    Tells throng.crowd.context after.crowd.context ∧ after.asked = throng.asked := by
  have idle (working : throng.crowd.phase = .working) : False := by
    obtain ⟨origin, guarded⟩ := sheltered.guarded
    have goesOn := guarded.goesOn (by rw [working]; rfl)
    cases goesOn.symm.trans finished
  cases step with
  | party step same => exact ⟨step.tells same, rfl⟩
  | decline | wait => exact ⟨.still rfl rfl rfl rfl, rfl⟩
  | takeUp working => exact (idle working).elim
  | act working => exact (idle working).elim
  | ask working => exact (idle working).elim
  | answer working => exact (idle working).elim
  | recover working => exact (idle working).elim

/-! ### Schedules -/

/-- **What every step keeps, every schedule keeps.** -/
theorem run_invariant (kept : Throng → Prop)
    (keeps : ∀ {throng after : Throng}, Stepped throng after → kept throng → kept after)
    (schedule : List Move) (before : kept throng) : kept (throng.run schedule) := by
  induction schedule generalizing throng with
  | nil => exact before
  | cons move rest ih =>
    refine ih ?_
    show kept ((throng.step move).getD throng)
    cases taken : throng.step move with
    | none => exact before
    | some after => exact keeps (of_step taken) before

/-- **What a schedule announces.** -/
theorem Sheltered.run (sheltered : throng.Sheltered table) (modest : table.Modest)
    (reticent : table.Reticent) (schedule : List Move) :
    (throng.run schedule).Sheltered table ∧
      Announces throng.crowd.context (throng.run schedule).crowd.context := by
  refine run_invariant
    (fun later => later.Sheltered table ∧ Announces throng.crowd.context later.crowd.context)
    (fun step ⟨sheltered, announces⟩ => ?_) schedule ⟨sheltered, ?_⟩
  · exact ⟨sheltered.step modest reticent step,
      announces.trans (sheltered.announces modest reticent step)⟩
  · exact Tells.toAnnounces (.still rfl rfl rfl rfl)

/-- An end that has been heard has come. -/
theorem Ended.finished (ended : Ended origin throng)
    (announces : Announces origin.crowd.context throng.crowd.context) :
    throng.crowd.life.isFinished = true := by
  rcases ended with finished | ⟨before, now, heard, later, more⟩
  · exact finished
  · obtain ⟨events, told, count⟩ := announces.heard
    have known : throng.heard = origin.heard.map fun known => known ++ events := by
      refine Eq.trans ?_ told
      show throng.crowd.site.terminals.heard throng.crowd.context.lifecycle.terminal
        throng.crowd.context.lifecycle.pid = _
      rw [announces.terminal, announces.lifecyclePid]
      rfl
    rw [heard, later] at known
    cases known
    rw [ends_append] at more
    cases finished : throng.crowd.life.isFinished with
    | true => rfl
    | false =>
      have count : ends events + _ = throng.crowd.life.isFinished.toNat := count
      rw [finished] at count
      have none : ends events + _ = 0 := count
      omega

/-- **A process that has ended stays silent.** -/
theorem Sheltered.quiet_run (sheltered : throng.Sheltered table) (modest : table.Modest)
    (reticent : table.Reticent) (finished : throng.crowd.life.isFinished = true)
    (schedule : List Move) : throng.Quiet (throng.run schedule) := by
  refine (run_invariant (fun later => later.Sheltered table ∧
    later.crowd.life.isFinished = true ∧ throng.Quiet later)
    (fun step ⟨sheltered, finished, quiet⟩ => ?_) schedule
    ⟨sheltered, finished, fun _ => rfl, rfl⟩).2.2
  obtain ⟨tells, asked⟩ := sheltered.quiet finished step
  exact ⟨sheltered.step modest reticent step, tells.finished finished,
    fun reference => (tells.written reference).trans (quiet.written reference),
    asked.trans quiet.asked⟩

end Throng

/-- **A process that has ended is silent.** In any order of the steps of any callers that execute, load, invoke,
signal and terminate, none of them the worker: once the end of the process is marked, or its terminal has heard of it,
nothing more is written by its scripts or host functions, and none of its host functions is called any more. -/
theorem quiet_after_end {process : ScriptProcess} (modest : process.executor.table.Modest)
    (reticent : process.executor.table.Reticent) (site : Site) (capacity : Nat)
    (demands : List Demand) (schedule further : List Throng.Move)
    (ended : (Throng.fresh process site capacity demands).Ended
      ((Throng.fresh process site capacity demands).run schedule)) :
    ((Throng.fresh process site capacity demands).run schedule).Quiet
      (((Throng.fresh process site capacity demands).run schedule).run further) := by
  obtain ⟨sheltered, announces⟩ :=
    (Throng.fresh_sheltered process site capacity demands).run modest reticent schedule
  exact sheltered.quiet_run modest reticent (ended.finished announces) further

namespace Throng

/-- Two callers print, and one ends the process. -/
def printing : List Demand :=
  [.invoke "print" [.text "first"], .terminate, .invoke "print" [.text "late"]]

/-- The process is ended while the first call is about to print, and the other one waits behind it. -/
def overlapping : List Move :=
  [.party (.look 0), .party (.queue (.accept 0)), .party (.queue (.send 0)), .party (.look 2),
    .party (.queue (.accept 2)), .party (.queue .receive), .party (.queue .begin),
    .party (.queue (.send 2)), .party (.work 0), .party (.work 0)] ++
  List.replicate 5 .piece ++
  [.party (.look 1), .party (.act 1), .party (.act 1), .party (.queue (.beginEnd 1)),
    .party (.queue (.takeHandle 1)), .party (.queue (.sendLast 1))] ++
  List.replicate 7 .piece ++
  [.party (.work 0), .party (.work 0), .party (.work 0), .party (.queue .receive),
    .party (.queue .begin), .party (.queue .receive), .party (.queue .begin), .party (.work 0),
    .party (.queue .leave), .party (.queue (.join 1)), .party (.act 1)]

/-- The callers hear what has become of their calls. -/
def hearing : List Move :=
  [.party (.queue (.hear 0)), .party (.learn 0), .party (.queue (.hear 2)), .party (.learn 2),
    .party (.learn 2), .piece, .party (.work 0)]

set_option maxRecDepth 100000 in
/-- **The first line is printed while the process is being ended**, the other one never is. -/
theorem quiet_after_overlapping :
    let ended := (fresh single .single 2 printing).run overlapping
    ended.heard = some [.terminated] ∧
      ended.crowd.site.terminals.written ⟨some 0⟩ = some #[⟨1, .stdout, "first\n"⟩] ∧
      ((ended.run hearing).crowd.calls[2]?.bind Call.answer).isSome ∧
      ended.Quiet (ended.run hearing) := by
  obtain ⟨unheard, heard, written, told⟩ :
      (fresh single .single 2 printing).heard = some [] ∧
        ((fresh single .single 2 printing).run overlapping).heard = some [.terminated] ∧
        ((fresh single .single 2 printing).run overlapping).crowd.site.terminals.written ⟨some 0⟩ =
          some #[⟨1, .stdout, "first\n"⟩] ∧
        ((((fresh single .single 2 printing).run overlapping).run hearing).crowd.calls[2]?.bind
          Call.answer).isSome := by decide +kernel
  have table := (start_ok single_started).1.table
  refine ⟨heard, written, told, ?_⟩
  refine quiet_after_end ?_ ?_ .single 2 printing overlapping hearing ?_
  · rw [table]
    exact SyscallTable.standard_modest
  · rw [table]
    exact SyscallTable.standard_reticent
  · exact .inr ⟨[], [.terminated], unheard, heard, by decide⟩

end Throng

end ScriptProcess

end ScriptKernel
