/-
**A lifecycle under any history.**

* `Lifecycle.Step`, `Stage.run`: what can be done to a lifecycle, and a history of it;
* `ending?`: the end that a history marks first; `told`: what its terminal hears of it;
* `Kept`: what a lifecycle stands for after a history; every step keeps it (`Kept.step`);
* `Chronicle`: **the first mark is the end**: it alone answers so, it alone is told, and it fixes the state; after
  an exit the status stays, else the last fault is told and is the status; beginning to shut down is no part of this;
* `chronicle`: so it is after every history of every new lifecycle.
-/

import Mathlib.Data.List.Induction
import ScriptKernel.Proofs.Terminal

set_option autoImplicit false

namespace ScriptKernel

/-! ### Histories -/

namespace Lifecycle

/-- A lifecycle, with the terminals that hear of it. -/
structure Stage where
  life : Lifecycle
  terminals : Terminals

/-- What can be done to a lifecycle. -/
inductive Step
  | setRunning (running : Bool)
  | beginShutdown
  | markExited (code : ExitCode)
  | markTerminated
  | recordFault (message : String)
  deriving DecidableEq

/-- One step, with its answer if it gives one. -/
def Step.take (stage : Stage) : Step → Option Bool × Stage
  | .setRunning running => (none, { stage with life := stage.life.setRunning running })
  | .beginShutdown =>
    let (first, life) := stage.life.beginShutdown
    (some first, { stage with life })
  | .markExited code =>
    let (ended, life, terminals) := stage.life.markExited code stage.terminals
    (some ended, ⟨life, terminals⟩)
  | .markTerminated =>
    let (ended, life, terminals) := stage.life.markTerminated stage.terminals
    (some ended, ⟨life, terminals⟩)
  | .recordFault message =>
    let (life, terminals) := stage.life.recordFault message stage.terminals
    (none, ⟨life, terminals⟩)

/-- One step after the other. -/
def Stage.run (stage : Stage) (steps : List Step) : Stage :=
  steps.foldl (fun stage step => (step.take stage).2) stage

theorem Stage.run_append (stage : Stage) (past later : List Step) :
    stage.run (past ++ later) = (stage.run past).run later := List.foldl_append

/-- The end that a step marks, if it marks one. -/
def Step.final? : Step → Option ProcessEvent
  | .markExited code => some (.exited code)
  | .markTerminated => some .terminated
  | _ => none

/-- **The end of a history**: the first that is marked. -/
def ending? (past : List Step) : Option ProcessEvent := past.findSome? Step.final?

/-- Whether a history has ended with an exit. -/
def exited (past : List Step) : Bool :=
  match ending? past with
  | some (.exited _) => true
  | _ => false

/-- What a step answers that comes after others. -/
def Step.answer (past : List Step) : Step → Option Bool
  | .markExited _ | .markTerminated => some (ending? past).isNone
  | .beginShutdown => some (!past.contains .beginShutdown)
  | .setRunning _ | .recordFault _ => none

/-- What the terminal hears of a step that comes after others: the end, if it is the first one, and a fault
unless an exit came before it. -/
def Step.news (past : List Step) : Step → List ProcessEvent
  | .setRunning _ | .beginShutdown => []
  | .markExited code => if (ending? past).isSome then [] else [.exited code]
  | .markTerminated => if (ending? past).isSome then [] else [.terminated]
  | .recordFault message => if exited past then [] else [.faulted message]

/-- What the terminal hears of steps that come after others. -/
def toldAfter (past : List Step) : List Step → List ProcessEvent
  | [] => []
  | step :: later => step.news past ++ toldAfter (past ++ [step]) later

/-- **What the terminal hears of a history.** -/
def told (past : List Step) : List ProcessEvent := toldAfter [] past

/-- The state that an end leaves. -/
def stateAt : ProcessEvent → ProcessState
  | .exited _ => .exited
  | _ => .terminated

end Lifecycle

/-! ### What is told, event by event -/

namespace Lifecycle

theorem toldAfter_append (past first second : List Step) :
    toldAfter past (first ++ second) = toldAfter past first ++ toldAfter (past ++ first) second := by
  induction first generalizing past with
  | nil => simp [toldAfter]
  | cons step rest ih =>
    rw [List.cons_append, toldAfter, toldAfter, ih, List.append_assoc, List.append_assoc]
    rfl

/-- A history tells what its last step adds. -/
theorem told_snoc (past : List Step) (step : Step) :
    told (past ++ [step]) = told past ++ step.news past := by
  unfold told
  rw [toldAfter_append, toldAfter, toldAfter, List.append_nil, List.nil_append]

/-- What has ended has ended for ever. -/
theorem ending?_append {past : List Step} {final : ProcessEvent} (ended : ending? past = some final)
    (later : List Step) : ending? (past ++ later) = some final := by
  unfold ending? at ended ⊢
  rw [List.findSome?_append, ended]
  rfl

theorem ending?_snoc {past : List Step} (unmarked : ending? past = none) (step : Step) :
    ending? (past ++ [step]) = step.final? := by
  unfold ending? at unmarked ⊢
  rw [List.findSome?_append, unmarked, List.findSome?_singleton]
  rfl

/-- A step that marks no end leaves the end of a history as it is. -/
theorem ending?_quiet {step : Step} (quiet : step.final? = none) (past : List Step) :
    ending? (past ++ [step]) = ending? past := by
  unfold ending?
  rw [List.findSome?_append, List.findSome?_singleton, quiet, Option.or_none]

/-- Only beginning to shut down begins it. -/
theorem contains_snoc (past : List Step) (step : Step) (other : step ≠ .beginShutdown) :
    (past ++ [step]).contains .beginShutdown = past.contains .beginShutdown := by
  rw [List.contains_append]
  simp [other.symm]

/-- A history has ended with an exit if that is its end. -/
theorem exited_iff {past : List Step} : exited past = true ↔ ∃ code, ending? past = some (.exited code) := by
  unfold exited
  split
  · rename_i code ended
    exact ⟨fun _ => ⟨code, ended⟩, fun _ => rfl⟩
  · rename_i other
    exact ⟨nofun, fun ⟨code, ended⟩ => absurd ended (other code)⟩

/-- A mark is told if it is the first one. -/
theorem news_of_marks (past : List Step) {step : Step} {final : ProcessEvent}
    (marks : step.final? = some final) :
    step.news past = if (ending? past).isSome then [] else [final] := by
  cases step with
  | markExited code | markTerminated =>
    cases marks
    rfl
  | setRunning | beginShutdown | recordFault => cases marks

/-- A step tells an end only if it is the first one. -/
theorem filter_news (past : List Step) (step : Step) :
    (step.news past).filter (fun event => event.IsEnd) =
      if (ending? past).isSome then [] else step.final?.toList := by
  cases step with
  | recordFault message =>
    rw [Step.news]
    cases exited past <;> cases ending? past <;> rfl
  | setRunning running | beginShutdown =>
    rw [Step.news]
    cases ending? past <;> rfl
  | markExited code | markTerminated =>
    rw [news_of_marks past rfl]
    cases ending? past <;> rfl

/-- **One end is told of a history that has one**: the first that is marked. -/
theorem filter_told (past : List Step) :
    (told past).filter (fun event => event.IsEnd) = (ending? past).toList := by
  induction past using List.reverseRecOn with
  | nil => rfl
  | append_singleton past step ih =>
    rw [told_snoc, List.filter_append, ih, filter_news]
    cases ended : ending? past with
    | none => rw [ending?_snoc ended]; rfl
    | some final => rw [ending?_append ended]; rfl

end Lifecycle

/-! ### What a history leaves -/

namespace Terminals

/-- Events of a process sent to a reference, one after the other. -/
def tell (terminals : Terminals) (reference : TerminalRef) (pid : Pid) (events : List ProcessEvent) :
    Terminals :=
  events.foldl (fun terminals event => (terminals.notify reference pid event).2) terminals

variable (terminals : Terminals) (reference : TerminalRef) (pid : Pid)

theorem tell_append (first second : List ProcessEvent) : terminals.tell reference pid (first ++ second) =
    (terminals.tell reference pid first).tell reference pid second := List.foldl_append

/-- **Events that are told are heard**, in order, behind those before them. -/
theorem heard_tell (events : List ProcessEvent) :
    (terminals.tell reference pid events).heard reference pid =
      (terminals.heard reference pid).map fun before => before ++ events := by
  induction events generalizing terminals with
  | nil => simp [tell]
  | cons event rest ih =>
    rw [show terminals.tell reference pid (event :: rest) =
      (terminals.notify reference pid event).2.tell reference pid rest from rfl, ih, heard_notify,
      Option.map_map]
    congr 1
    funext before
    simp

/-- They are heard nowhere else, and of no other process. -/
theorem heard_tell_other {other : TerminalRef} {stranger : Pid}
    (different : other ≠ reference ∨ stranger ≠ pid) (events : List ProcessEvent) :
    (terminals.tell reference pid events).heard other stranger = terminals.heard other stranger := by
  induction events generalizing terminals with
  | nil => rfl
  | cons event rest ih =>
    refine (ih _).trans ?_
    rcases different with elsewhere | stranger
    · unfold heard notify
      rw [log?_send_other _ elsewhere]
    · exact heard_notify_other _ _ _ stranger event

end Terminals

namespace Lifecycle

/-- Work leaves the status. -/
theorem setRunning_status (life : Lifecycle) (running : Bool) :
    (life.setRunning running).status = life.status := by
  unfold setRunning
  split <;> rfl

variable {origin now : Stage} {past : List Step}

/-- **What a lifecycle stands for after a history.** -/
structure Kept (origin : Stage) (past : List Step) (now : Stage) : Prop where
  pid : now.life.pid = origin.life.pid
  terminal : now.life.terminal = origin.life.terminal
  state : ∀ final, ending? past = some final → now.life.state = stateAt final
  unfinished : ending? past = none → now.life.isFinished = false
  status : ∀ code, now.life.status = .exited code ↔ ending? past = some (.exited code)
  shuttingDown : now.life.shuttingDown = past.contains .beginShutdown
  terminals : now.terminals = origin.terminals.tell origin.life.terminal origin.life.pid (told past)

namespace Kept

/-- A new lifecycle stands for no history. -/
theorem fresh (pid : Pid) (terminal : TerminalRef) (terminals : Terminals) :
    Kept ⟨{ pid, terminal }, terminals⟩ [] ⟨{ pid, terminal }, terminals⟩ :=
  ⟨rfl, rfl, nofun, fun _ => rfl, fun _ => ⟨nofun, nofun⟩, rfl, rfl⟩

/-- It has ended exactly if the history has. -/
theorem isFinished_eq (kept : Kept origin past now) : now.life.isFinished = (ending? past).isSome := by
  cases ended : ending? past with
  | none => exact kept.unfinished ended
  | some final =>
    rw [isFinished, kept.state final ended]
    cases final <;> rfl

/-- It has the status of an exit exactly if the history has ended with one. -/
theorem hasExitStatus_eq (kept : Kept origin past now) : now.life.hasExitStatus = exited past := by
  rw [Bool.eq_iff_iff, exited_iff]
  unfold hasExitStatus
  split
  · rename_i code same
    exact ⟨fun _ => ⟨code, (kept.status code).mp same⟩, fun _ => rfl⟩
  · rename_i other
    exact ⟨nofun, fun ⟨code, ended⟩ => absurd ((kept.status code).mpr ended) (other code)⟩

/-- A step that is not the end adds what it tells, and leaves what the end has settled. -/
theorem onward (kept : Kept origin past now) {step : Step} {after : Stage}
    (same : ending? (past ++ [step]) = ending? past)
    (pid : after.life.pid = now.life.pid) (terminal : after.life.terminal = now.life.terminal)
    (settled : now.life.isFinished = true → after.life.state = now.life.state)
    (unfinished : now.life.isFinished = false → after.life.isFinished = false)
    (status : ∀ code, after.life.status = .exited code ↔ now.life.status = .exited code)
    (shuttingDown : after.life.shuttingDown = (past ++ [step]).contains .beginShutdown)
    (terminals : after.terminals =
      now.terminals.tell now.life.terminal now.life.pid (step.news past)) :
    Kept origin (past ++ [step]) after where
  pid := pid.trans kept.pid
  terminal := terminal.trans kept.terminal
  state final ended := by
    rw [same] at ended
    have finished : now.life.isFinished = true := by rw [kept.isFinished_eq, ended]; rfl
    exact (settled finished).trans (kept.state final ended)
  unfinished unmarked := unfinished (kept.unfinished (same ▸ unmarked))
  status code := by rw [status, kept.status, same]
  shuttingDown := shuttingDown
  terminals := by
    rw [terminals, kept.terminals, kept.terminal, kept.pid, told_snoc, Terminals.tell_append]

/-- The first mark is the end. -/
theorem conclude (kept : Kept origin past now) {step : Step} {after : Stage} {final : ProcessEvent}
    (unmarked : ending? past = none) (marks : step.final? = some final)
    (pid : after.life.pid = now.life.pid) (terminal : after.life.terminal = now.life.terminal)
    (state : after.life.state = stateAt final)
    (status : ∀ code, after.life.status = .exited code ↔ final = .exited code)
    (shuttingDown : after.life.shuttingDown = (past ++ [step]).contains .beginShutdown)
    (terminals : after.terminals = now.terminals.tell now.life.terminal now.life.pid [final]) :
    Kept origin (past ++ [step]) after := by
  have ended : ending? (past ++ [step]) = some final := (ending?_snoc unmarked step).trans marks
  have news : step.news past = [final] := by
    rw [news_of_marks past marks, unmarked]
    rfl
  refine ⟨pid.trans kept.pid, terminal.trans kept.terminal, ?_, ?_, ?_, shuttingDown, ?_⟩
  · intro other same
    cases ended.symm.trans same
    exact state
  · intro missing
    cases ended.symm.trans missing
  · intro code
    rw [status, ended, Option.some.injEq]
  · rw [terminals, kept.terminals, kept.terminal, kept.pid, told_snoc, news, Terminals.tell_append]

/-- A step that does nothing is one that tells nothing and comes after the end, or is none. -/
theorem idle (kept : Kept origin past now) {step : Step}
    (same : ending? (past ++ [step]) = ending? past) (other : step ≠ .beginShutdown)
    (silent : step.news past = []) : Kept origin (past ++ [step]) now := by
  refine kept.onward same rfl rfl (fun _ => rfl) id (fun _ => Iff.rfl) ?_ ?_
  · rw [contains_snoc past step other, kept.shuttingDown]
  · rw [silent]
    rfl

/-- A mark that is not the first does nothing, and says so. -/
theorem take_late (kept : Kept origin past now) {step : Step} (marks : step.final?.isSome)
    (ended : (ending? past).isSome) : step.take now = (some false, now) := by
  have finished : now.life.isFinished = true := kept.isFinished_eq.trans ended
  cases step with
  | markExited code => simp [Step.take, markExited, finished]
  | markTerminated => simp [Step.take, markTerminated, finished]
  | setRunning | beginShutdown | recordFault => cases marks

/-- A fault that comes after no exit becomes the status, and is told. -/
theorem take_fault (kept : Kept origin past now) (message : String) (left : exited past = false) :
    (Step.recordFault message).take now =
      (none, ⟨{ now.life with status := .faulted message },
        now.life.notify (.faulted message) now.terminals⟩) := by
  simp [Step.take, Lifecycle.recordFault, kept.hasExitStatus_eq, left]

/-- A fault that comes after an exit does nothing. -/
theorem take_lateFault (kept : Kept origin past now) (message : String) (left : exited past = true) :
    (Step.recordFault message).take now = (none, now) := by
  simp [Step.take, Lifecycle.recordFault, kept.hasExitStatus_eq, left]

/-- **A mark is the end if it is the first one**, and does nothing otherwise. -/
theorem mark (kept : Kept origin past now) {step : Step} {final : ProcessEvent}
    (marks : step.final? = some final) : (step.take now).1 = some (ending? past).isNone ∧
      Kept origin (past ++ [step]) (step.take now).2 := by
  cases ended : ending? past with
  | some first =>
    have silent : step.news past = [] := by
      rw [news_of_marks past marks, ended]
      rfl
    have other : step ≠ .beginShutdown := by
      rintro rfl
      cases marks
    rw [kept.take_late (by rw [marks]; rfl) (by rw [ended]; rfl)]
    exact ⟨rfl, kept.idle (by rw [ending?_append ended, ended]) other silent⟩
  | none =>
    have unfinished := kept.unfinished ended
    cases step with
    | markExited code =>
      cases marks
      have taken : (Step.markExited code).take now =
          (some true, ⟨{ now.life with state := .exited, status := .exited code },
            now.life.notify (.exited code) now.terminals⟩) := by
        simp [Step.take, markExited, unfinished]
      rw [taken]
      refine ⟨rfl, kept.conclude ended rfl rfl rfl rfl (fun other => ?_) ?_ rfl⟩
      · rw [ExitStatus.exited.injEq, ProcessEvent.exited.injEq]
      · rw [contains_snoc past (.markExited code) nofun]
        exact kept.shuttingDown
    | markTerminated =>
      cases marks
      have taken : Step.markTerminated.take now =
          (some true, ⟨{ now.life with state := .terminated },
            now.life.notify .terminated now.terminals⟩) := by
        simp [Step.take, markTerminated, unfinished]
      rw [taken]
      refine ⟨rfl, kept.conclude ended rfl rfl rfl rfl (fun other => ⟨fun same => ?_, nofun⟩) ?_ rfl⟩
      · cases ended.symm.trans ((kept.status other).mp same)
      · rw [contains_snoc past .markTerminated nofun]
        exact kept.shuttingDown
    | setRunning | beginShutdown | recordFault => cases marks

theorem recordFault (kept : Kept origin past now) (message : String) :
    Kept origin (past ++ [.recordFault message]) ((Step.recordFault message).take now).2 := by
  have same : ending? (past ++ [.recordFault message]) = ending? past := ending?_quiet rfl past
  cases left : exited past with
  | true =>
    rw [kept.take_lateFault message left]
    exact kept.idle same nofun (by rw [Step.news, left]; rfl)
  | false =>
    rw [kept.take_fault message left]
    refine kept.onward same rfl rfl (fun _ => rfl) id (fun code => ⟨nofun, fun status => ?_⟩) ?_
      (by rw [Step.news, left]; rfl)
    · have ended := exited_iff.mpr ⟨code, (kept.status code).mp status⟩
      cases left.symm.trans ended
    · rw [contains_snoc past (.recordFault message) nofun]
      exact kept.shuttingDown

/-- **Every step keeps it, and answers as the history tells.** -/
theorem step (kept : Kept origin past now) (step : Step) :
    (step.take now).1 = step.answer past ∧ Kept origin (past ++ [step]) (step.take now).2 := by
  cases step with
  | setRunning running =>
    refine ⟨rfl, kept.onward (ending?_quiet rfl past) ?_ ?_ ?_ ?_ ?_ ?_ rfl⟩
    all_goals dsimp only [Step.take]
    · unfold setRunning
      split <;> rfl
    · unfold setRunning
      split <;> rfl
    · intro finished
      rw [setRunning, if_pos finished]
    · intro unfinished
      rw [setRunning, if_neg (by rw [unfinished]; exact Bool.false_ne_true)]
      cases running <;> rfl
    · intro code
      rw [setRunning_status]
    · rw [contains_snoc past (.setRunning running) nofun, ← kept.shuttingDown]
      unfold setRunning
      split <;> rfl
  | beginShutdown =>
    refine ⟨congrArg some (congrArg (! ·) kept.shuttingDown),
      kept.onward (ending?_quiet rfl past) rfl rfl (fun _ => rfl) id (fun _ => Iff.rfl) ?_ rfl⟩
    simp [Step.take, Lifecycle.beginShutdown]
  | markExited code => exact kept.mark rfl
  | markTerminated => exact kept.mark rfl
  | recordFault message => exact ⟨rfl, kept.recordFault message⟩

/-- **A history keeps it.** -/
theorem run (pid : Pid) (terminal : TerminalRef) (terminals : Terminals) (past : List Step) :
    Kept ⟨{ pid, terminal }, terminals⟩ past (Stage.run ⟨{ pid, terminal }, terminals⟩ past) := by
  induction past using List.reverseRecOn with
  | nil => exact fresh pid terminal terminals
  | append_singleton past step ih =>
    rw [Stage.run_append]
    exact (ih.step step).2

end Kept

/-! ### The chronicle of a lifecycle -/

/-- **What a history does to a lifecycle**, from where it began. -/
structure Chronicle (origin : Stage) (past : List Step) : Prop where
  /-- Of the marks the first answers true, of the beginnings of shutting down the first one does. -/
  answers : ∀ step : Step, (step.take (origin.run past)).1 = step.answer past
  /-- The first mark fixes the state for ever. -/
  state : ∀ final, ending? past = some final →
    ∀ later, (origin.run (past ++ later)).life.state = stateAt final
  /-- Without a mark there is no end. -/
  unfinished : ending? past = none → (origin.run past).life.isFinished = false
  /-- The status is that of an exit exactly if the first mark is that exit. -/
  status : ∀ code, (origin.run past).life.status = .exited code ↔ ending? past = some (.exited code)
  /-- It then stays for ever. -/
  statusForEver : ∀ code, ending? past = some (.exited code) →
    ∀ later, (origin.run (past ++ later)).life.status = .exited code
  /-- A mark that is not the first does nothing. -/
  lateMark : ∀ step : Step, step.final?.isSome → (ending? past).isSome →
    origin.run (past ++ [step]) = origin.run past
  /-- A fault becomes the status, and of the lifecycle nothing else changes, unless an exit came before it. -/
  fault : ∀ message, exited past = false →
    (origin.run (past ++ [.recordFault message])).life =
      { (origin.run past).life with status := .faulted message }
  /-- A fault that comes after an exit does nothing. -/
  lateFault : ∀ message, exited past = true →
    origin.run (past ++ [.recordFault message]) = origin.run past
  /-- Beginning to shut down does no more than that. -/
  shutdown : origin.run (past ++ [.beginShutdown]) =
    { origin.run past with life := { (origin.run past).life with shuttingDown := true } }
  /-- Work begins and ends without a word, and the status stays. -/
  working : ∀ running, (origin.run (past ++ [.setRunning running])).terminals = (origin.run past).terminals ∧
    (origin.run (past ++ [.setRunning running])).life.status = (origin.run past).life.status
  /-- The terminal hears what the history tells, … -/
  heard : (origin.run past).terminals.heard origin.life.terminal origin.life.pid =
    (origin.terminals.heard origin.life.terminal origin.life.pid).map fun before => before ++ told past
  /-- … no other terminal hears anything, and nobody hears of another process. -/
  unheard : ∀ other stranger, other ≠ origin.life.terminal ∨ stranger ≠ origin.life.pid →
    (origin.run past).terminals.heard other stranger = origin.terminals.heard other stranger
  /-- **One end is told of a history that has one**: that of the first mark. -/
  toldOnce : (told past).filter (fun event => event.IsEnd) = (ending? past).toList
  /-- It is told when it is marked, behind what was told before. -/
  toldMark : ∀ step final, step.final? = some final →
    told (past ++ [step]) = told past ++ if (ending? past).isSome then [] else [final]
  /-- **One fault is told for each** that comes after no exit, behind what was told before. -/
  toldFault : ∀ message, told (past ++ [.recordFault message]) =
    told past ++ if exited past then [] else [.faulted message]
  /-- Beginning to shut down is never told, and neither is work. -/
  untold : told (past ++ [.beginShutdown]) = told past ∧
    ∀ running, told (past ++ [.setRunning running]) = told past

/-- **So it is after every history of every new lifecycle**: the first mark is the end. -/
theorem chronicle (pid : Pid) (terminal : TerminalRef) (terminals : Terminals) (past : List Step) :
    Chronicle ⟨{ pid, terminal }, terminals⟩ past := by
  have kept := Kept.run pid terminal terminals
  have now := kept past
  have last (step : Step) : Stage.run ⟨{ pid, terminal }, terminals⟩ (past ++ [step]) =
      (step.take (Stage.run ⟨{ pid, terminal }, terminals⟩ past)).2 := by
    rw [Stage.run_append]
    rfl
  constructor
  case answers => exact fun step => (now.step step).1
  case state => exact fun final ended later => (kept (past ++ later)).state final (ending?_append ended later)
  case unfinished => exact now.unfinished
  case status => exact now.status
  case statusForEver =>
    exact fun code ended later => ((kept (past ++ later)).status code).mpr (ending?_append ended later)
  case lateMark =>
    intro step marks ended
    rw [last, now.take_late marks ended]
  case fault =>
    intro message left
    rw [last, now.take_fault message left]
  case lateFault =>
    intro message left
    rw [last, now.take_lateFault message left]
  case shutdown => exact last .beginShutdown
  case working =>
    intro running
    rw [last]
    exact ⟨rfl, setRunning_status _ running⟩
  case heard =>
    rw [now.terminals]
    exact Terminals.heard_tell ..
  case unheard =>
    intro other stranger different
    rw [now.terminals]
    exact Terminals.heard_tell_other _ _ _ different _
  case toldOnce => exact filter_told past
  case toldMark =>
    intro step final marks
    rw [told_snoc, news_of_marks past marks]
  case toldFault => exact fun message => told_snoc past (.recordFault message)
  case untold =>
    refine ⟨(told_snoc past .beginShutdown).trans (List.append_nil _), fun running => ?_⟩
    exact (told_snoc past (.setRunning running)).trans (List.append_nil _)

example : told [.recordFault "boom", .markExited 0, .recordFault "later", .markTerminated] =
    [.faulted "boom", .exited 0] := by decide

end Lifecycle

end ScriptKernel
