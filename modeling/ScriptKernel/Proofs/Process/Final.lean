/-
**The end of a process is final.**

Whoever asks something of a process that has ended is told so before anything is handed to its worker, whichever way
the process ended and whatever it has left behind. What is then still done, by those who end it once more, is not to
be seen.

* `Operation.isJob`, `Operation.declined`: which operations are work for the process, and what an operation on a
  process that has ended is answered;
* `Turn.Declined`, `declined_of_finished`: **every operation on such a process is answered so, and changes neither how
  the process stands nor anything outside it**;
* `Call.Belated`, `Crowd.Over`: a process that has ended with calls that came later, in the middle of their steps;
  every step keeps this (`Over.step`);
* `declined_after_end`: so it is in every history, and where any number of calls overlap no job gets to work.
-/

import ScriptKernel.Proofs.Process.Aftermath
import ScriptKernel.Proofs.Process.Alike

set_option autoImplicit false

namespace ScriptKernel

/-! ### One operation -/

/-- Whether an operation is work for the process. -/
def Operation.isJob : Operation → Bool
  | .execute _ | .load .. | .invoke .. | .signal _ | .withFds .. => true
  | .setVariable .. | .terminate => false

/-- **What an operation on a process that has ended is answered**: that it has ended, unless a number is no signal. -/
def Operation.declined (pid : Pid) : (operation : Operation) → operation.Answer
  | .execute _ | .setVariable .. | .terminate => ()
  | .load .. | .invoke .. | .withFds .. => .error (.terminated pid)
  | .signal number =>
    match Signal.ofNumber? number with
    | some _ => .error (.terminated pid)
    | none => .error (.signal (.invalid number))

/-- **A turn that comes too late**: it is answered as is due, work leaves no trace in the process, whatever it is, the
process stands as before, and nothing outside it has changed. -/
structure Turn.Declined (process : ScriptProcess) (turn : Turn) : Prop where
  answer : turn.operation.answer turn.process turn.site = turn.operation.declined process.pid
  undone : turn.operation.isJob = true → turn.after.1 = turn.process
  state : turn.after.1.state = process.state
  status : turn.after.1.status = process.status
  site : turn.after.2 = turn.site

namespace ScriptProcess

variable {α : Type} {process : ScriptProcess} {site : Site}

theorem isAlive_of_finished (finished : process.state.isFinished = true) : process.isAlive = false := by
  have spent : process.resident.lifecycle.isFinished = true := finished
  unfold isAlive Resident.isAlive
  rw [spent]
  rfl

/-- **A process that has ended refuses every job**, and hands none to its worker. -/
theorem run_finished (finished : process.state.isFinished = true) (site : Site) (job : Job α) :
    process.run site job = (.error (.terminated process.pid), process, site) := by
  unfold run
  rw [isAlive_of_finished finished]
  rfl

theorem runReporting_finished (finished : process.state.isFinished = true) (site : Site)
    (job : Job α) :
    process.runReporting site job = (.error (.terminated process.pid), process, site) := by
  unfold runReporting
  rw [run_finished finished]
  rfl

/-- The end of a process is marked once. -/
theorem markTerminated_finished {life : Lifecycle} (finished : life.isFinished = true)
    (terminals : Terminals) : life.markTerminated terminals = (false, life, terminals) := by
  unfold Lifecycle.markTerminated
  rw [if_pos finished]

/-- **To end a process once more is not to be seen.** -/
theorem terminate_finished (finished : process.state.isFinished = true) (site : Site) :
    (process.terminate site).2 = site ∧ (process.terminate site).1.pid = process.pid ∧
      (process.terminate site).1.state = process.state ∧
      (process.terminate site).1.status = process.status := by
  have ending (executor : Executor) (middle : SyscallContext)
      (pid : middle.pid = process.resident.pid)
      (shutting : middle.lifecycle = { process.resident.lifecycle with shuttingDown := true })
      (outside : middle.toSite = site) :
      let marked := middle.lifecycle.markTerminated middle.terminals
      let after := process.reassemble executor
        { middle with lifecycle := marked.2.1, terminals := marked.2.2 }
      after.2 = site ∧ after.1.pid = process.pid ∧ after.1.state = process.state ∧
        after.1.status = process.status := by
    have spent : middle.lifecycle.isFinished = true := by
      rw [shutting]
      exact finished
    rw [markTerminated_finished spent]
    refine ⟨outside, pid, ?_, ?_⟩
    · show middle.lifecycle.state = _
      rw [shutting]
      rfl
    · show middle.lifecycle.status = _
      rw [shutting]
      rfl
  unfold terminate Lifecycle.beginShutdown
  dsimp only
  split
  · generalize process.resident.gate.endOutside = ended
    rcases ended with ⟨_ | _, gate⟩
    · exact ending process.executor (.of { process.resident with
        lifecycle := { process.resident.lifecycle with shuttingDown := true }
        interrupt := process.resident.interrupt.cancel
        gate } site) rfl rfl rfl
    · exact ending process.executor.destroy (.of { process.resident with
        fds := process.resident.fds.clearAll
        lifecycle := { process.resident.lifecycle with shuttingDown := true }
        interrupt := process.resident.interrupt.cancel
        gate } site) rfl rfl rfl
  · exact ⟨rfl, rfl, rfl, rfl⟩

/-- **Every operation on a process that has ended comes too late.** -/
theorem declined_of_finished (finished : process.state.isFinished = true) (operation : Operation)
    (site : Site) :
    Turn.Declined process ⟨operation, process, site⟩ ∧
      (operation.perform process site).1.pid = process.pid := by
  -- most operations leave the process itself as it was
  have refused {operation : Operation}
      (answer : operation.answer process site = operation.declined process.pid)
      (left : operation.perform process site = (process, site)) :
      Turn.Declined process ⟨operation, process, site⟩ ∧
        (operation.perform process site).1.pid = process.pid := by
    refine ⟨⟨answer, fun _ => ?_, ?_, ?_, ?_⟩, ?_⟩
    · exact congrArg Prod.fst left
    · exact congrArg (fun after => after.1.state) left
    · exact congrArg (fun after => after.1.status) left
    · exact congrArg Prod.snd left
    · exact congrArg (fun after => after.1.pid) left
  cases operation with
  | execute files =>
    refine refused rfl ?_
    show process.execute site files = _
    unfold execute
    rw [run_finished finished]
    rfl
  | load files path =>
    have ended : process.load site files path = _ := runReporting_finished finished site _
    exact refused (congrArg Prod.fst ended) (congrArg Prod.snd ended)
  | invoke name args =>
    have ended : process.invoke site name args = _ := runReporting_finished finished site _
    exact refused (congrArg Prod.fst ended) (congrArg Prod.snd ended)
  | withFds α work =>
    have ended : process.withFds site work = _ := run_finished finished site _
    exact refused (congrArg Prod.fst ended) (congrArg Prod.snd ended)
  | signal number =>
    cases known : Signal.ofNumber? number with
    | none =>
      have ended : process.signal site number = (.error (.signal (.invalid number)), process, site) := by
        unfold ScriptProcess.signal
        rw [known]
      refine refused ?_ (congrArg Prod.snd ended)
      simp only [Operation.answer, Operation.declined, ended, known]
      rfl
    | some signal =>
      have ended : process.signal site number = (.error (.terminated process.pid), process, site) := by
        unfold ScriptProcess.signal
        simp only [known, isAlive_of_finished finished, Bool.not_false, if_true]
      refine refused ?_ (congrArg Prod.snd ended)
      simp only [Operation.answer, Operation.declined, ended, known]
      rfl
  | setVariable name value => exact ⟨⟨rfl, nofun, rfl, rfl, rfl⟩, rfl⟩
  | terminate =>
    obtain ⟨same, pid, state, status⟩ := terminate_finished finished site
    exact ⟨⟨rfl, nofun, state, status, same⟩, pid⟩

end ScriptProcess

/-- **Every turn of a history that begins behind the end comes too late.** -/
theorem History.declined {between : ScriptProcess → Site → Site → Prop} {process now : ScriptProcess}
    {site here : Site} {turns : List Turn} (finished : process.state.isFinished = true)
    (history : History between process site turns now here) :
    (∀ turn ∈ turns, turn.Declined process) ∧ now.pid = process.pid ∧ now.state = process.state ∧
      now.status = process.status := by
  induction history with
  | start => exact ⟨fun _ none => absurd none List.not_mem_nil, rfl, rfl, rfl⟩
  | @turn turns now here operation _ ih =>
    obtain ⟨earlier, pid, state, status⟩ := ih
    have spent : now.state.isFinished = true := by
      rw [state]
      exact finished
    obtain ⟨⟨answer, undone, stays, keeps, site⟩, same⟩ :=
      ScriptProcess.declined_of_finished spent operation here
    refine ⟨fun turn taken => ?_, same.trans pid, stays.trans state, keeps.trans status⟩
    rcases List.mem_append.mp taken with before | last
    · exact earlier turn before
    · rw [List.mem_singleton.mp last]
      rw [pid] at answer
      exact ⟨answer, undone, stays.trans state, keeps.trans status, site⟩
  | meanwhile _ _ ih => exact ih

/-- Where nothing else happens, nothing outside the process changes any more. -/
theorem History.site_eq {process now : ScriptProcess} {site here : Site} {turns : List Turn}
    (finished : process.state.isFinished = true)
    (history : History (fun _ _ _ => False) process site turns now here) : here = site := by
  induction history with
  | start => rfl
  | @turn turns now here operation earlier ih =>
    obtain ⟨-, -, state, -⟩ := earlier.declined finished
    have spent : now.state.isFinished = true := by
      rw [state]
      exact finished
    exact (ScriptProcess.declined_of_finished spent operation here).1.site.trans ih
  | meanwhile _ never => exact never.elim

/-! ### Calls that overlap -/

namespace ScriptProcess

variable {α : Type}

/-- A consequence of a refusal: it is reported, or the process is ended once more. -/
def Consequence.IsIdle (pid : Pid) : Consequence → Prop
  | .report error => error = .terminated pid
  | .record _ => False
  | .terminate => True

/-- **A call that has come too late**: it never gets to the queue, and all it is told is that the process has
ended. -/
structure Call.Belated (pid : Pid) (call : Call α) : Prop where
  progress : call.progress = .outside ∨ call.progress.isPast = true
  todo : ∀ consequence ∈ call.progress.todo, consequence.IsIdle pid
  answer : ∀ answer, call.answer = some answer → answer = .error (.terminated pid)

namespace Crowd

/-- A process with calls that have not begun, and with no job at work. -/
structure Unbegun (crowd : Crowd α) : Prop where
  phase : crowd.phase = .checking
  calls : ∀ call ∈ crowd.calls, call.progress = .outside ∧ call.answer = none

/-- **Calls that are all turned away**: no job was at work, the process stands as before, and nothing outside it has
changed. -/
structure Declines (before after : Crowd α) : Prop where
  ran : after.ran = before.ran
  state : after.process.state = before.process.state
  status : after.process.status = before.process.status
  site : after.site = before.site
  answers : ∀ call ∈ after.calls, ∀ answer, call.answer = some answer →
    answer = .error (.terminated before.process.pid)

/-- **A process that has ended, in the middle of calls that came later.** -/
structure Over (origin crowd : Crowd α) : Prop where
  finished : origin.process.state.isFinished = true
  pid : crowd.process.pid = origin.process.pid
  state : crowd.process.state = origin.process.state
  status : crowd.process.status = origin.process.status
  site : crowd.site = origin.site
  ran : crowd.ran = origin.ran
  phase : crowd.phase = .checking ∨
    crowd.phase = .replying (.error (.terminated origin.process.pid))
  calls : ∀ call ∈ crowd.calls, call.Belated origin.process.pid

variable {origin crowd after : Crowd α}

namespace Over

theorem life (spent : Over origin crowd) : crowd.life.isFinished = true := by
  have finished := spent.finished
  rw [← spent.state] at finished
  exact finished

theorem isAlive (spent : Over origin crowd) : crowd.process.isAlive = false :=
  isAlive_of_finished spent.life

/-- A call in progress came too late. -/
theorem belated (spent : Over origin crowd) {number : Nat} {call : Call α}
    (here : crowd.calls[number]? = some call) : call.Belated origin.process.pid :=
  spent.calls call (List.mem_of_getElem? here)

/-- One call comes further, and the others stay where they are. -/
theorem modify (spent : Over origin crowd) {number : Nat} {change : Call α → Call α}
    (belated : ∀ call, call.Belated origin.process.pid → (change call).Belated origin.process.pid) :
    ∀ call ∈ crowd.calls.modify number change, call.Belated origin.process.pid := by
  intro call member
  obtain ⟨place, inside, rfl⟩ := List.getElem_of_mem member
  have within : place < crowd.calls.length := by simpa using inside
  have before := spent.calls crowd.calls[place] (List.getElem_mem within)
  rw [List.getElem_modify]
  split
  · exact belated _ before
  · exact before

/-- A caller goes on with what it has still to do. -/
theorem progress (spent : Over origin crowd) (number : Nat) {progress : Progress}
    (past : progress.isPast = true)
    (todo : ∀ consequence ∈ progress.todo, consequence.IsIdle origin.process.pid) :
    ∀ call ∈ (crowd.progress number progress).calls, call.Belated origin.process.pid :=
  spent.modify fun _ before => ⟨.inr past, todo, before.answer⟩

/-- A call begins, and hears at once that the process has ended. -/
theorem look (spent : Over origin crowd) {number : Nat} (taken : crowd.look number = some after) :
    Over origin after := by
  unfold Crowd.look at taken
  split at taken
  · cases taken
    refine { spent with calls := spent.progress number rfl ?_ }
    intro consequence here
    rw [List.mem_singleton.mp here]
    trivial
  · rename_i errand _ _ _
    rw [spent.isAlive] at taken
    cases taken
    refine { spent with calls := spent.modify fun call before => ⟨.inr rfl, ?_, ?_⟩ }
    · show ∀ consequence ∈ errand.after crowd.process.faultPolicy (.error _), _
      unfold Errand.after
      intro consequence here
      dsimp only at here
      split at here
      · rw [List.mem_singleton.mp here]
        exact congrArg ProcessError.terminated spent.pid
      · cases here
    · rintro _ ⟨⟩
      rw [spent.pid]
  · cases taken

/-- No call hears from the queue, since none is handed to it. -/
theorem learn (spent : Over origin crowd) {number : Nat} (taken : crowd.learn number = some after) :
    False := by
  unfold Crowd.learn at taken
  split at taken
  case h_4 => cases taken
  all_goals
    rcases (spent.belated ‹crowd.calls[number]? = some _›).progress with outside | past
    · cases outside
    · cases past

/-- **What a caller still does is not to be seen.** -/
theorem act (spent : Over origin crowd) {number : Nat} (taken : crowd.act number = some after) :
    Over origin after := by
  have goesOn {first : Consequence} {todo : List Consequence} {call : Call α}
      (belated : call.Belated origin.process.pid) (here : call.progress.todo = first :: todo) :
      first.IsIdle origin.process.pid ∧
        ∀ consequence ∈ todo, consequence.IsIdle origin.process.pid := by
    have idle := belated.todo
    rw [here] at idle
    exact List.forall_mem_cons.mp idle
  unfold Crowd.act at taken
  split at taken
  · rename_i error todo _ _ here
    obtain ⟨first, rest⟩ := goesOn (spent.belated here) rfl
    cases taken
    refine { spent with calls := spent.progress number rfl rest, site := ?_ }
    have told : error = .terminated origin.process.pid := first
    rw [told]
    exact spent.site
  · rename_i here
    exact (goesOn (spent.belated here) rfl).1.elim
  · rename_i todo _ _ here
    obtain ⟨-, rest⟩ := goesOn (spent.belated here) rfl
    dsimp only at taken
    cases taken
    refine { spent with calls := spent.progress number ?_ ?_ }
    · split <;> rfl
    · split <;> exact rest
  · rename_i here
    cases taken
    exact { spent with calls := spent.progress number rfl (spent.belated here).todo }
  · rename_i here
    split at taken
    · dsimp only at taken
      rw [markTerminated_finished spent.life] at taken
      cases taken
      exact { spent with calls := spent.progress number rfl (spent.belated here).todo }
    · cases taken
  · cases taken

/-- **The worker refuses what it still finds in the queue.** -/
theorem work (spent : Over origin crowd) {way : Nat} (taken : crowd.work way = some after) :
    Over origin after := by
  unfold Crowd.work at taken
  split at taken
  · cases serves_of_serve taken with
    | refuse =>
      exact { spent with phase := .inr (congrArg (fun pid => Phase.replying (.error (.terminated pid))) spent.pid) }
    | accept _ unfinished => exact absurd spent.life (by rw [unfinished]; exact Bool.false_ne_true)
    | reply replying =>
      refine { spent with phase := .inl rfl, calls := spent.modify fun call before => ?_ }
      exact ⟨before.progress, before.todo, before.answer⟩
    | start phase | perform phase | stop phase | settle phase | leave phase | exit phase =>
      rcases spent.phase with checking | replying
      · rw [phase] at checking
        cases checking
      · rw [phase] at replying
        cases replying
  · obtain ⟨queue, -, rfl⟩ := Option.map_eq_some_iff.mp taken
    exact { spent with }
  · cases taken

/-- **Every step keeps a process that has ended as it is.** -/
theorem step (spent : Over origin crowd) {move : Move} (taken : crowd.step move = some after) :
    Over origin after := by
  cases move with
  | look number => exact spent.look taken
  | queue move =>
    have moved : crowd.enqueue move = some after := taken
    unfold enqueue at moved
    split at moved
    · obtain ⟨queue, -, rfl⟩ := Option.map_eq_some_iff.mp moved
      exact { spent with }
    · cases moved
  | learn number => exact (spent.learn taken).elim
  | act number => exact spent.act taken
  | work way => exact spent.work taken

theorem run (spent : Over origin crowd) (schedule : List Move) : Over origin (crowd.run schedule) := by
  induction schedule generalizing crowd with
  | nil => exact spent
  | cons move rest ih =>
    refine ih ?_
    show Over origin ((crowd.step move).getD crowd)
    cases taken : crowd.step move with
    | none => exact spent
    | some after => exact spent.step taken

end Over

/-- A process that has ended, before anything more is asked of it. -/
theorem Unbegun.spent (unbegun : crowd.Unbegun) (finished : crowd.process.state.isFinished = true) :
    Over crowd crowd := by
  refine ⟨finished, rfl, rfl, rfl, rfl, rfl, .inl unbegun.phase, fun call member => ?_⟩
  obtain ⟨outside, unanswered⟩ := unbegun.calls call member
  refine ⟨.inl outside, ?_, ?_⟩
  · rw [outside]
    exact nofun
  · rw [unanswered]
    exact nofun

/-- No call has begun where all are new. -/
theorem fresh_unbegun (process : ScriptProcess) (site : Site) (capacity : Nat) (tasks : List (Task α)) :
    (fresh process site capacity tasks).process = process ∧
      (fresh process site capacity tasks).site = site ∧
      (fresh process site capacity tasks).Unbegun := by
  refine ⟨rfl, rfl, rfl, fun call member => ?_⟩
  obtain ⟨task, -, rfl⟩ := List.mem_map.mp member
  exact ⟨rfl, rfl⟩

end Crowd

end ScriptProcess

open ScriptProcess (Crowd Move)

/-- **The end of a process is final.** Whichever way it ended: in every history that begins behind the end each
operation is answered that it has ended (or that a number is no signal), without any trace of the work, and leaves
state, status, terminals and reports as they were; and where later calls overlap, with any steps in any order, no job
gets to work any more. -/
theorem declined_after_end {process : ScriptProcess} (finished : process.state.isFinished = true)
    (site : Site) :
    (∀ (between : ScriptProcess → Site → Site → Prop) (turns : List Turn) (now : ScriptProcess)
        (here : Site), History between process site turns now here →
      (∀ turn ∈ turns, turn.Declined process) ∧ now.state = process.state ∧
        now.status = process.status) ∧
    (∀ (turns : List Turn) (now : ScriptProcess) (here : Site),
      History (fun _ _ _ => False) process site turns now here → here = site) ∧
    ∀ (α : Type) (crowd : Crowd α) (schedule : List Move), crowd.process = process →
      crowd.site = site → crowd.Unbegun → crowd.Declines (crowd.run schedule) := by
  refine ⟨fun between turns now here history => ?_, fun turns now here history =>
    history.site_eq finished, fun α crowd schedule same _ unbegun => ?_⟩
  · obtain ⟨declined, -, state, status⟩ := history.declined finished
    exact ⟨declined, state, status⟩
  · have spent := (unbegun.spent (same ▸ finished)).run schedule
    exact ⟨spent.ran, spent.state, spent.status, spent.site,
      fun call member => (spent.calls call member).answer⟩

/-- A process that has exited. -/
def ScriptProcess.departed : ScriptProcess :=
  (Operation.perform (.invoke "exit" [Json.nat 3]) single .single).1

/-- What is asked of it later, each by a caller of its own. -/
def lateTasks : List (ScriptProcess.Task Unit) :=
  [.run {
    job := fun _ executor context => (some (.ok ()), executor, context)
    plain := by
      intro _ _ _ _ failed
      have same : Except.ok () = Except.error _ := Option.some.inj failed
      cases same }, .terminate]

/-- An exited process is signalled, its slots are asked for, and it is ended once more; then a job and another end
come at the same time. -/
theorem declined_after_exit :
    ScriptProcess.departed.state = .exited ∧
      (∃ turns now here,
        History (fun _ _ _ => False) ScriptProcess.departed .single turns now here ∧
        turns.length = 3 ∧ (∀ turn ∈ turns, turn.Declined ScriptProcess.departed) ∧
        now.status = .exited 3 ∧ here = Site.single) ∧
      ∀ schedule,
        let crowd := Crowd.fresh ScriptProcess.departed .single 1 lateTasks
        crowd.Declines (crowd.run schedule) := by
  have finished : ScriptProcess.departed.state.isFinished = true := by decide +kernel
  obtain ⟨told, outside, together⟩ := declined_after_end finished .single
  have history : History (fun _ _ _ => False) ScriptProcess.departed .single _ _ _ :=
    ((History.start.turn (.signal 9)).turn (.withFds Unit fun fds => ((), fds))).turn .terminate
  refine ⟨by decide +kernel, ⟨_, _, _, history, rfl, ?_, ?_, outside _ _ _ history⟩, fun schedule => ?_⟩
  · exact (told _ _ _ _ history).1
  · have status : ScriptProcess.departed.status = .exited 3 := by decide +kernel
    exact (told _ _ _ _ history).2.2.trans status
  · obtain ⟨same, here, unbegun⟩ := Crowd.fresh_unbegun ScriptProcess.departed .single 1 lateTasks
    exact together Unit _ schedule same here unbegun

end ScriptKernel
