/-
**A caller that is alone.**

With one caller at a time the steps of callers, of the queue and of the worker come to the whole of a call, as it is
made on a process between jobs.

* `Crowd.run_serving`: the steps of the worker with a job are the job with its guard;
* `Crowd.run_alone`: **a job that is handed in, served and answered is a run of the job**;
* `Crowd.run_ending`, `terminate_alone`: **a call that ends the process in steps ends it**;
* `Crowd.run_concluding`: a caller that draws the consequences of an execution one after the other concludes it;
* `Crowd.execute_alone`: so **a call that executes the script is an execution**, under either policy.
-/

import ScriptKernel.Proofs.Process.Served
import ScriptKernel.Proofs.Process.Standing

set_option autoImplicit false

namespace ScriptKernel.ScriptProcess

variable {α : Type} {process : ScriptProcess} {site : Site}

namespace Crowd

variable {crowd after : Crowd α} {move : Move}

/-! ### Steps that are taken -/

/-- A schedule whose first step is taken. -/
theorem run_cons (taken : crowd.step move = some after) (rest : List Move) :
    crowd.run (move :: rest) = after.run rest := by
  show List.foldl _ ((crowd.step move).getD crowd) rest = _
  rw [taken]
  rfl

/-- A schedule whose first step cannot be taken. -/
theorem run_cons_none (refused : crowd.step move = none) (rest : List Move) :
    crowd.run (move :: rest) = crowd.run rest := by
  show List.foldl _ ((crowd.step move).getD crowd) rest = _
  rw [refused]
  rfl

/-- The gate of a process tells what its queue tells. -/
theorem requeue_eq {queue : Queue.Crowd Unit Unit}
    (closed : queue.closed = crowd.process.resident.gate.closed)
    (joined : queue.joined = crowd.process.resident.gate.joined)
    (stopped : decide (queue.stage = .stopped) = crowd.process.resident.gate.stopped) :
    crowd.requeue queue = { crowd with queue } := by
  unfold requeue
  rw [closed, joined, stopped]

/-- A queue that takes jobs, and a worker that is there. -/
structure Open (gate : QueueGate) : Prop where
  closed : gate.closed = false
  joined : gate.joined = false
  stopped : gate.stopped = false

/-- **A step of a queue that goes on.** -/
theorem step_queue {move : Queue.Move} {queue : Queue.Crowd Unit Unit}
    (opened : Open crowd.process.resident.gate) (permitted : crowd.permits move = true)
    (taken : crowd.queue.step move = some queue)
    (goesOn : queue.closed = false ∧ queue.joined = false ∧ decide (queue.stage = .stopped) = false) :
    crowd.step (.queue move) = some { crowd with queue } := by
  show crowd.enqueue move = _
  unfold enqueue
  rw [if_pos permitted, taken]
  obtain ⟨closed, joined, stays⟩ := goesOn
  exact congrArg some (requeue_eq (closed.trans opened.closed.symm)
    (joined.trans opened.joined.symm) (stays.trans opened.stopped.symm))

/-! ### One job -/

/-- A queue with one submission and one shutdown, as long as nothing ends it. -/
def lone (capacity : Nat) (progress : Queue.Progress Unit) (reply : Queue.Reply Unit)
    (channel : List Queue.Message) (stage : Queue.Stage) (log : List Queue.Event) :
    Queue.Crowd Unit Unit where
  capacity
  state := ()
  submissions := [⟨fun _ => (some (), ()), false, progress, reply⟩]
  closings := [{ last := id }]
  channel
  stage
  log

/-- The steps by which a job comes to the worker. -/
def coming : List Move :=
  [.look 0, .queue (.accept 0), .queue (.send 0), .queue .receive, .queue .begin]

/-- A caller and its job, which the worker has begun. -/
def served (process : ScriptProcess) (site : Site) (capacity : Nat) (errand : Errand α) : Crowd α where
  process
  site
  queue := lone capacity .waiting .pending [] (.running (.job 0)) [.entered (.job 0), .began (.job 0)]
  calls := [⟨.run errand, .submitting, none, none⟩]

theorem ready_open (ready : process.Ready) : Open process.resident.gate :=
  ⟨ready.opened, ready.unjoined, ready.working⟩

/-- A job of a process that takes work comes to the worker. -/
theorem run_coming (ready : process.Ready) {capacity : Nat} (room : 0 < capacity) (errand : Errand α) :
    (fresh process site capacity [.run errand]).run coming = served process site capacity errand := by
  have opened := ready_open ready
  have looked : (fresh process site capacity [.run errand]).step (.look 0) = some
      { process, site
        queue := lone capacity .outside .pending [] .idle []
        calls := [⟨.run errand, .submitting, none, none⟩] } := by
    show (if process.isAlive then _ else _) = _
    rw [ready.isAlive]
    rfl
  have sent : (lone capacity .accepted .pending [] .idle []).step (.send 0) =
      some (lone capacity .waiting .pending [.job 0] .idle [.entered (.job 0)]) := by
    show (if decide (0 < capacity) = true then _ else _) = _
    rw [if_pos (decide_eq_true room)]
    rfl
  refine (run_cons looked _).trans ?_
  refine (run_cons (step_queue opened rfl rfl ⟨rfl, rfl, rfl⟩) _).trans ?_
  refine (run_cons (step_queue opened rfl sent ⟨rfl, rfl, rfl⟩) _).trans ?_
  refine (run_cons (step_queue opened rfl rfl ⟨rfl, rfl, rfl⟩) _).trans ?_
  exact run_cons (step_queue opened rfl rfl ⟨rfl, rfl, rfl⟩) _

/-- A caller whose job the worker has served. -/
def replied (process : ScriptProcess) (site : Site) (capacity : Nat) (errand : Errand α)
    (answer : Except ProcessError α) (ran : List Stint) : Crowd α where
  process
  site
  queue := lone capacity .waiting (.sent ()) [] .idle
    [.entered (.job 0), .began (.job 0), .finished (.job 0)]
  calls := [⟨.run errand, .submitting, some answer, none⟩]
  ran

/-- The worker replies. -/
theorem step_reply (opened : Open process.resident.gate) (capacity : Nat) (errand : Errand α)
    (answer : Except ProcessError α) (ran : List Stint) :
    ({ served process site capacity errand with
      phase := .replying answer
      ran } : Crowd α).step (.work 0) = some (replied process site capacity errand answer ran) := by
  let crowd : Crowd α := { served process site capacity errand with phase := .replying answer, ran }
  let queue : Queue.Crowd Unit Unit := (replied process site capacity errand answer ran).queue
  have same : crowd.requeue queue = { crowd with queue } :=
    requeue_eq opened.closed.symm opened.joined.symm opened.stopped.symm
  show some { crowd.requeue queue with
    calls := [⟨.run errand, .submitting, some answer, none⟩]
    phase := .checking } = _
  rw [same]
  rfl

/-- The process as a job has left it. -/
def workedOn (process : ScriptProcess) (left : Executor × SyscallContext) : ScriptProcess :=
  { process with executor := left.1, resident := left.2.toResident }

section Worker

variable {crowd : Crowd α} {number way : Nat} {answer : Except ProcessError α}

/-- The worker goes on with its job. -/
theorem step_serve (running : crowd.queue.stage = .running (.job number)) :
    crowd.step (.work way) = crowd.serve number way := by
  show crowd.work way = _
  unfold work
  rw [running]

/-- A job that answers. -/
theorem step_perform {errand : Errand α} {progress : Progress}
    {outcome told : Option (Except ProcessError α)} {left : Executor × SyscallContext}
    (running : crowd.queue.stage = .running (.job number)) (working : crowd.phase = .working)
    (listed : crowd.calls[number]? = some ⟨.run errand, progress, outcome, told⟩)
    (ended : errand.job way crowd.process.executor crowd.context = (some answer, left)) :
    crowd.step (.work way) = some { crowd.reassemble left.1 left.2 with
      phase := .stopping answer
      ran := crowd.ran ++ [⟨number, way, crowd.process.executor, crowd.context, left.2⟩] } := by
  rw [step_serve running]
  unfold serve
  rw [working]
  dsimp only
  unfold perform
  rw [listed]
  dsimp only
  rw [ended]

/-- Nothing has asked to exit. -/
theorem step_settle (running : crowd.queue.stage = .running (.job number))
    (settling : crowd.phase = .settling answer)
    (asked : crowd.process.resident.interrupt.exitCode = none) :
    crowd.step (.work way) = some { crowd with phase := .replying answer } := by
  rw [step_serve running]
  unfold serve
  rw [settling]
  dsimp only
  rw [asked]

/-- An exit has been asked for. -/
theorem step_exit {code : ExitCode} (running : crowd.queue.stage = .running (.job number))
    (settling : crowd.phase = .settling answer)
    (asked : crowd.process.resident.interrupt.exitCode = some code) :
    crowd.step (.work way) = some { crowd with phase := .exiting answer code } := by
  rw [step_serve running]
  unfold serve
  rw [settling]
  dsimp only
  rw [asked]

end Worker

/-- **The steps of the worker with a job are the job with its guard.** -/
theorem run_serving (ready : process.Ready) {capacity : Nat} {errand : Errand α}
    {answer : Except ProcessError α} {left : Executor × SyscallContext}
    (ended : errand.job 0 process.executor (process.handed site) = (some answer, left))
    (life : left.2.lifecycle = process.resident.lifecycle.setRunning true)
    (gate : left.2.gate = process.resident.gate) :
    (served process site capacity errand).run (List.replicate 7 (.work 0)) =
      replied (process.afterwards left).1 (process.afterwards left).2 capacity errand answer
        [⟨0, 0, process.executor, process.handed site, left.2⟩] := by
  let stint : Stint := ⟨0, 0, process.executor, process.handed site, left.2⟩
  let running : ScriptProcess := { process with
    resident := { process.resident with lifecycle := process.resident.lifecycle.setRunning true } }
  let rested : ScriptProcess := { process with
    executor := left.1
    resident := { left.2.toResident with lifecycle := process.resident.lifecycle } }
  have admitted : (served process site capacity errand).step (.work 0) =
      some { served process site capacity errand with phase := .starting } := by
    show (if process.resident.lifecycle.isFinished then _ else _) = _
    rw [ready.isFinished]
    rfl
  have worked : ({ served running site capacity errand with phase := .working } : Crowd α).step
      (.work 0) = some { served (workedOn process left) left.2.toSite capacity errand with
        phase := .stopping answer
        ran := [stint] } := step_perform rfl rfl rfl ended
  have stopped : ({ served (workedOn process left) left.2.toSite capacity errand with
      phase := .stopping answer
      ran := [stint] } : Crowd α).step (.work 0) = some { served rested left.2.toSite capacity errand with
        phase := .settling answer
        ran := [stint] } := by
    show some { served { process with
        executor := left.1
        resident := { left.2.toResident with lifecycle := left.2.lifecycle.setRunning false } }
      left.2.toSite capacity errand with
        phase := .settling answer
        ran := [stint] } = _
    rw [life, setRunning_setRunning ready.state]
  refine (run_cons admitted _).trans ?_
  refine (run_cons rfl _).trans ?_
  refine (run_cons worked _).trans ?_
  refine (run_cons stopped _).trans ?_
  have opened : Open left.2.gate := gate ▸ ready_open ready
  cases asked : left.2.interrupt.exitCode with
  | none =>
    have settled : ({ served rested left.2.toSite capacity errand with
        phase := .settling answer
        ran := [stint] } : Crowd α).step (.work 0) = some { served rested left.2.toSite capacity errand with
          phase := .replying answer
          ran := [stint] } := step_settle rfl rfl asked
    have same : process.afterwards left = (rested, left.2.toSite) := by
      unfold afterwards
      rw [asked]
    rw [same]
    refine (run_cons settled _).trans ?_
    refine (run_cons (step_reply opened capacity errand answer _) _).trans ?_
    exact run_cons_none rfl _
  | some code =>
    let leaving : Crowd α := { served rested left.2.toSite capacity errand with
      phase := .exiting answer code
      ran := [stint] }
    have settled : ({ leaving with phase := .settling answer } : Crowd α).step (.work 0) =
        some leaving := step_exit rfl rfl asked
    have same : leaving.exited code =
        { served (process.afterwards left).1 (process.afterwards left).2 capacity errand with
          phase := .exiting answer code
          ran := [stint] } := by
      have held : leaving.life = process.resident.lifecycle := rfl
      unfold exited afterwards
      rw [asked, held, markExited_setRunning ready.state]
      rfl
    have exited : leaving.step (.work 0) =
        some { served (process.afterwards left).1 (process.afterwards left).2 capacity errand with
          phase := .replying answer
          ran := [stint] } := by
      show some { leaving.exited code with phase := .replying answer } = _
      rw [same]
    have still : Open (process.afterwards left).1.resident.gate := by
      unfold afterwards
      rw [asked]
      exact opened
    refine (run_cons settled _).trans ?_
    refine (run_cons exited _).trans ?_
    exact run_cons (step_reply still capacity errand answer _) _

/-- All the steps of a call with a job. -/
def calling : List Move :=
  coming ++ (List.replicate 7 (.work 0) ++ [.queue (.hear 0), .learn 0])

theorem run_append (crowd : Crowd α) (first second : List Move) :
    crowd.run (first ++ second) = (crowd.run first).run second := List.foldl_append

/-- A job leaves a ready process with a queue that takes jobs, and does not begin its end. -/
theorem open_afterwards (ready : process.Ready) {left : Executor × SyscallContext}
    (keeps : process.executor.Keeps (process.handed site) left) :
    Open (process.afterwards left).1.resident.gate ∧
      (process.afterwards left).1.resident.lifecycle.shuttingDown = false := by
  refine ⟨gate_afterwards keeps ▸ ready_open ready, ?_⟩
  unfold afterwards
  split <;> exact ready.staying

/-- **A call with a job, in all its steps, is a run of the job.** -/
theorem run_alone (ready : process.Ready) (site : Site) {errand : Errand α}
    (tame : Job.Tame process.executor.table (errand.job 0)) {capacity : Nat} (room : 0 < capacity) :
    ∃ answer left, process.executor.Keeps (process.handed site) left ∧
      process.run site (errand.job 0) = (answer, process.afterwards left) ∧
      (fresh process site capacity [.run errand]).run calling =
        { process := (process.afterwards left).1
          site := (process.afterwards left).2
          queue := lone capacity (.answered (.ok ())) (.sent ()) [] .idle
            [.entered (.job 0), .began (.job 0), .finished (.job 0)]
          calls := [⟨.run errand, .left (errand.after process.faultPolicy answer), some answer,
            some answer⟩]
          ran := [⟨0, 0, process.executor, process.handed site, left.2⟩] } := by
  obtain ⟨answer, left, ended, keeps, run⟩ := run_ready ready tame site
  refine ⟨answer, left, keeps, run, ?_⟩
  obtain ⟨opened, -⟩ := open_afterwards ready keeps
  unfold calling
  rw [run_append, run_coming ready room, run_append,
    run_serving ready ended keeps.carried.lifecycle keeps.carried.gate]
  rw [← (lasting_afterwards keeps).faultPolicy]
  refine (run_cons (step_queue opened rfl rfl ⟨rfl, rfl, rfl⟩) _).trans ?_
  exact run_cons rfl _

/-! ### The end -/

theorem step_requeue {move : Queue.Move} {queue : Queue.Crowd Unit Unit}
    (permitted : crowd.permits move = true) (taken : crowd.queue.step move = some queue) :
    crowd.step (.queue move) = some (crowd.requeue queue) := by
  show crowd.enqueue move = _
  unfold enqueue
  rw [if_pos permitted, taken]
  rfl

/-- Every step of the queue is shown by the gate of the process. -/
theorem step_again {move : Queue.Move} {queue later : Queue.Crowd Unit Unit}
    (permitted : (crowd.requeue queue).permits move = true) (taken : queue.step move = some later) :
    (crowd.requeue queue).step (.queue move) = some (crowd.requeue later) :=
  step_requeue permitted taken

section

variable {capacity : Nat} {submissions : List (Queue.Submission Unit Unit)} {log : List Queue.Event}
  {ran : List Stint} {call : Call α} {todo : List Consequence}

/-- A queue between jobs, with one shutdown that has not begun. -/
def quiet (capacity : Nat) (submissions : List (Queue.Submission Unit Unit)) (log : List Queue.Event) :
    Queue.Crowd Unit Unit where
  capacity
  state := ()
  submissions
  closings := [{ last := id }]
  log

/-- The same queue in the middle of the shutdown. -/
def shut (capacity : Nat) (submissions : List (Queue.Submission Unit Unit)) (ending : Queue.Ending)
    (joined : Bool) (channel : List Queue.Message) (stage : Queue.Stage) (log : List Queue.Event) :
    Queue.Crowd Unit Unit where
  capacity
  state := ()
  submissions
  closings := [{ last := id, ending }]
  closed := true
  channel
  stage
  joined
  log

/-- The steps by which a caller waits for the end of the worker. -/
def closing : List Move :=
  [.queue (.beginEnd 0), .queue (.takeHandle 0), .queue (.sendLast 0), .queue .receive,
    .queue .begin, .work 0, .queue .leave, .queue (.join 0)]

/-- A process with one call that has come this far. -/
def single (left : ScriptProcess × Site) (queue : Queue.Crowd Unit Unit) (ran : List Stint)
    (call : Call α) (progress : Progress) : Crowd α where
  process := left.1
  site := left.2
  queue
  calls := [{ call with progress }]
  ran

/-- The worker takes its last job, and the caller sees it go. -/
theorem run_closing (room : 0 < capacity) (left : ScriptProcess × Site) :
    (single left (quiet capacity submissions log) ran call (.ending todo)).run closing =
      (single left (quiet capacity submissions log) ran call (.ending todo)).tornDown.requeue
        (shut capacity submissions .over true [] .stopped
          (log ++ [.entered (.last 0)] ++ [.began (.last 0)] ++ [.finished (.last 0)])) := by
  let here : Crowd α := single left (quiet capacity submissions log) ran call (.ending todo)
  let entered : List Queue.Event := log ++ [.entered (.last 0)]
  let began : List Queue.Event := entered ++ [.began (.last 0)]
  let finished : List Queue.Event := began ++ [.finished (.last 0)]
  have closed : here.step (.queue (.beginEnd 0)) =
      some (here.requeue (shut capacity submissions .closed false [] .idle log)) :=
    step_requeue rfl rfl
  have entitled : (shut capacity submissions .closed false [] .idle log).step (.takeHandle 0) =
      some (shut capacity submissions .entitled true [] .idle log) := rfl
  have sent : (shut capacity submissions .entitled true [] .idle log).step (.sendLast 0) =
      some (shut capacity submissions .joining true [.last 0] .idle entered) := by
    show (if decide (0 < capacity) = true then _ else _) = _
    rw [if_pos (decide_eq_true room)]
    rfl
  have received : (shut capacity submissions .joining true [.last 0] .idle entered).step .receive =
      some (shut capacity submissions .joining true [] (.holding (.last 0)) entered) := rfl
  have begun : (shut capacity submissions .joining true [] (.holding (.last 0)) entered).step .begin =
      some (shut capacity submissions .joining true [] (.running (.last 0)) began) := rfl
  have worked : (here.requeue (shut capacity submissions .joining true [] (.running (.last 0)) began)).step
      (.work 0) = some (here.tornDown.requeue
        (shut capacity submissions .joining true [] .leaving finished)) := rfl
  have left : (shut capacity submissions .joining true [] .leaving finished).step .leave =
      some (shut capacity submissions .joining true [] .stopped finished) := rfl
  have joined : (shut capacity submissions .joining true [] .stopped finished).step (.join 0) =
      some (shut capacity submissions .over true [] .stopped finished) := rfl
  refine (run_cons closed _).trans ?_
  refine (run_cons (step_again rfl entitled) _).trans ?_
  refine (run_cons (step_again rfl sent) _).trans ?_
  refine (run_cons (step_again rfl received) _).trans ?_
  refine (run_cons (step_again rfl begun) _).trans ?_
  refine (run_cons worked _).trans ?_
  refine (run_cons (step_again rfl left) _).trans ?_
  exact run_cons (step_again rfl joined) _

/-- What ending a process whose worker is there comes to. -/
theorem terminate_open (opened : Open process.resident.gate)
    (staying : process.resident.lifecycle.shuttingDown = false) (site : Site) :
    process.terminate site =
      let ended := ({ process.resident.lifecycle with shuttingDown := true } : Lifecycle).markTerminated
        site.terminals
      ({ process with
          executor := process.executor.destroy
          resident := { process.resident with
            fds := process.resident.fds.clearAll
            interrupt := process.resident.interrupt.cancel
            lifecycle := ended.2.1
            gate := { process.resident.gate with closed := true, joined := true, stopped := true } } },
        { site with terminals := ended.2.2 }) := by
  unfold terminate Lifecycle.beginShutdown QueueGate.endOutside
  simp only [staying, opened.joined, opened.stopped, Bool.not_false, if_true, Bool.false_eq_true,
    if_false]
  rfl

/-- All the steps by which a caller ends the process. -/
def ending : List Move := [.act 0, .act 0] ++ (closing ++ [.act 0])

/-- **A caller that ends a process whose worker is there, in all its steps, ends it.** -/
theorem run_ending (room : 0 < capacity) (opened : Open process.resident.gate)
    (staying : process.resident.lifecycle.shuttingDown = false) (site : Site) :
    (single (process, site) (quiet capacity submissions log) ran call
        (.left (.terminate :: todo))).run ending =
      single (process.terminate site)
        (shut capacity submissions .over true [] .stopped
          (log ++ [.entered (.last 0)] ++ [.began (.last 0)] ++ [.finished (.last 0)]))
        ran call (.left todo) := by
  let begun : ScriptProcess := { process with resident := { process.resident with
    lifecycle := { process.resident.lifecycle with shuttingDown := true } } }
  let cancelled : ScriptProcess := { begun with resident := { begun.resident with
    interrupt := process.resident.interrupt.cancel } }
  have first : (single (process, site) (quiet capacity submissions log) ran call
      (.left (.terminate :: todo))).step (.act 0) =
      some (single (begun, site) (quiet capacity submissions log) ran call (.cancelling todo)) := by
    show some (restate (progress _ 0 (if (!process.resident.lifecycle.shuttingDown) = true then _
      else _)) _ _) = _
    rw [staying]
    rfl
  unfold ending
  rw [run_append]
  refine (congrArg (run · _) (run_cons first _)).trans ?_
  refine (congrArg (run · _) (run_cons rfl _)).trans ?_
  rw [run_append]
  refine (congrArg (run · _) (run_closing room (cancelled, site))).trans ?_
  refine (run_cons rfl _).trans ?_
  rw [terminate_open opened staying]
  rfl

end

/-- The process with what it stands in. -/
def left (crowd : Crowd α) : ScriptProcess × Site := (crowd.process, crowd.site)

/-- **A call that ends the process, in all its steps, ends it.** -/
theorem terminate_alone (opened : Open process.resident.gate)
    (staying : process.resident.lifecycle.shuttingDown = false) (site : Site) {capacity : Nat}
    (room : 0 < capacity) :
    ((fresh process site capacity [(.terminate : Task α)]).run (.look 0 :: ending)).left =
      process.terminate site := by
  let call : Call α := { task := .terminate }
  have looked : (fresh process site capacity [(.terminate : Task α)]).step (.look 0) =
      some (single (process, site) (quiet capacity [{ work := fun _ => (some (), ()) }] []) [] call
        (.left [.terminate])) := rfl
  rw [run_cons looked, run_ending room opened staying site]
  rfl

end Crowd

/-! ### Consequences -/

/-- What a consequence makes of a process between jobs. -/
def Consequence.draw (left : ScriptProcess × Site) : Consequence → ScriptProcess × Site
  | .report error => (left.1, left.1.report left.2 error)
  | .record error =>
    let (lifecycle, terminals) :=
      left.1.resident.lifecycle.recordFault error.message left.2.terminals
    ({ left.1 with resident := { left.1.resident with lifecycle } }, { left.2 with terminals })
  | .terminate => left.1.terminate left.2

/-- The consequences of a failure. -/
theorem recordFailure_eq (process : ScriptProcess) (site : Site) (error : ScriptError) :
    process.recordFailure site error =
      (Consequence.ofFailure error).foldl Consequence.draw (process, site) := by
  unfold recordFailure Consequence.ofFailure
  cases error.kind <;> rfl

/-- The consequences of several failures. -/
theorem recordFailures_eq (process : ScriptProcess) (site : Site) (errors : List ScriptError) :
    process.recordFailures site errors =
      (errors.flatMap Consequence.ofFailure).foldl Consequence.draw (process, site) := by
  induction errors generalizing process site with
  | nil => rfl
  | cons error errors ih =>
    rw [List.flatMap_cons, List.foldl_append, ← recordFailure_eq]
    exact ih _ _

/-- **The consequences of an execution** are those of its errors, in order, and perhaps the end. -/
theorem consequences_execution (files : FileSystem) (path : String) (args : List String)
    (policy : FaultPolicy) (execution : Execution) :
    (Errand.execution files path args).consequences policy execution =
      execution.errors.flatMap Consequence.ofFailure ++
        if execution.isFatal policy then [.terminate] else [] := by
  rcases execution with ⟨_ | ⟨⟨⟩⟩, _ | _ | _⟩
  all_goals simp [Errand.execution, Execution.errors, Execution.isFatal]

/-- A failure by itself does not end the process. -/
theorem terminate_not_mem (errors : List ScriptError) :
    .terminate ∉ errors.flatMap Consequence.ofFailure := by
  intro there
  obtain ⟨error, -, here⟩ := List.mem_flatMap.mp there
  unfold Consequence.ofFailure at here
  cases known : error.kind <;> simp [known] at here

namespace Crowd

variable {crowd : Crowd α}

/-- Failures do not close the queue, nor do they begin the end. -/
theorem open_recordFailures {process : ScriptProcess} (opened : Open process.resident.gate)
    (staying : process.resident.lifecycle.shuttingDown = false) (site : Site)
    (errors : List ScriptError) :
    Open (process.recordFailures site errors).1.resident.gate ∧
      (process.recordFailures site errors).1.resident.lifecycle.shuttingDown = false := by
  refine recordFailures_keep (fun left => Open left.1.resident.gate ∧
    left.1.resident.lifecycle.shuttingDown = false) ?_ errors ⟨opened, staying⟩
  rintro process site error ⟨opened, staying⟩
  unfold recordFailure
  dsimp only
  split
  · refine ⟨opened, ?_⟩
    exact (Lifecycle.shuttingDown_recordFault ..).trans staying
  · exact ⟨opened, staying⟩

/-- A caller draws a consequence, other than the end of the process. -/
theorem step_act {number : Nat} {call : Call α} {consequence : Consequence} {todo : List Consequence}
    (here : crowd.calls[number]? = some { call with progress := .left (consequence :: todo) })
    (stays : consequence ≠ .terminate) :
    crowd.step (.act number) = some { crowd.progress number (.left todo) with
      process := (consequence.draw crowd.left).1
      site := (consequence.draw crowd.left).2 } := by
  show crowd.act number = _
  unfold act
  rw [here]
  cases consequence with
  | report | record => rfl
  | terminate => exact absurd rfl stays

/-- The consequences that a caller draws, one after the other. -/
theorem run_acts {call : Call α} {front todo : List Consequence}
    (alone : crowd.calls = [{ call with progress := .left (front ++ todo) }])
    (stays : .terminate ∉ front) :
    crowd.run (List.replicate front.length (.act 0)) = { crowd with
      process := (front.foldl Consequence.draw crowd.left).1
      site := (front.foldl Consequence.draw crowd.left).2
      calls := [{ call with progress := .left todo }] } := by
  induction front generalizing crowd with
  | nil =>
    rw [List.nil_append] at alone
    rw [← alone]
    rfl
  | cons consequence rest ih =>
    have other : consequence ≠ .terminate := fun same => stays (same ▸ .head _)
    have here : crowd.calls[0]? =
        some { call with progress := .left (consequence :: (rest ++ todo)) } := by
      rw [alone]
      rfl
    have later : crowd.calls.modify 0 (fun call => { call with progress := .left (rest ++ todo) }) =
        [{ call with progress := .left (rest ++ todo) }] := by
      rw [alone]
      rfl
    rw [List.length_cons, List.replicate_succ, run_cons (step_act here other)]
    exact ih later fun there => stays (.tail _ there)

/-- **A caller that draws all the consequences of an execution concludes it.** -/
theorem run_concluding {capacity : Nat} {submissions : List (Queue.Submission Unit Unit)}
    {log : List Queue.Event} {ran : List Stint} (call : Call Execution) (room : 0 < capacity)
    (opened : Open process.resident.gate)
    (staying : process.resident.lifecycle.shuttingDown = false) (site : Site) (files : FileSystem)
    (path : String) (args : List String) (execution : Execution) :
    ∃ schedule, ((single (process, site) (quiet capacity submissions log) ran call
      (.left ((Errand.execution files path args).consequences process.faultPolicy execution))).run
        schedule).left = process.conclude site execution := by
  let front : List Consequence := execution.errors.flatMap Consequence.ofFailure
  let ends : List Consequence := if execution.isFatal process.faultPolicy then [.terminate] else []
  have stays : .terminate ∉ front := terminate_not_mem execution.errors
  have drawn : (single (process, site) (quiet capacity submissions log) ran call
      (.left (front ++ ends))).run (List.replicate front.length (.act 0)) =
      single (process.recordFailures site execution.errors) (quiet capacity submissions log) ran call
        (.left ends) := by
    refine (run_acts (rfl : _ = [{ call with progress := .left (front ++ ends) }]) stays).trans ?_
    rw [recordFailures_eq]
    rfl
  obtain ⟨opened, staying⟩ := open_recordFailures opened staying site execution.errors
  rw [consequences_execution, conclude_eq]
  by_cases fatal : execution.isFatal process.faultPolicy = true
  · refine ⟨List.replicate front.length (.act 0) ++ ending, ?_⟩
    have last : ends = [.terminate] := if_pos fatal
    rw [run_append, drawn, if_pos fatal, last, run_ending room opened staying]
    rfl
  · refine ⟨List.replicate front.length (.act 0), ?_⟩
    rw [drawn, if_neg fatal]
    rfl

/-- **A call that executes the script, in all its steps, is an execution.** -/
theorem execute_alone (ready : process.Ready) (site : Site) {files : FileSystem}
    (tame : Job.Tame process.executor.table (executionJob files process.path process.resident.args))
    {capacity : Nat} (room : 0 < capacity) :
    ∃ schedule, ((fresh process site capacity
      [.run (.execution files process.path process.resident.args)]).run schedule).left =
        process.execute site files := by
  let errand : Errand Execution := .execution files process.path process.resident.args
  have tame : Job.Tame process.executor.table (errand.job 0) := tame
  obtain ⟨answer, left, keeps, run, called⟩ := run_alone ready site tame room
  have run : process.run site (executionJob files process.path process.resident.args) =
      (answer, process.afterwards left) := run
  unfold execute
  rw [run]
  cases answer with
  | error error =>
    refine ⟨calling ++ [.act 0], ?_⟩
    rw [run_append, called]
    rfl
  | ok execution =>
    have policy : (process.afterwards left).1.faultPolicy = process.faultPolicy :=
      (lasting_afterwards keeps).faultPolicy
    obtain ⟨opened, staying⟩ := open_afterwards ready keeps
    let call : Call Execution := ⟨.run errand, .outside, some (.ok execution), some (.ok execution)⟩
    obtain ⟨schedule, concluded⟩ := run_concluding call room opened staying
      (process.afterwards left).2 files process.path process.resident.args execution
    refine ⟨calling ++ schedule, ?_⟩
    rw [run_append, called]
    rw [policy] at concluded
    exact concluded

end Crowd

end ScriptKernel.ScriptProcess
