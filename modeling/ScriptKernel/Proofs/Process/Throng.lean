/-
**A process at work, piece by piece.**

* `Course.Gentle`: a job that tells of nothing but its beginning and leaves how its process stands to others; every
  demand is for one (`Demand.gentle`);
* `Guarded.transfer`: what keeps a process guarded without a step of a party;
* `Throng.Sheltered`: **a process whose end no other party brings while a piece is at work**, as `Crowd.Guarded` says
  of jobs at once; every step keeps this (`Sheltered.step`).
-/

import ScriptKernel.Proofs.Process.Life
import ScriptKernel.Proofs.Process.Piece
import ScriptKernel.Proofs.Process.Served

set_option autoImplicit false

namespace ScriptKernel

open SyscallContext (Lived)

/-! ### What a job does to how its process stands -/

/-- **What a piece of a job leaves of its process**: how it stands, and its host functions. -/
structure Gentle (executor : Executor) (context : SyscallContext) (left : Executor × SyscallContext) :
    Prop where
  table : left.1.table = executor.table
  lifecycle : left.2.lifecycle = context.lifecycle
  lived : Lived context left.2

/-- A piece that changes nothing that anyone has heard of. -/
theorem Gentle.still {executor : Executor} {context : SyscallContext} {left : Executor × SyscallContext}
    (table : left.1.table = executor.table) (pid : left.2.pid = context.pid)
    (lifecycle : left.2.lifecycle = context.lifecycle)
    (terminals : left.2.terminals = context.terminals) : Gentle executor context left :=
  ⟨table, lifecycle, .still pid lifecycle fun reference stranger => by rw [terminals]⟩

/-- A question to the host, with modest and reticent host functions. -/
theorem Gentle.host {table : SyscallTable} (modest : table.Modest) (reticent : table.Reticent)
    {executor : Executor} (bound : executor.table = table) (question : Script.Question)
    (context : SyscallContext) :
    Gentle executor context (executor, (executor.table.host question context).2) := by
  have moves := SyscallContext.moves_host table none question context
  rw [bound]
  exact ⟨rfl, (moves.carried modest).lifecycle, moves.lived modest reticent⟩

namespace Course

variable {α : Type}

/-- **A job all of whose changes are gentle**, whatever others do in between. -/
def Gentle : Course α → Prop
  | .done _ => True
  | .act change next => ∀ executor context,
    ScriptKernel.Gentle executor context (change executor context) ∧ (next executor context).Gentle
  | .ask _ next => ∀ answer, (next answer).Gentle

/-- A job whose own changes are gentle is gentle. -/
theorem Each.gentle {course : Course α} (each : course.Each ScriptKernel.Gentle) : course.Gentle := by
  induction course with
  | done answer => trivial
  | act change next ih =>
    exact fun executor context => ⟨(each executor context).1, ih executor context (each executor context).2⟩
  | ask question next ih => exact fun answer => ih answer (each answer)

end Course

/-- **The changes that jobs are made of are gentle.** -/
theorem Gentle.piecewise : Piecewise Gentle where
  look _ _ := .still rfl rfl rfl rfl
  arm _ _ := .still rfl rfl rfl rfl
  disarm _ _ := .still rfl rfl rfl rfl
  memory _ _ _ := .still rfl rfl rfl rfl
  announce _ context := ⟨rfl, rfl, .tell context (by decide : ¬ ProcessEvent.started.IsEnd)⟩

/-- **What a host asks of a process is done by gentle jobs.** -/
theorem ScriptProcess.Demand.gentle {demand : Demand} {process : ScriptProcess}
    {course : Course (Option (Except ProcessError Feedback))}
    (asked : demand.course? process = some course) : course.Gentle :=
  (Gentle.piecewise.demand asked).gentle

/-! ### Queues with a job that panics -/

namespace Queue

variable {origin crowd : Crowd Unit Unit} {number other : Nat}

/-- What is seen of a list one place of which has changed. -/
theorem map_modify_of {α β : Type} (view : α → β) {change : α → α} {seen : β → β}
    (shows : ∀ item, view (change item) = seen (view item)) (items : List α) (place : Nat) :
    (items.modify place change).map view = (items.map view).modify place seen := by
  refine List.ext_getElem? fun other => ?_
  rw [List.getElem?_map, List.getElem?_modify, List.getElem?_modify, List.getElem?_map]
  cases items[other]? with
  | none => rfl
  | some item =>
    show some (view (if place = other then change item else item)) =
      some (if place = other then seen (view item) else view item)
    split
    · rw [shows]
    · rfl

/-- The answers of the other jobs are the same. -/
theorem Crowd.Yields.fail {messages : List Message} {value : Unit} (different : number ≠ other)
    (yields : origin.Yields messages other value) :
    (origin.fail number).Yields messages other value := by
  obtain ⟨before, behind, one, same, here, answer⟩ := yields
  refine ⟨before, behind, one, same, ?_, answer⟩
  show (origin.submissions.modify number _)[other]? = some one
  rw [List.getElem?_modify, here]
  exact congrArg some (if_neg different)

/-- **That a job panics which has not finished is no surprise to the queue.** -/
theorem Crowd.Orderly.fail (orderly : Crowd.Orderly origin crowd)
    (unfinished : .finished (.job number) ∉ crowd.log) :
    Crowd.Orderly (origin.fail number) (crowd.fail number) := by
  refine ⟨orderly.steady, orderly.once, fun place one here => ?_, orderly.endings, ?_, orderly.lasts,
    rfl⟩
  · rcases modify_cases here with ⟨different, found⟩ | ⟨rfl, old, found, rfl⟩
    · have placed := orderly.placed place one found
      exact { placed with replied := fun value sent => (placed.replied value sent).fail different }
    · have placed := orderly.placed number old found
      refine ⟨placed.unsent, placed.sent, placed.inside, placed.ok, placed.error, placed.pending,
        fun value sent => ?_, fun dropped => ?_⟩
      · exact absurd (mem_finished.mp (placed.replied value sent).mem) unfinished
      · exact (placed.dropped dropped).imp id fun ended => absurd ended.1 unfinished
  · have failing (queue : Crowd Unit Unit) : (queue.fail number).submissions.map Submission.task =
        (queue.submissions.map Submission.task).modify number fun task =>
          (fun state => (none, state), task.2) :=
      map_modify_of Submission.task (fun _ => rfl) queue.submissions number
    rw [failing, failing, orderly.tasks]

end Queue

namespace ScriptProcess

/-! ### A process at work -/

namespace Crowd

variable {α : Type} {origin crowd after : Crowd α} {number : Nat}

/-- **What keeps a process guarded** without a step of a party. -/
theorem Guarded.transfer (guarded : Guarded origin crowd) (queue : after.queue = crowd.queue)
    (tasks : after.tasks = crowd.tasks) (ender : ∀ number, after.Ender number → crowd.Ender number)
    (pid : after.process.pid = crowd.process.pid)
    (shutting : after.life.shuttingDown = crowd.life.shuttingDown)
    (finished : after.life.isFinished = crowd.life.isFinished)
    (holding : after.phase.isChecking = false → crowd.phase.isChecking = false)
    (admitted : after.phase.isAdmitted = true → crowd.phase.isAdmitted = true) :
    Guarded origin after where
  orderly := queue ▸ guarded.orderly
  single := queue ▸ guarded.single
  alone one two first second := guarded.alone one two (ender one first) (ender two second)
  shutting one first := shutting.trans (guarded.shutting one (ender one first))
  holding begun := queue ▸ guarded.holding (holding begun)
  goesOn within := finished.trans (guarded.goesOn (admitted within))
  pid := pid.trans guarded.pid
  tasks := tasks.trans guarded.tasks

/-- What a gentle piece of the job at work leaves. -/
theorem Guarded.reassemble (guarded : Guarded origin crowd) {left : Executor × SyscallContext}
    (gentle : Gentle crowd.process.executor crowd.context left) :
    Guarded origin (crowd.reassemble left.1 left.2) := by
  have life : (crowd.reassemble left.1 left.2).life = crowd.life := gentle.lifecycle
  refine guarded.transfer rfl rfl (fun _ => id) gentle.lived.pid ?_ ?_ id id
  · rw [life]
  · rw [life]

/-- **A panic keeps the process guarded.** -/
theorem Guarded.recover (guarded : Guarded origin crowd) (unran : crowd.ran = [])
    (running : crowd.queue.stage = .running (.job number)) (working : crowd.phase = .working)
    {queue : Queue.Crowd Unit Unit} (taken : (crowd.queue.fail number).step .finish = some queue) :
    ∃ origin, Guarded origin { crowd.requeue queue with phase := .checking } := by
  have begun : crowd.phase.isChecking = false := by rw [working]; rfl
  -- the same worker with a reply that nobody hears
  let failing : Crowd α := { crowd with
    queue := crowd.queue.fail number
    phase := .replying (.error (.terminated crowd.process.pid)) }
  have before : Guarded { origin with queue := origin.queue.fail number } failing := by
    refine ⟨guarded.orderly.fail (begun_of_running guarded.orderly running).2, ?_, guarded.alone,
      guarded.shutting, fun _ => guarded.holding begun, nofun, guarded.pid, guarded.tasks⟩
    exact ⟨guarded.single.alone, guarded.single.closed, guarded.single.begun, guarded.single.joined,
      guarded.single.waited⟩
  have replied : Stepped failing _ := .serve running (.reply rfl taken)
  have behind := before.stepped replied fun stint here => by
    have here : stint ∈ crowd.ran := here
    rw [unran] at here
    cases here
  refine ⟨_, behind.transfer rfl ?_ (fun other ender => ?_) rfl rfl rfl nofun nofun⟩
  · refine (Queue.map_modify Call.task ?_ crowd.calls number).symm
    exact fun _ => rfl
  · refine ender.imp (fun ⟨call, here, ends⟩ => ?_) id
    refine ⟨_, (List.getElem?_modify ..).trans (congrArg (Option.map _) here), ?_⟩
    dsimp only
    split <;> exact ends

/-- Outside its work a step leaves the host functions as they are. -/
theorem Stepped.table (step : Stepped crowd after) (idle : after.ran = crowd.ran) :
    after.process.executor.table = crowd.process.executor.table := by
  cases step with
  | answer | advance | queue | last => rfl
  | @act _ call _ _ _ acts =>
    generalize call.progress = before at acts
    cases acts <;> rfl
  | serve _ serves =>
    cases serves with
    | refuse | accept | start | stop | settle | leave | exit | reply => rfl
    | perform => exact absurd (List.append_right_eq_self.mp idle) (List.cons_ne_nil _ _)

end Crowd

namespace Throng

variable {throng after : Throng} {table : SyscallTable}

/-! ### Steps -/

/-- **What one step of one party does**, piece by piece. -/
inductive Stepped (throng : Throng) : Throng → Prop
  | party {crowd : Crowd Feedback} : Crowd.Stepped throng.crowd crowd → crowd.ran = throng.crowd.ran →
      Stepped throng { throng with crowd }
  | decline (number : Nat) :
      Stepped throng { throng with crowd := throng.crowd.progress number (.left []) }
  | wait (duration : Duration) :
      Stepped throng { throng with
        crowd := { throng.crowd with site := throng.crowd.site.pass duration } }
  | takeUp {demand : Demand} {course : Course (Option (Except ProcessError Feedback))} :
      throng.crowd.phase = .working → demand.course? throng.crowd.process = some course →
      Stepped throng { throng with course := some course }
  | act {change : Executor → SyscallContext → Executor × SyscallContext}
      {next : Executor → SyscallContext → Course (Option (Except ProcessError Feedback))} :
      throng.crowd.phase = .working → throng.course = some (.act change next) →
      Stepped throng { throng with
        crowd := throng.crowd.reassemble (change throng.crowd.process.executor throng.crowd.context).1
          (change throng.crowd.process.executor throng.crowd.context).2
        course := some (next throng.crowd.process.executor throng.crowd.context) }
  | ask {question : Script.Question}
      {next : question.Answer → Course (Option (Except ProcessError Feedback))} :
      throng.crowd.phase = .working → throng.course = some (.ask question next) →
      Stepped throng { throng with
        crowd := throng.crowd.reassemble throng.crowd.process.executor
          (throng.crowd.process.executor.table.host question throng.crowd.context).2
        course := some
          (next (throng.crowd.process.executor.table.host question throng.crowd.context).1)
        asked := throng.asked ++ [question] }
  | answer {answer : Except ProcessError Feedback} : throng.crowd.phase = .working →
      Stepped throng { throng with
        crowd := { throng.crowd with phase := .stopping answer }, course := none }
  | recover {number : Nat} {queue : Queue.Crowd Unit Unit} : throng.crowd.phase = .working →
      throng.crowd.queue.stage = .running (.job number) →
      (throng.crowd.queue.fail number).step .finish = some queue →
      Stepped throng { throng with
        crowd := { throng.crowd.requeue queue with phase := .checking }, course := none }

/-- **A step outside a job brings no job to work.** -/
theorem ran_of_step {crowd next : Crowd Feedback} {move : ScriptProcess.Move}
    (outside : ¬ (crowd.phase.isWorking && move.isWork) = true)
    (taken : crowd.step move = some next) : next.ran = crowd.ran := by
  cases move with
  | look number =>
    replace taken : crowd.look number = some next := taken
    unfold Crowd.look at taken
    split at taken
    · cases taken
      rfl
    · split at taken <;> cases taken <;> rfl
    · cases taken
  | queue move =>
    replace taken : crowd.enqueue move = some next := taken
    unfold Crowd.enqueue at taken
    split at taken
    · obtain ⟨queue, -, rfl⟩ := Option.map_eq_some_iff.mp taken
      rfl
    · cases taken
  | learn number =>
    replace taken : crowd.learn number = some next := taken
    unfold Crowd.learn at taken
    split at taken <;> cases taken <;> rfl
  | act number =>
    replace taken : crowd.act number = some next := taken
    unfold Crowd.act at taken
    split at taken
    · cases taken
      rfl
    · cases taken
      rfl
    · cases taken
      rfl
    · cases taken
      rfl
    · split at taken <;> cases taken
      rfl
    · cases taken
  | work way =>
    cases Crowd.of_work taken with
    | answer | advance | queue | last => rfl
    | act _ acts => exact acts.apart.2.2.2.1
    | serve _ serves =>
      cases serves with
      | refuse | accept | start | stop | settle | leave | exit | reply => rfl
      | perform working =>
        rw [working] at outside
        exact absurd rfl outside

theorem of_party {move : ScriptProcess.Move} (taken : throng.party move = some after) :
    Stepped throng after := by
  unfold party at taken
  split at taken
  · cases taken
  · rename_i outside
    have other (move : ScriptProcess.Move)
        (outside : ¬ (throng.crowd.phase.isWorking && move.isWork) = true)
        (taken : ((throng.crowd.step move).map fun crowd => { throng with crowd }) = some after) :
        Stepped throng after := by
      obtain ⟨crowd, moved, rfl⟩ := Option.map_eq_some_iff.mp taken
      exact .party (Crowd.of_step moved) (ran_of_step outside moved)
    cases move with
    | look number =>
      dsimp only at taken
      split at taken
      · cases taken
        exact .decline number
      · exact other (.look number) outside taken
    | queue | learn | act | work => exact other _ outside taken

theorem of_piece (taken : throng.piece = some after) : Stepped throng after := by
  unfold piece at taken
  split at taken
  · rename_i working running
    dsimp only at taken
    split at taken
    · obtain ⟨demand, -, taken⟩ := Option.bind_eq_some_iff.mp taken
      obtain ⟨course, asked, rfl⟩ := Option.map_eq_some_iff.mp taken
      exact .takeUp working asked
    · rename_i here
      cases taken
      exact .act working here
    · rename_i here
      cases taken
      exact .ask working here
    · cases taken
      exact .answer working
    · obtain ⟨queue, finished, rfl⟩ := Option.map_eq_some_iff.mp taken
      exact .recover working running finished
  · cases taken

/-- **Every step does one of these things.** -/
theorem of_step {move : Move} (taken : throng.step move = some after) : Stepped throng after := by
  cases move with
  | party move => exact of_party taken
  | piece => exact of_piece taken
  | wait duration =>
    cases taken
    exact .wait duration

/-! ### Every step -/

/-- **A process at work, piece by piece**: no other party brings its end while a piece is at work, and what is left of
the job is gentle. -/
structure Sheltered (bound : SyscallTable) (throng : Throng) : Prop where
  guarded : ∃ origin, Crowd.Guarded origin throng.crowd
  unran : throng.crowd.ran = []
  table : throng.crowd.process.executor.table = bound
  gentle : ∀ course, throng.course = some course → course.Gentle

/-- A process before any call has begun. -/
theorem fresh_sheltered (process : ScriptProcess) (site : Site) (capacity : Nat)
    (demands : List Demand) :
    (fresh process site capacity demands).Sheltered process.executor.table :=
  ⟨⟨_, Crowd.fresh_guarded process site capacity _⟩, rfl, rfl, nofun⟩

/-- What a piece of the job leaves is gentle. -/
theorem Sheltered.piece (sheltered : throng.Sheltered table)
    {left : Executor × SyscallContext}
    (gentle : Gentle throng.crowd.process.executor throng.crowd.context left)
    {course : Course (Option (Except ProcessError Feedback))} (rest : course.Gentle)
    (asked : List Script.Question) :
    ({ throng with
        crowd := throng.crowd.reassemble left.1 left.2
        course := some course, asked } : Throng).Sheltered table := by
  obtain ⟨origin, guarded⟩ := sheltered.guarded
  refine ⟨⟨origin, guarded.reassemble gentle⟩, sheltered.unran, gentle.table.trans sheltered.table,
    fun other same => ?_⟩
  cases same
  exact rest

/-- **Every step keeps the process sheltered.** -/
theorem Sheltered.step (sheltered : throng.Sheltered table) (modest : table.Modest)
    (reticent : table.Reticent) (step : Stepped throng after) : after.Sheltered table := by
  obtain ⟨⟨origin, guarded⟩, unran, bound, gentle⟩ := id sheltered
  cases step with
  | @party crowd step idle =>
    have idle' : crowd.ran = [] := idle.trans unran
    refine ⟨⟨origin, guarded.stepped step fun stint here => ?_⟩, idle', (step.table idle).trans bound,
      gentle⟩
    rw [idle'] at here
    cases here
  | decline number =>
    refine ⟨⟨origin, guarded.transfer rfl ?_ (fun other ender => ?_) rfl rfl rfl id id⟩, unran, bound,
      gentle⟩
    · refine Queue.map_modify Call.task ?_ throng.crowd.calls number
      exact fun _ => rfl
    · refine ender.imp (fun ends => Crowd.ender_modify ends fun _ _ ended => ?_) id
      cases ended
  | wait duration =>
    exact ⟨⟨origin, guarded.transfer rfl rfl (fun _ => id) rfl rfl rfl id id⟩, unran, bound, gentle⟩
  | takeUp working asked =>
    refine ⟨⟨origin, guarded⟩, unran, bound, fun course same => ?_⟩
    cases same
    exact Demand.gentle asked
  | act working here =>
    have both := gentle _ here throng.crowd.process.executor throng.crowd.context
    exact sheltered.piece both.1 both.2 throng.asked
  | ask working here =>
    exact sheltered.piece (.host modest reticent bound _ _) (gentle _ here _) _
  | answer working =>
    refine ⟨⟨origin, guarded.transfer rfl rfl (fun _ => id) rfl rfl rfl (fun _ => ?_) fun within => ?_⟩,
      unran, bound, nofun⟩
    · rw [working]
      rfl
    · cases within
  | recover working running taken =>
    exact ⟨guarded.recover unran running working taken, unran, bound, nofun⟩

end Throng

end ScriptProcess

end ScriptKernel
