/-
**The calls of host functions.**

A call begins with a look at whether an exit has been requested. Only then are its arguments made, and making
them runs whatever script their objects bring along, with calls of its own.

* `Dialogue.calls`: the calls in a run, in the order in which the bodies run;
* `Service`, `SyscallContext.Served`: calls with what happened between their beginning and their body: **every
  call begins where no exit has been requested**;
* `Part.Built.served`: every part of a script makes its calls so;
* `Served.idle`: where an exit has been requested, nothing is called and nothing is changed;
* `Served.enclosed`, `Served.culprit`: a body that runs after the request belongs to a call that had begun
  before, and what its own arguments called has made the request;
* `Executor.Serves`: every entry is such a run, however it ends.
-/

import ScriptKernel.Proofs.Context

set_option autoImplicit false

namespace ScriptKernel

open Script (Dialogue Memory Outcome Part Run)
open SyscallContext (Moves)

/-! ### The calls in a run -/

namespace Script.Dialogue

variable {α β ω : Type}

/-- The calls of host functions in a run, each with the state in which its body found the host. -/
def calls (host : Host ω) : Dialogue α → ω → List (Nat × List Json × ω)
  | .done _, _ => []
  | .ask question next, state =>
    let answer := host question state
    let later := calls host (next answer.1) answer.2
    match question with
    | .call index args => (index, args, state) :: later
    | _ => later

theorem calls_bind (host : Host ω) (first : Dialogue α) (next : α → Dialogue β) (state : ω) :
    calls host (first.bind next) state = calls host first state ++
      calls host (next (run host first state).1) (run host first state).2 := by
  induction first generalizing state with
  | done value => rfl
  | ask question rest ih =>
    cases question with
    | exiting => exact ih _ _
    | poll worked => exact ih _ _
    | call index args => exact congrArg ((index, args, state) :: ·) (ih _ _)

end Script.Dialogue

/-- A call of a host function. -/
structure Service where
  index : Nat
  args : List Json
  /-- How many calls were made while the arguments were. -/
  inner : Nat
  /-- The context in which the body runs. -/
  found : SyscallContext

namespace Service

/-- The call as a run shows it. -/
def asked (service : Service) : Nat × List Json × SyscallContext :=
  (service.index, service.args, service.found)

/-- The context that the body leaves. -/
def left (table : SyscallTable) (service : Service) : SyscallContext :=
  (table.host (.call service.index service.args) service.found).2

/-- The places among the calls before a call, those its arguments made, and the call itself. -/
theorem place_cases {services others : List Service} {last service : Service} {place : Nat}
    (here : (services ++ (others ++ [last]))[place]? = some service) :
    services[place]? = some service ∨
      (∃ rest, place = services.length + rest ∧ others[rest]? = some service) ∨
        (place = services.length + others.length ∧ service = last) := by
  rw [List.getElem?_append] at here
  split at here
  · exact .inl here
  · rw [List.getElem?_append] at here
    split at here
    · exact .inr (.inl ⟨place - services.length, by omega, here⟩)
    · rw [List.getElem?_singleton] at here
      split at here
      · cases here
        exact .inr (.inr ⟨by omega, rfl⟩)
      · cases here

/-- A call that the arguments made has its place behind those before. -/
theorem place_inner (services : List Service) {others : List Service} {service : Service}
    {place : Nat} (here : others[place]? = some service) (last : Service) :
    (services ++ (others ++ [last]))[services.length + place]? = some service := by
  have inside := (List.getElem?_eq_some_iff.mp here).1
  rwa [List.getElem?_append_right (Nat.le_add_right _ _), Nat.add_sub_cancel_left,
    List.getElem?_append_left inside]

end Service

namespace SyscallContext

/-- Whether an exit has been requested. -/
def Requested (context : SyscallContext) : Prop := context.interrupt.exitCode ≠ none

/-- **How calls follow each other.** A call begins where no exit has been requested; then come the calls that
its arguments make, and then its body. -/
inductive Served (table : SyscallTable) (budget : Option Duration) :
    SyscallContext → List Service → SyscallContext → Prop
  | start (context : SyscallContext) : Served table budget context [] context
  | poll {before after : SyscallContext} {services : List Service} (worked : Bool) :
      Served table budget before services after →
      Served table budget before services (table.host (.poll worked) after).2
  | arm {before after : SyscallContext} {services : List Service} :
      Served table budget before services after →
      Served table budget before services (after.armed budget)
  | disarm {before after : SyscallContext} {services : List Service} :
      Served table budget before services after → Served table budget before services after.disarmed
  | call {before begun found : SyscallContext} {services others : List Service} (index : Nat)
      (args : List Json) : Served table budget before services begun → ¬ begun.Requested →
      Served table budget begun others found →
      Served table budget before (services ++ (others ++ [⟨index, args, others.length, found⟩]))
        (table.host (.call index args) found).2

/-- What nothing that runs once an exit has been requested changes. -/
structure Idle (before after : SyscallContext) : Prop where
  fds : after.fds = before.fds
  environment : after.environment = before.environment
  terminals : after.terminals = before.terminals
  tallies : after.tallies = before.tallies
  exitCode : after.interrupt.exitCode = before.interrupt.exitCode

theorem Idle.refl (context : SyscallContext) : Idle context context := ⟨rfl, rfl, rfl, rfl, rfl⟩

theorem Idle.trans {before middle after : SyscallContext} (first : Idle before middle)
    (second : Idle middle after) : Idle before after :=
  ⟨second.fds.trans first.fds, second.environment.trans first.environment,
    second.terminals.trans first.terminals, second.tallies.trans first.tallies,
    second.exitCode.trans first.exitCode⟩

theorem idle_poll (table : SyscallTable) (worked : Bool) (context : SyscallContext) :
    Idle context (table.host (.poll worked) context).2 := by
  have code := Interrupt.shouldInterrupt_exitCode context.interrupt
  cases worked with
  | true =>
    exact ⟨rfl, rfl, Site.passSlice_terminals _, Site.passSlice_tallies _, code _⟩
  | false => exact ⟨rfl, rfl, rfl, rfl, code _⟩

/-- **A request holds for ever**, for modest host functions. -/
theorem Moves.requested {table : SyscallTable} {budget : Option Duration}
    {before after : SyscallContext} (modest : table.Modest) (moves : Moves table budget before after)
    (requested : before.Requested) : after.Requested := by
  obtain ⟨codes, asked⟩ := (moves.carried modest).asked
  obtain ⟨code, held⟩ := Option.ne_none_iff_exists'.mp requested
  unfold Requested
  rw [asked.exitCode_eq, held, Option.some_or]
  exact Option.some_ne_none code

namespace Served

variable {table : SyscallTable} {budget : Option Duration} {before middle after : SyscallContext}
  {services others : List Service}

theorem trans (first : Served table budget before services middle)
    (second : Served table budget middle others after) :
    Served table budget before (services ++ others) after := by
  induction second with
  | start => rwa [List.append_nil]
  | poll worked _ ih => exact (ih first).poll worked
  | arm _ ih => exact (ih first).arm
  | disarm _ ih => exact (ih first).disarm
  | call index args _ unasked inside ih =>
    rw [← List.append_assoc]
    exact .call index args (ih first) unasked inside

/-- Calls are steps of a script. -/
theorem moves (served : Served table budget before services after) :
    Moves table budget before after := by
  induction served with
  | start => exact .refl
  | poll worked _ ih => exact ih.tail (.poll worked _)
  | arm _ ih => exact ih.tail (.arm _)
  | disarm _ ih => exact ih.tail (.disarm _)
  | call index args _ _ _ first second =>
    exact (first.trans second).trans (moves_host table budget (.call index args) _)

/-! ### After the request -/

/-- Nothing is called where an exit has been requested, and nothing is changed. -/
theorem idle (served : Served table budget before services after) (requested : before.Requested) :
    services = [] ∧ Idle before after := by
  induction served with
  | start => exact ⟨rfl, .refl _⟩
  | poll worked _ ih =>
    obtain ⟨none, idle⟩ := ih requested
    exact ⟨none, idle.trans (idle_poll table worked _)⟩
  | arm _ ih =>
    obtain ⟨none, idle⟩ := ih requested
    exact ⟨none, idle.trans ⟨rfl, rfl, rfl, rfl, rfl⟩⟩
  | disarm _ ih =>
    obtain ⟨none, idle⟩ := ih requested
    exact ⟨none, idle.trans ⟨rfl, rfl, rfl, rfl, rfl⟩⟩
  | call index args _ unasked _ ih _ =>
    refine absurd ?_ unasked
    unfold Requested
    rw [(ih requested).2.exitCode]
    exact requested

/-- What a call requested is requested when the run is over. -/
theorem requested_after (modest : table.Modest)
    (served : Served table budget before services after) {place : Nat} {service : Service}
    (here : services[place]? = some service) (requested : (service.left table).Requested) :
    after.Requested := by
  have kept {first last : SyscallContext} (move : Move table budget first last) :
      first.Requested → last.Requested :=
    Moves.requested modest (.single move)
  induction served generalizing place with
  | start => cases here
  | poll worked _ ih => exact kept (.poll worked _) (ih here)
  | arm _ ih => exact kept (.arm _) (ih here)
  | disarm _ ih => exact kept (.disarm _) (ih here)
  | call index args _ unasked inside first second =>
    rcases Service.place_cases here with before | ⟨rest, -, within⟩ | ⟨-, rfl⟩
    · exact absurd (first before) unasked
    · exact Moves.requested modest (moves_host table budget (.call index args) _) (second within)
    · exact requested

/-- **A body that runs after the request belongs to a call that had begun before**: the request is one of the
calls that its own arguments made. -/
theorem enclosed (modest : table.Modest) (served : Served table budget before services after)
    {place later : Nat} {first second : Service} (order : place < later)
    (here : services[place]? = some first) (there : services[later]? = some second)
    (requested : (first.left table).Requested) : later ≤ place + second.inner := by
  induction served generalizing place later with
  | start => cases here
  | poll worked _ ih => exact ih order here there
  | arm _ ih => exact ih order here there
  | disarm _ ih => exact ih order here there
  | @call before begun found services others index args outside unasked inside ih inner =>
    -- what was called before this call began has not made the request
    have early (early : services[place]? = some first) : False :=
      unasked (outside.requested_after modest early requested)
    rcases Service.place_cases there with earlier | ⟨rest, rfl, within⟩ | ⟨rfl, rfl⟩
    · rcases Service.place_cases here with start | ⟨_, rfl, _⟩ | ⟨rfl, -⟩
      · exact ih order start earlier
      · have := (List.getElem?_eq_some_iff.mp earlier).1
        omega
      · have := (List.getElem?_eq_some_iff.mp earlier).1
        omega
    · rcases Service.place_cases here with start | ⟨part, rfl, within'⟩ | ⟨rfl, -⟩
      · exact absurd start early
      · have := inner (by omega) within' within
        omega
      · have := (List.getElem?_eq_some_iff.mp within).1
        omega
    · rcases Service.place_cases here with start | ⟨part, rfl, -⟩ | ⟨rfl, -⟩
      · exact absurd start early
      · show services.length + others.length ≤ services.length + part + others.length
        omega
      · exact absurd order (Nat.lt_irrefl _)

/-- Where an exit comes to be requested, one of the calls has requested it. -/
theorem exists_request (served : Served table budget before services after)
    (unasked : ¬ before.Requested) (requested : after.Requested) :
    ∃ (place : Nat) (service : Service), services[place]? = some service ∧
      ¬ service.found.Requested ∧ (service.left table).Requested := by
  induction served with
  | start => exact absurd requested unasked
  | @poll before after services worked _ ih =>
    refine ih unasked ?_
    unfold Requested at requested ⊢
    rwa [(idle_poll table worked after).exitCode] at requested
  | arm _ ih => exact ih unasked requested
  | disarm _ ih => exact ih unasked requested
  | @call before begun found services others index args _ unasked' _ _ inner =>
    by_cases asked : found.Requested
    · obtain ⟨place, service, here, fresh, request⟩ := inner unasked' asked
      exact ⟨services.length + place, service, Service.place_inner services here _, fresh, request⟩
    · refine ⟨services.length + others.length, ⟨index, args, others.length, found⟩, ?_, asked,
        requested⟩
      rw [List.getElem?_append_right (Nat.le_add_right _ _), Nat.add_sub_cancel_left,
        List.getElem?_concat_length]

/-- **A body that finds an exit requested owes it to its own arguments**: what they called has made the
request. -/
theorem culprit (served : Served table budget before services after) {later : Nat}
    {second : Service} (there : services[later]? = some second) (late : second.found.Requested) :
    ∃ (place : Nat) (first : Service), services[place]? = some first ∧ place < later ∧ later ≤ place + second.inner ∧
      ¬ first.found.Requested ∧ (first.left table).Requested := by
  induction served generalizing later with
  | start => cases there
  | poll worked _ ih => exact ih there
  | arm _ ih => exact ih there
  | disarm _ ih => exact ih there
  | @call before begun found services others index args _ unasked inside ih inner =>
    rcases Service.place_cases there with earlier | ⟨rest, rfl, within⟩ | ⟨rfl, rfl⟩
    · obtain ⟨place, first, here, order, reach, request⟩ := ih earlier
      refine ⟨place, first, ?_, order, reach, request⟩
      rwa [List.getElem?_append_left (List.getElem?_eq_some_iff.mp here).1]
    · obtain ⟨place, first, here, order, reach, request⟩ := inner within
      exact ⟨services.length + place, first, Service.place_inner services here _, by omega, by omega, request⟩
    · obtain ⟨place, first, here, fresh, request⟩ := inside.exists_request unasked late
      have bound := (List.getElem?_eq_some_iff.mp here).1
      exact ⟨services.length + place, first, Service.place_inner services here _, by omega,
        by show services.length + others.length ≤ services.length + place + others.length; omega,
        fresh, request⟩

end Served

end SyscallContext

open SyscallContext (Idle Served)

/-! ### The parts of a script -/

namespace Script.Part

variable {α β : Type} {table : SyscallTable} {budget : Option Duration}

/-- A run that makes its calls one by one, each where no exit has been requested. -/
def ServedRun (table : SyscallTable) (budget : Option Duration) (dialogue : Dialogue α)
    (context : SyscallContext) : Prop :=
  ∃ services : List Service, dialogue.calls table.host context = services.map Service.asked ∧
    Served table budget context services (dialogue.run table.host context).2

theorem ServedRun.done (value : α) (context : SyscallContext) :
    ServedRun table budget (.done value) context :=
  ⟨[], rfl, .start context⟩

/-- Asking for an exit changes nothing. -/
theorem ServedRun.exiting {next : Bool → Dialogue α} {context : SyscallContext}
    (rest : ServedRun table budget (next context.interrupt.exitCode.isSome) context) :
    ServedRun table budget (.ask .exiting next) context := rest

theorem ServedRun.bind {first : Dialogue α} {next : α → Dialogue β} {context : SyscallContext}
    (served : ServedRun table budget first context)
    (rest : ∀ value after, ServedRun table budget (next value) after) :
    ServedRun table budget (first.bind next) context := by
  obtain ⟨services, calls, ran⟩ := served
  obtain ⟨others, further, went⟩ :=
    rest (first.run table.host context).1 (first.run table.host context).2
  refine ⟨services ++ others, ?_, ?_⟩
  · rw [Dialogue.calls_bind, calls, further, List.map_append]
  · rw [Dialogue.run_bind]
    exact ran.trans went

/-- A part whose runs make their calls so. -/
def Serves (table : SyscallTable) (budget : Option Duration) (part : Part α) : Prop :=
  ∀ memory context, ServedRun table budget (part memory) context

theorem serves_andThen {first : Part α} {next : Outcome α → Part β}
    (serves : first.Serves table budget) (rest : ∀ outcome, (next outcome).Serves table budget) :
    (first.andThen next).Serves table budget := by
  intro memory context
  rw [andThen_apply]
  exact (serves memory context).bind fun ending after => rest ending.1 ending.2 after

theorem serves_finish (outcome : Outcome α) : (finish outcome).Serves table budget :=
  fun _ context => .done _ context

theorem serves_onward {first : Part α} {value : α → Part β} {thrown : Value → Part β}
    {stopped : Part β} (serves : first.Serves table budget)
    (onValue : ∀ answer, (value answer).Serves table budget)
    (onThrown : ∀ exception, (thrown exception).Serves table budget)
    (onStopped : stopped.Serves table budget) :
    (first.andThen (onward value thrown stopped)).Serves table budget := by
  refine serves_andThen serves fun outcome => ?_
  cases outcome with
  | value answer => exact onValue answer
  | thrown exception => exact onThrown exception
  | stopped => exact onStopped
  | panicked => exact serves_finish _

theorem serves_exiting : (ask .exiting).Serves table budget :=
  fun _ context => ⟨[], rfl, .start context⟩

theorem serves_poll (worked : Bool) : (ask (.poll worked)).Serves table budget :=
  fun _ context => ⟨[], rfl, (Served.start context).poll worked⟩

/-- **A call makes its arguments and runs its body only where no exit has been requested.** -/
theorem serves_callHost (index : Nat) {arguments : Part (List Json)}
    (serves : arguments.Serves table budget) : (callHost index arguments).Serves table budget := by
  intro memory context
  refine ServedRun.exiting ?_
  cases asked : context.interrupt.exitCode with
  | some code => exact .done _ context
  | none =>
    obtain ⟨others, calls, inside⟩ := serves memory context
    have unasked : ¬ context.Requested := fun requested => requested asked
    show ServedRun table budget (arguments.bind (callNow index) memory) context
    unfold bind ServedRun
    rw [andThen_apply, Dialogue.calls_bind, Dialogue.run_bind, calls]
    generalize Dialogue.run table.host (arguments memory) context = ended at *
    rcases ended with ⟨⟨args | exception | _ | _, left⟩, found⟩
    · refine ⟨others ++ [⟨index, args, others.length, found⟩], ?_,
        .call index args (.start context) unasked inside⟩
      rw [List.map_append]
      rfl
    -- where the arguments cannot be made, the body does not run
    all_goals exact ⟨others, List.append_nil _, inside⟩

/-- **Every part of a script makes its calls so.** -/
theorem Built.serves {part : Part α} (built : part.Built) : part.Serves table budget := by
  induction built with
  | value answer => exact serves_finish _
  | thrown exception => exact serves_finish _
  | stopped => exact serves_finish _
  | make step => exact fun _ context => .done _ context
  | leavePending exception => exact fun _ context => .done _ context
  | exiting => exact serves_exiting
  | poll worked => exact serves_poll worked
  | callHost index _ ih => exact serves_callHost index ih
  | onward _ _ _ _ first value thrown stopped => exact serves_onward first value thrown stopped
  | heard _ ih =>
    refine serves_andThen ih fun outcome => ?_
    cases outcome with
    | value answer => exact serves_finish _
    | thrown _ | stopped | panicked =>
      intro memory context
      dsimp only
      split <;> exact .done _ _
  | contained _ ih =>
    refine serves_andThen ih fun outcome => ?_
    cases outcome with
    | panicked => exact fun _ context => .done _ context
    | value _ | thrown _ | stopped => exact serves_finish _

end Script.Part

/-! ### Entries -/

namespace Executor

variable {α : Type} {executor : Executor} {context : SyscallContext}

/-- **What every entry leaves**, however it ends: an executor with another engine at most, and a context that
is reached by calls. -/
structure Serves (executor : Executor) (context : SyscallContext)
    (left : Executor × SyscallContext) : Prop where
  rest : left.1 = { executor with engine := left.1.engine }
  served : ∃ services, Served executor.table executor.callTimeout context services left.2

theorem Serves.refl (executor : Executor) (context : SyscallContext) :
    executor.Serves context (executor, context) :=
  ⟨rfl, [], .start context⟩

theorem Serves.trans {middle last : Executor × SyscallContext}
    (first : executor.Serves context middle) (second : middle.1.Serves middle.2 last) :
    executor.Serves context last := by
  obtain ⟨services, served⟩ := first.served
  obtain ⟨others, further⟩ := second.served
  rw [first.rest] at further
  refine ⟨?_, services ++ others, served.trans further⟩
  rw [second.rest, first.rest]

/-- Nothing but the engine is put in place of another. -/
theorem serves_engine (executor : Executor) (engine : Engine) {after : SyscallContext}
    (served : ∃ services, Served executor.table executor.callTimeout context services after) :
    executor.Serves context ({ executor with engine }, after) :=
  ⟨rfl, served⟩

theorem enter_served (table : SyscallTable) (budget : Option Duration) (engine : Engine) (run : Run α)
    (context : SyscallContext) :
    ∃ services, Served table budget context services (engine.enter table run context).2.2 := by
  unfold Engine.enter
  cases engine.memory with
  | none => exact ⟨[], .start context⟩
  | some memory =>
    obtain ⟨services, -, served⟩ := run.built.serves memory context
    exact ⟨services, served⟩

theorem runJobs_serves (executor : Executor) (context : SyscallContext) :
    executor.Serves context (executor.runJobs context).2 := by
  have served := enter_served executor.table executor.callTimeout executor.engine
    (Script.runJobs .standard) context
  unfold runJobs
  split <;> rename_i entered <;> rw [entered] at served <;> exact serves_engine executor _ served

theorem enter_serves (executor : Executor) (part : Run (Except Script.Fault α))
    (context : SyscallContext) : executor.Serves context (executor.enter part context).2 := by
  have armed : Served executor.table executor.callTimeout context [] (executor.arm context) :=
    (Served.start context).arm
  obtain ⟨services, served⟩ := enter_served executor.table executor.callTimeout executor.engine part
    (executor.arm context)
  -- the jobs that wait are run whether the part answered or the engine is gone
  have jobs (engine : Engine) (after : SyscallContext)
      (reached : Served executor.table executor.callTimeout context services after) :
      executor.Serves context (({ executor with engine } : Executor).runJobs after).2 :=
    (serves_engine executor engine ⟨services, reached⟩).trans (runJobs_serves _ after)
  have disarmed {left : Executor × SyscallContext} (serves : executor.Serves context left) :
      executor.Serves context (left.1, left.2.disarmed) := by
    obtain ⟨services, served⟩ := serves.served
    exact ⟨serves.rest, services, served.disarm⟩
  unfold enter
  generalize executor.engine.enter executor.table part (executor.arm context) = ended at *
  rcases ended with ⟨ended, engine, after⟩
  have reached := armed.trans served
  have ran := jobs engine after reached
  dsimp only
  split
  · split <;> rename_i finished <;> rw [finished] at ran
    · exact ran
    · exact disarmed ran
  · split <;> rename_i finished <;> rw [finished] at ran
    · exact ran
    · exact disarmed ran
  · exact serves_engine executor engine ⟨services, reached⟩

theorem evaluate_serves (executor : Executor) (origin source : String) (context : SyscallContext) :
    executor.Serves context (executor.evaluate origin source context).2 := by
  have serves := executor.enter_serves (evaluation source) context
  unfold evaluate
  split <;> rename_i entered <;> rw [entered] at serves <;> exact serves

theorem load_serves (executor : Executor) (files : FileSystem) (path : String)
    (context : SyscallContext) : executor.Serves context (executor.load files path context).2 := by
  unfold load
  cases files.read path with
  | error error => exact .refl executor context
  | ok source => exact executor.evaluate_serves path source context

theorem call_serves (executor : Executor) (name : String) (args : List Json)
    (context : SyscallContext) : executor.Serves context (executor.call name args context).2 := by
  have serves := executor.enter_serves (Script.callFunction name args) context
  unfold call
  split <;> rename_i entered <;> rw [entered] at serves <;> exact serves

theorem hasFunction_serves (executor : Executor) (name : String) (context : SyscallContext) :
    executor.Serves context (executor.hasFunction name context).2 := by
  have served := enter_served executor.table executor.callTimeout executor.engine
    (Script.hasFunction name) context
  unfold hasFunction
  split <;> rename_i entered <;> rw [entered] at served <;> exact serves_engine executor _ served

end Executor

end ScriptKernel
