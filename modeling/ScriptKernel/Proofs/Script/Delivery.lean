/-
**A host function on its way through a script.**

* `passes_dispatch`: a host function that is called with values that cross gets exactly these values, and the
  script gets what it answers, or what is thrown for it (`Realm.Delivers`);
* `passes_tick`, `passes_called`: the same behind the look that the host takes before each call;
* `ends_runJobs`: where no job waits none is run.
-/

import ScriptKernel.Proofs.Script.Described
import ScriptKernel.Proofs.Script.Passing
import ScriptKernel.Proofs.Script.RoundTrip

set_option autoImplicit false

namespace ScriptKernel

/-- The context after the look that the host takes before a call, if one is due: time may have gone on by a
slice of script. -/
def SyscallContext.glanced (context : SyscallContext) (countdown : Nat) : SyscallContext :=
  if countdown = 1 then .of context.toResident context.toSite.passSlice else context

theorem SyscallContext.glanced_interrupt (context : SyscallContext) (countdown : Nat) :
    (context.glanced countdown).interrupt = context.interrupt := by
  -- the site is kept abstract, so that no time is computed
  have placed : ∀ site, (of context.toResident site).interrupt = context.interrupt := fun _ => rfl
  unfold glanced
  split
  · exact placed _
  · rfl

namespace Script

open List (Forall₂)

variable {table : SyscallTable} {memory : Memory} {context : SyscallContext}

/-! ### Arguments -/

namespace Realm

theorem materializeItems_countdown (realm : Realm) {items : List Json}
    (parts : ∀ item ∈ items, ∀ realm : Realm, (realm.materialize item).2.countdown = realm.countdown) :
    (realm.materializeItems items).2.countdown = realm.countdown := by
  induction items generalizing realm with
  | nil => rfl
  | cons item rest ih =>
    exact (ih _ fun other found => parts other (List.mem_cons_of_mem _ found)).trans
      (parts item List.mem_cons_self realm)

theorem materializeEntries_countdown (realm : Realm) {entries : List (String × Json)}
    (parts : ∀ entry ∈ entries, ∀ realm : Realm,
      (realm.materialize entry.2).2.countdown = realm.countdown) :
    (realm.materializeEntries entries).2.countdown = realm.countdown := by
  induction entries generalizing realm with
  | nil => rfl
  | cons entry rest ih =>
    obtain ⟨key, json⟩ := entry
    exact (ih _ fun other found => parts other (List.mem_cons_of_mem _ found)).trans
      (parts (key, json) List.mem_cons_self realm)

/-- Making what stands for a value is no work that the host counts. -/
theorem materialize_countdown (json : Json) :
    ∀ realm : Realm, (realm.materialize json).2.countdown = realm.countdown := by
  induction json with
  | null | boolean _ | number _ | text _ => exact fun _ => rfl
  | list items ih => exact fun realm => realm.materializeItems_countdown ih
  | members entries ih => exact fun realm => realm.materializeEntries_countdown ih

end Realm

/-- **Each argument gets a value that stands for it.** -/
theorem ends_materializeEach (args : List Json) (memory : Memory) :
    ∃ values after, (Run.each (fun arg => Run.make fun realm => realm.materialize arg) args).Ends memory
        (.value values) after ∧
      memory.Grown after ∧ after.realm.countdown = memory.realm.countdown ∧
      Forall₂ after.realm.Holds args values := by
  induction args generalizing memory with
  | nil => exact ⟨[], memory, Run.ends_pure _ memory, .refl memory, rfl, .nil⟩
  | cons arg rest ih =>
    obtain ⟨grown, holds⟩ := Realm.materialize_holds arg memory.realm
    have made := Run.ends_make (fun realm => realm.materialize arg) memory
    obtain ⟨values, after, ends, grown', counted, stand⟩ :=
      ih { memory with realm := (memory.realm.materialize arg).2 }
    have first : memory.Grown { memory with realm := (memory.realm.materialize arg).2 } :=
      ⟨_, rfl, grown⟩
    exact ⟨_ :: values, after, made.bind (ends.bind (Run.ends_pure _ after)), first.trans grown',
      counted.trans (Realm.materialize_countdown arg _), .cons (holds.grown grown'.realm) stand⟩

/-- **Each argument that crosses reaches the host function as it was.** -/
theorem ends_convertEach (caller : Caller) (name : String) {args : List Json} {values : List Value}
    (quiet : memory.panicking = false) (literal : memory.realm.Literal)
    (cross : ∀ arg ∈ args, arg.Crosses) (stand : Forall₂ memory.realm.Holds args values) :
    ∃ after, (Run.each (convertArgument caller name) values).Ends memory (.value args) after ∧
      memory.Grown after := by
  induction args generalizing memory values with
  | nil =>
    cases stand
    exact ⟨memory, Run.ends_pure _ memory, .refl memory⟩
  | cons arg args ih =>
    cases stand with
    | @cons _ value _ values holds stand =>
      have crosses := cross arg List.mem_cons_self
      obtain ⟨answer, middle, ends, grown, same, -⟩ :=
        ends_readBack caller quiet literal crosses.ordered holds
      cases same crosses.whole crosses.shallow
      obtain ⟨after, others, grown'⟩ := ih (grown.panicking_eq.trans quiet)
        (literal.grown grown.realm) (fun other found => cross other (List.mem_cons_of_mem _ found))
        (forall₂_imp stand fun _ _ _ here => here.grown grown.realm)
      have converted : (convertArgument caller name value).Ends memory (.value arg) middle :=
        ends.bind (Run.ends_pure _ middle)
      exact ⟨after, converted.bind (others.bind (Run.ends_pure _ after)), grown.trans grown'⟩

/-! ### The call -/

/-- **What a script gets of a host function**: an exception once an exit has been requested, and else what it
has answered, or an exception for its error. -/
inductive Realm.Delivers (name : String) (realm : Realm) :
    SyscallReply → Option ExitCode → Outcome Value → Prop
  | exited {exception : Value} (reply : SyscallReply) (code : ExitCode) :
      realm.Raised .internal "process exited" exception →
      Delivers name realm reply (some code) (.thrown exception)
  | returned {json : Json} {value : Value} : realm.Holds json value →
      Delivers name realm (.returned json) none (.value value)
  | failed {error : SyscallError} {exception : Value} :
      realm.Raised (failureKind error) (failureMessage name error) exception →
      Delivers name realm (.failed error) none (.thrown exception)

theorem Realm.Delivers.calm {name : String} {realm : Realm} {reply : SyscallReply}
    {code : Option ExitCode} {outcome : Outcome Value} (delivers : realm.Delivers name reply code outcome) :
    outcome ≠ .panicked := by
  cases delivers <;> exact nofun

/-- What follows the body of a host function: the look at an exit, and its answer. -/
def deliver (name : String) (reply : Except SyscallError Json) : Run Value := do
  checkExit
  match reply with
  | .ok json => Run.make fun realm => realm.materialize json
  | .error error => throwFailure name error

/-- An answered call is told to the script. -/
theorem passes_deliver (name : String) (answer : Except SyscallError Json) {reply : SyscallReply}
    (told : Part.ofReply reply = .value (some answer)) :
    ∃ outcome after, (deliver name answer).Passes table (memory, context) [] outcome (after, context) ∧
      memory.Grown after ∧
      after.realm.Delivers name reply context.interrupt.exitCode outcome := by
  have looked : Run.askExiting.Passes table (memory, context) []
      (.value context.interrupt.exitCode.isSome) (memory, context) := Part.passes_exiting _
  cases requested : context.interrupt.exitCode with
  | some code =>
    rw [requested] at looked
    obtain ⟨exception, after, ends, grown, raised⟩ :=
      @ends_raise_raised Unit .internal "process exited" memory (by decide)
    refine ⟨_, after, ?_, grown, .exited reply code raised⟩
    exact (looked.bind (ends.passes table context)).bind_thrown _
  | none =>
    rw [requested] at looked
    have open_ : checkExit.Passes table (memory, context) [] (.value ()) (memory, context) :=
      looked.bind ((Run.ends_pure () memory).passes table context)
    cases reply with
    | returned json =>
      cases told
      obtain ⟨grown, holds⟩ := Realm.materialize_holds json memory.realm
      refine ⟨_, _, open_.bind ((Run.ends_make _ memory).passes table context), ⟨_, rfl, grown⟩, ?_⟩
      exact .returned holds
    | failed error =>
      cases told
      obtain ⟨exception, after, ends, grown, raised⟩ := @ends_throwFailure Value name error memory
      exact ⟨_, after, open_.bind (ends.passes table context), grown, .failed raised⟩
    | panicked => cases told

/-- **A host function gets the arguments that it is called with**, and the script what it answers. -/
theorem passes_dispatch (caller : Caller) (index : Nat) (name : String) {args : List Json}
    {values : List Value} {reply : SyscallReply} {left : SyscallContext}
    (quiet : memory.panicking = false) (literal : memory.realm.Literal)
    (cross : ∀ arg ∈ args, arg.Crosses) (stand : Forall₂ memory.realm.Holds args values)
    (running : context.interrupt.exitCode = none)
    (called : table.host (.call index args) context = (reply, left)) (calm : reply ≠ .panicked) :
    ∃ outcome after, (dispatch caller index name values).Passes table (memory, context)
        [(index, args, context)] outcome (after, left) ∧
      memory.Grown after ∧ after.realm.Delivers name reply left.interrupt.exitCode outcome := by
  obtain ⟨middle, converted, grown⟩ := ends_convertEach caller name quiet literal cross stand
  have body : (Run.callHost index (Run.each (convertArgument caller name) values)).Passes table
      (memory, context) [(index, args, context)] (Part.ofReply reply) (middle, left) := by
    have made := Part.passes_callHost index running (converted.passes table context)
    rwa [called] at made
  obtain ⟨answer, told⟩ : ∃ answer, Part.ofReply reply = .value (some answer) := by
    cases reply with
    | returned json => exact ⟨.ok json, rfl⟩
    | failed error => exact ⟨.error error, rfl⟩
    | panicked => exact absurd rfl calm
  obtain ⟨outcome, after, passes, grown', delivers⟩ :=
    @passes_deliver table middle left name answer reply told
  rw [told] at body
  refine ⟨outcome, after, ?_, grown.trans grown', delivers⟩
  exact Run.Passes.contained (body.bind passes) delivers.calm

/-! ### The look before a call -/

/-- The host looks in and does not stop the script. -/
theorem passes_glance (worked : Bool) (memory : Memory)
    (free : context.interrupt.reason?
      (if worked then context.toSite.passSlice else context.toSite).clock = none) :
    (do if ← Run.askPoll worked then Run.stop : Run Unit).Passes table (memory, context) []
      (.value ()) (memory,
        .of context.toResident (if worked then context.toSite.passSlice else context.toSite)) := by
  have answer : table.host (.poll worked) context = (false,
      .of context.toResident (if worked then context.toSite.passSlice else context.toSite)) := by
    simp only [SyscallTable.host, Interrupt.shouldInterrupt, free]
    rfl
  have looked : (Run.askPoll worked).Passes table (memory, context) [] (.value false) (memory,
      .of context.toResident (if worked then context.toSite.passSlice else context.toSite)) := by
    have passes : (Run.askPoll worked).Passes table (memory, context) [] _ _ :=
      Part.passes_poll worked (memory, context)
    rwa [answer] at passes
  exact looked.bind ((Run.ends_pure () _).passes table _)

/-- **Where nothing stops a script, a piece of work changes no more than the time.** -/
theorem passes_tick (memory : Memory)
    (free : context.interrupt.reason? (context.glanced memory.realm.countdown).clock = none) :
    ∃ after, Run.tick.Passes table (memory, context) [] (.value ())
        (after, context.glanced memory.realm.countdown) ∧
      memory.Grown after := by
  have counted (countdown : Nat) :
      memory.Grown { memory with realm := { memory.realm with countdown } } :=
    ⟨_, rfl, .count memory.realm countdown⟩
  have made := Run.ends_make (fun realm : Realm => if realm.countdown > 1 then
    (none, { realm with countdown := realm.countdown - 1 })
    else (some (realm.countdown == 1), { realm with countdown := Run.slice })) memory
  unfold SyscallContext.glanced at free ⊢
  match here : memory.realm.countdown with
  | 0 =>
    rw [here] at free made
    exact ⟨_, made.bind_passes (passes_glance false _ free), counted Run.slice⟩
  | 1 =>
    rw [here] at free made
    exact ⟨_, made.bind_passes (passes_glance true _ free), counted Run.slice⟩
  | left + 2 =>
    rw [here, if_pos (by omega)] at made
    exact ⟨_, made.bind_passes ((Run.ends_pure () _).passes table context), counted (left + 1)⟩

/-! ### A function of the host that is called by its name -/

/-- **A name of the global object that answers with a host function.** -/
structure Realm.Binds (realm : Realm) (name : String) (index : Nat) : Prop where
  found : ∃ property address writable,
    realm.field? (realm.object realm.landmarks.globalObject) (.ofString name) = some property ∧
      property.slot = .data (.object address) writable ∧
      (realm.object address).kind = .host index name

/-- The object of a host function has been made. -/
theorem Realm.made_of_host {realm : Realm} {address : Address} {index : Nat} {name : String}
    (host : (realm.object address).kind = .host index name) : address < realm.objects.size := by
  refine Nat.lt_of_not_le fun beyond => ?_
  unfold object at host
  rw [Array.getElem?_eq_none beyond] at host
  cases host

/-- **The name of a host function is resolved**, and nothing is called for it. -/
theorem ends_resolve {name : String} {index : Nat} (bound : memory.realm.Binds name index) :
    ∃ address, (resolve name).Ends memory (.value (.ok (.object address))) memory ∧
      (memory.realm.object address).kind = .host index name := by
  obtain ⟨property, address, writable, found, data, host⟩ := bound.found
  have named : (globalNamed name).Ends memory (.value (.object address)) memory :=
    (Run.ends_look Realm.globalValue memory).bind (ends_get .standard found data (by simp))
  have told : (reported (globalNamed name)).Ends memory (.value (.ok (.object address))) memory :=
    (ends_guarded named).bind (Run.ends_pure _ memory)
  have callable : memory.realm.isCallable (.object address) = true := by
    show (memory.realm.object address).isCallable = true
    unfold Object.isCallable
    rw [host]
  refine ⟨address, told.bind ((Run.ends_look _ memory).bind ?_), host⟩
  rw [callable]
  exact Run.ends_pure _ memory

/-- **A host function is called**: behind the look of the host it gets the arguments that it is called with. -/
theorem passes_callee (limit : Nat) {address : Address} (index : Nat) (name : String)
    {args : List Json} {values : List Value} {reply : SyscallReply} {left : SyscallContext}
    (host : (memory.realm.object address).kind = .host index name)
    (quiet : memory.panicking = false) (literal : memory.realm.Literal)
    (cross : ∀ arg ∈ args, arg.Crosses) (stand : Forall₂ memory.realm.Holds args values)
    (free : context.interrupt.reason? (context.glanced memory.realm.countdown).clock = none)
    (running : context.interrupt.exitCode = none)
    (called : table.host (.call index args) (context.glanced memory.realm.countdown) = (reply, left))
    (calm : reply ≠ .panicked) :
    ∃ outcome after, ((Caller.nested (limit + 1)).call (.object address) .undefined values).Passes table
        (memory, context) [(index, args, context.glanced memory.realm.countdown)] outcome (after, left) ∧
      memory.Grown after ∧ after.realm.Delivers name reply left.interrupt.exitCode outcome := by
  obtain ⟨middle, ticked, grown⟩ := @passes_tick table context memory free
  obtain ⟨outcome, after, dispatched, grown', delivers⟩ := passes_dispatch (Caller.nested limit) index
    name (grown.panicking_eq.trans quiet) (literal.grown grown.realm) cross
    (forall₂_imp stand fun _ _ _ here => here.grown grown.realm)
    ((context.glanced_interrupt _).symm ▸ running) called calm
  have kind : middle.realm.kindOf (.object address) = .host index name := by
    show (middle.realm.object address).kind = _
    rw [grown.realm.object_eq (Realm.made_of_host host), host]
  have body : (callObject (Caller.nested limit) (.object address) (middle.realm.kindOf (.object address))
      .undefined values >>= usable).Passes table (middle, context.glanced memory.realm.countdown)
      [(index, args, context.glanced memory.realm.countdown)] outcome (after, left) := by
    rw [kind]
    generalize left.interrupt.exitCode = requested at delivers
    cases delivers with
    | exited | failed => exact dispatched.bind_thrown _
    | returned holds =>
      exact dispatched.bind ((ends_usable holds.inert.usable after).passes table left)
  refine ⟨outcome, after, ?_, grown.trans grown', delivers⟩
  exact ticked.bind ((Run.ends_look _ middle).bind_passes body)

/-! ### The answer of a call -/

/-- **What a call of a host function by its name ends with**: a fault once an exit has been requested, and else
the answer of the host function if it crosses, or its error in words. -/
inductive Relayed (name : String) : SyscallReply → Option ExitCode → Except Fault Json → Prop
  | exited (reply : SyscallReply) (code : ExitCode) (text : String) :
      Relayed name reply (some code) (.error (.exception text))
  | returned {json : Json} {answer : Except EngineError Json} :
      (json.Whole → json.depth ≤ 127 → answer = .ok json) →
      Relayed name (.returned json) none (answer.mapError Fault.engine)
  | failed (error : SyscallError) : Relayed name (.failed error) none
      (.error (.exception (worded (failureName error) (failureMessage name error))))

/-- A value is no fault. -/
theorem Run.Passes.reported_value {α : Type} {run : Run α} {before after : Memory × SyscallContext}
    {asked : List Asked} {answer : α} (passes : run.Passes table before asked (.value answer) after)
    (quiet : after.1.panicking = false) :
    (reported run).Passes table before asked (.value (.ok answer)) after := by
  have kept := passes.guarded quiet (.inl ⟨answer, rfl, rfl⟩)
  have whole : (reported run).Passes table before (asked ++ []) (.value (.ok answer)) after :=
    kept.bind ((Run.ends_pure _ after.1).passes table after.2)
  rwa [List.append_nil] at whole

/-- An error that has just been made is a fault, told as its name and its message. -/
theorem Run.Passes.reported_thrown {α : Type} {run : Run α} {before after : Memory × SyscallContext}
    {asked : List Asked} {kind : ErrorKind} {message : String} {exception : Value}
    (passes : run.Passes table before asked (.thrown exception) after)
    (quiet : after.1.panicking = false) (intact : after.1.realm.Intact)
    (raised : after.1.realm.Raised kind message exception) :
    (reported run).Passes table before asked
      (.value (.error (.exception (worded kind.name message))))
      ({ after.1 with pending := none }, after.2) := by
  have kept := passes.guarded quiet (.inr ⟨exception, rfl, rfl⟩)
  have cleared : (Run.leavePending none).Ends after.1 (.value ()) { after.1 with pending := none } :=
    rfl
  have described : (describe exception).Ends { after.1 with pending := none }
      (.value (worded kind.name message)) { after.1 with pending := none } :=
    @ends_describe { after.1 with pending := none } intact _ _ _ ⟨raised.known, raised.made⟩
  have told : (do
      Run.leavePending none
      return .error (.exception (← describe exception)) : Run (Except Fault α)).Ends after.1
      (.value (.error (.exception (worded kind.name message)))) { after.1 with pending := none } :=
    cleared.bind (described.bind (Run.ends_pure _ _))
  have whole : (reported run).Passes table before (asked ++ [])
      (.value (.error (.exception (worded kind.name message))))
      ({ after.1 with pending := none }, after.2) :=
    kept.bind (told.passes table after.2)
  rwa [List.append_nil] at whole

/-- What is left of a call once the function has ended: its value is read back. -/
def answering : Except Fault Value → Run (Except Fault Json)
  | .error fault => pure (.error fault)
  | .ok value => do
    match ← readBack .standard value with
    | .ok json => return .ok json
    | .error error => return .error (.engine error)

/-- **A call of a host function by its name**: the host function gets the arguments that the call is made with,
once, and the call ends with what it answers. -/
theorem passes_callFunction {name : String} {index : Nat} {args : List Json} {reply : SyscallReply}
    {left : SyscallContext} (quiet : memory.panicking = false) (intact : memory.realm.Intact)
    (bound : memory.realm.Binds name index) (cross : ∀ arg ∈ args, arg.Crosses)
    (free : context.interrupt.reason? (context.glanced memory.realm.countdown).clock = none)
    (running : context.interrupt.exitCode = none)
    (called : table.host (.call index args) (context.glanced memory.realm.countdown) = (reply, left))
    (calm : reply ≠ .panicked) (ordered : ∀ json, reply = .returned json → json.Ordered) :
    ∃ answer after, (callFunction name args).Passes table (memory, context)
        [(index, args, context.glanced memory.realm.countdown)] (.value answer) (after, left) ∧
      memory.realm.Grown after.realm ∧ Relayed name reply left.interrupt.exitCode answer := by
  obtain ⟨address, resolved, host⟩ := ends_resolve bound
  obtain ⟨values, middle, made, grown, counted, stand⟩ := ends_materializeEach args memory
  have quiet' := grown.panicking_eq.trans quiet
  have intact' := intact.grown grown.realm
  have host' : (middle.realm.object address).kind = .host index name := by
    rw [grown.realm.object_eq (Realm.made_of_host host), host]
  obtain ⟨outcome, last, ran, grown', delivers⟩ := @passes_callee table middle context 3999 address
    index name _ _ _ _ host' quiet' intact'.literal cross stand (counted.symm ▸ free) running
    (counted.symm ▸ called) calm
  rw [counted] at ran
  have quiet'' := grown'.panicking_eq.trans quiet'
  have intact'' := intact'.grown grown'.realm
  have grows := grown.realm.trans grown'.realm
  -- the call is what is left once the name is resolved and the arguments are there
  have finishing {answer : Except Fault Json} {after : Memory} {first : Except Fault Value}
      {between : Memory}
      (told : (reported (Caller.standard.call (.object address) .undefined values)).Passes table
        (middle, context) [(index, args, context.glanced memory.realm.countdown)] (.value first)
        (between, left))
      (answered : (answering first).Ends between (.value answer) after) :
      (callFunction name args).Passes table (memory, context)
        [(index, args, context.glanced memory.realm.countdown)] (.value answer) (after, left) := by
    refine resolved.bind_passes (made.bind_passes (told.bind (Eq.subst ?_ (answered.passes table left))))
    cases first <;> rfl
  generalize left.interrupt.exitCode = requested at delivers ⊢
  cases delivers with
  | exited reply code raised =>
    exact ⟨_, _, finishing (ran.reported_thrown quiet'' intact'' raised) (Run.ends_pure _ _), grows,
      .exited reply code _⟩
  | @returned json value holds =>
    obtain ⟨answer, after, ends, grown'', same, -⟩ :=
      ends_readBack .standard quiet'' intact''.literal (ordered json rfl) holds
    refine ⟨answer.mapError Fault.engine, after, finishing (ran.reported_value quiet'') (ends.bind ?_),
      grows.trans grown''.realm, .returned same⟩
    cases answer <;> exact Run.ends_pure _ after
  | @failed error exception raised =>
    have told := ran.reported_thrown quiet'' intact'' raised
    rw [failureKind_name] at told
    exact ⟨_, _, finishing told (Run.ends_pure _ _), grows, .failed error⟩

/-! ### The jobs behind a call -/

namespace Run

/-- A loop that answers at once. -/
theorem Ends.loop {α σ : Type} {step : σ → Run (σ ⊕ α)} {start : σ} {answer : α} {after : Memory}
    (ends : (step start).Ends memory (.value (.inr answer)) after) :
    (loop step start).Ends memory (.value answer) after := by
  have iterated : ∀ limit ≠ 0, (iterate step limit start).Ends memory (.value answer) after := by
    intro limit long
    obtain ⟨left, rfl⟩ := Nat.exists_eq_succ_of_ne_zero long
    show Part.iterate step (left + 1) start memory = _
    rw [Part.iterate, show (step start).part memory = _ from ends]
  exact iterated endless (by decide)

end Run

/-- **Where no job waits none is run.** -/
theorem ends_runJobs (caller : Caller) (idle : memory.realm.jobs = []) :
    (runJobs caller).Ends memory (.value 0) memory := by
  have next : (nextJob caller 0).Ends memory (.value (.inr 0)) memory := by
    unfold nextJob
    refine (Run.ends_make _ memory).bind ?_
    rw [idle]
    exact Run.ends_pure _ memory
  exact next.loop.andThen_value (Run.ends_pure _ memory)

end Script

end ScriptKernel
