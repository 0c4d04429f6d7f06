/-
**Calling a host function by its name.**

* `Executor.asked`: the calls of host functions in an entry, its jobs included;
* `Executor.Poised`: an executor whose scripts have left alone what a call of a host function goes through, in
  a context in which nothing stops it;
* `call_relays`: **such a call hands its arguments to the host function as they are, once, and answers what the
  host function does**; it leaves what the host function leaves;
* `swayed_call`: a script that gives all objects a `toJSON` method changes what the host function gets.
-/

import ScriptKernel.Proofs.Process.History
import ScriptKernel.Proofs.Script.Furnished

set_option autoImplicit false

namespace ScriptKernel

open Script (Dialogue Fault Memory Outcome Run)

/-! ### The calls of an entry -/

/-- The calls of host functions in a part of a script. -/
def Engine.asked {α : Type} (engine : Engine) (table : SyscallTable) (part : Run α)
    (context : SyscallContext) : List Asked :=
  match engine.memory with
  | none => []
  | some memory => Dialogue.calls table.host (part.part memory) context

namespace Executor

variable {executor : Executor} {memory : Memory} {context : SyscallContext}

/-- The calls of host functions in an entry: those of its part, and those of the jobs that it runs. -/
def asked {α : Type} (executor : Executor) (part : Run α) (context : SyscallContext) : List Asked :=
  let first := executor.engine.asked executor.table part (executor.arm context)
  match executor.engine.enter executor.table part (executor.arm context) with
  | (.error _, engine, context) | (.ok (.value _), engine, context) =>
    first ++ engine.asked executor.table (Script.runJobs .standard) context
  | _ => first

/-- **An executor that is about to call a host function by its name.** Scripts have left the name and what the
call goes through as they were, no job waits, and nothing stops the call: no exit is requested, nothing is
cancelled, and the deadline is more than a slice of script away. -/
structure Poised (executor : Executor) (name : String) (index : Nat) (memory : Memory)
    (context : SyscallContext) : Prop where
  live : executor.engine.memory = some memory
  quiet : memory.panicking = false
  intact : memory.realm.Intact
  idle : memory.realm.jobs = []
  bound : memory.realm.Binds name index
  running : context.interrupt.exitCode = none
  uncancelled : context.interrupt.cancelled = false
  unhurried : executor.Unhurried context.clock (context.clock + Site.sliceTime 0)

/-- The context in which an entry calls a host function first thing: the deadline is armed, and time may have
gone on by a slice of script. -/
def found (executor : Executor) (memory : Memory) (context : SyscallContext) : SyscallContext :=
  (executor.arm context).glanced memory.realm.countdown

/-- **What a call by name answers** if the host function has asked for exits with these codes: the first of them
if there is one, and else the answer of the host function, or its error in words. -/
structure Relays (executor : Executor) (name : String) (reply : SyscallReply) (codes : List ExitCode)
    (answer : Except ScriptError Json) : Prop where
  exited : ∀ code rest, codes = code :: rest → answer = .error (.exited executor.pid code)
  returned : codes = [] → ∀ json, reply = .returned json → json.Whole → json.depth ≤ 127 →
    answer = .ok json
  failed : codes = [] → ∀ error, reply = .failed error →
    answer = .error (.call executor.pid name
      (Script.worded (Script.failureName error) (Script.failureMessage name error)))

/-- **The host function finds the context as the call found it**, but for the deadline and the time. -/
theorem found_eq (executor : Executor) (memory : Memory) (context : SyscallContext) :
    { executor.found memory context with
      interrupt := context.interrupt, clock := context.clock, slices := context.slices } = context := by
  unfold found SyscallContext.glanced
  split
  · rfl
  · rfl

/-- Where an executor is poised nothing stops the script at its first look. -/
theorem Poised.free {name : String} {index : Nat} (poised : executor.Poised name index memory context) :
    (executor.arm context).interrupt.reason? (executor.found memory context).clock = none := by
  have later : (executor.found memory context).clock ≤ context.clock + Site.sliceTime 0 := by
    unfold found SyscallContext.glanced
    split
    · exact Nat.le_refl _
    · exact Nat.le_add_right _ _
  have unexpired : (executor.arm context).interrupt.expired (executor.found memory context).clock =
      false := by
    unfold Interrupt.expired
    cases given : executor.callTimeout with
    | none =>
      have none : (executor.arm context).interrupt.deadline = 0 := by
        unfold arm Interrupt.arm
        rw [given]
      rw [none]
      rfl
    | some allowed =>
      have deadline : (executor.arm context).interrupt.deadline =
          Interrupt.ticks (context.clock + allowed) := by
        unfold arm Interrupt.arm
        rw [given]
        exact Interrupt.deadlineAfter_eq context.clock allowed
      have before := Nat.lt_of_le_of_lt (Interrupt.ticks_mono later) (poised.unhurried allowed given)
      rw [deadline, decide_eq_false (Nat.not_le.mpr before), Bool.and_false]
  have running : (executor.arm context).interrupt.exitCode = none := poised.running
  have uncancelled : (executor.arm context).interrupt.cancelled = false := poised.uncancelled
  unfold Interrupt.reason?
  rw [uncancelled, running, unexpired]
  rfl

/-! ### The call -/

/-- A part that has run from the memory of an engine. -/
theorem enter_passes {α : Type} {engine : Engine} {table : SyscallTable} {run : Run α}
    {before after : Memory} {asked : List Asked} {outcome : Outcome α} {left : SyscallContext}
    (live : engine.memory = some before)
    (passes : run.Passes table (before, context) asked outcome (after, left)) :
    engine.enter table run context = (.ok outcome, ⟨some after⟩, left) ∧
      engine.asked table run context = asked := by
  unfold Engine.enter Engine.asked
  simp only [live]
  rw [passes.run, passes.calls]
  exact ⟨rfl, rfl⟩

/-- A part with an answer, after which no job waits, is the whole entry. -/
theorem enter_of_passes {α : Type} {part : Run (Except Fault α)} {answer : Except Fault α}
    {after : Memory} {asked : List Asked} {left : SyscallContext}
    (live : executor.engine.memory = some memory)
    (passes : part.Passes executor.table (memory, executor.arm context) asked (.value answer)
      (after, left)) (idle : after.realm.jobs = []) :
    executor.enter part context = (some ⟨.ok answer, left.interrupt.tripped⟩,
        { executor with engine := ⟨some after⟩ }, left.disarmed) ∧
      executor.asked part context = asked := by
  obtain ⟨entered, first⟩ := enter_passes live passes
  obtain ⟨finished, further⟩ := @enter_passes left Nat ⟨some after⟩ _ _ _ _ _ _ _ rfl
    ((Script.ends_runJobs .standard idle).passes executor.table left)
  constructor
  · have ran : ({ executor with engine := ⟨some after⟩ } : Executor).runJobs left =
        (some 0, { executor with engine := ⟨some after⟩ }, left) := by
      unfold runJobs
      simp only [finished]
    unfold enter
    simp only [entered, ran]
    rfl
  · unfold Executor.asked
    simp only [entered, first, further]
    exact List.append_nil _

/-- Asking to exit stops nothing by itself. -/
theorem requests_tripped (codes : List ExitCode) (interrupt : Interrupt) :
    (codes.foldl Interrupt.requestExit interrupt).tripped = interrupt.tripped := by
  induction codes generalizing interrupt with
  | nil => rfl
  | cons code others ih => rw [List.foldl_cons, ih, Interrupt.requestExit_eq]

/-- **A call answers what its entry ends with**, if nothing has stopped the script. -/
theorem relays_of_entered {name : String} {args : List Json} {after : Memory} {left : SyscallContext}
    {reply : SyscallReply} {codes : List ExitCode} {ended : Except Fault Json}
    (entered : executor.enter (Script.callFunction name args) context =
      (some ⟨.ok ended, left.interrupt.tripped⟩, { executor with engine := ⟨some after⟩ },
        left.disarmed))
    (untripped : left.interrupt.tripped = none) (first : left.interrupt.exitCode = codes.head?)
    (relayed : Script.Relayed name reply codes.head? ended) :
    ∃ answer, executor.call name args context =
        (some answer, { executor with engine := ⟨some after⟩ }, left.disarmed) ∧
      executor.Relays name reply codes answer := by
  have kept : left.disarmed.interrupt.exitCode = codes.head? := first
  unfold call
  cases codes with
  | cons code rest =>
    rw [List.head?_cons] at relayed kept
    cases relayed with
    | exited reply code text =>
      refine ⟨.error (.exited executor.pid code), ?_, fun other others same => ?_, nofun, nofun⟩
      · simp only [entered, untripped, kept]
        rfl
      · cases same
        rfl
  | nil =>
    rw [List.head?_nil] at relayed kept
    cases relayed with
    | @returned json answer same =>
      refine ⟨answer.mapError (.engine executor.pid), ?_, nofun, fun _ _ told whole shallow => ?_,
        fun _ _ => nofun⟩
      · cases answer with
        | ok json => simp only [entered, Except.mapError]
        | error flaw =>
          simp only [entered, Except.mapError, untripped, kept]
          rfl
      · cases told
        rw [same whole shallow]
        rfl
    | failed error =>
      refine ⟨.error (.call executor.pid name
        (Script.worded (Script.failureName error) (Script.failureMessage name error))), ?_, nofun,
        fun _ _ => nofun, fun _ other same => ?_⟩
      · simp only [entered, untripped, kept]
        rfl
      · cases same
        rfl

/-- **A call of a host function by its name is transparent**: the host function gets the arguments as they are,
once, in the context of the call; and the call answers what the host function answers and leaves what it
leaves. -/
theorem call_relays {name : String} {index : Nat} {syscall : Syscall} {args : List Json}
    (poised : executor.Poised name index memory context)
    (listed : executor.table.syscalls[index]? = some syscall) (modest : syscall.Modest)
    (cross : ∀ arg ∈ args, arg.Crosses)
    (calm : (syscall.call args (executor.found memory context)).1 ≠ .panicked)
    (ordered : ∀ json, (syscall.call args (executor.found memory context)).1 = .returned json →
      json.Ordered) :
    { executor.found memory context with
        interrupt := context.interrupt, clock := context.clock, slices := context.slices } = context ∧
      executor.asked (Script.callFunction name args) context =
        [(index, args, executor.found memory context)] ∧
      ∃ answer after, executor.call name args context =
          (some answer, { executor with engine := ⟨some after⟩ },
            (syscall.call args (executor.found memory context)).2.disarmed) ∧
        memory.realm.Grown after.realm ∧
        ∃ codes, (syscall.call args (executor.found memory context)).2.interrupt =
            codes.foldl Interrupt.requestExit (executor.found memory context).interrupt ∧
          executor.Relays name (syscall.call args (executor.found memory context)).1 codes answer := by
  refine ⟨executor.found_eq memory context, ?_⟩
  obtain ⟨codes, requested⟩ := (modest args (executor.found memory context)).interrupt
  have untripped : (syscall.call args (executor.found memory context)).2.interrupt.tripped = none := by
    rw [requested, requests_tripped, found, SyscallContext.glanced_interrupt]
    rfl
  have first : (syscall.call args (executor.found memory context)).2.interrupt.exitCode = codes.head? := by
    rw [requested, (Interrupt.Asked.of_requests _ codes).exitCode_eq, found,
      SyscallContext.glanced_interrupt]
    exact congrArg (Option.or · codes.head?) poised.running
  have called : executor.table.host (.call index args) (executor.found memory context) =
      syscall.call args (executor.found memory context) := by
    simp only [SyscallTable.host, listed]
    rfl
  generalize syscall.call args (executor.found memory context) = done at *
  obtain ⟨reply, left⟩ := done
  dsimp only at untripped first
  obtain ⟨ended, after, passes, grown, relayed⟩ := Script.passes_callFunction poised.quiet poised.intact
    poised.bound cross poised.free poised.running called calm ordered
  obtain ⟨entered, asked⟩ := enter_of_passes poised.live passes (grown.jobs_eq.trans poised.idle)
  obtain ⟨answer, answered, relays⟩ := relays_of_entered entered untripped first (first ▸ relayed)
  exact ⟨asked, answer, after, answered, grown, codes, requested, relays⟩

end Executor

/-! ### Processes that have just come up -/

/-- **A process that has just come up is about to call each of its host functions by its name**, if it is given
more than a slice of script. -/
theorem ScriptProcess.start_poised {spec : ProcessSpec} {terminal : TerminalRef} {table : SyscallTable}
    {config : KernelConfig} {site : Site} {process : ScriptProcess}
    (started : (start spec terminal table config site).1 = .ok process)
    (unhurried : process.executor.Unhurried site.clock (site.clock + Site.sliceTime 0)) :
    ∃ memory, ∀ index syscall, table.syscalls[index]? = some syscall →
      process.executor.Poised syscall.name index memory (.of process.resident site) := by
  obtain ⟨memory, live, quiet, furnished⟩ := start_furnished started
  have fresh := (start_ok started).1
  refine ⟨memory, fun index syscall listed => ?_⟩
  have named : table.names[index]? = some syscall.name := by
    unfold SyscallTable.names
    rw [List.getElem?_map, listed]
    rfl
  have untouched : (SyscallContext.of process.resident site).interrupt = {} := by
    show process.resident.interrupt = {}
    rw [fresh.resident]
    rfl
  exact ⟨live, quiet, furnished.intact, furnished.idle, furnished.binds named,
    by rw [untouched], by rw [untouched], unhurried⟩

/-- A printed line is answered with null. -/
theorem Syscall.print_returned {args : List Json} {context : SyscallContext} {json : Json}
    (told : (Syscall.print.call args context).1 = .returned json) : json = .null := by
  rw [Syscall.print_call] at told
  split at told
  · cases told
    rfl
  · cases told

/-- The only process at the beginning of a call. -/
def ScriptProcess.singleContext : SyscallContext := .of single.resident .single

/-- **A process that has just come up prints what it is called with.** -/
theorem call_relays_of_print : ∃ memory,
    ScriptProcess.single.executor.Poised "print" 0 memory ScriptProcess.singleContext ∧
      ScriptProcess.single.executor.asked (Script.callFunction "print" [Script.exchanged])
          ScriptProcess.singleContext =
        [(0, [Script.exchanged],
          ScriptProcess.single.executor.found memory ScriptProcess.singleContext)] := by
  have fresh := (ScriptProcess.start_ok ScriptProcess.single_started).1
  obtain ⟨memory, poised⟩ := ScriptProcess.start_poised ScriptProcess.single_started (by
    intro allowed given
    rw [fresh.callTimeout] at given
    cases given
    decide +kernel)
  have ready := poised 0 .print rfl
  have listed : ScriptProcess.single.executor.table.syscalls[0]? = some .print := by
    rw [fresh.table]
    rfl
  obtain ⟨-, asked, -⟩ := Executor.call_relays ready listed
    (SyscallTable.standard_modest _ (List.mem_of_getElem? (rfl : SyscallTable.standard.syscalls[0]? = _)))
    (List.forall_mem_singleton.mpr Script.exchanged_crosses)
    (SyscallTable.standard_calm _ (List.mem_of_getElem? (rfl : SyscallTable.standard.syscalls[0]? = _)) _ _)
    fun json told => Syscall.print_returned told ▸ .null
  exact ⟨memory, ready, asked⟩

/-! ### Objects that speak for themselves -/

/-- A script that gives all objects a method that speaks for them. -/
def swayingSource : String :=
  "Object.prototype.toJSON = function () \x7b return 'x'; \x7d;"

/-- The only process after that script, and what is around it. -/
def swayed : ScriptProcess × Site := ScriptProcess.single.execute .single ⟨fun _ => .ok swayingSource⟩

/-- The process at the beginning of a call. -/
def swayedContext : SyscallContext := .of swayed.1.resident swayed.2

/-- The memory of the process. -/
def swayedMemory : Script.Memory := swayed.1.executor.engine.memory.getD default

/-- What a global name answers with, if it is a host function. -/
def Script.Realm.hostNamed? (realm : Script.Realm) (name : String) : Option (Nat × String) :=
  match realm.field? (realm.object realm.landmarks.globalObject) (.ofString name) with
  | some ⟨.data (.object address) _, _, _⟩ =>
    match (realm.object address).kind with
    | .host index label => some (index, label)
    | _ => none
  | _ => none

theorem Script.Realm.binds_of_hostNamed {realm : Script.Realm} {name : String} {index : Nat}
    (answers : realm.hostNamed? name = some (index, name)) : realm.Binds name index := by
  unfold hostNamed? at answers
  split at answers
  · rename_i address writable enumerable configurable found
    split at answers
    · rename_i place label host
      cases answers
      exact ⟨_, address, writable, found, rfl, host⟩
    · cases answers
  · cases answers

set_option maxRecDepth 100000 in
/-- **A script can change what a host function gets**: its name is bound as before, nothing stops the call, and
an object without fields reaches it as a text. -/
theorem swayed_call :
    swayed.1.executor.engine.memory.isSome ∧ swayedMemory.panicking = false ∧
      swayedMemory.realm.jobs.isEmpty ∧ swayedMemory.realm.Binds "print" 0 ∧
      swayedContext.interrupt = {} ∧
      swayed.1.executor.Unhurried swayedContext.clock (swayedContext.clock + Site.sliceTime 0) ∧
      (Json.members []).Crosses ∧ (Json.members []).print = "\x7b\x7d" ∧
      (swayed.1.executor.asked (Script.callFunction "print" [.members []]) swayedContext).map
        (fun call => (call.1, call.2.1.map Json.print)) = [(0, ["\"x\""])] := by
  obtain ⟨live, quiet, idle, bound, free, timeout, clock, empty, asked⟩ :
      swayed.1.executor.engine.memory.isSome ∧ swayedMemory.panicking = false ∧
        swayedMemory.realm.jobs.isEmpty ∧
        swayedMemory.realm.hostNamed? "print" = some (0, "print") ∧ swayedContext.interrupt = {} ∧
        swayed.1.executor.callTimeout = some (Duration.ofMilliseconds 30000) ∧
        swayedContext.clock = 0 ∧ (Json.members []).print = "\x7b\x7d" ∧
        (swayed.1.executor.asked (Script.callFunction "print" [.members []]) swayedContext).map
          (fun call => (call.1, call.2.1.map Json.print)) = [(0, ["\"x\""])] := by
    decide +kernel
  refine ⟨live, quiet, idle, Script.Realm.binds_of_hostNamed bound, free, fun allowed given => ?_,
    ⟨.members .nil nofun, .members nofun, by decide⟩, empty, asked⟩
  rw [timeout] at given
  cases given
  rw [clock]
  decide +kernel

end ScriptKernel
