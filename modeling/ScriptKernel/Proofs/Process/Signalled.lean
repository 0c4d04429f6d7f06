/-
**What a signal comes to.**

* `Realm.global?`: what a script has defined as a global, where reading it calls no getter; the name is then
  looked up, and resolved, without a trace (`ends_hasFunction`, `ends_resolve_global`);
* `handling`: one call of a function with a number; a call of the global by its name is an entry of that kind
  (`call_handles`);
* `ScriptProcess.Handles`: what becomes of a process whose script handles a signal;
* `signal_told`: every number, and every value that the script may have defined as its handler.
-/

import ScriptKernel.Proofs.Process.History
import ScriptKernel.Proofs.Script.Delivery
import ScriptKernel.Syscall.Standin

set_option autoImplicit false

namespace ScriptKernel

open Script (Fault Memory Realm Run Value)

namespace Script

/-! ### A global that is read without a getter -/

/-- **What a script has defined as a global**, where no getter stands in its place: undefined where there is
nothing. -/
def Realm.global? (realm : Realm) (name : String) : Option Value :=
  match realm.field? (realm.object realm.landmarks.globalObject) (.ofString name) with
  | none => some .undefined
  | some property =>
    match property.slot with
    | .data value _ => some value
    | .accessor .undefined _ => some .undefined
    | .accessor _ _ => none
    | .parameter scope parameter => some (realm.valueIn scope parameter)

variable {memory : Memory} {name : String} {value : Value}

/-- Such a global is read, and nothing is called for it. -/
theorem ends_globalNamed (defined : memory.realm.global? name = some value) (usable : value ≠ .panic) :
    (globalNamed name).Ends memory (.value value) memory := by
  refine (Run.ends_look Realm.globalValue memory).bind ?_
  unfold Realm.global? at defined
  cases found : memory.realm.field? (memory.realm.object memory.realm.landmarks.globalObject)
      (.ofString name) with
  | none =>
    rw [found] at defined
    cases defined
    exact ends_get_none .standard found
  | some property =>
    simp only [found] at defined
    refine .bind (ends_usable (by simp [Realm.globalValue]) memory) (.bind (Run.ends_look _ memory) ?_)
    simp only [Realm.globalValue, Realm.holder?, Option.map_some, found]
    cases kept : property.slot with
    | data stored writable =>
      rw [kept] at defined
      cases defined
      exact ends_usable usable memory
    | accessor getter setter =>
      rw [kept] at defined
      cases getter with
      | undefined =>
        cases defined
        exact Run.ends_pure _ memory
      | _ => cases defined
    | parameter scope parameter =>
      rw [kept] at defined
      cases defined
      exact (Run.ends_look _ memory).bind (ends_usable usable memory)

/-- Whether it is a function is seen. -/
theorem ends_hasFunction (defined : memory.realm.global? name = some value) (usable : value ≠ .panic) :
    (hasFunction name).Ends memory (.value (memory.realm.isCallable value)) memory :=
  (ends_guarded (ends_globalNamed defined usable)).bind (Run.ends_look _ memory)

/-- A function is resolved by its name. -/
theorem ends_resolve_global (defined : memory.realm.global? name = some value) (usable : value ≠ .panic)
    (callable : memory.realm.isCallable value = true) :
    (resolve name).Ends memory (.value (.ok value)) memory := by
  have told : (reported (globalNamed name)).Ends memory (.value (.ok value)) memory :=
    (ends_guarded (ends_globalNamed defined usable)).bind (Run.ends_pure _ memory)
  refine told.bind ((Run.ends_look _ memory).bind ?_)
  rw [callable]
  exact Run.ends_pure _ memory

/-- **One call of a function with a number**: what it throws is a fault, and its value is read back. -/
def handling (target : Value) (number : Nat) : Run (Except Fault Json) := do
  answering (← reported (Caller.standard.call target .undefined [.ofNat number]))

/-- Where a part ends at once, the rest is what comes after it. -/
theorem Run.Ends.part_bind {α β : Type} {first : Run α} {before after : Memory} {answer : α}
    (ends : first.Ends before (.value answer) after) (next : α → Run β) :
    (first >>= next).part before = (next answer).part after := by
  show Part.andThen _ _ before = _
  rw [Part.andThen_apply, ends]
  rfl

/-- A call with structured values is such a call, when the only value is a number. -/
theorem apply_number (target : Value) (number : Nat) (memory : Memory) :
    (apply target [Json.nat number]).part memory = (handling target number).part memory := by
  have positive : ¬(number : Int) < 0 := by omega
  have whole : Double.ofInt (number : Int) = .ofNat number := by
    simp [Double.ofInt, Double.ofNat, positive]
  have made : (Run.each (fun arg => Run.make fun realm => realm.materialize arg) [Json.nat number]).Ends memory
      (.value [.ofNat number]) memory := by
    rw [Value.ofNat, ← whole]
    rfl
  exact made.part_bind _

/-- **A call of a global function by its name is a call of that function.** -/
theorem callFunction_number (defined : memory.realm.global? name = some value) (usable : value ≠ .panic)
    (callable : memory.realm.isCallable value = true) (number : Nat) :
    (callFunction name [Json.nat number]).part memory = (handling value number).part memory :=
  ((ends_resolve_global defined usable callable).part_bind _).trans (apply_number value number memory)

end Script

/-! ### The handler as an entry -/

namespace Executor

variable {executor : Executor} {memory : Memory} {name : String} {value : Value}

/-- Two parts that are the same on the memory of the engine are the same entry. -/
theorem enter_congr {α : Type} {part other : Run (Except Fault α)}
    (here : executor.engine.memory = some memory) (same : part.part memory = other.part memory)
    (context : SyscallContext) : executor.enter part context = executor.enter other context := by
  have entered : ∀ context, executor.engine.enter executor.table part context =
      executor.engine.enter executor.table other context := by
    intro context
    unfold Engine.enter
    simp only [here, same]
  unfold enter
  rw [entered]

/-- **Whether a global is a function is seen without a trace.** -/
theorem hasFunction_of_global (here : executor.engine.memory = some memory)
    (defined : memory.realm.global? name = some value) (usable : value ≠ .panic) (context : SyscallContext) :
    executor.hasFunction name context = (some (memory.realm.isCallable value), executor, context) := by
  obtain ⟨pid, ⟨_⟩, callTimeout, table⟩ := executor
  cases here
  unfold hasFunction Engine.enter
  simp only [show (Script.hasFunction name).part memory = _ from Script.ends_hasFunction defined usable,
    Script.Dialogue.run_done]

/-- **How a call of a function with a number answers**: the function is called once, in one entry, and the
answer is its value or the error of its failure. -/
def Handles (executor : Executor) (name : String) (target : Value) (number : Nat)
    (context : SyscallContext) (answer : Except ScriptError Json) (left : Executor × SyscallContext) : Prop :=
  ∃ ending reason,
    executor.enter (Script.handling target number) context = (some ⟨.ok ending, reason⟩, left) ∧
      answer = ending.mapError fun fault =>
        left.1.classify name fault reason left.2.interrupt.exitCode (.call left.1.pid name)

/-- **A call of a global function by its name is one call of that function.** -/
theorem call_handles (calm : executor.table.Calm) (sound : executor.engine.Sound)
    (here : executor.engine.memory = some memory) (defined : memory.realm.global? name = some value)
    (usable : value ≠ .panic) (callable : memory.realm.isCallable value = true) (number : Nat)
    (context : SyscallContext) :
    ∃ answer left, executor.call name [Json.nat number] context = (some answer, left) ∧
      executor.Leaves context left ∧ executor.Handles name value number context answer left := by
  obtain ⟨answer, engine, after, applied, sound', known, moves⟩ := Engine.enter_answers calm
    executor.callTimeout sound (Script.answers_apply value [Json.nat number])
    (context.armed executor.callTimeout)
  obtain ⟨engine, middle, entered, sound', moves⟩ := enter_answers calm applied sound' moves
  have same := enter_congr here (Script.callFunction_number defined usable callable number) context
  have once := enter_congr here (Script.apply_number value number memory) context
  refine ⟨_, _, ?_, leaves_of_moves sound' moves, answer, middle.interrupt.tripped, once ▸ entered, rfl⟩
  unfold call
  rw [same, ← once, entered]
  cases answer with
  | ok json => rfl
  | error fault =>
    cases fault with
    | missing => exact absurd rfl known
    | _ => rfl

end Executor

/-! ### What becomes of the process -/

namespace ScriptProcess

variable {process : ScriptProcess} {site : Site} {memory : Memory} {value : Value}

/-- **What becomes of a process whose script handles a signal**: the handler is called once, with the number;
the answer is its value or the error of its failure, which is reported; and the process goes on, or ends with
the exit that was asked for. -/
def Handles (process : ScriptProcess) (site : Site) (target : Value) (number : Nat)
    (result : Except ProcessError SignalOutcome × ScriptProcess × Site) : Prop :=
  ∃ answer left,
    process.executor.Handles signalHandler target number (process.handed site) answer left ∧
      result = ((answer.map SignalOutcome.handled).mapError .script, (process.afterwards left).1,
        (process.afterwards left).1.reporting (process.afterwards left).2
          (answer.mapError ProcessError.script)) ∧
      result.2.1.resident.interrupt.exitCode = left.2.interrupt.exitCode ∧
      (left.2.interrupt.exitCode = none → result.2.1.Ready ∧ result.2.1.status = process.status) ∧
      ∀ code, left.2.interrupt.exitCode = some code →
        result.2.1.state = .exited ∧ result.2.1.status = .exited code

/-- **The process is ended from outside, and that is told**: its engine is destroyed as it is, no script has run,
and all that the site shows is the end. -/
def EndsTold (process : ScriptProcess) (site : Site)
    (result : Except ProcessError SignalOutcome × ScriptProcess × Site) : Prop :=
  result = (.ok .terminated, process.terminate site) ∧
    result.2.1.executor = process.executor.destroy ∧
    result.2.2 =
      { site with terminals := process.resident.lifecycle.notify .terminated site.terminals }

/-- **The answer tells what became of the process**: it has been ended exactly where that is told, and its
status is another only where the handler has asked for an exit. -/
def Honest (process : ScriptProcess) (result : Except ProcessError SignalOutcome × ScriptProcess × Site) : Prop :=
  (result.1 = .ok .terminated ↔ result.2.1.state = .terminated) ∧
    (result.2.1.status = process.status ∨ ∃ code,
      result.2.1.resident.interrupt.exitCode = some code ∧ result.2.1.status = .exited code)

/-- **What a signal comes to**, with a value as the handler. -/
structure Signalled (process : ScriptProcess) (site : Site) (number : Nat) (value : Value) (callable : Bool)
    (result : Except ProcessError SignalOutcome × ScriptProcess × Site) : Prop where
  unknown : number ∉ [1, 2, 9, 10, 12, 15] →
    result = (.error (.signal (.invalid number)), process, site)
  killed : number = 9 → process.EndsTold site result
  handled : number ∈ [1, 2, 10, 12, 15] → callable = true → process.Handles site value number result
  fatal : number ∈ [1, 2, 15] → callable = false → process.EndsTold site result
  ignored : number ∈ [10, 12] → callable = false → result = (.ok .ignored, process, site)
  honest : process.Honest result

/-! ### Each of the outcomes -/

/-- An answer that tells nothing of an end is honest where nothing has changed. -/
theorem honest_unchanged (ready : process.Ready) {answer : Except ProcessError SignalOutcome}
    (other : answer ≠ .ok .terminated) (site : Site) : process.Honest (answer, process, site) := by
  have state : process.state ≠ .terminated := by
    intro ended
    exact nomatch ready.state.symm.trans ended
  exact ⟨⟨fun same => absurd same other, fun ended => absurd ended state⟩, .inl rfl⟩

theorem endsTold_terminate (ready : process.Ready) (site : Site) :
    process.EndsTold site (.ok .terminated, process.terminate site) := by
  refine ⟨rfl, ?_, ?_⟩
  · rw [terminate_ready ready]
  · rw [terminate_ready ready]

/-- The end of the process is told. -/
theorem EndsTold.honest {result : Except ProcessError SignalOutcome × ScriptProcess × Site}
    (ready : process.Ready) (ends : process.EndsTold site result) : process.Honest result := by
  obtain ⟨rfl, -, -⟩ := ends
  rw [terminate_ready ready]
  exact ⟨⟨fun _ => rfl, fun _ => rfl⟩, .inl rfl⟩

theorem Handles.honest {number : Nat} {result : Except ProcessError SignalOutcome × ScriptProcess × Site}
    (handles : process.Handles site value number result) : process.Honest result := by
  obtain ⟨answer, left, -, rfl, kept, goes, ends⟩ := handles
  have untold : (answer.map SignalOutcome.handled).mapError ProcessError.script ≠ .ok .terminated := by
    cases answer <;> exact nofun
  cases asked : left.2.interrupt.exitCode with
  | none =>
    obtain ⟨ready, status⟩ := goes asked
    have state := ready.state
    refine ⟨⟨fun same => absurd same untold, fun ended => ?_⟩, .inl status⟩
    exact nomatch state.symm.trans ended
  | some code =>
    obtain ⟨state, status⟩ := ends code asked
    refine ⟨⟨fun same => absurd same untold, fun ended => ?_⟩, .inr ⟨code, kept.trans asked, status⟩⟩
    exact nomatch state.symm.trans ended

/-- **A signal that the script handles.** -/
theorem signal_handled (ready : process.Ready) (site : Site) (here : process.executor.engine.memory = some memory)
    (defined : memory.realm.global? signalHandler = some value) (usable : value ≠ .panic)
    (callable : memory.realm.isCallable value = true) (calm : process.executor.table.Calm)
    (modest : process.executor.table.Modest) {signal : Signal} (catchable : signal.isCatchable = true) :
    process.Handles site value signal.number (process.signal site signal.number) := by
  obtain ⟨answer, left, called, leaves, handles⟩ := Executor.call_handles calm ready.sound here defined usable
    callable signal.number (process.handed site)
  have keeps := leaves.keeps modest
  have looked := Executor.hasFunction_of_global here defined usable (process.handed site)
  have ended : signalJob signal process.executor (process.handed site) =
      (some ((answer.map some).mapError ProcessError.script), left) := by
    unfold signalJob entryJob
    simp only [looked, callable, called]
    rfl
  have ran := runReporting_of_keeps ready ended keeps
  have result : process.signal site signal.number =
      ((answer.map SignalOutcome.handled).mapError .script, (process.afterwards left).1,
        (process.afterwards left).1.reporting (process.afterwards left).2
          (answer.mapError ProcessError.script)) := by
    unfold ScriptProcess.signal
    rw [Signal.ofNumber?_number]
    simp only [ready.isAlive, catchable, ran, Bool.not_true, Bool.false_eq_true, if_false]
    cases answer <;> rfl
  rw [result]
  refine ⟨answer, left, handles, rfl, ?_, ?_, ?_⟩
  · exact congrArg Interrupt.exitCode (interrupt_afterwards process left)
  · intro goes
    refine ⟨ready.afterwards keeps goes, ?_⟩
    rw [status_afterwards, goes]
    rfl
  · intro code ends
    rw [afterwards_some ends]
    exact ⟨rfl, rfl⟩

/-- **A signal that the script does not handle** ends the process or changes nothing. -/
theorem signal_unhandled (ready : process.Ready) (site : Site)
    (here : process.executor.engine.memory = some memory)
    (defined : memory.realm.global? signalHandler = some value) (usable : value ≠ .panic)
    (other : memory.realm.isCallable value = false) {signal : Signal} (catchable : signal.isCatchable = true) :
    process.signal site signal.number =
      if signal.isFatal then (.ok .terminated, process.terminate site) else (.ok .ignored, process, site) := by
  have looked := Executor.hasFunction_of_global here defined usable (process.handed site)
  have ended : signalJob signal process.executor (process.handed site) =
      (some (.ok none), process.executor, process.handed site) := by
    unfold signalJob
    simp only [looked, other]
  have keeps : process.executor.Keeps (process.handed site) (process.executor, process.handed site) :=
    ⟨rfl, ready.sound, .refl _⟩
  have ran := runReporting_of_keeps ready ended keeps
  have same : process.afterwards (process.executor, process.handed site) = (process, site) := by
    rw [afterwards_none ready.unasked]
    rfl
  rw [same] at ran
  unfold ScriptProcess.signal
  rw [Signal.ofNumber?_number]
  simp only [ready.isAlive, catchable, ran, Bool.not_true, Bool.false_eq_true, if_false]
  rfl

/-- A number that no signal has is refused. -/
theorem signal_invalid {number : Nat} (unlisted : number ∉ [1, 2, 9, 10, 12, 15]) (site : Site) :
    process.signal site number = (.error (.signal (.invalid number)), process, site) := by
  have nothing : Signal.ofNumber? number = none := by
    refine List.find?_eq_none.mpr fun signal _ same => unlisted ?_
    rw [← beq_iff_eq.mp same]
    cases signal <;> decide
  unfold ScriptProcess.signal
  rw [nothing]

/-- A process is killed without asking its script. -/
theorem signal_killed (ready : process.Ready) (site : Site) :
    process.EndsTold site (process.signal site 9) := by
  unfold ScriptProcess.signal
  simp only [show Signal.ofNumber? 9 = some .kill from rfl, ready.isAlive]
  exact endsTold_terminate ready site

/-- The numbers of the signals that a script may handle, and what they do unhandled. -/
theorem exists_catchable {number : Nat} (listed : number ∈ [1, 2, 10, 12, 15]) :
    ∃ signal : Signal, signal.number = number ∧ signal.isCatchable = true ∧
      (signal.isFatal = true ↔ number ∈ [1, 2, 15]) := by
  simp only [List.mem_cons, List.not_mem_nil, or_false] at listed
  rcases listed with rfl | rfl | rfl | rfl | rfl
  · exact ⟨.hangup, by decide⟩
  · exact ⟨.interrupt, by decide⟩
  · exact ⟨.user1, by decide⟩
  · exact ⟨.user2, by decide⟩
  · exact ⟨.terminate, by decide⟩

/-- A number is no signal's, kills, or is that of a signal that a script may handle. -/
theorem number_cases (number : Nat) :
    number ∉ [1, 2, 9, 10, 12, 15] ∨ number = 9 ∨
      number ∈ [1, 2, 10, 12, 15] ∧ (number ∈ [1, 2, 15] ∨ number ∈ [10, 12]) := by
  simp only [List.mem_cons, List.not_mem_nil, or_false]
  omega

theorem severe_listed {number : Nat} (severe : number ∈ [1, 2, 15]) : number ∈ [1, 2, 10, 12, 15] := by
  simp only [List.mem_cons, List.not_mem_nil, or_false] at severe ⊢
  omega

theorem mild_listed {number : Nat} (mild : number ∈ [10, 12]) :
    number ∈ [1, 2, 10, 12, 15] ∧ number ∉ [1, 2, 15] := by
  simp only [List.mem_cons, List.not_mem_nil, or_false] at mild ⊢
  omega

/-- **What every signal comes to** in a process that takes work, whatever its script has defined as the handler
short of a getter. Where the handler is called, the host functions do not panic and keep to what they are
handed. -/
theorem signal_told (ready : process.Ready) (site : Site) (number : Nat)
    (here : process.executor.engine.memory = some memory)
    (defined : memory.realm.global? signalHandler = some value) (usable : value ≠ .panic)
    (tame : number ∈ [1, 2, 10, 12, 15] → memory.realm.isCallable value = true →
      process.executor.table.Calm ∧ process.executor.table.Modest) :
    process.Signalled site number value (memory.realm.isCallable value) (process.signal site number) := by
  have handled : number ∈ [1, 2, 10, 12, 15] → memory.realm.isCallable value = true →
      process.Handles site value number (process.signal site number) := by
    intro listed callable
    obtain ⟨calm, modest⟩ := tame listed callable
    obtain ⟨signal, rfl, catchable, -⟩ := exists_catchable listed
    exact signal_handled ready site here defined usable callable calm modest catchable
  have unhandled : number ∈ [1, 2, 10, 12, 15] → memory.realm.isCallable value = false →
      process.signal site number =
        if number ∈ [1, 2, 15] then (.ok .terminated, process.terminate site)
        else (.ok .ignored, process, site) := by
    intro listed other
    obtain ⟨signal, rfl, catchable, fatal⟩ := exists_catchable listed
    rw [signal_unhandled ready site here defined usable other catchable]
    exact if_congr fatal rfl rfl
  have fatal : number ∈ [1, 2, 15] → memory.realm.isCallable value = false →
      process.EndsTold site (process.signal site number) := by
    intro listed other
    rw [unhandled (severe_listed listed) other, if_pos listed]
    exact endsTold_terminate ready site
  have ignored : number ∈ [10, 12] → memory.realm.isCallable value = false →
      process.signal site number = (.ok .ignored, process, site) := by
    intro listed other
    rw [unhandled (mild_listed listed).1 other, if_neg (mild_listed listed).2]
  refine ⟨fun unlisted => signal_invalid unlisted site, ?_, handled, fatal, ignored, ?_⟩
  · rintro rfl
    exact signal_killed ready site
  rcases number_cases number with unlisted | rfl | ⟨listed, unasked⟩
  · rw [signal_invalid unlisted]
    refine honest_unchanged ready ?_ site
    exact nofun
  · exact (signal_killed ready site).honest ready
  · by_cases callable : memory.realm.isCallable value = true
    · exact (handled listed callable).honest
    · rw [Bool.not_eq_true] at callable
      rcases unasked with severe | mild
      · exact (fatal severe callable).honest ready
      · rw [ignored mild callable]
        refine honest_unchanged ready ?_ site
        exact nofun

/-- What is there is what is taken of it. -/
theorem eq_some_getD {α : Type} {held : Option α} (there : held.isSome = true) (other : α) :
    held = some (held.getD other) := by
  cases held with
  | none => cases there
  | some value => rfl

/-- A process whose script returns the number of each signal. -/
def attentive : ScriptProcess × Site :=
  (Operation.execute ⟨fun _ => .ok "function main() {} function onsignal(n) { return n; }"⟩).perform
    .single .single

/-- The memory of the process. -/
def attentiveMemory : Memory := attentive.1.executor.engine.memory.getD default

/-- The handler of the process. -/
def attentiveHandler : Value := (attentiveMemory.realm.global? signalHandler).getD .undefined

set_option maxRecDepth 100000 in
/-- A process whose script handles a signal. -/
theorem signal_told_attentive :
    attentive.1.Ready ∧ attentive.1.executor.engine.memory = some attentiveMemory ∧
      attentiveMemory.realm.global? signalHandler = some attentiveHandler ∧ attentiveHandler ≠ .panic ∧
      attentiveMemory.realm.isCallable attentiveHandler = true ∧
      attentive.1.Handles attentive.2 attentiveHandler 15 (attentive.1.signal attentive.2 15) := by
  obtain ⟨alive, live, defined, usable, callable⟩ : attentive.1.isAlive = true ∧
      attentive.1.executor.engine.memory.isSome = true ∧
      (attentiveMemory.realm.global? signalHandler).isSome = true ∧ attentiveHandler ≠ .panic ∧
      attentiveMemory.realm.isCallable attentiveHandler = true := by
    decide +kernel
  have standing : attentive.1.Standing .standard := by
    unfold attentive
    exact (start_ok single_started).1.standing.perform SyscallTable.standard_calm
      SyscallTable.standard_modest _ _
  have ready : attentive.1.Ready := by
    rcases standing.stage with ready | ended
    · exact ready
    · have dead := ended.isAlive
      rw [alive] at dead
      cases dead
  have here : attentive.1.executor.engine.memory = some attentiveMemory := by
    unfold attentiveMemory
    exact eq_some_getD live _
  have handler : attentiveMemory.realm.global? signalHandler = some attentiveHandler := by
    unfold attentiveHandler
    exact eq_some_getD defined _
  have tame : attentive.1.executor.table.Calm ∧ attentive.1.executor.table.Modest := by
    rw [standing.table]
    exact ⟨SyscallTable.standard_calm, SyscallTable.standard_modest⟩
  have signalled := signal_told ready attentive.2 15 here handler usable fun _ _ => tame
  exact ⟨ready, here, handler, usable, callable, signalled.handled (by decide) callable⟩

/-- A process with a host function that ends it and one that panics. -/
def mutinous : ScriptProcess :=
  (start ⟨1, "main.js", [], []⟩ ⟨some 0⟩
    ⟨SyscallTable.standard.syscalls ++
      [Standin.terminates.syscall "stop" 0, Standin.panics.syscall "boom" 0]⟩ {} .single).1.toOption.get
    (by decide +kernel)

/-- The process once it has executed a script. -/
def mutineer (source : String) : ScriptProcess × Site := mutinous.execute .single ⟨fun _ => .ok source⟩

/-- What a signal comes to in the process. -/
def mutineerSignalled (source : String) (number : Nat) :
    Except ProcessError SignalOutcome × ScriptProcess × Site :=
  (mutineer source).1.signal (mutineer source).2 number

/-- A handler that ends the process and then throws. -/
def endingHandler : String := "function main() {} function onsignal() { stop(); throw 1; }"

/-- A main function that panics, and no handler. -/
def panickingMain : String := "function main() { boom(); }"

/-- What a script catches of a panic, as a handler. -/
def caughtPanic : String :=
  "function main() \x7b try \x7b boom(); \x7d catch (e) \x7b globalThis.onsignal = e; \x7d \x7d"

set_option maxRecDepth 100000 in
/-- **A host function can end the process from inside the handler**: the signal fails with the error of the
script, no exit was asked for, and the process has ended. A process that a panic has left at work is alive, and
a signal that is ignored is not without a change to it: the process is ready again. What is caught of a panic is
neither called nor passed over as a handler. -/
theorem signal_of_mutineer :
    ((mutineer endingHandler).1.isAlive = true ∧
      ((mutineer endingHandler).1.executor.engine.memory.bind fun memory =>
        (memory.realm.global? signalHandler).map memory.realm.isCallable) = some true ∧
      (ProcessError.scriptErrors (mutineerSignalled endingHandler 15).1).length = 1 ∧
      (mutineerSignalled endingHandler 15).2.1.state = .terminated ∧
      (mutineerSignalled endingHandler 15).2.1.isAlive = false ∧
      (mutineerSignalled endingHandler 15).2.1.resident.interrupt.exitCode = none) ∧
    ((mutineer panickingMain).1.isAlive = true ∧ (mutineer panickingMain).1.state = .running ∧
      (match (mutineerSignalled panickingMain 10).1 with
        | .ok .ignored => true
        | _ => false) = true ∧
      (mutineerSignalled panickingMain 10).2.1.state = .ready) ∧
    ((mutineer caughtPanic).1.state = .ready ∧
      ((mutineer caughtPanic).1.executor.engine.memory.bind fun memory =>
        memory.realm.global? signalHandler) = some .panic ∧
      (match (mutineerSignalled caughtPanic 10).1 with
        | .error (.queue _) => true
        | _ => false) = true) := by
  decide +kernel

end ScriptProcess

end ScriptKernel
