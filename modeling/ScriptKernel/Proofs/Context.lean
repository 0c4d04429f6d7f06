/-
**What a running script can do to its process.**

* `SyscallContext.Within`, `Syscall.Modest`: a host function that keeps to what it is handed: it changes slots
  and variables, sends texts, asks to exit, and leaves the rest of the process alone;
* `SyscallTable.Steady`: host functions that do no more to the interrupt than what is done to it from outside;
* `SyscallTable.Calm`, `SyscallTable.Discreet`: host functions that do not panic, and that do not announce
  events in the name of the process;
* `SyscallContext.Move`, `Moves`: **the only steps in which an entry into a script changes its context**: a call
  of a host function, a look of the host, and the two ends of the entry;
* `Moves.carried`, `Moves.heard_eq`, `Moves.patient`: what all steps keep, for modest, for discreet host
  functions, and while the deadline is not reached;
* `Moves.honest`: what is noted about a script that was stopped is so;
* `Engine.enter_answers`: a part of a script that answers does so, on a sound engine and by such steps.
-/

import ScriptKernel.Executor
import ScriptKernel.Proofs.Interrupt
import ScriptKernel.Proofs.Script.Ending
import ScriptKernel.Proofs.Terminal
import Mathlib.Logic.Relation

set_option autoImplicit false

namespace ScriptKernel

open Script (Run)

/-! ### Host functions -/

/-- **What a host function can do through what it is handed.** -/
structure SyscallContext.Within (before after : SyscallContext) : Prop where
  pid : after.pid = before.pid
  args : after.args = before.args
  lifecycle : after.lifecycle = before.lifecycle
  gate : after.gate = before.gate
  sink : after.sink = before.sink
  clock : before.clock ≤ after.clock
  interrupt : ∃ codes : List ExitCode,
    after.interrupt = codes.foldl Interrupt.requestExit before.interrupt

theorem SyscallContext.Within.refl (context : SyscallContext) : Within context context :=
  ⟨rfl, rfl, rfl, rfl, rfl, Nat.le_refl _, [], rfl⟩

/-- A host function that keeps to what it is handed. -/
def Syscall.Modest (syscall : Syscall) : Prop :=
  ∀ args context, SyscallContext.Within context (syscall.call args context).2

/-- A host function that asks to exit and cancels at most. -/
def Syscall.Steady (syscall : Syscall) : Prop :=
  ∀ args (context : SyscallContext), context.interrupt.Told (syscall.call args context).2.interrupt

/-- A host function that does not panic. -/
def Syscall.Calm (syscall : Syscall) : Prop :=
  ∀ args context, (syscall.call args context).1 ≠ .panicked

/-- The events of the process that its terminal has received. -/
def SyscallContext.heard (context : SyscallContext) : Option (List ProcessEvent) :=
  context.terminals.heard context.lifecycle.terminal context.pid

/-- A host function that leaves the terminal in place and announces no event in the name of the process. -/
def Syscall.Discreet (syscall : Syscall) : Prop :=
  ∀ args context, (syscall.call args context).2.terminals.heard context.lifecycle.terminal
    context.pid = context.heard

namespace SyscallTable

/-- A table of modest host functions. -/
def Modest (table : SyscallTable) : Prop := ∀ syscall ∈ table.syscalls, syscall.Modest

/-- A table of host functions that ask to exit and cancel at most. -/
def Steady (table : SyscallTable) : Prop := ∀ syscall ∈ table.syscalls, syscall.Steady

theorem Modest.steady {table : SyscallTable} (modest : table.Modest) : table.Steady := by
  intro syscall bound args context
  obtain ⟨codes, interrupt⟩ := (modest syscall bound args context).interrupt
  rw [interrupt]
  exact .of_requests _ codes

/-- A table of host functions that do not panic. -/
def Calm (table : SyscallTable) : Prop := ∀ syscall ∈ table.syscalls, syscall.Calm

/-- A table of discreet host functions. -/
def Discreet (table : SyscallTable) : Prop := ∀ syscall ∈ table.syscalls, syscall.Discreet

/-- A call reaches a host function of the table, or nothing. -/
theorem host_call (table : SyscallTable) (index : Nat) (args : List Json)
    (context : SyscallContext) :
    (∃ syscall ∈ table.syscalls, table.host (.call index args) context = syscall.call args context) ∨
      table.host (.call index args) context = (.returned .null, context) := by
  cases found : table.syscalls[index]? with
  | none => exact .inr (by simp only [host, found])
  | some syscall =>
    refine .inl ⟨syscall, List.mem_of_getElem? found, ?_⟩
    simp only [host, found]
    rfl

/-- The host of a calm table answers without a panic. -/
theorem Calm.answers {table : SyscallTable} (calm : table.Calm) (question : Script.Question)
    (context : SyscallContext) : question.Calm (table.host question context).1 := by
  cases question with
  | exiting => exact trivial
  | poll worked => exact trivial
  | call index args =>
    show (table.host (.call index args) context).1 ≠ SyscallReply.panicked
    rcases table.host_call index args context with ⟨syscall, bound, called⟩ | nothing
    · rw [called]
      exact calm syscall bound args context
    · rw [nothing]
      exact nofun

end SyscallTable

/-! ### The steps of an entry -/

namespace SyscallContext

/-- The context at the beginning of an entry. -/
def armed (context : SyscallContext) (budget : Option Duration) : SyscallContext :=
  { context with interrupt := context.interrupt.arm context.clock budget, slices := 0 }

/-- The context at the end of an entry. -/
def disarmed (context : SyscallContext) : SyscallContext :=
  { context with interrupt := context.interrupt.disarm.2 }

/-- **A step in which an entry into a script changes its context.** -/
inductive Move (table : SyscallTable) (budget : Option Duration) :
    SyscallContext → SyscallContext → Prop
  | call (syscall : Syscall) (bound : syscall ∈ table.syscalls) (args : List Json)
      (context : SyscallContext) : Move table budget context (syscall.call args context).2
  | poll (worked : Bool) (context : SyscallContext) :
      Move table budget context (table.host (.poll worked) context).2
  | arm (context : SyscallContext) : Move table budget context (context.armed budget)
  | disarm (context : SyscallContext) : Move table budget context context.disarmed

/-- Steps in turn. -/
abbrev Moves (table : SyscallTable) (budget : Option Duration) :
    SyscallContext → SyscallContext → Prop :=
  Relation.ReflTransGen (Move table budget)

variable {table : SyscallTable} {budget : Option Duration} {before middle after : SyscallContext}

/-- Every answer of the host is a step, or changes nothing. -/
theorem moves_host (table : SyscallTable) (budget : Option Duration) (question : Script.Question)
    (context : SyscallContext) : Moves table budget context (table.host question context).2 := by
  cases question with
  | exiting => exact .refl
  | poll worked => exact .single (.poll worked context)
  | call index args =>
    rcases table.host_call index args context with ⟨syscall, bound, called⟩ | nothing
    · rw [called]
      exact .single (.call syscall bound args context)
    · rw [nothing]

/-- **A run of a dialogue goes by such steps.** -/
theorem moves_run {α : Type} (dialogue : Script.Dialogue α) (context : SyscallContext) :
    Moves table budget context (Script.Dialogue.run table.host dialogue context).2 :=
  Script.Dialogue.run_invariant table.host (Moves table budget context)
    (fun question state here => here.trans (moves_host table budget question state)) dialogue context
    .refl

/-! ### What all steps keep -/

/-- **What an entry into a script carries over**, whatever the script does. -/
structure Carried (before after : SyscallContext) : Prop where
  pid : after.pid = before.pid
  args : after.args = before.args
  lifecycle : after.lifecycle = before.lifecycle
  gate : after.gate = before.gate
  sink : after.sink = before.sink
  clock : before.clock ≤ after.clock
  cancelled : after.interrupt.cancelled = before.interrupt.cancelled
  asked : ∃ codes, Interrupt.Asked before.interrupt codes after.interrupt

theorem Carried.refl (context : SyscallContext) : Carried context context :=
  ⟨rfl, rfl, rfl, rfl, rfl, Nat.le_refl _, rfl, [], .start _⟩

theorem Carried.trans (first : Carried before middle) (second : Carried middle after) :
    Carried before after := by
  obtain ⟨codes, asked⟩ := first.asked
  obtain ⟨others, later⟩ := second.asked
  exact ⟨second.pid.trans first.pid, second.args.trans first.args,
    second.lifecycle.trans first.lifecycle, second.gate.trans first.gate,
    second.sink.trans first.sink, Nat.le_trans first.clock second.clock,
    second.cancelled.trans first.cancelled, codes ++ others, asked.trans later⟩

/-- Asking to exit cancels nothing. -/
theorem requests_cancelled (codes : List ExitCode) (interrupt : Interrupt) :
    (codes.foldl Interrupt.requestExit interrupt).cancelled = interrupt.cancelled := by
  induction codes generalizing interrupt with
  | nil => rfl
  | cons code others ih =>
    rw [List.foldl_cons, ih, Interrupt.requestExit_eq]

theorem Within.carried (within : Within before after) : Carried before after := by
  obtain ⟨codes, interrupt⟩ := within.interrupt
  refine ⟨within.pid, within.args, within.lifecycle, within.gate, within.sink, within.clock, ?_,
    codes, ?_⟩
  · rw [interrupt, requests_cancelled]
  · rw [interrupt]
    exact .of_requests _ codes

/-- A look of the host notes why a script has to stop, and lets time go on. -/
theorem poll_carried (worked : Bool) (context : SyscallContext) :
    Carried context (table.host (.poll worked) context).2 := by
  cases worked with
  | true =>
    exact ⟨rfl, rfl, rfl, rfl, context.passSlice_sink, context.clock_le_passSlice,
      Interrupt.shouldInterrupt_cancelled _ _, [], (Interrupt.Asked.start _).poll _⟩
  | false =>
    exact ⟨rfl, rfl, rfl, rfl, rfl, Nat.le_refl _, Interrupt.shouldInterrupt_cancelled _ _, [],
      (Interrupt.Asked.start _).poll _⟩

theorem Move.carried (modest : table.Modest) (move : Move table budget before after) :
    Carried before after := by
  cases move with
  | call syscall bound args => exact (modest syscall bound args before).carried
  | poll worked => exact poll_carried worked before
  | arm =>
    exact ⟨rfl, rfl, rfl, rfl, rfl, Nat.le_refl _, rfl, [], (Interrupt.Asked.start _).arm _ _⟩
  | disarm =>
    exact ⟨rfl, rfl, rfl, rfl, rfl, Nat.le_refl _, rfl, [], (Interrupt.Asked.start _).disarm⟩

/-- **Modest host functions leave the process alone but for exits**, through any number of steps. -/
theorem Moves.carried (modest : table.Modest) (moves : Moves table budget before after) :
    Carried before after := by
  induction moves with
  | refl => exact .refl _
  | tail _ move ih => exact ih.trans (move.carried modest)

/-- A look of the host sends nothing to a terminal. -/
theorem heard_poll (worked : Bool) (context : SyscallContext) :
    (table.host (.poll worked) context).2.heard = context.heard := by
  cases worked with
  | true =>
    show context.passSlice.terminals.heard _ _ = _
    rw [Site.passSlice_terminals]
    rfl
  | false => rfl

/-- **Discreet host functions announce nothing**, through any number of steps. -/
theorem Moves.heard_eq (modest : table.Modest) (discreet : table.Discreet)
    (moves : Moves table budget before after) : after.heard = before.heard := by
  induction moves with
  | refl => rfl
  | @tail middle _ _ move ih =>
    rw [← ih]
    cases move with
    | call syscall bound args =>
      have within := modest syscall bound args middle
      unfold heard
      rw [within.lifecycle, within.pid]
      exact discreet syscall bound args middle
    | poll worked => exact heard_poll worked middle
    | arm => rfl
    | disarm => rfl

/-- **What is noted about a script that was stopped is so.** -/
theorem Moves.honest (steady : table.Steady) (moves : Moves table budget before after)
    (honest : before.interrupt.Honest) : after.interrupt.Honest := by
  induction moves with
  | refl => exact honest
  | @tail middle _ _ move ih =>
    cases move with
    | call syscall bound args => exact (steady syscall bound args middle).honest ih
    | poll worked =>
      cases worked with
      | true => exact ih.shouldInterrupt _
      | false => exact ih.shouldInterrupt _
    | arm => exact .arm _ _ _
    | disarm => exact .disarm _

/-- **A deadline out of reach stops nothing.** From a time on, every entry sets its deadline beyond the tick of
a later time; then up to that time scripts are stopped for an exit only. -/
theorem Moves.patient (modest : table.Modest) {limit start : Duration}
    (unhurried : ∀ allowed, budget = some allowed →
      Interrupt.ticks limit < Interrupt.ticks (start + allowed))
    (moves : Moves table budget before after) (since : start ≤ before.clock)
    (until_ : after.clock ≤ limit)
    (patient : before.interrupt.Patient (Interrupt.ticks limit)) :
    after.interrupt.Patient (Interrupt.ticks limit) := by
  induction moves with
  | refl => exact patient
  | @tail middle last moves move ih =>
    have carried := move.carried modest
    have reached := ih (Nat.le_trans carried.clock until_)
    have later : start ≤ middle.clock :=
      Nat.le_trans since (Moves.carried modest moves).clock
    cases move with
    | call syscall bound args =>
      obtain ⟨codes, interrupt⟩ := (modest syscall bound args middle).interrupt
      rw [interrupt]
      exact reached.requests codes
    | poll worked =>
      cases worked with
      | true => exact reached.shouldInterrupt (Interrupt.ticks_mono until_)
      | false => exact reached.shouldInterrupt (Interrupt.ticks_mono until_)
    | arm =>
      refine .arm reached.cancelled fun allowed here => ?_
      exact Nat.lt_of_lt_of_le (unhurried allowed here)
        (Interrupt.ticks_mono (Nat.add_le_add_right later allowed))
    | disarm => exact reached.disarm

end SyscallContext

/-! ### Engines -/

/-- An engine that is live and keeps no panic back. -/
def Engine.Sound (engine : Engine) : Prop :=
  ∃ memory, engine.memory = some memory ∧ memory.panicking = false

theorem Engine.Sound.isLive {engine : Engine} (sound : engine.Sound) : engine.isLive = true := by
  obtain ⟨memory, here, -⟩ := sound
  unfold Engine.isLive
  rw [here]
  rfl

/-- **A part that answers does so on a sound engine**, and leaves a sound engine. -/
theorem Engine.enter_answers {α : Type} {table : SyscallTable} (calm : table.Calm)
    (budget : Option Duration) {engine : Engine} (sound : engine.Sound) {run : Run α}
    {wanted : α → Prop} (answers : run.Answers wanted) (context : SyscallContext) :
    ∃ answer engine' after, engine.enter table run context = (.ok (.value answer), engine', after) ∧
      engine'.Sound ∧ wanted answer ∧ SyscallContext.Moves table budget context after := by
  obtain ⟨memory, here, quiet⟩ := sound
  have undisturbed := (run.built.calm memory quiet).run calm.answers context
  have answered : (Script.Dialogue.run table.host (run.part memory) context).1.1.Answered wanted :=
    (answers memory).run (fun _ _ => trivial) context
  have moves : SyscallContext.Moves table budget context
      (Script.Dialogue.run table.host (run.part memory) context).2 :=
    SyscallContext.moves_run (run.part memory) context
  have entered : engine.enter table run context =
      (.ok (Script.Dialogue.run table.host (run.part memory) context).1.1,
        ⟨some (Script.Dialogue.run table.host (run.part memory) context).1.2⟩,
        (Script.Dialogue.run table.host (run.part memory) context).2) := by
    unfold Engine.enter
    rw [here]
  generalize Script.Dialogue.run table.host (run.part memory) context = ended at *
  rcases ended with ⟨⟨answer | exception | _ | _, left⟩, after⟩
  · exact ⟨answer, ⟨some left⟩, after, entered, ⟨left, rfl, undisturbed.2⟩, answered, moves⟩
  · exact absurd answered id
  · exact absurd answered id
  · exact absurd rfl undisturbed.1

/-- A part that does nothing answers at once. -/
theorem Engine.Sound.enter_pure {α : Type} {engine : Engine} (sound : engine.Sound)
    (table : SyscallTable) (answer : α) (context : SyscallContext) :
    engine.enter table (pure answer) context = (.ok (.value answer), engine, context) := by
  obtain ⟨memory, here, -⟩ := sound
  rcases engine with ⟨_⟩
  cases here
  rfl

/-- A part that goes on after another does so on the engine the other leaves. -/
theorem Engine.enter_bind {α β : Type} {table : SyscallTable} {engine middle : Engine}
    {first : Run α} {next : α → Run β} {answer : α} {before after : SyscallContext}
    (entered : engine.enter table first before = (.ok (.value answer), middle, after)) :
    engine.enter table (first >>= next) before = middle.enter table (next answer) after := by
  unfold Engine.enter at *
  cases here : engine.memory with
  | none =>
    rw [here] at entered
    cases entered
  | some memory =>
    simp only [here] at entered ⊢
    have ran : Script.Dialogue.run table.host ((first >>= next).part memory) before =
        Script.Dialogue.run table.host (((first.part memory)).bind fun ending =>
          Script.Part.onward (fun answer => (next answer).part)
            (fun exception => .finish (.thrown exception)) (.finish .stopped) ending.1 ending.2)
          before := by
      rw [← Script.Part.andThen_apply]
      rfl
    rw [ran, Script.Dialogue.run_bind]
    generalize Script.Dialogue.run table.host (first.part memory) before = ended at *
    rcases ended with ⟨⟨outcome, left⟩, last⟩
    cases entered
    rfl

end ScriptKernel
