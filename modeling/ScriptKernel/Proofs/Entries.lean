/-
**Entries one after the other.**

What an entry leaves behind is its own: no later entry is told of it.

* `Entry`, `Entry.make`: the ways into a script, and their answers as one type;
* `Occasion`, `returns`: what is done with an executor in turn, and all returns from its entries;
* `Return.Clean`: a return that leaves no deadline set, and no marker but for an exit or a cancellation that is there;
* `returns_alike`: **all entries return the same whether or not what they leave is put away in between**;
* `returns_clean`, `returns_answer`: every return is clean until a host function panics, and where none does, all
  entries answer;
* `entries_apart`: **no entry is blamed for an earlier one**, but for a panic.
-/

import ScriptKernel.Proofs.Process.Order
import ScriptKernel.Proofs.Residue
import ScriptKernel.Proofs.Syscall.Standard
import Mathlib.Data.List.TakeWhile

set_option autoImplicit false

namespace ScriptKernel

open SyscallContext (SameButMarker)

/-! ### Entries -/

/-- A way into a script. -/
inductive Entry
  | evaluate (origin source : String)
  | load (files : FileSystem) (path : String)
  | call (name : String) (args : List Json)
  | hasFunction (name : String)

/-- The answer of an entry. -/
inductive Entry.Reply
  | ran (answer : Except ScriptError Unit)
  | called (answer : Except ScriptError Json)
  | looked (found : Bool)

namespace Entry

/-- Makes an entry. -/
def make (entry : Entry) (executor : Executor) (context : SyscallContext) : Executor.Answer Reply :=
  match entry with
  | .evaluate origin source =>
    let ended := executor.evaluate origin source context
    (ended.1.map .ran, ended.2)
  | .load files path =>
    let ended := executor.load files path context
    (ended.1.map .ran, ended.2)
  | .call name args =>
    let ended := executor.call name args context
    (ended.1.map .called, ended.2)
  | .hasFunction name =>
    let ended := executor.hasFunction name context
    (ended.1.map .looked, ended.2)

/-- Whether an entry sets a deadline: all do but looking for a function, and loading a file that cannot be read. -/
def Arms : Entry → Prop
  | .evaluate _ _ | .call _ _ => True
  | .load files path => ∃ source, files.read path = .ok source
  | .hasFunction _ => False

variable {here there executor : Executor} {first second context : SyscallContext}

/-- **An entry ends the same whichever exception waits and whatever the marker says.** -/
theorem make_blind (entry : Entry) (oblivious : here.table.Oblivious) (same : here.wiped = there.wiped)
    (related : SameButMarker first second) :
    Executor.Indistinct SameButMarker (entry.make here first) (entry.make there second) := by
  cases entry with
  | evaluate origin source =>
    exact ((Executor.evaluate_blind same related origin source).mono fun _ _ => .of_eq).map _
  | load files path => exact (Executor.load_blind same related files path).map _
  | call name args => exact ((Executor.call_blind same related name args).mono fun _ _ => .of_eq).map _
  | hasFunction name => exact (Executor.hasFunction_blind oblivious same related name).map _

theorem make_serves (entry : Entry) (executor : Executor) (context : SyscallContext) :
    executor.Serves context (entry.make executor context).2 := by
  cases entry with
  | evaluate origin source => exact executor.evaluate_serves origin source context
  | load files path => exact executor.load_serves files path context
  | call name args => exact executor.call_serves name args context
  | hasFunction name => exact executor.hasFunction_serves name context

/-- An entry leaves the host functions in place. -/
theorem make_table (entry : Entry) (executor : Executor) (context : SyscallContext) :
    (entry.make executor context).2.1.table = executor.table := by
  rw [(entry.make_serves executor context).rest]

end Entry

/-! ### One entry after the other -/

/-- What is done with an executor: an entry is made, or something is done from outside. -/
inductive Occasion
  | enter (entry : Entry)
  | cancel
  | requestExit (code : ExitCode)
  | destroy
  | wait (duration : Duration)

/-- What an entry returned, and what it left. -/
structure Return where
  entry : Entry
  reply : Option Entry.Reply
  left : Executor × SyscallContext

/-- What is done from outside; an entry does nothing of the kind. -/
def Occasion.outside : Occasion → Executor × SyscallContext → Executor × SyscallContext
  | .enter _, state => state
  | .cancel, (executor, context) =>
    (executor, { context with interrupt := context.interrupt.cancel })
  | .requestExit code, (executor, context) => (executor, context.requestExit code)
  | .destroy, (executor, context) => (executor.destroy, context)
  | .wait duration, (executor, context) => (executor, { context with toSite := context.toSite.pass duration })

/-- **All returns from the entries of some occasions**, where something is done before each. -/
def returns (before : Executor × SyscallContext → Executor × SyscallContext) :
    List Occasion → Executor × SyscallContext → List Return
  | [], _ => []
  | .enter entry :: rest, state =>
    let ended := entry.make (before state).1 (before state).2
    ⟨entry, ended.1, ended.2⟩ :: returns before rest ended.2
  | occasion :: rest, state => returns before rest (occasion.outside state)

/-- Puts away the exception that waits and the marker. -/
def putAway (state : Executor × SyscallContext) : Executor × SyscallContext :=
  (state.1.wiped, state.2.marked none)

/-! ### What is left is not seen -/

/-- Two returns that differ in the exception that waits and in the marker at most. -/
structure Return.Alike (first second : Return) : Prop where
  entry : first.entry = second.entry
  reply : first.reply = second.reply
  executor : first.left.1.wiped = second.left.1.wiped
  context : SameButMarker first.left.2 second.left.2

/-- What is done from outside is done alike. -/
theorem Occasion.outside_alike (occasion : Occasion) {first second : Executor × SyscallContext}
    (same : first.1.wiped = second.1.wiped) (related : SameButMarker first.2 second.2) :
    (occasion.outside first).1.wiped = (occasion.outside second).1.wiped ∧
      SameButMarker (occasion.outside first).2 (occasion.outside second).2 := by
  obtain ⟨here, context⟩ := first
  obtain ⟨there, _⟩ := second
  obtain ⟨marker, rfl⟩ := related
  cases occasion with
  | enter entry => exact ⟨same, marker, rfl⟩
  | cancel => exact ⟨same, marker, rfl⟩
  | requestExit code => exact ⟨same, marker, context.requestExit_marked code marker⟩
  | destroy =>
    obtain ⟨engine, rfl, -⟩ := Executor.wiped_eq same
    exact ⟨rfl, marker, rfl⟩
  | wait duration => exact ⟨same, marker, rfl⟩

theorem Occasion.outside_table (occasion : Occasion) (state : Executor × SyscallContext) :
    (occasion.outside state).1.table = state.1.table := by
  cases occasion <;> rfl

/-- Putting away changes nothing that is seen. -/
theorem putAway_alike {first second : Executor × SyscallContext} (same : first.1.wiped = second.1.wiped)
    (related : SameButMarker first.2 second.2) :
    first.1.wiped = (putAway second).1.wiped ∧ SameButMarker first.2 (putAway second).2 := by
  obtain ⟨marker, marked⟩ := related
  refine ⟨same.trans second.1.wiped_wiped.symm, none, ?_⟩
  show second.2.marked none = first.2.marked none
  rw [marked]
  rfl

/-- **All entries return the same whether or not what they leave is put away in between.** -/
theorem returns_alike (occasions : List Occasion) {first second : Executor × SyscallContext}
    (oblivious : first.1.table.Oblivious) (same : first.1.wiped = second.1.wiped)
    (related : SameButMarker first.2 second.2) :
    List.Forall₂ Return.Alike (returns id occasions first) (returns putAway occasions second) := by
  induction occasions generalizing first second with
  | nil => exact .nil
  | cons occasion rest ih =>
    have outside : List.Forall₂ Return.Alike (returns id rest (occasion.outside first))
        (returns putAway rest (occasion.outside second)) := by
      obtain ⟨same, related⟩ := occasion.outside_alike same related
      exact ih (by rwa [occasion.outside_table]) same related
    cases occasion with
    | enter entry =>
      obtain ⟨cleared, unmarked⟩ := putAway_alike same related
      have ended := entry.make_blind oblivious cleared unmarked
      have kept : (entry.make first.1 first.2).2.1.table.Oblivious := by rwa [entry.make_table]
      unfold returns
      dsimp only [id]
      generalize entry.make first.1 first.2 = left at ended kept
      generalize entry.make (putAway second).1 (putAway second).2 = right at ended
      cases ended with
      | intro reply same related => exact .cons ⟨rfl, rfl, same, related⟩ (ih kept same related)
    | cancel | requestExit | destroy | wait => exact outside

/-! ### What is put away -/

/-- **An interrupt between two entries**: no deadline is set, and so no script was stopped for one. -/
structure Interrupt.Idle (interrupt : Interrupt) : Prop where
  deadline : interrupt.deadline = 0
  honest : interrupt.Honest

/-- An idle interrupt says that a script was stopped only where every script is stopped. -/
theorem Interrupt.Idle.tripped {interrupt : Interrupt} (idle : interrupt.Idle) :
    interrupt.tripped = none ∨ (interrupt.tripped = some .exit ∧ interrupt.exitCode.isSome = true) ∨
      (interrupt.tripped = some .cancelled ∧ interrupt.cancelled = true) := by
  cases marker : interrupt.tripped with
  | none => exact .inl rfl
  | some reason =>
    cases reason with
    | deadline => exact absurd idle.deadline (idle.honest.deadline marker)
    | cancelled => exact .inr (.inr ⟨rfl, idle.honest.cancelled marker⟩)
    | exit => exact .inr (.inl ⟨rfl, idle.honest.exit marker⟩)

theorem Interrupt.Told.idle {first last : Interrupt} (told : first.Told last) (idle : first.Idle) :
    last.Idle :=
  ⟨told.deadline.trans idle.deadline, told.honest idle.honest⟩

/-- **A return that leaves no deadline**, and a marker only where every script is stopped; an entry that set a deadline
leaves none. -/
structure Return.Clean (back : Return) : Prop where
  deadline : back.left.2.interrupt.deadline = 0
  marker : back.left.2.interrupt.tripped = none ∨
    (back.left.2.interrupt.tripped = some .exit ∧ back.left.2.interrupt.exitCode.isSome = true) ∨
    (back.left.2.interrupt.tripped = some .cancelled ∧ back.left.2.interrupt.cancelled = true)
  armed : back.entry.Arms → back.left.2.interrupt.tripped = none

/-- An entry that closes and answers. -/
theorem Executor.Closes.idle {α : Type} {executor : Executor} {context : SyscallContext} {ended : Answer α}
    (closes : executor.Closes context ended) (answered : ended.1.isSome = true) :
    ended.2.2.interrupt.Idle ∧ ended.2.2.interrupt.tripped = none := by
  cases closes with
  | answered deadline untripped => exact ⟨⟨deadline, .of_untripped untripped⟩, untripped⟩
  | panicked => cases answered

/-- **An entry that answers leaves its interrupt idle**, and no marker if it set a deadline. -/
theorem Entry.make_idle (entry : Entry) {executor : Executor} {context : SyscallContext}
    (steady : executor.table.Steady) (idle : context.interrupt.Idle)
    (answered : (entry.make executor context).1.isSome = true) :
    (entry.make executor context).2.2.interrupt.Idle ∧
      (entry.Arms → (entry.make executor context).2.2.interrupt.tripped = none) := by
  have armed (closes : executor.Closes context (entry.make executor context)) :
      (entry.make executor context).2.2.interrupt.Idle ∧
        (entry.Arms → (entry.make executor context).2.2.interrupt.tripped = none) :=
    ⟨(closes.idle answered).1, fun _ => (closes.idle answered).2⟩
  cases entry with
  | evaluate origin source => exact armed ((executor.evaluate_closes steady origin source context).map _)
  | load files path =>
    cases read : files.read path with
    | error error =>
      have unread : (executor.load files path context).2.2 = context := by
        unfold Executor.load
        rw [read]
      refine ⟨?_, fun ⟨source, readable⟩ => ?_⟩
      · show (executor.load files path context).2.2.interrupt.Idle
        rwa [unread]
      · rw [read] at readable
        cases readable
    | ok source =>
      have closes : executor.Closes context (executor.load files path context) := by
        unfold Executor.load
        rw [read]
        exact executor.evaluate_closes steady path source context
      exact armed (closes.map _)
  | call name args => exact armed ((executor.call_closes steady name args context).map _)
  | hasFunction name =>
    obtain ⟨services, served⟩ := (executor.hasFunction_serves name context).served
    exact ⟨⟨(executor.hasFunction_deadline steady name context).trans idle.deadline,
      served.moves.honest steady idle.honest⟩, False.elim⟩

/-- What is done from outside leaves an interrupt idle. -/
theorem Occasion.outside_idle (occasion : Occasion) {state : Executor × SyscallContext}
    (idle : state.2.interrupt.Idle) : (occasion.outside state).2.interrupt.Idle := by
  cases occasion with
  | enter entry => exact idle
  | cancel => exact (Interrupt.Told.nothing.cancel).idle idle
  | requestExit code => exact (Interrupt.Told.nothing.exit code).idle idle
  | destroy => exact idle
  | wait duration => exact idle

/-- **Every return is clean up to the first panic.** -/
theorem returns_clean (occasions : List Occasion) {state : Executor × SyscallContext}
    (steady : state.1.table.Steady) (idle : state.2.interrupt.Idle) :
    ∀ back ∈ (returns id occasions state).takeWhile (·.reply.isSome), back.Clean := by
  induction occasions generalizing state with
  | nil => exact fun back none => absurd none List.not_mem_nil
  | cons occasion rest ih =>
    have outside : ∀ back ∈ (returns id rest (occasion.outside state)).takeWhile (·.reply.isSome),
        back.Clean := ih (by rwa [occasion.outside_table]) (occasion.outside_idle idle)
    cases occasion with
    | enter entry =>
      intro back here
      unfold returns at here
      dsimp only [id] at here
      rw [List.takeWhile_cons] at here
      split at here
      · rename_i answered
        obtain ⟨idle, armed⟩ := entry.make_idle steady idle answered
        rcases List.mem_cons.mp here with rfl | later
        · exact ⟨idle.deadline, idle.tripped, armed⟩
        · exact ih (by rwa [entry.make_table]) idle back later
      · exact absurd here List.not_mem_nil
    | cancel | requestExit | destroy | wait => exact outside

/-! ### Entries that answer -/

/-- An engine that has no panic kept back; one that has been destroyed has none. -/
def Engine.Quiet (engine : Engine) : Prop :=
  ∀ memory, engine.memory = some memory → memory.panicking = false

theorem Engine.Sound.quiet {engine : Engine} (sound : engine.Sound) : engine.Quiet := by
  obtain ⟨memory, here, quiet⟩ := sound
  intro other held
  rw [here] at held
  cases held
  exact quiet

namespace Executor

variable {α β : Type} {executor : Executor} {context : SyscallContext}

/-- An entry that answers, and leaves no panic kept back. -/
structure Answers (ended : Answer α) : Prop where
  answered : ended.1.isSome = true
  quiet : ended.2.1.engine.Quiet

theorem Answers.map {ended : Answer α} (answers : Answers ended) (say : α → β) :
    Answers (ended.1.map say, ended.2) :=
  ⟨Option.isSome_map.trans answers.answered, answers.quiet⟩

theorem answers_of_leaves {ended : Answer α}
    (leaves : ∃ answer left, ended = (some answer, left) ∧ executor.Leaves context left) :
    Answers ended := by
  obtain ⟨answer, left, rfl, leaves⟩ := leaves
  exact ⟨rfl, leaves.sound.quiet⟩

/-- An entry into an engine that has been destroyed says so. -/
theorem enter_destroyed (destroyed : executor.engine.memory = none)
    (part : Script.Run (Except Script.Fault α)) (context : SyscallContext) :
    ∃ after, executor.enter part context = (some ⟨.error .destroyed, none⟩, executor, after) := by
  rcases executor with ⟨pid, ⟨_⟩, callTimeout, table⟩
  cases destroyed
  exact ⟨_, rfl⟩

theorem evaluate_quiet (calm : executor.table.Calm) (quiet : executor.engine.Quiet)
    (origin source : String) (context : SyscallContext) :
    Answers (executor.evaluate origin source context) := by
  cases held : executor.engine.memory with
  | none =>
    obtain ⟨after, entered⟩ := enter_destroyed held (evaluation source) context
    unfold evaluate
    rw [entered]
    exact ⟨rfl, quiet⟩
  | some memory =>
    obtain ⟨answer, engine, middle, ended, sound, -⟩ :=
      evaluate_answers calm ⟨memory, held, quiet memory held⟩ origin source context
    rw [ended]
    exact ⟨rfl, sound.quiet⟩

theorem call_quiet (calm : executor.table.Calm) (quiet : executor.engine.Quiet) (name : String)
    (args : List Json) (context : SyscallContext) : Answers (executor.call name args context) := by
  cases held : executor.engine.memory with
  | none =>
    obtain ⟨after, entered⟩ := enter_destroyed held (Script.callFunction name args) context
    unfold call
    rw [entered]
    exact ⟨rfl, quiet⟩
  | some memory =>
    exact answers_of_leaves (call_leaves calm ⟨memory, held, quiet memory held⟩ name args context)

theorem load_quiet (calm : executor.table.Calm) (quiet : executor.engine.Quiet) (files : FileSystem)
    (path : String) (context : SyscallContext) : Answers (executor.load files path context) := by
  unfold load
  cases files.read path with
  | error error => exact ⟨rfl, quiet⟩
  | ok source => exact evaluate_quiet calm quiet path source context

theorem hasFunction_quiet (calm : executor.table.Calm) (quiet : executor.engine.Quiet) (name : String)
    (context : SyscallContext) : Answers (executor.hasFunction name context) := by
  cases held : executor.engine.memory with
  | none =>
    unfold hasFunction Engine.enter
    rw [held]
    exact ⟨rfl, quiet⟩
  | some memory =>
    exact answers_of_leaves (hasFunction_leaves calm ⟨memory, held, quiet memory held⟩ name context)

end Executor

/-- **Every entry answers where no host function panics** and no panic is kept back. -/
theorem Entry.make_answers (entry : Entry) {executor : Executor} (calm : executor.table.Calm)
    (quiet : executor.engine.Quiet) (context : SyscallContext) :
    Executor.Answers (entry.make executor context) := by
  cases entry with
  | evaluate origin source => exact (Executor.evaluate_quiet calm quiet origin source context).map _
  | load files path => exact (Executor.load_quiet calm quiet files path context).map _
  | call name args => exact (Executor.call_quiet calm quiet name args context).map _
  | hasFunction name => exact (Executor.hasFunction_quiet calm quiet name context).map _

theorem Occasion.outside_quiet (occasion : Occasion) {state : Executor × SyscallContext}
    (quiet : state.1.engine.Quiet) : (occasion.outside state).1.engine.Quiet := by
  cases occasion with
  | destroy => exact fun memory held => by cases held
  | enter | cancel | requestExit | wait => exact quiet

/-- **All entries answer where no host function panics.** -/
theorem returns_answer (occasions : List Occasion) {state : Executor × SyscallContext}
    (calm : state.1.table.Calm) (quiet : state.1.engine.Quiet) :
    ∀ back ∈ returns id occasions state, back.reply.isSome = true := by
  induction occasions generalizing state with
  | nil => exact fun back none => absurd none List.not_mem_nil
  | cons occasion rest ih =>
    have outside : ∀ back ∈ returns id rest (occasion.outside state), back.reply.isSome = true :=
      ih (by rwa [occasion.outside_table]) (occasion.outside_quiet quiet)
    cases occasion with
    | enter entry =>
      intro back here
      have answers := entry.make_answers calm quiet state.2
      rcases List.mem_cons.mp here with rfl | later
      · exact answers.answered
      · exact ih (by rwa [entry.make_table]) answers.quiet back later
    | cancel | requestExit | destroy | wait => exact outside

/-! ### No entry is blamed for an earlier one -/

/-- **No entry is blamed for an earlier one, but for a panic.** Whatever entries are made, and whatever is done from
outside in between: each returns what it would return if the exception that waits and the marker had been put away
before every entry; up to the first panic of a host function each leaves no deadline, and a marker only where every
script is stopped; and where no host function panics, each returns. -/
theorem entries_apart {executor : Executor} {context : SyscallContext}
    (oblivious : executor.table.Oblivious) (steady : executor.table.Steady)
    (idle : context.interrupt.Idle) (occasions : List Occasion) :
    List.Forall₂ Return.Alike (returns id occasions (executor, context))
        (returns putAway occasions (executor, context)) ∧
      (∀ back ∈ (returns id occasions (executor, context)).takeWhile (·.reply.isSome), back.Clean) ∧
      (executor.table.Calm → executor.engine.Quiet →
        ∀ back ∈ returns id occasions (executor, context), back.reply.isSome = true) :=
  ⟨returns_alike occasions oblivious rfl (.of_eq rfl), returns_clean occasions steady idle,
    fun calm quiet => returns_answer occasions calm quiet⟩

/-- An executor with the standard host functions. -/
def plainExecutor : Executor := ⟨1, ⟨some { realm := .initial }⟩, none, .standard⟩

/-- A process that has just come up. -/
def plainContext : SyscallContext := .of (.fresh 1 [] ⟨[]⟩ ⟨some 0⟩ "main") .single

/-- Looking for a function where looking throws, and a call after an exit was asked for. -/
def throwing : List Occasion :=
  [.enter (.evaluate "main.js"
      "Object.defineProperty(globalThis, 'x', \x7b get: function () \x7b throw 1; \x7d \x7d);"),
    .enter (.hasFunction "x"), .requestExit 3, .enter (.call "x" [])]

/-- Entries some of which throw all return, and are clean. -/
theorem entries_apart_of_throwing :
    plainExecutor.table.Oblivious ∧ plainExecutor.table.Steady ∧ plainContext.interrupt.Idle ∧
      List.Forall₂ Return.Alike (returns id throwing (plainExecutor, plainContext))
        (returns putAway throwing (plainExecutor, plainContext)) ∧
      ∀ back ∈ returns id throwing (plainExecutor, plainContext),
        back.reply.isSome = true ∧ back.Clean := by
  have oblivious : plainExecutor.table.Oblivious := SyscallTable.standard_oblivious
  have steady : plainExecutor.table.Steady := SyscallTable.standard_modest.steady
  have idle : plainContext.interrupt.Idle := ⟨rfl, .of_untripped rfl⟩
  obtain ⟨apart, clean, answered⟩ := entries_apart oblivious steady idle throwing
  have quiet : plainExecutor.engine.Quiet := Engine.Sound.quiet ⟨_, rfl, rfl⟩
  have all := answered SyscallTable.standard_calm quiet
  refine ⟨oblivious, steady, idle, apart, fun back here => ⟨all back here, clean back ?_⟩⟩
  rwa [List.takeWhile_eq_self_iff.mpr all]

/-- The exception that waits after a return. -/
def Return.waiting (back : Return) : Option Script.Value :=
  back.left.1.engine.memory.bind Script.Memory.pending

/-- A script with a field that throws when it is looked at, a function that catches a panic of the host, and one that
throws. -/
def residueScript : Occasion :=
  .enter (.evaluate "main.js"
    ("Object.defineProperty(globalThis, 'x', \x7b get: function () \x7b throw 1; \x7d \x7d); " ++
      "function catches() \x7b try \x7b boom(); \x7d catch (e) \x7b\x7d \x7d " ++
      "function throws() \x7b throw 1; \x7d"))

set_option maxRecDepth 100000 in
/-- **Looking for a function leaves the exception that looking threw**, and, after an exit was asked for, the reason
for which looking was stopped; and a panic that a script has caught ends a later entry that would have returned without
it. -/
theorem residue_of_entries :
    (returns id [residueScript, .enter (.hasFunction "x"), .enter (.call "catches" []),
        .enter (.call "throws" [])]
      (ScriptProcess.brittle.executor, .of ScriptProcess.brittle.resident .single)).map
        (fun back => (back.reply.isSome, back.waiting.isSome)) =
      [(true, false), (true, true), (true, true), (false, true)] ∧
    (returns id [residueScript, .enter (.call "throws" [])]
      (ScriptProcess.brittle.executor, .of ScriptProcess.brittle.resident .single)).map
        (fun back => (back.reply.isSome, back.waiting.isSome)) =
      [(true, false), (true, false)] ∧
    (returns id [.enter (.evaluate "main.js"
          "Object.defineProperty(globalThis, 'x', \x7b get: function () \x7b while (1); \x7d \x7d);"),
        .requestExit 3, .enter (.hasFunction "x")] (plainExecutor, plainContext)).map
        (fun back => (back.reply.isSome, back.left.2.interrupt.tripped)) =
      [(true, none), (true, some .exit)] := by
  decide +kernel

end ScriptKernel
