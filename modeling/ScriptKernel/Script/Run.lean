/-
**Running a part of a script.**

A part of a script works on the memory, asks the host where it has to, and ends in one of four ways; a
script can catch only what was thrown.

* `Memory`, `Outcome`, `Part`: what a part works on, how it ends, and what it is;
* `Part.callHost`: how a host function is called: the host is asked for an exit, the arguments are made, and
  the function is called;
* `Part.Built`: the parts a script can be made of: each changes the realm, asks the host, or is put together
  from others; none ends in a panic of its own, and none calls a host function in another way;
* `Run`: a part that is built so, with `andThen`, `attempt`, `each`, `count` and `loop` to build larger ones;
* `Run.heard`, `Run.contained`: how a panic of a host function reaches the host, and how a script sees it;
* `Run.tick`: one piece of work; the host looks in after ten thousand;
* `Caller`: how functions are called, and how many calls may still be nested.
-/

import ScriptKernel.Script.Dialogue
import ScriptKernel.Script.Message
import ScriptKernel.Script.Realm

set_option autoImplicit false

namespace ScriptKernel.Script

/-- How a part of a script ends. -/
inductive Outcome (α : Type)
  | value (value : α)
  | thrown (exception : Value)
  /-- The host stopped the script. -/
  | stopped
  /-- A host function panicked, and the host has heard of it. -/
  | panicked
  deriving Repr

/-- The realm of a script, with what the host has yet to look at. -/
structure Memory where
  realm : Realm
  /-- The exception that waits to be looked at. -/
  pending : Option Value := none
  /-- Whether a host function has panicked and the host has not heard of it. -/
  panicking : Bool := false
  deriving Inhabited

/-- What a part of a script does to the memory, what it asks, and how it ends. -/
abbrev Part (α : Type) : Type := Memory → Dialogue (Outcome α × Memory)

namespace Part

variable {α β σ : Type}

/-- Ends at once. -/
@[inline] def finish (outcome : Outcome α) : Part α := fun memory => .done (outcome, memory)

/-- Changes the realm and answers. -/
@[inline] def make (step : Realm → α × Realm) : Part α := fun memory =>
  match memory with
  | ⟨realm, pending, panicking⟩ =>
    let (value, realm) := step realm
    .done (.value value, ⟨realm, pending, panicking⟩)

/-- Leaves an exception to be looked at, or none. -/
@[inline] def leavePending (exception : Option Value) : Part Unit := fun memory =>
  .done (.value (), { memory with pending := exception })

/-- Asks the host. -/
@[inline] def ask (question : Question) : Part question.Answer := fun memory =>
  .ask question fun answer => .done (.value answer, memory)

/-- How a part ends that is the call of a host function. -/
def ofReply : SyscallReply → Outcome (Option (Except SyscallError Json))
  | .returned value => .value (some (.ok value))
  | .failed error => .value (some (.error error))
  | .panicked => .panicked

/-- Goes on however the first part ended. -/
@[inline] def andThen (first : Part α) (next : Outcome α → Part β) : Part β := fun memory =>
  match first memory with
  | .done (outcome, memory) => next outcome memory
  | .ask question rest =>
    .ask question fun answer => (rest answer).bind fun ending => next ending.1 ending.2

theorem andThen_apply (first : Part α) (next : Outcome α → Part β) (memory : Memory) :
    first.andThen next memory = (first memory).bind fun ending => next ending.1 ending.2 := by
  unfold andThen
  cases first memory <;> rfl

/-- The ways on from a part that a script can take; none leads on from a panic. -/
@[inline] def onward (value : α → Part β) (thrown : Value → Part β) (stopped : Part β) :
    Outcome α → Part β
  | .value answer => value answer
  | .thrown exception => thrown exception
  | .stopped => stopped
  | .panicked => finish .panicked

/-- Goes on with the value of a part. -/
@[inline] def bind (first : Part α) (next : α → Part β) : Part β :=
  first.andThen (onward next (fun exception => finish (.thrown exception)) (finish .stopped))

/-- Has the host call one of its functions. -/
@[inline] def callNow (index : Nat) (args : List Json) :
    Part (Option (Except SyscallError Json)) := fun memory =>
  .ask (.call index args) fun reply => .done (ofReply reply, memory)

/-- Has the host call one of its functions, unless an exit has been requested; then there is no answer. The
arguments are made in between, and making them may run any script. -/
@[inline] def callHost (index : Nat) (arguments : Part (List Json)) :
    Part (Option (Except SyscallError Json)) :=
  (ask .exiting).bind fun exiting =>
    match exiting with
    | true => finish (.value none)
    | false => arguments.bind (callNow index)

/-- If a host function has panicked before, an exception that the host looks at is that panic. -/
@[inline] def heard (part : Part α) : Part α :=
  part.andThen fun outcome =>
    match outcome with
    | .value value => finish (.value value)
    | other => fun memory =>
      if memory.panicking then .done (.panicked, { memory with panicking := false })
      else .done (other, memory)

/-- A panic becomes something a script can catch; the host hears of it later. -/
@[inline] def contained (part : Part α) : Part α :=
  part.andThen fun outcome =>
    match outcome with
    | .panicked => fun memory => .done (.thrown .panic, { memory with panicking := true })
    | other => finish other

/-- **What a part of a script is made of.** -/
inductive Built : {α : Type} → Part α → Prop
  | value {α : Type} (answer : α) : Built (finish (.value answer))
  | thrown {α : Type} (exception : Value) : Built (finish (.thrown exception) : Part α)
  | stopped {α : Type} : Built (finish .stopped : Part α)
  | make {α : Type} (step : Realm → α × Realm) : Built (make step)
  | leavePending (exception : Option Value) : Built (leavePending exception)
  | exiting : Built (ask .exiting)
  | poll (worked : Bool) : Built (ask (.poll worked))
  | callHost (index : Nat) {arguments : Part (List Json)} :
      Built arguments → Built (callHost index arguments)
  | onward {α β : Type} {first : Part α} {value : α → Part β} {thrown : Value → Part β}
      {stopped : Part β} : Built first → (∀ answer, Built (value answer)) →
      (∀ exception, Built (thrown exception)) → Built stopped →
      Built (first.andThen (onward value thrown stopped))
  | heard {α : Type} {part : Part α} : Built part → Built part.heard
  | contained {α : Type} {part : Part α} : Built part → Built part.contained

/-- Goes on with the value of a part. -/
theorem Built.bind {first : Part α} {next : α → Part β} (built : Built first)
    (rest : ∀ answer, Built (next answer)) : Built (first.bind next) :=
  .onward built rest .thrown .stopped

end Part

/-- A part of a script. -/
structure Run (α : Type) where
  part : Part α
  built : part.Built

namespace Run

variable {α β σ : Type}

/-- Ends by throwing a value. -/
@[inline] def throwValue (exception : Value) : Run α := ⟨.finish (.thrown exception), .thrown _⟩

/-- Ends because the host stopped the script. -/
@[inline] def stop : Run α := ⟨.finish .stopped, .stopped⟩

/-- Goes on however the first part ended, unless it panicked. -/
@[inline] def andThen (first : Run α) (value : α → Run β) (thrown : Value → Run β)
    (stopped : Run β) : Run β where
  part := first.part.andThen
    (.onward (fun answer => (value answer).part) (fun exception => (thrown exception).part)
      stopped.part)
  built := .onward first.built (fun answer => (value answer).built)
    (fun exception => (thrown exception).built) stopped.built

instance : Monad Run where
  pure value := ⟨.finish (.value value), .value value⟩
  bind first next := first.andThen next throwValue stop

/-- Changes the memory and answers. -/
@[inline] def make (step : Realm → α × Realm) : Run α := ⟨.make step, .make step⟩

/-- Looks at the memory. -/
@[inline] def look (view : Realm → α) : Run α := make fun realm => (view realm, realm)

/-- Changes the memory. -/
@[inline] def change (step : Realm → Realm) : Run Unit := make fun realm => ((), step realm)

/-- Leaves an exception to be looked at, or none. -/
@[inline] def leavePending (exception : Option Value) : Run Unit :=
  ⟨.leavePending exception, .leavePending exception⟩

/-- Asks the host whether the process is to end. -/
def askExiting : Run Bool := ⟨.ask .exiting, .exiting⟩

/-- Lets the host look in, after some work or after none; answers whether to stop. -/
def askPoll (worked : Bool) : Run Bool := ⟨.ask (.poll worked), .poll worked⟩

/-- Has the host call one of its functions with arguments that are made first, unless an exit has been
requested. -/
def callHost (index : Nat) (arguments : Run (List Json)) :
    Run (Option (Except SyscallError Json)) :=
  ⟨.callHost index arguments.part, .callHost index arguments.built⟩

/-- Ends by throwing a new error with a message. -/
def raiseText (kind : ErrorKind) (message : Units) : Run α := do
  let address ← make fun realm => realm.createError kind message
  throwValue (.object address)

/-- Ends by throwing a new error. -/
def raise (kind : ErrorKind) (message : String) : Run α := raiseText kind (.ofString message)

/-- Ends by throwing a new error whose message shows a name. -/
def raiseAbout (kind : ErrorKind) (before : String) (name : Units) (behind : String) : Run α :=
  raiseText kind (messageAbout before name behind)

/-- Hands what the first part throws to a handler. -/
@[inline] def attempt (first : Run α) (handler : Value → Run α) : Run α :=
  first.andThen pure handler stop

/-- A part whose ending the host looks at: if a host function has panicked before, an exception is that
panic. -/
@[inline] def heard (run : Run α) : Run α := ⟨run.part.heard, .heard run.built⟩

/-- A part in which a panic becomes something a script can catch; the host hears of it later. -/
@[inline] def contained (run : Run α) : Run α := ⟨run.part.contained, .contained run.built⟩

/-- Does the same to every item, in order. -/
def each (work : α → Run β) : List α → Run (List β)
  | [] => pure []
  | item :: rest => do
    let made ← work item
    let others ← each work rest
    return made :: others

/-- Does the same for every item, in order, handing a state on. -/
def follow (work : σ → α → Run σ) : σ → List α → Run σ
  | state, [] => pure state
  | state, item :: rest => do
    let state ← work state item
    follow work state rest

end Run

/-! ### Loops -/

namespace Part

variable {α σ : Type}

/-- Repeats a step on a state until it answers, and stops after so many repetitions. -/
def iterate (step : σ → Run (σ ⊕ α)) : Nat → σ → Part α
  | 0, _, memory => .done (.stopped, memory)
  | limit + 1, state, memory =>
    match (step state).part memory with
    | .done (.value (.inl state), memory) => iterate step limit state memory
    | .done (.value (.inr value), memory) => .done (.value value, memory)
    | .done (.thrown exception, memory) => .done (.thrown exception, memory)
    | .done (.stopped, memory) => .done (.stopped, memory)
    | .done (.panicked, memory) => .done (.panicked, memory)
    | .ask question rest =>
      .ask question fun answer => (rest answer).bind fun ending =>
        match ending with
        | (.value (.inl state), memory) => iterate step limit state memory
        | (.value (.inr value), memory) => .done (.value value, memory)
        | (.thrown exception, memory) => .done (.thrown exception, memory)
        | (.stopped, memory) => .done (.stopped, memory)
        | (.panicked, memory) => .done (.panicked, memory)

/-- A repetition is one step and the rest of the repetitions. -/
theorem iterate_succ (step : σ → Run (σ ⊕ α)) (limit : Nat) (state : σ) :
    iterate step (limit + 1) state =
      (step state).part.bind fun answer =>
        answer.elim (iterate step limit) fun value => finish (.value value) := by
  funext memory
  rw [iterate]
  unfold bind andThen
  rcases (step state).part memory with ⟨(_ | _) | _ | _ | _, _⟩ | ⟨question, rest⟩
  all_goals try rfl
  dsimp only
  congr
  funext answer
  congr
  funext ending
  rcases ending with ⟨(_ | _) | _ | _ | _, _⟩ <;> rfl

theorem iterate_built (step : σ → Run (σ ⊕ α)) (limit : Nat) (state : σ) :
    Built (iterate step limit state) := by
  induction limit generalizing state with
  | zero => exact .stopped
  | succ limit ih =>
    rw [iterate_succ]
    refine .bind (step state).built fun answer => ?_
    cases answer with
    | inl state => exact ih state
    | inr value => exact .value value

end Part

namespace Run

variable {α σ : Type}

/-- More repetitions than any host waits for. -/
def endless : Nat := Nat.pow 2 60

/-- Repeats a step on a state until it answers, and stops after so many repetitions. -/
def iterate (step : σ → Run (σ ⊕ α)) (limit : Nat) (start : σ) : Run α :=
  ⟨.iterate step limit start, Part.iterate_built step limit start⟩

/-- Repeats a step on a state until it answers. -/
def loop (step : σ → Run (σ ⊕ α)) (start : σ) : Run α := iterate step endless start

/-- Does the same for every number below a bound, in order, handing a state on. -/
def count (bound : Nat) (work : σ → Nat → Run σ) (start : σ) : Run σ :=
  iterate (fun (index, state) => do
    if index < bound then return .inl (index + 1, ← work state index) else return .inr state)
    (bound + 1) (0, start)

/-- The work between two looks of the host. -/
def slice : Nat := 10000

/-- One piece of work; the host looks in before the first and whenever a slice is used up. -/
def tick : Run Unit := do
  let due ← make fun realm =>
    if realm.countdown > 1 then (none, { realm with countdown := realm.countdown - 1 })
    else (some (realm.countdown == 1), { realm with countdown := slice })
  match due with
  | none => return ()
  | some worked => if ← askPoll worked then stop

end Run

/-- How functions are called. -/
structure Caller where
  /-- Calls a function with a `this` and arguments. -/
  call : Value → Value → List Value → Run Value
  /-- Makes an object with a function. -/
  construct : Value → List Value → Run Value

/-- Refuses every call. -/
def Caller.exhausted : Caller where
  call _ _ _ := Run.raise .internal "stack overflow"
  construct _ _ := Run.raise .internal "stack overflow"

end ScriptKernel.Script
