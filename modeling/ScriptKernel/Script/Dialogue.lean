/-
**What a script asks of its host.**

A running script reaches outside in three ways: it asks whether its process is to end, it lets the host look
in after some work, and it calls host functions. A run is a tree of such questions with a value at its end;
the host answers from a state of its own.

* `Question`, `Question.Answer`: the questions and the answers each allows;
* `Dialogue`: a run, with a value at its end;
* `Dialogue.run`: the run with a host; whatever the answers of a host keep, a run keeps
  (`Dialogue.run_invariant`).
-/

import ScriptKernel.Syscall

set_option autoImplicit false

namespace ScriptKernel.Script

/-- A question to the host. -/
inductive Question
  /-- Whether the process is to end. -/
  | exiting
  /-- Whether to stop now, after some work or after none. -/
  | poll (worked : Bool)
  /-- What a host function makes of its arguments. -/
  | call (index : Nat) (args : List Json)

/-- The answers a question allows. -/
def Question.Answer : Question → Type
  | .exiting | .poll _ => Bool
  | .call .. => SyscallReply

/-- A host with a state: how it answers, and the state it is in afterwards. -/
def Host (ω : Type) : Type := (question : Question) → ω → question.Answer × ω

/-- A run that asks questions and ends with a value. -/
inductive Dialogue (α : Type)
  | done (value : α)
  | ask (question : Question) (next : question.Answer → Dialogue α)

namespace Dialogue

variable {α β ω : Type}

/-- Goes on from the value at the end of a run. -/
def bind : Dialogue α → (α → Dialogue β) → Dialogue β
  | .done value, next => next value
  | .ask question rest, next => .ask question fun answer => (rest answer).bind next

/-- The run with a host. -/
def run (host : Host ω) : Dialogue α → ω → α × ω
  | .done value, state => (value, state)
  | .ask question next, state =>
    let answer := host question state
    run host (next answer.1) answer.2

@[simp] theorem run_done (host : Host ω) (value : α) (state : ω) :
    run host (.done value) state = (value, state) := rfl

theorem run_bind (host : Host ω) (first : Dialogue α) (next : α → Dialogue β) (state : ω) :
    run host (first.bind next) state =
      run host (next (run host first state).1) (run host first state).2 := by
  induction first generalizing state with
  | done value => rfl
  | ask question rest ih => exact ih _ _

/-- What every answer of the host keeps, every run keeps. -/
theorem run_invariant (host : Host ω) (kept : ω → Prop)
    (answers : ∀ question state, kept state → kept (host question state).2)
    (dialogue : Dialogue α) (state : ω) (before : kept state) :
    kept (run host dialogue state).2 := by
  induction dialogue generalizing state with
  | done value => exact before
  | ask question next ih => exact ih _ _ (answers question state before)

end Dialogue

end ScriptKernel.Script
