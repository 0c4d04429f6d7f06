/-
**How the parts of a script end.**

* `Dialogue.Ends`: how every run of a dialogue ends, as long as the host answers in a certain way;
* `Part.Built.calm`: **no part of a script panics of itself**: if no host function panics, no part ends in a
  panic, and none leaves one behind for the host to hear of;
* `Run.Answers`: a run that never throws and is never stopped, and what its answers are like. The ways into a
  script are such runs: `answers_evaluateReported`, `answers_resolve`, `answers_apply`, `answers_hasFunction`
  and `answers_runJobs`; calling a function that has been resolved never answers that it is missing.
-/

import ScriptKernel.Script.Entry

set_option autoImplicit false

namespace ScriptKernel.Script

variable {α β σ ω : Type}

/-! ### Every end of a dialogue -/

namespace Dialogue

/-- **Every run of a dialogue ends as wanted**, as long as the answers are allowed. -/
inductive Ends (allowed : (question : Question) → question.Answer → Prop) {α : Type}
    (wanted : α → Prop) : Dialogue α → Prop
  | done (value : α) : wanted value → Ends allowed wanted (.done value)
  | ask (question : Question) (next : question.Answer → Dialogue α) :
      (∀ answer, allowed question answer → Ends allowed wanted (next answer)) →
      Ends allowed wanted (.ask question next)

variable {allowed : (question : Question) → question.Answer → Prop} {wanted : α → Prop}

theorem Ends.bind {rest : β → Prop} {first : Dialogue α} {next : α → Dialogue β}
    (ends : first.Ends allowed wanted)
    (continues : ∀ value, wanted value → (next value).Ends allowed rest) :
    (first.bind next).Ends allowed rest := by
  induction ends with
  | done value here => exact continues value here
  | ask question further _ ih => exact .ask question _ ih

/-- Nothing is wanted of the end, so every dialogue will do. -/
theorem ends_of_forall (always : ∀ value, wanted value) (dialogue : Dialogue α) :
    dialogue.Ends allowed wanted := by
  induction dialogue with
  | done value => exact .done value (always value)
  | ask question next ih => exact .ask question next fun answer _ => ih answer

/-- A host whose answers are allowed brings a dialogue to a wanted end. -/
theorem Ends.run {host : Host ω} (answers : ∀ question state, allowed question (host question state).1)
    {dialogue : Dialogue α} (ends : dialogue.Ends allowed wanted) (state : ω) :
    wanted (Dialogue.run host dialogue state).1 := by
  induction ends generalizing state with
  | done value here => exact here
  | ask question next _ ih => exact ih _ (answers question state) _

end Dialogue

open Dialogue (Ends)

/-! ### Parts without a panic -/

/-- An answer that is not the panic of a host function. -/
def Question.Calm : (question : Question) → question.Answer → Prop
  | .call _ _, reply => reply ≠ SyscallReply.panicked
  | _, _ => True

/-- An end without a panic, now or later. -/
def Undisturbed (ending : Outcome α × Memory) : Prop :=
  ending.1 ≠ .panicked ∧ ending.2.panicking = false

namespace Part

/-- **A part that does not panic unless a host function does.** -/
def Calm (part : Part α) : Prop :=
  ∀ memory, memory.panicking = false → (part memory).Ends Question.Calm Undisturbed

theorem calm_finish {outcome : Outcome α} (calm : outcome ≠ .panicked) : Calm (finish outcome) :=
  fun _ quiet => .done _ ⟨calm, quiet⟩

theorem calm_andThen {first : Part α} {next : Outcome α → Part β} (calm : first.Calm)
    (rest : ∀ outcome, outcome ≠ .panicked → (next outcome).Calm) : (first.andThen next).Calm := by
  intro memory quiet
  rw [andThen_apply]
  exact (calm memory quiet).bind fun ending undisturbed =>
    rest ending.1 undisturbed.1 ending.2 undisturbed.2

theorem calm_ask (question : Question) : Calm (ask question) :=
  fun _ quiet => .ask _ _ fun _ _ => .done _ ⟨nofun, quiet⟩

theorem calm_onward {first : Part α} {value : α → Part β} {thrown : Value → Part β}
    {stopped : Part β} (calm : first.Calm) (onValue : ∀ answer, (value answer).Calm)
    (onThrown : ∀ exception, (thrown exception).Calm) (onStopped : stopped.Calm) :
    (first.andThen (onward value thrown stopped)).Calm := by
  refine calm_andThen calm fun outcome other => ?_
  cases outcome with
  | value answer => exact onValue answer
  | thrown exception => exact onThrown exception
  | stopped => exact onStopped
  | panicked => exact absurd rfl other

theorem calm_bind {first : Part α} {next : α → Part β} (calm : first.Calm)
    (rest : ∀ answer, (next answer).Calm) : (first.bind next).Calm :=
  calm_onward calm rest (fun _ => calm_finish nofun) (calm_finish nofun)

theorem calm_callNow (index : Nat) (args : List Json) : Calm (callNow index args) := by
  intro memory quiet
  refine .ask _ _ fun reply calm => .done _ ⟨?_, quiet⟩
  cases reply with
  | returned value => exact nofun
  | failed error => exact nofun
  | panicked => exact absurd rfl calm

theorem calm_callHost (index : Nat) {arguments : Part (List Json)} (calm : arguments.Calm) :
    Calm (callHost index arguments) := by
  refine calm_bind (calm_ask _) fun exiting => ?_
  cases exiting with
  | true => exact calm_finish nofun
  | false => exact calm_bind calm (calm_callNow index)

theorem calm_heard {part : Part α} (calm : part.Calm) : part.heard.Calm := by
  refine calm_andThen calm fun outcome other => ?_
  cases outcome with
  | value answer => exact calm_finish nofun
  | panicked => exact absurd rfl other
  | thrown exception =>
    intro memory quiet
    simp only [quiet]
    exact .done _ ⟨nofun, quiet⟩
  | stopped =>
    intro memory quiet
    simp only [quiet]
    exact .done _ ⟨nofun, quiet⟩

theorem calm_contained {part : Part α} (calm : part.Calm) : part.contained.Calm := by
  refine calm_andThen calm fun outcome other => ?_
  cases outcome with
  | panicked => exact absurd rfl other
  | value answer => exact calm_finish nofun
  | thrown exception => exact calm_finish nofun
  | stopped => exact calm_finish nofun

/-- **No part of a script panics of itself.** -/
theorem Built.calm {part : Part α} (built : part.Built) : part.Calm := by
  induction built with
  | value answer => exact calm_finish nofun
  | thrown exception => exact calm_finish nofun
  | stopped => exact calm_finish nofun
  | make step => exact fun memory quiet => .done _ ⟨nofun, quiet⟩
  | leavePending exception => exact fun memory quiet => .done _ ⟨nofun, quiet⟩
  | exiting => exact calm_ask _
  | poll worked => exact calm_ask _
  | callHost index _ ih => exact calm_callHost index ih
  | onward _ _ _ _ first value thrown stopped => exact calm_onward first value thrown stopped
  | heard _ ih => exact calm_heard ih
  | contained _ ih => exact calm_contained ih

end Part

/-! ### Runs that answer -/

/-- An end that is an answer, unless it is a panic. -/
def Outcome.Answered (wanted : α → Prop) : Outcome α → Prop
  | .value answer => wanted answer
  | .panicked => True
  | _ => False

namespace Run

/-- **A run that never throws and is never stopped**, whatever the host answers, and whose answers are as
wanted. -/
def Answers (run : Run α) (wanted : α → Prop) : Prop :=
  ∀ memory, (run.part memory).Ends (fun _ _ => True) fun ending => ending.1.Answered wanted

variable {wanted : α → Prop} {rest : β → Prop}

theorem answers_pure {answer : α} (here : wanted answer) : (pure answer : Run α).Answers wanted :=
  fun _ => .done _ here

theorem answers_make {step : Realm → α × Realm} (here : ∀ realm, wanted (step realm).1) :
    (make step).Answers wanted :=
  fun memory => .done _ (here memory.realm)

theorem answers_look (view : Realm → α) : (look view).Answers fun _ => True :=
  answers_make fun _ => trivial

theorem answers_leavePending (exception : Option Value) :
    (leavePending exception).Answers fun _ => True :=
  fun _ => .done _ trivial

theorem answers_bind {first : Run α} {next : α → Run β} (answers : first.Answers wanted)
    (continues : ∀ answer, wanted answer → (next answer).Answers rest) :
    (first >>= next).Answers rest := by
  intro memory
  show (Part.andThen _ _ memory).Ends _ _
  rw [Part.andThen_apply]
  refine (answers memory).bind fun ending answered => ?_
  rcases ending with ⟨answer | exception | _ | _, memory⟩
  · exact continues answer answered memory
  · exact absurd answered id
  · exact absurd answered id
  · exact .done _ trivial

/-- However the first run ends, what follows it answers. -/
theorem answers_andThen (first : Run α) {value : α → Run β} {thrown : Value → Run β}
    {stopped : Run β} (onValue : ∀ answer, (value answer).Answers rest)
    (onThrown : ∀ exception, (thrown exception).Answers rest) (onStopped : stopped.Answers rest) :
    (first.andThen value thrown stopped).Answers rest := by
  intro memory
  show (Part.andThen _ _ memory).Ends _ _
  rw [Part.andThen_apply]
  refine (Dialogue.ends_of_forall (fun _ => trivial) (first.part memory)).bind fun ending _ => ?_
  rcases ending with ⟨answer | exception | _ | _, memory⟩
  · exact onValue answer memory
  · exact onThrown exception memory
  · exact onStopped memory
  · exact .done _ trivial

theorem answers_each {work : α → Run β} (answers : ∀ item, (work item).Answers fun _ => True)
    (items : List α) : (each work items).Answers fun _ => True := by
  induction items with
  | nil => exact answers_pure trivial
  | cons item others ih =>
    exact answers_bind (answers item) fun _ _ => answers_bind ih fun _ _ => answers_pure trivial

end Run

open Run

/-! ### The ways into a script -/

theorem answers_guarded (run : Run α) : (guarded run).Answers fun _ => True :=
  answers_andThen _ (fun _ => answers_pure trivial) (fun _ => answers_pure trivial)
    (answers_make fun _ => trivial)

theorem answers_exceptionText (run : Run (Option Units)) :
    (exceptionText run).Answers fun _ => True := by
  refine answers_bind (answers_guarded run) fun outcome _ => ?_
  cases outcome with
  | ok text => exact answers_pure trivial
  | error exception =>
    exact answers_bind (answers_leavePending _) fun _ _ => answers_pure trivial

theorem answers_describe (exception : Value) : (describe exception).Answers fun _ => True := by
  refine answers_bind (answers_look _) fun isError _ => ?_
  cases isError with
  | true =>
    exact answers_bind (answers_exceptionText _) fun _ _ =>
      answers_bind (answers_exceptionText _) fun _ _ => answers_pure trivial
  | false => exact answers_bind (answers_exceptionText _) fun _ _ => answers_pure trivial

/-- What is looked at by the host is never reported as a function that is missing. -/
theorem answers_reported (run : Run α) :
    (reported run).Answers fun answer => answer ≠ .error .missing := by
  refine answers_bind (answers_guarded run) fun outcome _ => ?_
  cases outcome with
  | ok value => exact answers_pure nofun
  | error exception =>
    refine answers_bind (answers_leavePending none) fun _ _ =>
      answers_bind (answers_describe exception) fun text _ => answers_pure ?_
    exact nofun

theorem answers_readBack (caller : Caller) (value : Value) :
    (readBack caller value).Answers fun _ => True := by
  refine answers_bind (answers_look _) fun isFormless _ => ?_
  cases isFormless with
  | true => exact answers_pure trivial
  | false =>
    exact answers_andThen _ (fun _ => answers_pure trivial) (fun _ => answers_pure trivial)
      (answers_pure trivial)

theorem answers_evaluateReported (source : String) :
    (evaluateReported source).Answers fun answer => answer ≠ .error .missing := by
  unfold evaluateReported
  cases refusal? source with
  | some error => exact answers_pure nofun
  | none => exact answers_reported _

theorem answers_resolve (name : String) : (resolve name).Answers fun _ => True := by
  refine answers_bind (answers_reported _) fun outcome _ => ?_
  cases outcome with
  | error fault => exact answers_pure trivial
  | ok target =>
    refine answers_bind (answers_look _) fun isCallable _ => ?_
    cases isCallable <;> exact answers_pure trivial

/-- **A function that has been resolved is not missing.** -/
theorem answers_apply (target : Value) (args : List Json) :
    (apply target args).Answers fun answer => answer ≠ .error .missing := by
  refine answers_bind (answers_each (fun _ => answers_make fun _ => trivial) args) fun values _ => ?_
  refine answers_bind (answers_reported _) fun outcome known => ?_
  cases outcome with
  | error fault => exact answers_pure fun same => known (by cases same; rfl)
  | ok value =>
    refine answers_bind (answers_readBack _ value) fun form _ => ?_
    cases form <;> exact answers_pure nofun

theorem answers_hasFunction (name : String) : (hasFunction name).Answers fun _ => True := by
  refine answers_bind (answers_guarded _) fun outcome _ => ?_
  cases outcome with
  | ok value => exact answers_look _
  | error exception =>
    exact answers_bind (answers_leavePending _) fun _ _ => answers_pure trivial

theorem answers_runJobs (caller : Caller) : (runJobs caller).Answers fun _ => True :=
  answers_andThen _ (fun _ => answers_pure trivial) (fun _ => answers_pure trivial)
    (answers_pure trivial)

end ScriptKernel.Script
