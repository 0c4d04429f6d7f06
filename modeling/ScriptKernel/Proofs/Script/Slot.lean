/-
**Nothing reads the exception that waits.**

What a script throws while the host looks for something else waits in a slot of the memory. Parts of a script leave
exceptions there, and none of them ever looks.

* `Memory.wiped`: a memory without the exception that waits;
* `Indistinct`: two endings that differ in that exception at most, and in what the host does not tell apart;
* `Part.Blind`: a part that ends so, whichever exceptions wait; every construct keeps to that;
* `Part.Built.blind`: **so do all parts of a script**.
-/

import ScriptKernel.Script.Entry

set_option autoImplicit false

namespace ScriptKernel.Script

variable {α β ω : Type}

/-- A memory without the exception that waits. -/
def Memory.wiped (memory : Memory) : Memory := { memory with pending := none }

/-- Memories that differ in the exception that waits have the same realm, and keep back the same panic. -/
theorem Memory.wiped_eq {first second : Memory} (same : first.wiped = second.wiped) :
    first.realm = second.realm ∧ first.panicking = second.panicking := by
  have fields := Memory.mk.inj same
  exact ⟨fields.1, fields.2.2⟩

theorem Memory.wiped_of {first second : Memory} (realm : first.realm = second.realm)
    (panicking : first.panicking = second.panicking) : first.wiped = second.wiped := by
  unfold Memory.wiped
  rw [realm, panicking]

/-- **Two endings that differ in the exception that waits at most**, and in what is not told apart. -/
inductive Indistinct (alike : ω → ω → Prop) :
    (Outcome α × Memory) × ω → (Outcome α × Memory) × ω → Prop
  | intro (outcome : Outcome α) {here there : Memory} {first second : ω} :
      here.wiped = there.wiped → alike first second →
      Indistinct alike ((outcome, here), first) ((outcome, there), second)

namespace Part

/-- **A part that ends the same whichever exceptions wait.** -/
def Blind (host : Host ω) (alike : ω → ω → Prop) (part : Part α) : Prop :=
  ∀ (here there : Memory) (first second : ω), here.wiped = there.wiped → alike first second →
    Indistinct alike (Dialogue.run host (part here) first) (Dialogue.run host (part there) second)

variable {host : Host ω} {alike : ω → ω → Prop}

theorem blind_finish (outcome : Outcome α) : Blind host alike (finish outcome) :=
  fun _ _ _ _ same related => .intro outcome same related

theorem blind_andThen {first : Part α} {next : Outcome α → Part β} (blind : Blind host alike first)
    (rest : ∀ outcome, Blind host alike (next outcome)) : Blind host alike (first.andThen next) := by
  intro here there before after same related
  have ended := blind here there before after same related
  rw [andThen_apply, andThen_apply, Dialogue.run_bind, Dialogue.run_bind]
  generalize Dialogue.run host (first here) before = left at ended
  generalize Dialogue.run host (first there) after = right at ended
  cases ended with
  | intro outcome same related => exact rest outcome _ _ _ _ same related

theorem blind_onward {first : Part α} {value : α → Part β} {thrown : Value → Part β}
    {stopped : Part β} (blind : Blind host alike first)
    (onValue : ∀ answer, Blind host alike (value answer))
    (onThrown : ∀ exception, Blind host alike (thrown exception))
    (onStopped : Blind host alike stopped) :
    Blind host alike (first.andThen (onward value thrown stopped)) := by
  refine blind_andThen blind fun outcome => ?_
  cases outcome with
  | value answer => exact onValue answer
  | thrown exception => exact onThrown exception
  | stopped => exact onStopped
  | panicked => exact blind_finish _

/-- A host does the same in states that it does not tell apart. -/
def Respects (host : Host ω) (alike : ω → ω → Prop) : Prop :=
  ∀ question first second, alike first second →
    (host question first).1 = (host question second).1 ∧
      alike (host question first).2 (host question second).2

theorem blind_ask (respects : Respects host alike) (question : Question) :
    Blind host alike (ask question) := by
  intro here there first second same related
  obtain ⟨answer, left⟩ := respects question first second related
  show Indistinct alike ((Outcome.value (host question first).1, here), (host question first).2)
    ((Outcome.value (host question second).1, there), (host question second).2)
  rw [answer]
  exact .intro _ same left

theorem blind_callNow (respects : Respects host alike) (index : Nat) (args : List Json) :
    Blind host alike (callNow index args) := by
  intro here there first second same related
  obtain ⟨answer, left⟩ := respects (.call index args) first second related
  show Indistinct alike ((ofReply (host (.call index args) first).1, here), (host (.call index args) first).2)
    ((ofReply (host (.call index args) second).1, there), (host (.call index args) second).2)
  rw [answer]
  exact .intro _ same left

theorem blind_make (step : Realm → α × Realm) : Blind host alike (make step) := by
  intro here there first second same related
  obtain ⟨realm, panicking⟩ := Memory.wiped_eq same
  rcases here with ⟨realm, left, kept⟩
  rcases there with ⟨_, right, _⟩
  cases realm
  cases panicking
  exact .intro _ (Memory.wiped_of rfl rfl) related

theorem blind_leavePending (exception : Option Value) : Blind host alike (leavePending exception) := by
  intro here there first second same related
  obtain ⟨realm, panicking⟩ := Memory.wiped_eq same
  exact .intro _ (Memory.wiped_of realm panicking) related

/-- What is kept back of a panic decides how a part ends, and not what waits. -/
theorem blind_heard {part : Part α} (blind : Blind host alike part) : Blind host alike part.heard := by
  have looked (outcome : Outcome α) : Blind host alike fun memory =>
      if memory.panicking then .done (.panicked, { memory with panicking := false })
      else .done (outcome, memory) := by
    intro here there first second same related
    obtain ⟨realm, panicking⟩ := Memory.wiped_eq same
    dsimp only
    rw [panicking]
    split
    · exact .intro _ (Memory.wiped_of realm rfl) related
    · exact .intro _ same related
  refine blind_andThen blind fun outcome => ?_
  cases outcome with
  | value answer => exact blind_finish _
  | thrown exception => exact looked (.thrown exception)
  | stopped => exact looked .stopped
  | panicked => exact looked .panicked

theorem blind_contained {part : Part α} (blind : Blind host alike part) :
    Blind host alike part.contained := by
  refine blind_andThen blind fun outcome => ?_
  cases outcome with
  | panicked =>
    intro here there first second same related
    obtain ⟨realm, -⟩ := Memory.wiped_eq same
    exact .intro _ (Memory.wiped_of realm rfl) related
  | value _ | thrown _ | stopped => exact blind_finish _

/-- **Every part of a script is blind to the exception that waits.** -/
theorem Built.blind (respects : Respects host alike) {part : Part α} (built : part.Built) :
    Blind host alike part := by
  induction built with
  | value answer => exact blind_finish _
  | thrown exception => exact blind_finish _
  | stopped => exact blind_finish _
  | make step => exact blind_make step
  | leavePending exception => exact blind_leavePending exception
  | exiting => exact blind_ask respects .exiting
  | poll worked => exact blind_ask respects (.poll worked)
  | callHost index _ ih =>
    refine blind_onward (blind_ask respects .exiting) (fun exiting => ?_) (fun _ => blind_finish _)
      (blind_finish _)
    cases exiting with
    | true => exact blind_finish _
    | false =>
      exact blind_onward ih (fun args => blind_callNow respects index args) (fun _ => blind_finish _)
        (blind_finish _)
  | onward _ _ _ _ first value thrown stopped => exact blind_onward first value thrown stopped
  | heard _ ih => exact blind_heard ih
  | contained _ ih => exact blind_contained ih

end Part

end ScriptKernel.Script
