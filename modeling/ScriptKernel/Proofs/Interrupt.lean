/-
**What an interrupt remembers.**

* `Interrupt.ticks_eq`, `Interrupt.deadlineAfter_eq`: the tick of a time and that of a deadline, whatever is too
  great to be held on the way there;
* `Interrupt.Asked`: the exit codes asked for between two moments of an interrupt, whatever else was done with
  it in between;
* `Asked.exitCode_eq`: **the first code asked for is the one that counts**, for ever;
* `Interrupt.Patient`: an interrupt that is not cancelled and whose deadline is out of reach; a script is then
  stopped for an exit only (`Patient.shouldInterrupt`);
* `Interrupt.Honest`: a script was stopped for an exit only if one was asked for, and likewise for the other reasons;
* `Interrupt.Told`: what can be done to an interrupt from outside an entry; it moves no deadline, and what is noted stays.
-/

import ScriptKernel.Interrupt
import Mathlib.Data.List.Induction

set_option autoImplicit false

namespace ScriptKernel

/-! ### Times and ticks -/

/-- Two lengths of time have a sum if its seconds are not too many. -/
theorem Duration.sum?_eq (first other : Nat) :
    Duration.sum? first other =
      if first + other < Duration.secondsBound * Duration.second then some (first + other) else none := by
  have one := Nat.div_add_mod first Duration.second
  have two := Nat.div_add_mod other Duration.second
  unfold Duration.sum? Duration.secondsBound Duration.second at *
  simp only [Nat.pow_eq, Nat.reducePow] at *
  by_cases carry : first % 1000000000 + other % 1000000000 < 1000000000
  · have sum : (first / 1000000000 + other / 1000000000) * 1000000000 +
        (first % 1000000000 + other % 1000000000) = first + other := by omega
    rw [if_pos carry, sum]
    by_cases many : 18446744073709551616 ≤ first / 1000000000 + other / 1000000000
    · rw [if_pos many, if_neg (by omega)]
    · rw [if_neg many, if_pos (by omega)]
  · have sum : (first / 1000000000 + other / 1000000000 + 1) * 1000000000 +
        (first % 1000000000 + other % 1000000000 - 1000000000) = first + other := by omega
    rw [if_neg carry, sum]
    by_cases many : 18446744073709551616 ≤ first / 1000000000 + other / 1000000000 + 1
    · rw [if_pos many, ite_self, if_neg (by omega)]
    · rw [if_neg (by omega), if_neg many, if_pos (by omega)]

namespace Interrupt

/-- A tick is one more than the nanoseconds, as far as it goes. -/
theorem ticks_eq (time : Nat) : ticks time = min greatestTick (time + 1) := by
  unfold ticks Duration.nanoseconds? greatestTick
  simp only [Nat.pow_eq, Nat.reducePow]
  by_cases small : time < 18446744073709551616
  · rw [if_pos small, Option.getD_some]
    split_ifs <;> omega
  · rw [if_neg small, Option.getD_none]
    split_ifs <;> omega

/-- No tick stands for no deadline. -/
theorem ticks_pos (time : Nat) : 0 < ticks time := by
  have great : 0 < greatestTick := by decide
  rw [ticks_eq]
  omega

/-- A later time has no smaller tick. -/
theorem ticks_mono {first second : Nat} (order : first ≤ second) :
    ticks first ≤ ticks second := by
  rw [ticks_eq, ticks_eq]
  omega

/-- **A deadline is the tick of the exact sum**: what is too great for a sum is too great for a tick. -/
theorem deadlineAfter_eq (now allowed : Nat) : deadlineAfter now allowed = ticks (now + allowed) := by
  unfold deadlineAfter
  rw [Duration.sum?_eq]
  by_cases fits : now + allowed < Duration.secondsBound * Duration.second
  · rw [if_pos fits]
  · rw [if_neg fits, ticks_eq]
    unfold Duration.secondsBound Duration.second at fits
    unfold greatestTick
    simp only [Nat.pow_eq, Nat.reducePow, Nat.reduceSub] at *
    omega

/-! ### The codes asked for -/

/-- **The exit codes asked for between two moments of an interrupt**, in order. -/
inductive Asked : Interrupt → List ExitCode → Interrupt → Prop
  | start (interrupt : Interrupt) : Asked interrupt [] interrupt
  | exit {first last : Interrupt} {codes : List ExitCode} (code : ExitCode) :
      Asked first codes last → Asked first (codes ++ [code]) (last.requestExit code)
  | arm {first last : Interrupt} {codes : List ExitCode} (now : Duration)
      (budget : Option Duration) : Asked first codes last → Asked first codes (last.arm now budget)
  | disarm {first last : Interrupt} {codes : List ExitCode} :
      Asked first codes last → Asked first codes last.disarm.2
  | poll {first last : Interrupt} {codes : List ExitCode} (now : Duration) :
      Asked first codes last → Asked first codes (last.shouldInterrupt now).2
  | cancel {first last : Interrupt} {codes : List ExitCode} :
      Asked first codes last → Asked first codes last.cancel

/-- A look leaves the deadline where it is. -/
theorem shouldInterrupt_deadline (interrupt : Interrupt) (now : Duration) :
    (interrupt.shouldInterrupt now).2.deadline = interrupt.deadline := by
  unfold shouldInterrupt
  cases interrupt.reason? now <;> rfl

theorem shouldInterrupt_exitCode (interrupt : Interrupt) (now : Duration) :
    (interrupt.shouldInterrupt now).2.exitCode = interrupt.exitCode := by
  unfold shouldInterrupt
  cases interrupt.reason? now <;> rfl

theorem shouldInterrupt_cancelled (interrupt : Interrupt) (now : Duration) :
    (interrupt.shouldInterrupt now).2.cancelled = interrupt.cancelled := by
  unfold shouldInterrupt
  cases interrupt.reason? now <;> rfl

/-- A code counts unless another was asked for before. -/
theorem requestExit_exitCode (interrupt : Interrupt) (code : ExitCode) :
    (interrupt.requestExit code).exitCode = interrupt.exitCode.or (some code) := by
  unfold requestExit
  cases held : interrupt.exitCode with
  | none => rfl
  | some other => exact held

/-- Asking to exit changes nothing but the code. -/
theorem requestExit_eq (interrupt : Interrupt) (code : ExitCode) :
    interrupt.requestExit code =
      { interrupt with exitCode := interrupt.exitCode.or (some code) } := by
  unfold requestExit
  cases held : interrupt.exitCode with
  | none => rfl
  | some other =>
    show interrupt = { interrupt with exitCode := some other }
    rw [← held]

namespace Asked

variable {first middle last : Interrupt} {codes others : List ExitCode}

theorem trans (before : Asked first codes middle) (after : Asked middle others last) :
    Asked first (codes ++ others) last := by
  induction after with
  | start => rwa [List.append_nil]
  | exit code _ ih =>
    rw [← List.append_assoc]
    exact ih.exit code
  | arm now budget _ ih => exact ih.arm now budget
  | disarm _ ih => exact ih.disarm
  | poll now _ ih => exact ih.poll now
  | cancel _ ih => exact ih.cancel

/-- Codes asked for one after the other. -/
theorem of_requests (interrupt : Interrupt) (codes : List ExitCode) :
    Asked interrupt codes (codes.foldl requestExit interrupt) := by
  induction codes using List.reverseRecOn with
  | nil => exact .start interrupt
  | append_singleton codes code ih =>
    rw [List.foldl_append]
    exact ih.exit code

/-- **The first code asked for is the one that counts.** -/
theorem exitCode_eq (asked : Asked first codes last) :
    last.exitCode = first.exitCode.or codes.head? := by
  induction asked with
  | start => rw [List.head?_nil, Option.or_none]
  | exit code _ ih => rw [requestExit_exitCode, ih, List.head?_append, Option.or_assoc]; rfl
  | arm now budget _ ih => exact ih
  | disarm _ ih => exact ih
  | poll now _ ih => rw [shouldInterrupt_exitCode, ih]
  | cancel _ ih => exact ih

/-- Where nothing is asked for, the code stays as it was. -/
theorem exitCode_eq_of_nil (asked : Asked first [] last) : last.exitCode = first.exitCode := by
  rw [asked.exitCode_eq, List.head?_nil, Option.or_none]

end Asked

/-! ### Being stopped for an exit only -/

/-- An interrupt that is not cancelled, whose deadline is beyond a tick, and that has stopped a script for an
exit at most. -/
structure Patient (limit : Nat) (interrupt : Interrupt) : Prop where
  cancelled : interrupt.cancelled = false
  deadline : interrupt.deadline = 0 ∨ limit < interrupt.deadline
  tripped : interrupt.tripped = none ∨ interrupt.tripped = some .exit

namespace Patient

variable {limit : Nat} {interrupt : Interrupt}

theorem requestExit (patient : Patient limit interrupt) (code : ExitCode) :
    Patient limit (interrupt.requestExit code) := by
  rw [requestExit_eq]
  exact ⟨patient.cancelled, patient.deadline, patient.tripped⟩

theorem requests (patient : Patient limit interrupt) (codes : List ExitCode) :
    Patient limit (codes.foldl Interrupt.requestExit interrupt) := by
  induction codes generalizing interrupt with
  | nil => exact patient
  | cons code others ih => exact ih (patient.requestExit code)

theorem disarm (patient : Patient limit interrupt) : Patient limit interrupt.disarm.2 :=
  ⟨patient.cancelled, .inl rfl, .inl rfl⟩

/-- A deadline set beyond a tick is beyond it. -/
theorem arm (uncancelled : interrupt.cancelled = false) {now : Duration}
    {budget : Option Duration} (beyond : ∀ allowed, budget = some allowed → limit < ticks (now + allowed)) :
    Patient limit (interrupt.arm now budget) := by
  refine ⟨uncancelled, ?_, .inl rfl⟩
  cases budget with
  | none => exact .inl rfl
  | some allowed =>
    refine .inr ?_
    show limit < deadlineAfter now allowed
    rw [deadlineAfter_eq]
    exact beyond allowed rfl

/-- Before its deadline a script is stopped for an exit only. -/
theorem shouldInterrupt (patient : Patient limit interrupt) {now : Duration}
    (before : ticks now ≤ limit) : Patient limit (interrupt.shouldInterrupt now).2 := by
  have unexpired : interrupt.expired now = false := by
    unfold expired
    rcases patient.deadline with none | beyond
    · rw [none]
      rfl
    · have : ¬ interrupt.deadline ≤ ticks now := by omega
      simp [this]
  have reason : interrupt.reason? now =
      if interrupt.exitCode.isSome then some .exit else none := by
    unfold reason?
    simp [patient.cancelled, unexpired]
  unfold Interrupt.shouldInterrupt
  rw [reason]
  split
  · split at *
    · exact ⟨patient.cancelled, patient.deadline, .inr (by simp_all)⟩
    · simp_all
  · exact patient

end Patient

/-! ### Why a script was stopped -/

/-- **What the marker says of an exit or of a cancellation is so**; and a deadline was met only if one was set. -/
structure Honest (interrupt : Interrupt) : Prop where
  exit : interrupt.tripped = some .exit → interrupt.exitCode.isSome = true
  cancelled : interrupt.tripped = some .cancelled → interrupt.cancelled = true
  deadline : interrupt.tripped = some .deadline → interrupt.deadline ≠ 0

namespace Honest

variable {interrupt : Interrupt}

/-- Where no script was stopped there is nothing to be said. -/
theorem of_untripped (untripped : interrupt.tripped = none) : interrupt.Honest := by
  refine ⟨fun stopped => ?_, fun stopped => ?_, fun stopped => ?_⟩
  all_goals
    rw [untripped] at stopped
    cases stopped

theorem arm (interrupt : Interrupt) (now : Duration) (budget : Option Duration) :
    (interrupt.arm now budget).Honest :=
  of_untripped rfl

theorem disarm (interrupt : Interrupt) : interrupt.disarm.2.Honest :=
  of_untripped rfl

theorem requestExit (honest : interrupt.Honest) (code : ExitCode) :
    (interrupt.requestExit code).Honest := by
  rw [requestExit_eq]
  refine ⟨fun _ => ?_, honest.cancelled, honest.deadline⟩
  show (interrupt.exitCode.or (some code)).isSome = true
  cases interrupt.exitCode <;> rfl

theorem cancel (honest : interrupt.Honest) : interrupt.cancel.Honest :=
  ⟨honest.exit, fun _ => rfl, honest.deadline⟩

/-- **A look notes the reason that there is.** -/
theorem shouldInterrupt (honest : interrupt.Honest) (now : Duration) :
    (interrupt.shouldInterrupt now).2.Honest := by
  unfold Interrupt.shouldInterrupt
  cases reason : interrupt.reason? now with
  | none => exact honest
  | some found =>
    unfold reason? at reason
    split at reason
    · rename_i cancelled
      cases reason
      exact ⟨nofun, fun _ => cancelled, nofun⟩
    · split at reason
      · rename_i asked
        cases reason
        exact ⟨fun _ => asked, nofun, nofun⟩
      · split at reason
        · rename_i expired
          cases reason
          refine ⟨nofun, nofun, fun _ unset => ?_⟩
          have none : interrupt.deadline = 0 := unset
          rw [Interrupt.expired, none] at expired
          cases expired
        · cases reason

end Honest

/-! ### From outside an entry -/

/-- **What can be done to an interrupt from outside an entry**: asking to exit, and cancelling. -/
inductive Told (first : Interrupt) : Interrupt → Prop
  | nothing : Told first first
  | exit {last : Interrupt} (code : ExitCode) : Told first last → Told first (last.requestExit code)
  | cancel {last : Interrupt} : Told first last → Told first last.cancel

namespace Told

variable {first last : Interrupt}

theorem of_requests (first : Interrupt) (codes : List ExitCode) :
    Told first (codes.foldl requestExit first) := by
  induction codes using List.reverseRecOn with
  | nil => exact .nothing
  | append_singleton codes code ih =>
    rw [List.foldl_append]
    exact ih.exit code

theorem deadline (told : Told first last) : last.deadline = first.deadline := by
  induction told with
  | nothing => rfl
  | exit code _ ih => rw [requestExit_eq]; exact ih
  | cancel _ ih => exact ih

theorem honest (told : Told first last) (honest : first.Honest) : last.Honest := by
  induction told with
  | nothing => exact honest
  | exit code _ ih => exact ih.requestExit code
  | cancel _ ih => exact ih.cancel

end Told

end Interrupt

end ScriptKernel
