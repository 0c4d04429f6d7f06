/-
**An interrupt under any history.**

* `Interrupt.Deed`, `Interrupt.after`: what can be done to an interrupt, and what a history makes of a new one;
* `Stopped`: a script was stopped since the last end of an entry, after a history of some kind;
* `Verdict`: the strongest reason there was for it, a cancellation before an exit and an exit before a deadline;
* `verdict_tripped`: **the marker, which every look writes over, is that reason**: what stops a script for good
  is there at every later look, so no weaker reason is ever written over a stronger one;
* `remembered`: what every history leaves: that verdict, what stops every later script, and the first code.
-/

import ScriptKernel.Proofs.Interrupt

set_option autoImplicit false

namespace ScriptKernel

namespace Interrupt

/-! ### Histories -/

/-- What can be done to an interrupt; where the clock is read, with the time. -/
inductive Deed
  | arm (now : Duration) (budget : Option Duration)
  | disarm
  | poll (now : Duration)
  | cancel
  | requestExit (code : ExitCode)
  deriving DecidableEq

namespace Deed

/-- What a deed makes of an interrupt. -/
def apply (interrupt : Interrupt) : Deed → Interrupt
  | .arm now budget => interrupt.arm now budget
  | .disarm => interrupt.disarm.2
  | .poll now => (interrupt.shouldInterrupt now).2
  | .cancel => interrupt.cancel
  | .requestExit code => interrupt.requestExit code

/-- Whether the deed begins or ends an entry. -/
def isBound : Deed → Bool
  | .arm .. | .disarm => true
  | _ => false

/-- The code that the deed asks to exit with. -/
def code? : Deed → Option ExitCode
  | .requestExit code => some code
  | _ => none

theorem code?_eq_some {deed : Deed} {code : ExitCode} : deed.code? = some code ↔ deed = .requestExit code := by
  cases deed <;> simp [code?]

end Deed

/-- **What a history makes of a new interrupt.** -/
def after (past : List Deed) : Interrupt := past.foldl Deed.apply {}

@[simp] theorem after_snoc (past : List Deed) (deed : Deed) :
    after (past ++ [deed]) = deed.apply (after past) := by
  simp [after]

/-- Whether a look at this time stops the script. -/
def stops (interrupt : Interrupt) (now : Duration) : Bool := (interrupt.shouldInterrupt now).1

/-- A history in which a cancellation was made. -/
def CancelledIn (past : List Deed) : Prop := Deed.cancel ∈ past

/-- A history in which an exit was asked for. -/
def ExitIn (past : List Deed) : Prop := ∃ code, Deed.requestExit code ∈ past

/-- **A look has stopped the script since the last end of an entry**, and what came before it is as said. -/
def Stopped (past : List Deed) (before : List Deed → Prop) : Prop :=
  ∃ earlier now later, past = earlier ++ .poll now :: later ∧ (∀ deed ∈ later, deed.isBound = false) ∧
    (after earlier).stops now = true ∧ before earlier

/-- **Why a script was stopped since the last end of an entry**, if it was: the strongest reason that there
was at one of the looks. -/
inductive Verdict (past : List Deed) : Option InterruptReason → Prop
  | none : ¬Stopped past (fun _ => True) → Verdict past none
  | cancelled : Stopped past CancelledIn → Verdict past (some .cancelled)
  | exit : ¬Stopped past CancelledIn → Stopped past ExitIn → Verdict past (some .exit)
  | deadline : ¬Stopped past CancelledIn → ¬Stopped past ExitIn → Stopped past (fun _ => True) →
      Verdict past (some .deadline)

/-! ### What is kept for ever -/

theorem arm_cancelled (interrupt : Interrupt) (now : Duration) (budget : Option Duration) :
    (interrupt.arm now budget).cancelled = interrupt.cancelled := rfl

theorem arm_exitCode (interrupt : Interrupt) (now : Duration) (budget : Option Duration) :
    (interrupt.arm now budget).exitCode = interrupt.exitCode := rfl

theorem disarm_cancelled (interrupt : Interrupt) : interrupt.disarm.2.cancelled = interrupt.cancelled := rfl

theorem disarm_exitCode (interrupt : Interrupt) : interrupt.disarm.2.exitCode = interrupt.exitCode := rfl

/-- Cancelling is all that cancels. -/
theorem after_cancelled (past : List Deed) : (after past).cancelled = true ↔ CancelledIn past := by
  unfold CancelledIn
  induction past using List.reverseRecOn with
  | nil => simp [after]
  | append_singleton past deed ih =>
    rw [after_snoc, List.mem_append, List.mem_singleton, ← ih]
    cases deed with
    | arm now budget => simp [Deed.apply, arm_cancelled]
    | disarm => simp [Deed.apply, disarm_cancelled]
    | poll now => simp [Deed.apply, shouldInterrupt_cancelled]
    | cancel => simp [Deed.apply, cancel]
    | requestExit code => simp [Deed.apply, requestExit_eq]

/-- **The first code asked for is the one that is kept.** -/
theorem after_exitCode (past : List Deed) : (after past).exitCode = past.findSome? Deed.code? := by
  induction past using List.reverseRecOn with
  | nil => rfl
  | append_singleton past deed ih =>
    rw [after_snoc, List.findSome?_append, List.findSome?_singleton, ← ih]
    cases deed with
    | arm now budget => simp [Deed.apply, arm_exitCode, Deed.code?]
    | disarm => simp [Deed.apply, disarm_exitCode, Deed.code?]
    | poll now => simp [Deed.apply, shouldInterrupt_exitCode, Deed.code?]
    | cancel => simp [Deed.apply, cancel, Deed.code?]
    | requestExit code => simp [Deed.apply, requestExit_exitCode, Deed.code?]

theorem after_exitCode_isSome (past : List Deed) : (after past).exitCode.isSome = true ↔ ExitIn past := by
  rw [after_exitCode, List.findSome?_isSome_iff]
  unfold ExitIn
  constructor
  · rintro ⟨deed, found, asks⟩
    obtain ⟨code, same⟩ := Option.isSome_iff_exists.mp asks
    exact ⟨code, Deed.code?_eq_some.mp same ▸ found⟩
  · rintro ⟨code, found⟩
    exact ⟨_, found, rfl⟩

/-! ### What a look finds -/

/-- A look stops the script exactly if there is a reason. -/
theorem stops_eq (interrupt : Interrupt) (now : Duration) :
    interrupt.stops now = (interrupt.reason? now).isSome := by
  unfold stops shouldInterrupt
  cases interrupt.reason? now <;> rfl

/-- The marker after a look: the reason there is, or else the one that was noted before. -/
theorem shouldInterrupt_tripped (interrupt : Interrupt) (now : Duration) :
    (interrupt.shouldInterrupt now).2.tripped = (interrupt.reason? now).or interrupt.tripped := by
  unfold shouldInterrupt
  cases interrupt.reason? now <;> rfl

/-- **The reason that a look finds after a history**: a cancellation, else an exit, else a deadline. -/
theorem reason?_after (past : List Deed) (now : Duration) :
    (CancelledIn past ∧ (after past).reason? now = some .cancelled) ∨
    (¬CancelledIn past ∧ ExitIn past ∧ (after past).reason? now = some .exit) ∨
    (¬CancelledIn past ∧ ¬ExitIn past ∧
      (after past).reason? now = if (after past).expired now then some .deadline else none) := by
  unfold reason?
  by_cases cancelled : CancelledIn past
  · left
    rw [if_pos ((after_cancelled past).mpr cancelled)]
    exact ⟨cancelled, rfl⟩
  · rw [if_neg (mt (after_cancelled past).mp cancelled)]
    by_cases asked : ExitIn past
    · rw [if_pos ((after_exitCode_isSome past).mpr asked)]
      exact .inr (.inl ⟨cancelled, asked, rfl⟩)
    · rw [if_neg (mt (after_exitCode_isSome past).mp asked)]
      exact .inr (.inr ⟨cancelled, asked, rfl⟩)

/-! ### The verdict -/

/-- A script has been stopped since the last end of an entry if that deed was the look that did it, or if it
had been before and the deed was no such end. -/
theorem stopped_snoc (past : List Deed) (deed : Deed) (before : List Deed → Prop) :
    Stopped (past ++ [deed]) before ↔
      (deed.isBound = false ∧ Stopped past before) ∨
        ∃ now, deed = .poll now ∧ (after past).stops now = true ∧ before past := by
  constructor
  · rintro ⟨earlier, now, later, same, inside, stopped, fits⟩
    induction later using List.reverseRecOn with
    | nil =>
      obtain ⟨rfl, rfl⟩ := List.append_singleton_inj.mp same
      exact .inr ⟨now, rfl, stopped, fits⟩
    | append_singleton later last _ =>
      rw [← List.cons_append, ← List.append_assoc] at same
      obtain ⟨rfl, rfl⟩ := List.append_singleton_inj.mp same
      refine .inl ⟨inside deed (by simp), earlier, now, later, rfl, fun other found => ?_, stopped, fits⟩
      exact inside other (List.mem_append_left _ found)
  · rintro (⟨within, earlier, now, later, rfl, inside, stopped, fits⟩ | ⟨now, rfl, stopped, fits⟩)
    · refine ⟨earlier, now, later ++ [deed], by simp, fun other found => ?_, stopped, fits⟩
      rcases List.mem_append.mp found with found | found
      · exact inside other found
      · rwa [List.mem_singleton.mp found]
    · exact ⟨past, now, [], rfl, nofun, stopped, fits⟩

/-- What was before the look that stopped the script is in the whole history. -/
theorem Stopped.mono {past : List Deed} {before whole : List Deed → Prop} (stopped : Stopped past before)
    (grows : ∀ earlier later, before earlier → whole (earlier ++ later)) : whole past := by
  obtain ⟨earlier, now, later, rfl, -, -, fits⟩ := stopped
  exact grows earlier _ fits

theorem Stopped.cancelledIn {past : List Deed} (stopped : Stopped past CancelledIn) : CancelledIn past :=
  stopped.mono fun _ _ found => List.mem_append_left _ found

theorem Stopped.exitIn {past : List Deed} (stopped : Stopped past ExitIn) : ExitIn past :=
  stopped.mono fun _ _ ⟨code, found⟩ => ⟨code, List.mem_append_left _ found⟩

/-- The verdict depends on nothing but the looks that stopped the script. -/
theorem Verdict.congr {past other : List Deed} {reason : Option InterruptReason} (verdict : Verdict past reason)
    (same : ∀ before, Stopped other before ↔ Stopped past before) : Verdict other reason := by
  cases verdict with
  | none unstopped => exact .none (mt (same _).mp unstopped)
  | cancelled stopped => exact .cancelled ((same _).mpr stopped)
  | exit uncancelled stopped => exact .exit (mt (same _).mp uncancelled) ((same _).mpr stopped)
  | deadline uncancelled unasked stopped =>
    exact .deadline (mt (same _).mp uncancelled) (mt (same _).mp unasked) ((same _).mpr stopped)

/-- With the end of an entry there is nothing to be said. -/
theorem verdict_bound (past : List Deed) {deed : Deed} (bound : deed.isBound = true) :
    Verdict (past ++ [deed]) none := by
  refine .none fun stopped => ?_
  rcases (stopped_snoc past deed _).mp stopped with ⟨within, -⟩ | ⟨now, rfl, -⟩
  · rw [bound] at within
    cases within
  · cases bound

/-- What is no look and ends no entry leaves the verdict. -/
theorem Verdict.onward {past : List Deed} {reason : Option InterruptReason} (verdict : Verdict past reason)
    {deed : Deed} (within : deed.isBound = false) (blind : ∀ now, deed ≠ .poll now) :
    Verdict (past ++ [deed]) reason := by
  refine verdict.congr fun before => (stopped_snoc past deed before).trans ?_
  constructor
  · rintro (⟨-, stopped⟩ | ⟨now, same, -⟩)
    · exact stopped
    · exact absurd same (blind now)
  · exact fun stopped => .inl ⟨within, stopped⟩

/-- **A look leaves the verdict or gives a stronger one.** -/
theorem Verdict.poll {past : List Deed} {reason : Option InterruptReason} (verdict : Verdict past reason)
    (now : Duration) : Verdict (past ++ [.poll now]) (((after past).reason? now).or reason) := by
  have looked (before : List Deed → Prop) (fits : before past) (found : (after past).stops now = true) :
      Stopped (past ++ [.poll now]) before :=
    (stopped_snoc past _ before).mpr (.inr ⟨now, rfl, found, fits⟩)
  have whole {before : List Deed → Prop} (not : ¬before past)
      (grows : Stopped past before → before past) : ¬Stopped (past ++ [.poll now]) before := by
    intro stopped
    rcases (stopped_snoc past _ before).mp stopped with ⟨-, stopped⟩ | ⟨-, -, -, fits⟩
    · exact not (grows stopped)
    · exact not fits
  have stopping := stops_eq (after past) now
  rcases reason?_after past now with ⟨cancelled, found⟩ | ⟨uncancelled, asked, found⟩ |
    ⟨uncancelled, unasked, found⟩
  · rw [found] at stopping ⊢
    exact .cancelled (looked _ cancelled stopping)
  · rw [found] at stopping ⊢
    exact .exit (whole uncancelled Stopped.cancelledIn) (looked _ asked stopping)
  · by_cases expired : (after past).expired now = true
    · rw [found, if_pos expired] at stopping ⊢
      exact .deadline (whole uncancelled Stopped.cancelledIn) (whole unasked Stopped.exitIn)
        (looked _ trivial stopping)
    · rw [found, if_neg expired] at stopping ⊢
      refine verdict.congr fun before => (stopped_snoc past _ before).trans ?_
      constructor
      · rintro (⟨-, stopped⟩ | ⟨time, same, stopped, -⟩)
        · exact stopped
        · cases same
          cases stopping.symm.trans stopped
      · exact fun stopped => .inl ⟨rfl, stopped⟩

/-- **The marker is the verdict.** -/
theorem verdict_tripped (past : List Deed) : Verdict past (after past).tripped := by
  induction past using List.reverseRecOn with
  | nil =>
    refine .none ?_
    rintro ⟨earlier, now, later, same, -⟩
    simp at same
  | append_singleton past deed ih =>
    rw [after_snoc]
    cases deed with
    | arm now budget => exact verdict_bound past rfl
    | disarm => exact verdict_bound past rfl
    | poll now =>
      rw [Deed.apply, shouldInterrupt_tripped]
      exact ih.poll now
    | cancel => exact ih.onward rfl nofun
    | requestExit code =>
      rw [Deed.apply, requestExit_eq]
      exact ih.onward rfl nofun

/-! ### What every history leaves -/

/-- **What a history leaves in an interrupt.** -/
structure Remembered (past : List Deed) : Prop where
  /-- The end of an entry tells the strongest reason why the script was stopped during it. -/
  verdict : Verdict past (after past).disarm.1
  /-- After a cancellation or a request to exit every look stops the script, whatever comes in between. -/
  stops : CancelledIn past ∨ ExitIn past → ∀ later now, (after (past ++ later)).stops now = true
  /-- The code asked for is the first one; there is none if none was asked for. -/
  code : (after past).exitCode = past.findSome? Deed.code?
  /-- It stays for ever. -/
  codeForEver : ∀ code, (after past).exitCode = some code →
    ∀ later, (after (past ++ later)).exitCode = some code
  /-- Only cancelling cancels. -/
  cancelled : (after past).cancelled = true ↔ CancelledIn past
  /-- The beginning of an entry leaves both. -/
  arm : ∀ now budget, ((after past).arm now budget).cancelled = (after past).cancelled ∧
    ((after past).arm now budget).exitCode = (after past).exitCode
  /-- So does its end. -/
  disarm : (after past).disarm.2.cancelled = (after past).cancelled ∧
    (after past).disarm.2.exitCode = (after past).exitCode

/-- **So it is after every history**: at whatever times the looks were taken, an entry ends with the strongest
reason, and what stops scripts for good is never lost. -/
theorem remembered (past : List Deed) : Remembered past := by
  refine ⟨verdict_tripped past, ?_, after_exitCode past, ?_, after_cancelled past, ?_, ⟨rfl, rfl⟩⟩
  · intro stopped later now
    rw [stops_eq]
    have still : CancelledIn (past ++ later) ∨ ExitIn (past ++ later) :=
      stopped.imp (List.mem_append_left _) fun ⟨code, found⟩ => ⟨code, List.mem_append_left _ found⟩
    rcases reason?_after (past ++ later) now with ⟨-, found⟩ | ⟨-, -, found⟩ | ⟨uncancelled, unasked, -⟩
    · rw [found]
      rfl
    · rw [found]
      rfl
    · exact (still.elim uncancelled unasked).elim
  · intro code asked later
    rw [after_exitCode] at asked ⊢
    rw [List.findSome?_append, asked]
    rfl
  · exact fun now budget => ⟨rfl, rfl⟩

/-- A deadline that has passed, then an exit, then a cancellation: the entry ends as a cancelled one. -/
example : (after [.arm 0 (some 5), .poll 7, .requestExit 3, .poll 8, .cancel, .poll 9]).disarm.1 =
    some .cancelled := by decide

end Interrupt

end ScriptKernel
