/-
**Deadlines are met to the nanosecond.**

* `Interrupt.Unstopped`: a history without a cancellation and without a request to exit;
* `expired_arm`: up to the last but one tick a deadline has passed exactly when the exact sum of the time it was
  set at and of the time allowed has, although the sum, its count of nanoseconds and its tick are all cut off
  where they grow too great;
* `deadline_exact`: so it is after every such history and whatever looks are taken in between; without a
  deadline no look stops the script.
-/

import ScriptKernel.Proofs.Interrupt.History

set_option autoImplicit false

namespace ScriptKernel

namespace Interrupt

/-- **Nothing has stopped scripts for good**: nobody has cancelled, and nobody has asked to exit. -/
def Unstopped (past : List Deed) : Prop := ¬CancelledIn past ∧ ¬ExitIn past

/-- An entry begins after a history, and looks are taken at some times. -/
def entered (past : List Deed) (start : Duration) (budget : Option Duration) (looks : List Duration) : Interrupt :=
  after (past ++ .arm start budget :: looks.map .poll)

/-- An entry stops nothing for good. -/
theorem Unstopped.entered {past : List Deed} (unstopped : Unstopped past) (start : Duration)
    (budget : Option Duration) (looks : List Duration) :
    Unstopped (past ++ .arm start budget :: looks.map .poll) := by
  simpa [Unstopped, CancelledIn, ExitIn] using unstopped

/-- The deadline is the one that the entry has begun with. -/
theorem entered_deadline (past : List Deed) (start : Duration) (budget : Option Duration)
    (looks : List Duration) :
    (entered past start budget looks).deadline = ((after past).arm start budget).deadline := by
  unfold entered
  induction looks using List.reverseRecOn with
  | nil => simp [Deed.apply]
  | append_singleton looks look ih =>
    rw [List.map_append, ← List.cons_append, ← List.append_assoc, List.map_singleton, after_snoc, Deed.apply,
      shouldInterrupt_deadline, ih]

/-- Where nothing stops scripts for good, a look stops one exactly if its deadline has passed. -/
theorem stops_of_unstopped {past : List Deed} (unstopped : Unstopped past) (now : Duration) :
    (after past).stops now = (after past).expired now := by
  rw [stops_eq]
  rcases reason?_after past now with ⟨cancelled, -⟩ | ⟨-, asked, -⟩ | ⟨-, -, found⟩
  · exact absurd cancelled unstopped.1
  · exact absurd asked unstopped.2
  · rw [found]
    cases (after past).expired now <;> rfl

/-- **Up to the last but one tick a tick tells all times apart.** -/
theorem ticks_le_ticks {now : Nat} (early : now < greatestTick - 1) (time : Nat) :
    ticks time ≤ ticks now ↔ time ≤ now := by
  rw [ticks_eq, ticks_eq]
  omega

/-- From the last but one tick on, every deadline has passed. -/
theorem ticks_le_last {now : Nat} (late : greatestTick - 1 ≤ now) (time : Nat) : ticks time ≤ ticks now := by
  rw [ticks_eq, ticks_eq]
  omega

/-- A deadline that is set has passed when its tick has. -/
theorem expired_of_deadline {interrupt : Interrupt} {time : Nat} (set : interrupt.deadline = ticks time)
    (now : Nat) : interrupt.expired now = true ↔ ticks time ≤ ticks now := by
  have positive := ticks_pos time
  unfold expired
  rw [set]
  simp
  omega

/-- **How an entry is timed** that begins after a history at some time, with looks before the one at hand. -/
structure Timed (past : List Deed) (start : Duration) (looks : List Duration) : Prop where
  /-- A time allowed sets a deadline, even if it is none at all or longer than can be counted. -/
  set : ∀ budget, (entered past start (some budget) looks).deadline ≠ 0
  /-- A look stops the script exactly if the time allowed is over. -/
  met : ∀ budget now, now < Nat.pow 2 64 - 2 →
    ((entered past start (some budget) looks).stops now = true ↔ start + budget ≤ now)
  /-- Beyond the times that can be told apart every deadline has passed. -/
  late : ∀ budget now, Nat.pow 2 64 - 2 ≤ now → (entered past start (some budget) looks).stops now = true
  /-- Without a time allowed there is no deadline, … -/
  unset : (entered past start none looks).deadline = 0
  /-- … and no look stops the script. -/
  never : ∀ now, (entered past start none looks).stops now = false

/-- **Deadlines are met to the nanosecond**, whatever came before the entry and whatever looks were taken in it,
as long as nobody cancels or asks to exit. -/
theorem deadline_exact {past : List Deed} (unstopped : Unstopped past) (start : Duration)
    (looks : List Duration) : Timed past start looks := by
  have deadline (budget : Duration) :
      (entered past start (some budget) looks).deadline = ticks (start + budget) := by
    rw [entered_deadline]
    exact deadlineAfter_eq start budget
  have stopping (budget : Option Duration) (now : Duration) :
      (entered past start budget looks).stops now = (entered past start budget looks).expired now :=
    stops_of_unstopped (unstopped.entered start budget looks) now
  have unset : (entered past start none looks).deadline = 0 := by
    rw [entered_deadline]
    rfl
  constructor
  case set =>
    intro budget
    rw [deadline]
    exact Nat.ne_of_gt (ticks_pos _)
  case met =>
    intro budget now early
    rw [stopping, expired_of_deadline (deadline budget)]
    exact ticks_le_ticks early _
  case late =>
    intro budget now late
    rw [stopping, expired_of_deadline (deadline budget)]
    exact ticks_le_last late _
  case unset => exact unset
  case never =>
    intro now
    rw [stopping]
    unfold expired
    rw [unset]
    rfl

/-- After another entry that its deadline has stopped: the longest time that can be allowed is not over after
ten years, a time of nothing is over at once, and no time at all allows everything. -/
theorem deadline_exact_again :
    let past : List Deed := [.arm 0 (some 5), .poll 7, .disarm]
    let longest := Duration.secondsBound * Duration.second - 1
    Unstopped past ∧ (entered past 10 (some longest) [20]).deadline ≠ 0 ∧
      (entered past 10 (some longest) [20]).stops 315360000000000000 = false ∧
      (entered past 10 (some 0) []).stops 10 = true ∧ (entered past 10 none [20]).stops 30 = false := by
  intro past longest
  have unstopped : Unstopped past := by simp [past, Unstopped, CancelledIn, ExitIn]
  have looked := deadline_exact unstopped 10 [20]
  refine ⟨unstopped, looked.set longest, ?_, ?_, looked.never 30⟩
  · have early : 315360000000000000 < Nat.pow 2 64 - 2 := by decide
    exact Bool.eq_false_iff.mpr (mt (looked.met longest _ early).mp (by decide))
  · exact ((deadline_exact unstopped 10 []).met 0 10 (by decide)).mpr (by decide)

end Interrupt

end ScriptKernel
