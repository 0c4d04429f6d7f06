/-
**The slots as streams.**

* `SlotCall`: a call of `write`, `read` or `close`; `told`, `after`: what a history of them replies and leaves;
* `unread`: the writes to a slot that have returned since it was last emptied;
* `get_after`: **a slot holds what is unread of it**, after every history;
* `Streams`: a read returns what is unread, in order, and as many characters as the writes have counted; it leaves
  the slot empty; calls that fail and calls on other slots have no part in this;
* `streams`: so it is after every history that starts with empty slots.
-/

import Mathlib.Data.List.DropRight
import Mathlib.Data.List.Induction
import ScriptKernel.Proofs.Syscall.Number
import ScriptKernel.Proofs.Syscall.Reply

set_option autoImplicit false

namespace ScriptKernel

open Syscall (Addresses arg textArg)

/-! ### Histories of the slots -/

/-- What can be done with the slots. -/
inductive SlotWork
  | write
  | read
  | close

/-- The host function that does it. -/
def SlotWork.syscall : SlotWork → Syscall
  | .write => .write
  | .read => .read
  | .close => .close

/-- A call on the slots. -/
structure SlotCall where
  work : SlotWork
  args : List Json

namespace SlotCall

/-- What the call replies and leaves. -/
def take (call : SlotCall) (context : SyscallContext) : SyscallReply × SyscallContext :=
  call.work.syscall.call call.args context

/-- A call with its reply. -/
structure Told where
  call : SlotCall
  reply : SyscallReply

/-- What calls reply, one after the other. -/
def told (context : SyscallContext) : List SlotCall → List Told
  | [] => []
  | call :: later => ⟨call, (call.take context).1⟩ :: told (call.take context).2 later

/-- What calls leave, one after the other. -/
def after (context : SyscallContext) (calls : List SlotCall) : SyscallContext :=
  calls.foldl (fun context call => (call.take context).2) context

namespace Told

/-- Whether a call has returned. -/
def returned (entry : Told) : Bool :=
  match entry.reply with
  | .returned _ => true
  | _ => false

/-- Whether a call was made on a slot, and has returned. -/
def On (entry : Told) (fd : Fd) : Prop := entry.returned = true ∧ Addresses entry.call.args fd

instance (entry : Told) (fd : Fd) : Decidable (entry.On fd) :=
  inferInstanceAs (Decidable (_ = _ ∧ _ = _))

/-- Whether a call has put a text into a slot. -/
def fills (fd : Fd) (entry : Told) : Bool :=
  match entry.call.work with
  | .write => entry.On fd
  | .read | .close => false

/-- Whether a call has emptied a slot. -/
def empties (fd : Fd) (entry : Told) : Bool :=
  match entry.call.work with
  | .write => false
  | .read | .close => entry.On fd

/-- The text that a write is given: a text as it is, anything else as structured text. -/
def text (entry : Told) : String :=
  match arg entry.call.args 1 with
  | .text value => value
  | other => other.print

theorem fills_write {args : List Json} {fd : Fd} (value : Json) (addressed : Addresses args fd) :
    (⟨⟨.write, args⟩, .returned value⟩ : Told).fills fd = true :=
  decide_eq_true ⟨rfl, addressed⟩

theorem empties_read {args : List Json} {fd : Fd} (value : Json) (addressed : Addresses args fd) :
    (⟨⟨.read, args⟩, .returned value⟩ : Told).empties fd = true :=
  decide_eq_true ⟨rfl, addressed⟩

theorem empties_close {args : List Json} {fd : Fd} (value : Json) (addressed : Addresses args fd) :
    (⟨⟨.close, args⟩, .returned value⟩ : Told).empties fd = true :=
  decide_eq_true ⟨rfl, addressed⟩

end Told

/-- **The writes to a slot since it was last emptied.** -/
def unread (fd : Fd) (past : List Told) : List Told :=
  (past.rtakeWhile fun entry => !entry.empties fd).filter (Told.fills fd)

/-- The texts of some writes, one behind the other. -/
def joined (writes : List Told) : String := String.join (writes.map Told.text)

variable (context : SyscallContext) (past : List SlotCall)

theorem after_snoc (call : SlotCall) :
    after context (past ++ [call]) = (call.take (after context past)).2 := by
  rw [after, List.foldl_append]
  rfl

theorem told_snoc (call : SlotCall) :
    told context (past ++ [call]) = told context past ++ [⟨call, (call.take (after context past)).1⟩] := by
  induction past generalizing context with
  | nil => rfl
  | cons first rest ih =>
    rw [List.cons_append, told, ih]
    rfl

section Unread

variable {fd : Fd} {entry : Told}

/-- Once a slot has been emptied there is nothing unread. -/
theorem unread_emptied (past : List Told) (emptied : entry.empties fd = true) :
    unread fd (past ++ [entry]) = [] := by
  unfold unread
  rw [List.rtakeWhile_concat_neg _ _ _ (by simp [emptied])]
  rfl

/-- What does not empty a slot adds what it puts there. -/
theorem unread_kept (past : List Told) (kept : entry.empties fd = false) :
    unread fd (past ++ [entry]) = unread fd past ++ [entry].filter (Told.fills fd) := by
  unfold unread
  rw [List.rtakeWhile_concat_pos _ _ _ (by simp [kept]), List.filter_append]

/-- A write is unread. -/
theorem unread_filled (past : List Told) (filled : entry.fills fd = true) :
    unread fd (past ++ [entry]) = unread fd past ++ [entry] := by
  have kept : entry.empties fd = false := by
    obtain ⟨⟨work, args⟩, reply⟩ := entry
    cases work with
    | write => rfl
    | read | close => cases filled
  rw [unread_kept past kept, List.filter_singleton, filled]
  rfl

/-- A call that fails, or is made on another slot, has no part in this. -/
theorem unread_aside (past : List Told) (aside : ¬ entry.On fd) :
    unread fd (past ++ [entry]) = unread fd past := by
  have neither : entry.empties fd = false ∧ entry.fills fd = false := by
    obtain ⟨⟨work, args⟩, reply⟩ := entry
    cases work <;> simp [Told.empties, Told.fills, aside]
  rw [unread_kept past neither.1, List.filter_singleton, neither.2]
  exact List.append_nil _

end Unread

theorem joined_append (first second : List Told) : joined (first ++ second) = joined first ++ joined second := by
  rw [joined, List.map_append, String.join_append]
  rfl

theorem joined_write (args : List Json) (reply : SyscallReply) :
    joined [⟨⟨.write, args⟩, reply⟩] = textArg (arg args 1) := by
  rw [joined, List.map_singleton, String.join_cons, String.join_nil, String.append_empty]
  rfl

/-! ### One call -/

/-- What a call does with the slot it addresses: its reply, and the slots it leaves. -/
def done (call : SlotCall) (fds : FdTable) (fd : Fd) : Json × FdTable :=
  match call.work with
  | .write => (Json.nat (textArg (arg call.args 1)).length, fds.append fd (textArg (arg call.args 1)))
  | .read => (.text (fds.get fd), fds.clear fd)
  | .close => (.null, fds.clear fd)

theorem take_eq (call : SlotCall) : call.take context =
    match Fd.ofJson (arg call.args 0) with
    | .ok fd => (.returned (call.done context.fds fd).1, { context with fds := (call.done context.fds fd).2 })
    | .error error => (.failed error, context) := by
  obtain ⟨work, args⟩ := call
  cases work with
  | write => exact Syscall.write_call args context
  | read => exact Syscall.read_call args context
  | close => exact Syscall.close_call args context

/-- **A call on a slot returns.** -/
theorem take_addressed {call : SlotCall} {fd : Fd} (addressed : Addresses call.args fd) :
    call.take context =
      (.returned (call.done context.fds fd).1, { context with fds := (call.done context.fds fd).2 }) := by
  rw [take_eq, Syscall.ofJson_arg.mpr addressed]

theorem reply_addressed {call : SlotCall} {fd : Fd} (addressed : Addresses call.args fd) :
    (call.take context).1 = .returned (call.done context.fds fd).1 := by
  rw [take_addressed context addressed]

theorem fds_addressed {call : SlotCall} {fd : Fd} (addressed : Addresses call.args fd) :
    (call.take context).2.fds = (call.done context.fds fd).2 := by
  rw [take_addressed context addressed]

/-- **A call without a slot fails**, and changes nothing. -/
theorem take_unaddressed {call : SlotCall} (nowhere : ∀ fd, ¬ Addresses call.args fd) :
    ∃ error, call.take context = (.failed error, context) := by
  rw [take_eq]
  cases checked : Fd.ofJson (arg call.args 0) with
  | error error => exact ⟨error, rfl⟩
  | ok fd => exact absurd (Syscall.ofJson_arg.mp checked) (nowhere fd)

/-- A call leaves the other slots as they were. -/
theorem done_get_other (call : SlotCall) (fds : FdTable) {fd other : Fd} (different : other ≠ fd) :
    (call.done fds fd).2.get other = fds.get other := by
  obtain ⟨work, args⟩ := call
  cases work with
  | write => exact FdTable.get_set_other fds different.symm _
  | read => exact FdTable.get_set_other fds different.symm _
  | close => exact FdTable.get_set_other fds different.symm _

/-- The first argument stands for one slot at most. -/
theorem addresses_unique {args : List Json} {fd other : Fd} (addressed : Addresses args fd)
    (too : Addresses args other) : other = fd := by
  have same : ((other : Nat) : ℚ) = ((fd : Nat) : ℚ) := Option.some.inj (too.symm.trans addressed)
  exact Fin.ext (Nat.cast_injective same)

/-! ### The invariant of a history -/

/-- **A call keeps what a slot holds to what is unread of it.** -/
theorem get_take {fd : Fd} {past : List Told} (call : SlotCall)
    (held : context.fds.get fd = joined (unread fd past)) :
    (call.take context).2.fds.get fd = joined (unread fd (past ++ [⟨call, (call.take context).1⟩])) := by
  by_cases somewhere : ∃ place, Addresses call.args place
  · obtain ⟨place, addressed⟩ := somewhere
    rw [reply_addressed context addressed, fds_addressed context addressed]
    by_cases here : place = fd
    · subst here
      obtain ⟨work, args⟩ := call
      cases work with
      | write =>
        rw [unread_filled past (Told.fills_write _ addressed), joined_append, joined_write, ← held]
        exact FdTable.get_set_same _ _ _
      | read =>
        rw [unread_emptied past (Told.empties_read _ addressed)]
        exact FdTable.get_set_same _ _ _
      | close =>
        rw [unread_emptied past (Told.empties_close _ addressed)]
        exact FdTable.get_set_same _ _ _
    · have aside (reply : Json) : ¬ (⟨call, .returned reply⟩ : Told).On fd :=
        fun on => here (addresses_unique on.2 addressed)
      rw [unread_aside past (aside _), ← held]
      exact done_get_other call context.fds (Ne.symm here)
  · obtain ⟨error, failed⟩ := take_unaddressed context (not_exists.mp somewhere)
    have aside : ¬ (⟨call, .failed error⟩ : Told).On fd := fun on => nomatch on.1
    rw [failed, unread_aside past aside, held]

/-- **A slot holds what is unread of it**, after every history that starts with empty slots. -/
theorem get_after (fd : Fd) : (after { context with fds := .empty } past).fds.get fd =
    joined (unread fd (told { context with fds := .empty } past)) := by
  induction past using List.reverseRecOn with
  | nil => exact FdTable.get_empty fd
  | append_singleton past call ih =>
    rw [after_snoc, told_snoc]
    exact get_take _ call ih

/-- A write that has returned has counted its text. -/
theorem reply_of_fills {fd : Fd} (call : SlotCall)
    (fills : (⟨call, (call.take context).1⟩ : Told).fills fd = true) :
    (call.take context).1 = .returned (Json.nat (⟨call, (call.take context).1⟩ : Told).text.length) := by
  obtain ⟨work, args⟩ := call
  cases work with
  | write =>
    obtain ⟨-, addressed⟩ := of_decide_eq_true fills
    rw [take_addressed context addressed]
    rfl
  | read => cases fills
  | close => cases fills

/-- **Every write of a history has counted its text.** -/
theorem counted (fd : Fd) : ∀ entry ∈ told context past, entry.fills fd = true →
    entry.reply = .returned (Json.nat entry.text.length) := by
  induction past generalizing context with
  | nil => exact nofun
  | cons call later ih =>
    intro entry member fills
    rcases List.mem_cons.mp member with rfl | member
    · exact reply_of_fills context call fills
    · exact ih _ entry member fills

theorem mem_of_mem_unread {fd : Fd} {past : List Told} {entry : Told} (member : entry ∈ unread fd past) :
    entry ∈ past ∧ entry.fills fd = true := by
  obtain ⟨recent, fills⟩ := List.mem_filter.mp member
  exact ⟨(List.rtakeWhile_suffix _ _).mem recent, fills⟩

/-! ### The slots as streams -/

/-- **What a call on the slots does after a history**, from where it began. -/
structure Streams (start : SyscallContext) (past : List SlotCall) : Prop where
  /-- A read returns the texts that are unread, in order, … -/
  read : ∀ args fd, Addresses args fd → ((⟨.read, args⟩ : SlotCall).take (after start past)).1 =
    .returned (.text (joined (unread fd (told start past))))
  /-- … as many characters as the writes of them have counted, … -/
  count : ∀ fd, ∃ counts : List Nat,
    (unread fd (told start past)).map Told.reply =
        counts.map (fun count => SyscallReply.returned (Json.nat count)) ∧
      (joined (unread fd (told start past))).length = counts.sum
  /-- … and leaves the slot empty, … -/
  empty : ∀ args fd, Addresses args fd → (after start (past ++ [⟨.read, args⟩])).fds.get fd = ""
  /-- … with nothing unread. -/
  nothing : ∀ args fd, Addresses args fd → unread fd (told start (past ++ [⟨.read, args⟩])) = []
  /-- A call on a slot returns, and leaves the other slots as they were. -/
  others : ∀ (call : SlotCall) fd, Addresses call.args fd →
    (∃ value, (call.take (after start past)).1 = .returned value) ∧
      ∀ other, other ≠ fd →
        (after start (past ++ [call])).fds.get other = (after start past).fds.get other ∧
          unread other (told start (past ++ [call])) = unread other (told start past)
  /-- A call without a slot fails and changes nothing. -/
  failed : ∀ call : SlotCall, (∀ fd, ¬ Addresses call.args fd) →
    (∃ error, call.take (after start past) = (.failed error, after start past)) ∧
      ∀ fd, unread fd (told start (past ++ [call])) = unread fd (told start past)

/-- **So it is after every history that starts with empty slots.** -/
theorem streams : Streams { context with fds := .empty } past := by
  have held (fd : Fd) := get_after context past fd
  generalize ({ context with fds := .empty } : SyscallContext) = start at held ⊢
  constructor
  case read =>
    intro args fd addressed
    rw [reply_addressed _ addressed, ← held]
    rfl
  case count =>
    intro fd
    refine ⟨(unread fd (told start past)).map fun entry => entry.text.length, ?_, ?_⟩
    · rw [List.map_map]
      refine List.map_congr_left fun entry member => ?_
      obtain ⟨known, fills⟩ := mem_of_mem_unread member
      exact counted start past fd entry known fills
    · rw [joined, String.length_join, List.map_map]
      rfl
  case empty =>
    intro args fd addressed
    rw [after_snoc, fds_addressed _ addressed]
    exact FdTable.get_set_same _ _ _
  case nothing =>
    intro args fd addressed
    rw [told_snoc, reply_addressed _ addressed]
    exact unread_emptied _ (Told.empties_read _ addressed)
  case others =>
    intro call fd addressed
    refine ⟨⟨_, reply_addressed _ addressed⟩, fun other different => ⟨?_, ?_⟩⟩
    · rw [after_snoc, fds_addressed _ addressed, done_get_other _ _ different]
    · rw [told_snoc]
      exact unread_aside _ fun on => different (addresses_unique addressed on.2)
  case failed =>
    intro call nowhere
    refine ⟨take_unaddressed _ nowhere, fun fd => ?_⟩
    rw [told_snoc]
    exact unread_aside _ fun on => nowhere fd on.2

/-- An integer and a double that stands for it name one slot. -/
example : (after (.of (.fresh 7 [] {} .detached "main") {}) [⟨.write, [Json.nat 3, .text "a"]⟩,
    ⟨.write, [.number (.double (.ofInt 3)), .text "b"]⟩]).fds.get 3 = "ab" := by decide +kernel

end SlotCall

end ScriptKernel
