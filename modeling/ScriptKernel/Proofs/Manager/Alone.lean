/-
**A caller of a manager that is alone.**

With one caller at a time the steps of a call come to the whole of the call, as it is made on a manager between
calls. Of a process they show its life, and of a manager which lives stand under which numbers.

* `View`, `Manager.view`, `Crowd.Shows`: what is seen of a manager between calls, or in the middle of them;
* `Crowd.Comes`: a caller comes this far by steps of its own and leaves this view; a call is put together from
  parts for which that holds;
* `Comes.ending`: the parts of ending a process come to its end;
* `terminate_alone`, `reap_alone`, `shutdownAll_alone`, `spawn_alone`: **a call in steps is the call**, with the
  same answer and the same view of what it leaves.
-/

import ScriptKernel.Proofs.Manager.Answer
import ScriptKernel.Proofs.Manager.Stepped

set_option autoImplicit false

namespace ScriptKernel

/-! ### Lives -/

/-- What the terminals have heard once a process of this life was ended from outside. -/
def Lifecycle.ended (life : Lifecycle) (terminals : Terminals) : Terminals :=
  if life.shuttingDown then terminals
  else (({ life with shuttingDown := true } : Lifecycle).markTerminated terminals).2.2

theorem ScriptProcess.terminate_terminals (process : ScriptProcess) (site : Site) :
    (process.terminate site).2.terminals = process.resident.lifecycle.ended site.terminals := by
  unfold ScriptProcess.terminate Lifecycle.ended Lifecycle.beginShutdown
  cases begun : process.resident.lifecycle.shuttingDown with
  | true => rfl
  | false =>
    simp only [Bool.not_false, if_true, Bool.false_eq_true, if_false]
    split <;> rfl

namespace Manager

/-! ### What is seen -/

/-- What is seen of a manager. -/
structure View where
  /-- Someone is making a process. -/
  locked : Bool := false
  terminal : TerminalRef
  terminals : Terminals
  /-- The lives that stand under the numbers. -/
  lives : Pid → Option Lifecycle

/-- What is seen once the process of a number has been taken out and the terminals have heard of that. -/
def View.without (view : View) (pid : Pid) (terminals : Terminals) : View :=
  { view with terminals, lives := Function.update view.lives pid none }

/-- The lives of the processes. -/
def lives (manager : Manager) (pid : Pid) : Option Lifecycle :=
  (manager.get pid).map fun process => process.resident.lifecycle

/-- What is seen of a manager between calls. -/
def view (manager : Manager) (site : Site) : View where
  terminal := manager.terminal
  terminals := site.terminals
  lives := manager.lives

/-- Ending the processes of some entries, as seen. -/
def View.clear (view : View) : List (Pid × ScriptProcess) → View
  | [] => view
  | (pid, process) :: rest =>
    (view.without pid (process.resident.lifecycle.ended view.terminals)).clear rest

/-- The caller that takes a step. -/
def Move.caller? : Move → Option Nat
  | .advance caller | .construct caller _ | .visit caller _ | .letGo caller _ => some caller
  | .exit _ _ => none

namespace Crowd

variable {crowd after : Crowd} {caller number : Nat} {task : Task} {call later : Call} {pid : Pid}
  {move : Move} {view other : View}

/-- **What is seen of a manager with calls in progress.** -/
structure Shows (crowd : Crowd) (view : View) : Prop where
  locked : crowd.locked = view.locked
  terminal : crowd.terminal = view.terminal
  terminals : crowd.terminals = view.terminals
  absent : ∀ pid, view.lives pid = none → crowd.table pid = none
  present : ∀ pid life, view.lives pid = some life → ∃ number member,
    crowd.table pid = some number ∧ crowd.members[number]? = some member ∧ member.life = life
  /-- Each process has one number. -/
  apart : ∀ first second number, crowd.table first = some number →
    crowd.table second = some number → first = second

namespace Shows

/-- How far a call has come is not seen. -/
theorem progress (shows : crowd.Shows view) (caller : Nat) (progress : Progress) :
    (crowd.progress caller progress).Shows view :=
  ⟨shows.locked, shows.terminal, shows.terminals, shows.absent, shows.present, shows.apart⟩

/-- What has happened is not seen. -/
theorem note (shows : crowd.Shows view) (event : Event) : (crowd.note event).Shows view :=
  ⟨shows.locked, shows.terminal, shows.terminals, shows.absent, shows.present, shows.apart⟩

/-- Taking the lock, or giving it back. -/
theorem lock (shows : crowd.Shows view) (locked : Bool) :
    ({ crowd with locked } : Crowd).Shows { view with locked } :=
  ⟨rfl, shows.terminal, shows.terminals, shows.absent, shows.present, shows.apart⟩

/-- **A process that is taken out is seen no more**, whatever becomes of it then. -/
theorem remove (shows : crowd.Shows view) (found : crowd.table pid = some number)
    (locked : after.locked = crowd.locked) (terminal : after.terminal = crowd.terminal)
    (table : after.table = Function.update crowd.table pid none)
    (members : ∀ other, other ≠ number → after.members[other]? = crowd.members[other]?) :
    after.Shows (view.without pid after.terminals) := by
  have kept {other : Pid} {place : Nat} (there : after.table other = some place) :
      other ≠ pid ∧ crowd.table other = some place := by
    rw [table, Function.update_apply] at there
    split at there
    · cases there
    · rename_i different
      exact ⟨different, there⟩
  refine ⟨locked.trans shows.locked, terminal.trans shows.terminal, rfl, fun other unknown => ?_,
    fun other life known => ?_, fun one two place here there => ?_⟩
  · have unknown : Function.update view.lives pid none other = none := unknown
    rw [table, Function.update_apply]
    by_cases mine : other = pid
    · exact if_pos mine
    · rw [Function.update_of_ne mine] at unknown
      exact (if_neg mine).trans (shows.absent other unknown)
  · have known : Function.update view.lives pid none other = some life := known
    rw [Function.update_apply] at known
    split at known
    · cases known
    · rename_i different
      obtain ⟨place, member, there, made, lived⟩ := shows.present other life known
      have elsewhere : place ≠ number := by
        rintro rfl
        exact different (shows.apart other pid place there found)
      refine ⟨place, member, ?_, (members place elsewhere).trans made, lived⟩
      rw [table, Function.update_of_ne different]
      exact there
  · exact shows.apart one two place (kept here).2 (kept there).2

/-- **A process that is put in is seen** where no process was seen before. -/
theorem insert (shows : crowd.Shows view) {member : Member}
    (table : after.table = Function.update crowd.table pid (some crowd.members.length))
    (members : after.members = crowd.members ++ [member]) (locked : after.locked = view.locked)
    (terminal : after.terminal = crowd.terminal) (terminals : after.terminals = crowd.terminals) :
    after.Shows { view with lives := Function.update view.lives pid (some member.life) } := by
  have old {other : Pid} {life : Lifecycle} (known : view.lives other = some life) :
      ∃ number member, crowd.table other = some number ∧ after.members[number]? = some member ∧
        member.life = life := by
    obtain ⟨number, member, there, made, lived⟩ := shows.present other life known
    obtain ⟨inside, -⟩ := List.getElem?_eq_some_iff.mp made
    refine ⟨number, member, there, ?_, lived⟩
    rw [members, List.getElem?_append_left inside]
    exact made
  have inside {other : Pid} {number : Nat} (there : crowd.table other = some number) :
      number < crowd.members.length := by
    cases known : view.lives other with
    | none =>
      rw [shows.absent other known] at there
      cases there
    | some life =>
      obtain ⟨place, member, here, made, -⟩ := shows.present other life known
      cases there.symm.trans here
      exact (List.getElem?_eq_some_iff.mp made).1
  refine ⟨locked, terminal.trans shows.terminal, terminals.trans shows.terminals,
    fun other unknown => ?_, fun other life known => ?_, fun one two number here there => ?_⟩
  · have unknown : Function.update view.lives pid (some member.life) other = none := unknown
    rw [Function.update_apply] at unknown
    rw [table, Function.update_apply]
    split at unknown
    · cases unknown
    · rename_i different
      exact (if_neg different).trans (shows.absent other unknown)
  · have known : Function.update view.lives pid (some member.life) other = some life := known
    rw [Function.update_apply] at known
    rw [table, Function.update_apply]
    split at known
    · rename_i mine
      cases known
      refine ⟨crowd.members.length, member, if_pos mine, ?_, rfl⟩
      rw [members]
      exact List.getElem?_concat_length
    · rename_i different
      rw [if_neg different]
      exact old known
  · rw [table, Function.update_apply] at here there
    split at here <;> split at there
    · rename_i first second
      exact first.trans second.symm
    · cases here
      exact absurd (inside there) (Nat.lt_irrefl _)
    · cases there
      exact absurd (inside here) (Nat.lt_irrefl _)
    · exact shows.apart one two number here there

end Shows

/-! ### A caller that moves alone -/

/-- **A caller comes this far by steps of its own, which leave this view.** -/
def Comes (crowd : Crowd) (caller : Nat) (call : Call) (view : View) : Prop :=
  ∃ schedule, (∀ move ∈ schedule, move.caller? = some caller) ∧ (crowd.run schedule).Shows view ∧
    (crowd.run schedule).calls[caller]? = some call

namespace Comes

theorem here (shows : crowd.Shows view) (reached : crowd.calls[caller]? = some call) :
    crowd.Comes caller call view :=
  ⟨[], List.forall_mem_nil _, shows, reached⟩

theorem step (own : move.caller? = some caller) (taken : crowd.step move = some after)
    (comes : after.Comes caller call view) : crowd.Comes caller call view := by
  obtain ⟨schedule, mine, shows, reached⟩ := comes
  have moved : crowd.run (move :: schedule) = after.run schedule := by
    show List.foldl _ ((crowd.step move).getD crowd) schedule = _
    rw [taken]
    rfl
  refine ⟨move :: schedule, List.forall_mem_cons.mpr ⟨own, mine⟩, ?_, ?_⟩
  · rwa [moved]
  · rwa [moved]

theorem trans (comes : crowd.Comes caller call view)
    (onward : ∀ after : Crowd, after.Shows view → after.calls[caller]? = some call →
      after.Comes caller later other) : crowd.Comes caller later other := by
  obtain ⟨schedule, mine, shows, reached⟩ := comes
  obtain ⟨rest, others, shown, arrived⟩ := onward _ shows reached
  have moved : crowd.run (schedule ++ rest) = (crowd.run schedule).run rest := List.foldl_append
  refine ⟨schedule ++ rest, List.forall_mem_append.mpr ⟨mine, others⟩, ?_, ?_⟩
  · rwa [moved]
  · rwa [moved]

end Comes

/-! ### Ending a process -/

/-- A part of ending a process. -/
theorem step_ending {part : Part} {next : Progress} {member : Member}
    (here : crowd.calls[caller]? = some ⟨task, .ending number part next⟩)
    (there : crowd.members[number]? = some member) :
    crowd.step (.advance caller) = some (crowd.endPart caller number member next part) := by
  show crowd.advance caller = _
  unfold advance
  rw [here]
  show (crowd.members[number]?).map _ = _
  rw [there]
  rfl

theorem members_change {member : Member} (there : crowd.members[number]? = some member)
    (later : Member) : (crowd.change number later).members[number]? = some later := by
  obtain ⟨inside, -⟩ := List.getElem?_eq_some_iff.mp there
  exact List.getElem?_set_self inside

/-- **The parts of ending a process come to its end**, which leaves any other process as it is. -/
theorem Comes.ending {next : Progress} {member : Member}
    (here : crowd.calls[caller]? = some ⟨task, .ending number .beginning next⟩)
    (there : crowd.members[number]? = some member)
    (comes : ∀ later : Member, Comes { (crowd.change number later).progress caller next with
      terminals := member.life.ended crowd.terminals } caller call view) :
    crowd.Comes caller call view := by
  have first := step_ending here there
  cases begun : member.life.shuttingDown with
  | true =>
    refine .step rfl first ?_
    have same : crowd.endPart caller number member next .beginning =
        { (crowd.change number { member with life := member.life.beginShutdown.2 }).progress caller
          next with terminals := member.life.ended crowd.terminals } := by
      unfold Lifecycle.ended endPart Lifecycle.beginShutdown
      rw [begun]
      rfl
    rw [same]
    exact comes _
  | false =>
    let started : Member := { member with life := { member.life with shuttingDown := true } }
    let middle : Crowd := (crowd.change number started).progress caller (.ending number .joining next)
    have moved : crowd.endPart caller number member next .beginning = middle := by
      unfold endPart Lifecycle.beginShutdown
      rw [begun]
      rfl
    have joining : middle.calls[caller]? = some ⟨task, .ending number .joining next⟩ :=
      calls_progress_self rfl here
    have joined : middle.members[number]? = some started := members_change there started
    let last : Crowd := (middle.change number { started with stopped := true }).progress caller
      (.ending number .marking next)
    have second : middle.step (.advance caller) = some last := step_ending joining joined
    have marking : last.calls[caller]? = some ⟨task, .ending number .marking next⟩ :=
      calls_progress_self rfl joining
    have marked : last.members[number]? = some { started with stopped := true } :=
      members_change joined _
    have third := step_ending marking marked
    refine .step rfl (first.trans (congrArg some moved)) (.step rfl second (.step rfl third ?_))
    have same : last.endPart caller number { started with stopped := true } next .marking =
        { (crowd.change number
            ⟨(started.life.markTerminated crowd.terminals).2.1, true⟩).progress caller next with
          terminals := member.life.ended crowd.terminals } := by
      unfold Lifecycle.ended
      rw [begun]
      simp only [endPart, last, middle, change, progress, List.set_set, List.modify_modify_eq]
      rfl
    rw [same]
    exact comes _

theorem takeOut_eq (found : crowd.table pid = some number) (absent : Progress)
    (present : Nat → Progress) : crowd.takeOut caller pid absent present =
      ({ crowd with table := Function.update crowd.table pid none }.progress caller
        (present number)).note (.removed caller pid number) := by
  unfold takeOut
  rw [found]

/-! ### Terminate -/

/-- A terminate of a number that nobody has. -/
theorem Comes.unknown (shows : crowd.Shows view)
    (here : crowd.calls[caller]? = some ⟨.terminate pid, .outside⟩)
    (unknown : view.lives pid = none) :
    crowd.Comes caller ⟨.terminate pid, .answered (.refused (.notFound pid))⟩ view := by
  have taken : crowd.step (.advance caller) =
      some (crowd.progress caller (.answered (.refused (.notFound pid)))) := by
    show crowd.advance caller = _
    unfold advance
    rw [here]
    show some (crowd.lookUp caller pid) = _
    unfold lookUp
    rw [shows.absent pid unknown]
  exact .step rfl taken (.here (shows.progress ..) (calls_progress_self rfl here))

/-- A terminate of a process in the table. -/
theorem Comes.known (shows : crowd.Shows view)
    (here : crowd.calls[caller]? = some ⟨.terminate pid, .outside⟩) {life : Lifecycle}
    (known : view.lives pid = some life) :
    crowd.Comes caller ⟨.terminate pid, .answered .done⟩
      (view.without pid (life.ended view.terminals)) := by
  obtain ⟨number, member, found, there, rfl⟩ := shows.present pid life known
  let first : Crowd := (crowd.progress caller (.ending number .beginning (.ended pid number))).note
    (.found caller pid number)
  have looked : crowd.step (.advance caller) = some first := by
    show crowd.advance caller = _
    unfold advance
    rw [here]
    show some (crowd.lookUp caller pid) = _
    unfold lookUp
    rw [found]
  have ending : first.calls[caller]? =
      some ⟨.terminate pid, .ending number .beginning (.ended pid number)⟩ :=
    calls_progress_self rfl here
  refine .step rfl looked (.ending ending (there : first.members[number]? = some member) fun later => ?_)
  let past : Crowd := { (first.change number later).progress caller (.ended pid number) with
    terminals := member.life.ended first.terminals }
  have ended : past.calls[caller]? = some ⟨.terminate pid, .ended pid number⟩ :=
    calls_progress_self rfl ending
  have still : past.table pid = some number := found
  let removed : Crowd := ({ past with table := Function.update past.table pid none }.progress caller
    (.leaving number)).note (.removed caller pid number)
  have taken : past.step (.advance caller) = some removed := by
    show past.advance caller = _
    unfold advance
    rw [ended]
    exact congrArg some (takeOut_eq still _ _)
  have leaving : removed.calls[caller]? = some ⟨.terminate pid, .leaving number⟩ :=
    calls_progress_self rfl ended
  have gone : removed.step (.letGo caller false) = some (removed.progress caller (.answered .done)) := by
    show removed.letGo caller false = _
    unfold letGo
    rw [leaving]
    rfl
  refine .step rfl taken (.step rfl gone (.here ?_ (calls_progress_self rfl leaving)))
  rw [← shows.terminals]
  exact shows.remove found rfl rfl rfl fun other different => List.getElem?_set_ne different.symm

/-- What a caller is told of an answer. -/
def told {α : Type} (tell : α → Reply) : Except ProcessError α → Reply
  | .ok answer => tell answer
  | .error error => .refused error

/-- **A terminate in steps is a terminate.** -/
theorem terminate_alone {manager : Manager} (ordered : manager.Ordered) {site : Site}
    (shows : crowd.Shows (manager.view site))
    (here : crowd.calls[caller]? = some ⟨.terminate pid, .outside⟩) :
    let left := manager.terminate site pid
    crowd.Comes caller ⟨.terminate pid, .answered (told (fun _ => .done) left.1)⟩
      (left.2.1.view left.2.2) := by
  cases known : manager.get pid with
  | none =>
    rw [terminate_none known]
    exact .unknown shows here (by simp only [view, lives, known, Option.map_none])
  | some process =>
    rw [terminate_some known]
    have lived : (manager.view site).lives pid = some process.resident.lifecycle := by
      simp only [view, lives, known, Option.map_some]
    have same : (manager.remove pid).view (process.terminate site).2 =
        (manager.view site).without pid (process.resident.lifecycle.ended site.terminals) := by
      unfold view View.without
      rw [process.terminate_terminals site]
      congr 1
      funext other
      unfold lives
      rw [ordered.get_remove, Function.update_apply, Function.update_apply]
      split <;> rfl
    show crowd.Comes caller _ ((manager.remove pid).view (process.terminate site).2)
    rw [same]
    exact .known shows here lived

/-! ### Reap and shutdown -/

/-- A sweep comes to the numbers of some processes that it takes. -/
theorem Comes.collect (shows : crowd.Shows view) {pids found : List Pid}
    (here : crowd.calls[caller]? = some ⟨task, .collecting found⟩) (distinct : (found ++ pids).Nodup)
    (takes : ∀ pid ∈ pids, ∃ life, view.lives pid = some life ∧
      ∀ member : Member, member.life = life → task.takes member = true) :
    crowd.Comes caller ⟨task, .collecting (found ++ pids)⟩ view := by
  induction pids generalizing crowd found with
  | nil =>
    rw [List.append_nil]
    exact .here shows here
  | cons pid pids ih =>
    obtain ⟨life, known, taken⟩ := takes pid List.mem_cons_self
    obtain ⟨number, member, there, made, lived⟩ := shows.present pid life known
    let next : Crowd := (crowd.progress caller (.collecting (found ++ [pid]))).note
      (.found caller pid number)
    have new : pid ∉ found := fun old =>
      (List.nodup_append.mp distinct).2.2 pid old pid List.mem_cons_self rfl
    have visited : crowd.step (.visit caller pid) = some next := by
      show crowd.visit caller pid = _
      unfold visit
      rw [here, there]
      dsimp only
      rw [made]
      exact if_pos ⟨new, taken member lived⟩
    have shown : next.Shows view := (shows.progress ..).note _
    have collecting : next.calls[caller]? = some ⟨task, .collecting (found ++ [pid])⟩ :=
      calls_progress_self rfl here
    have onward : next.Comes caller ⟨task, .collecting (found ++ [pid] ++ pids)⟩ view := by
      refine ih shown collecting ?_ fun other later => takes other (List.mem_cons_of_mem _ later)
      rw [List.append_assoc]
      exact distinct
    rw [List.append_assoc] at onward
    exact .step rfl visited onward

/-- A sweep takes one process out and ends it. -/
theorem Comes.clearOne (shows : crowd.Shows view) {left gone : List Pid}
    (here : crowd.calls[caller]? = some ⟨task, .clearing (pid :: left) gone⟩) {life : Lifecycle}
    (known : view.lives pid = some life) :
    crowd.Comes caller ⟨task, .clearing left (gone ++ [pid])⟩
      (view.without pid (life.ended view.terminals)) := by
  obtain ⟨number, member, found, there, rfl⟩ := shows.present pid life known
  let removed : Crowd := ({ crowd with table := Function.update crowd.table pid none }.progress caller
    (.ending number .beginning (.clearing left (gone ++ [pid])))).note (.removed caller pid number)
  have taken : crowd.step (.advance caller) = some removed := by
    show crowd.advance caller = _
    unfold advance
    rw [here]
    exact congrArg some (takeOut_eq found _ _)
  have ending : removed.calls[caller]? =
      some ⟨task, .ending number .beginning (.clearing left (gone ++ [pid]))⟩ :=
    calls_progress_self rfl here
  refine .step rfl taken (.ending ending (there : removed.members[number]? = some member) fun later =>
    .here ?_ (calls_progress_self rfl ending))
  rw [← shows.terminals]
  exact shows.remove found rfl rfl rfl fun other different => List.getElem?_set_ne different.symm

/-- A sweep takes out what it has found, one process after the other. -/
theorem Comes.clear (shows : crowd.Shows view) {entries : List (Pid × ScriptProcess)} {gone : List Pid}
    (here : crowd.calls[caller]? = some ⟨task, .clearing (entries.map Prod.fst) gone⟩)
    (distinct : (entries.map Prod.fst).Nodup)
    (known : ∀ entry ∈ entries, view.lives entry.1 = some entry.2.resident.lifecycle) :
    crowd.Comes caller ⟨task, .clearing [] (gone ++ entries.map Prod.fst)⟩ (view.clear entries) := by
  induction entries generalizing crowd view gone with
  | nil =>
    rw [List.map_nil, List.append_nil]
    exact .here shows here
  | cons entry rest ih =>
    obtain ⟨pid, process⟩ := entry
    obtain ⟨new, distinct⟩ := List.nodup_cons.mp distinct
    refine (clearOne shows here (known _ List.mem_cons_self)).trans fun after shows there => ?_
    have onward := ih shows there distinct fun other later => by
      have mine : other.1 ∈ rest.map Prod.fst := List.mem_map_of_mem later
      have different : other.1 ≠ pid := fun same => new (same ▸ mine)
      exact (Function.update_of_ne different ..).trans (known other (List.mem_cons_of_mem _ later))
    rwa [List.append_assoc] at onward

/-- **A sweep takes out the processes of some entries**, which it finds by their numbers. -/
theorem Comes.sweep (shows : crowd.Shows view) (sweeps : task = .reap ∨ task = .shutdownAll)
    (here : crowd.calls[caller]? = some ⟨task, .outside⟩) {entries : List (Pid × ScriptProcess)}
    (distinct : (entries.map Prod.fst).Nodup)
    (known : ∀ entry ∈ entries, view.lives entry.1 = some entry.2.resident.lifecycle)
    (takes : ∀ entry ∈ entries, ∀ member : Member, member.life = entry.2.resident.lifecycle →
      task.takes member = true) :
    crowd.Comes caller ⟨task, .answered (task.conclude (entries.map Prod.fst))⟩ (view.clear entries) := by
  have begun : crowd.step (.advance caller) = some (crowd.progress caller (.collecting [])) := by
    show crowd.advance caller = _
    unfold advance
    rw [here]
    rcases sweeps with rfl | rfl <;> rfl
  have outside : (crowd.progress caller (.collecting [])).calls[caller]? =
      some ⟨task, .collecting []⟩ := calls_progress_self rfl here
  have collects : (crowd.progress caller (.collecting [])).Comes caller
      ⟨task, .collecting ([] ++ entries.map Prod.fst)⟩ view := by
    refine .collect (shows.progress ..) outside distinct fun pid mine => ?_
    obtain ⟨entry, chosen, rfl⟩ := List.mem_map.mp mine
    exact ⟨_, known entry chosen, takes entry chosen⟩
  refine .step rfl begun (collects.trans fun middle shows collecting => ?_)
  have turned : middle.step (.advance caller) =
      some (middle.progress caller (.clearing (entries.map Prod.fst) [])) := by
    show middle.advance caller = _
    unfold advance
    rw [collecting]
    rfl
  have clearing : (middle.progress caller (.clearing (entries.map Prod.fst) [])).calls[caller]? =
      some ⟨task, .clearing (entries.map Prod.fst) []⟩ := calls_progress_self rfl collecting
  have clears : (middle.progress caller (.clearing (entries.map Prod.fst) [])).Comes caller
      ⟨task, .clearing [] ([] ++ entries.map Prod.fst)⟩ (view.clear entries) :=
    .clear (shows.progress ..) clearing distinct known
  refine .step rfl turned (clears.trans fun last shows cleared => ?_)
  have told : last.step (.advance caller) =
      some (last.progress caller (.answered (task.conclude (entries.map Prod.fst)))) := by
    show last.advance caller = _
    unfold advance
    rw [cleared]
    rfl
  exact .step rfl told (.here (shows.progress ..) (calls_progress_self rfl cleared))

end Crowd

/-- Ending the processes of some entries takes away what is seen of them. -/
theorem View.clear_eq (view : View) (entries : List (Pid × ScriptProcess)) {site : Site}
    (same : view.terminals = site.terminals) :
    view.clear entries =
      { view with
        terminals := (terminateAll entries site).terminals
        lives := fun pid => if pid ∈ entries.map Prod.fst then none else view.lives pid } := by
  induction entries generalizing view site with
  | nil =>
    unfold clear terminateAll
    simp only [List.map_nil, List.not_mem_nil, if_false, ← same]
  | cons entry rest ih =>
    obtain ⟨number, process⟩ := entry
    unfold clear terminateAll
    have heard : (view.without number (process.resident.lifecycle.ended view.terminals)).terminals =
        (process.terminate site).2.terminals := by
      rw [process.terminate_terminals, ← same]
      rfl
    rw [ih _ heard]
    unfold without
    congr 1
    funext pid
    simp only [List.map_cons, List.mem_cons, Function.update_apply]
    by_cases first : pid = number
    · simp only [first, true_or, if_true, ite_self]
    · simp only [first, false_or, if_false]

/-- What is seen of a manager whose processes of some kind are taken out and ended. -/
theorem Ordered.view_filter {manager : Manager} (ordered : manager.Ordered) (site : Site)
    (kept : Pid × ScriptProcess → Bool) :
    ({ manager with processes := manager.processes.filter kept } : Manager).view
        (terminateAll (manager.processes.filter fun entry => !kept entry) site) =
      (manager.view site).clear (manager.processes.filter fun entry => !kept entry) := by
  have cleared := (manager.view site).clear_eq (manager.processes.filter fun entry => !kept entry) rfl
  rw [cleared]
  unfold view
  congr 1
  funext pid
  have gone := ordered.mem_filter (fun entry => !kept entry) pid
  unfold lives
  rw [ordered.get_filter]
  show _ = if _ then none else Option.map _ (manager.get pid)
  cases known : manager.get pid with
  | none => simp only [Option.filter_none, Option.map_none, ite_self]
  | some process =>
    rw [known] at gone
    cases stays : kept (pid, process) with
    | true =>
      have apart : pid ∉ (manager.processes.filter fun entry => !kept entry).map Prod.fst := by
        simp [gone, stays]
      rw [if_neg apart, Option.filter_some, stays, if_pos rfl]
    | false =>
      have mine : pid ∈ (manager.processes.filter fun entry => !kept entry).map Prod.fst := by
        simp [gone, stays]
      rw [if_pos mine, Option.filter_some, stays]
      rfl

/-- The life of an entry. -/
theorem Ordered.lives_entry {manager : Manager} (ordered : manager.Ordered) {entry : Pid × ScriptProcess}
    (here : entry ∈ manager.processes) :
    manager.lives entry.1 = some entry.2.resident.lifecycle := by
  unfold lives
  rw [ordered.get_eq_some_iff.mpr here]
  rfl

namespace Crowd

variable {crowd : Crowd} {caller : Nat} {task : Task} {pid : Pid} {view : View} {manager : Manager}

/-- **A reap in steps is a reap.** -/
theorem reap_alone (ordered : manager.Ordered) {site : Site} (shows : crowd.Shows (manager.view site))
    (here : crowd.calls[caller]? = some ⟨.reap, .outside⟩) :
    let left := manager.reap site
    crowd.Comes caller ⟨.reap, .answered (.reaped left.1)⟩ (left.2.1.view left.2.2) := by
  rw [reap_eq]
  dsimp only
  rw [ordered.view_filter]
  let ended := manager.processes.filter fun entry => !entry.2.isAlive
  have sorted : (ended.map Prod.fst).Pairwise (· < ·) := (ordered.filter _).numbers
  have told : Task.reap.conclude (ended.map Prod.fst) = .reaped (ended.map Prod.fst) := by
    have same : ((ended.map Prod.fst).mergeSort fun first second => first ≤ second) =
        ended.map Prod.fst := List.mergeSort_of_pairwise (sorted.imp fun before => by simpa using before.le)
    exact congrArg Reply.reaped same
  rw [← told]
  refine .sweep shows (.inl rfl) here (sorted.imp Nat.ne_of_lt)
    (fun entry mine => ordered.lives_entry (List.mem_filter.mp mine).1) fun entry mine member lived => ?_
  have chosen : (!entry.2.isAlive) = true := (List.mem_filter.mp mine).2
  show (!(!member.life.isFinished && !member.life.shuttingDown)) = true
  rw [lived]
  exact chosen

/-- **A shutdown in steps is a shutdown.** -/
theorem shutdownAll_alone (ordered : manager.Ordered) {site : Site}
    (shows : crowd.Shows (manager.view site))
    (here : crowd.calls[caller]? = some ⟨.shutdownAll, .outside⟩) :
    let left := manager.shutdownAll site
    crowd.Comes caller ⟨.shutdownAll, .answered .done⟩ (left.1.view left.2) := by
  have same := ordered.view_filter site fun _ => false
  simp only [List.filter_false, Bool.not_false, List.filter_true] at same
  show crowd.Comes caller _ (({ manager with processes := [] } : Manager).view
    (terminateAll manager.processes site))
  rw [same]
  exact .sweep shows (.inr rfl) here ordered.nodup (fun entry mine => ordered.lives_entry mine)
    fun _ _ _ _ => rfl

/-! ### Spawn -/

/-- A step of looking for a free number. -/
theorem step_searching (here : crowd.calls[caller]? = some ⟨task, .searching pid⟩) :
    crowd.step (.advance caller) = some (crowd.search caller pid) := by
  show crowd.advance caller = _
  unfold advance
  rw [here]

/-- **The search passes over the numbers that are taken.** -/
theorem Comes.search {start distance : Nat} (shows : crowd.Shows view)
    (here : crowd.calls[caller]? = some ⟨task, .searching start⟩) (inside : start + distance ≤ lastPid)
    (taken : ∀ other : Nat, start ≤ other → other < start + distance → view.lives other ≠ none) :
    crowd.Comes caller ⟨task, .searching (start + distance)⟩ view := by
  induction distance generalizing crowd start with
  | zero => exact .here shows here
  | succ distance ih =>
    have onward : crowd.search caller start = crowd.progress caller (.searching (start + 1)) := by
      obtain ⟨life, known⟩ := Option.ne_none_iff_exists'.mp (taken start (Nat.le_refl _) (by omega))
      obtain ⟨number, member, there, -⟩ := shows.present start life known
      unfold search
      have before : start < lastPid :=
        Nat.lt_of_lt_of_le (Nat.lt_add_of_pos_right (Nat.succ_pos distance)) inside
      rw [there, if_neg nofun, if_pos before]
    have next := ih (shows.progress ..) (calls_progress_self rfl here)
      ((Nat.add_right_comm start 1 distance).trans_le inside)
      fun other first last => taken other (by omega) (by omega)
    rw [Nat.add_right_comm start 1 distance] at next
    exact .step rfl ((step_searching here).trans (congrArg some onward)) next

/-- A spawn that has taken the lock. -/
theorem Comes.lock (shows : crowd.Shows view) (free : view.locked = false)
    (here : crowd.calls[caller]? = some ⟨.spawn, .outside⟩) :
    crowd.Comes caller ⟨.spawn, .searching firstPid⟩ { view with locked := true } := by
  let next : Crowd := { crowd.progress caller (.searching firstPid) with locked := true }
  have begun : crowd.step (.advance caller) = some next := by
    show crowd.advance caller = _
    unfold advance
    rw [here]
    show (if crowd.locked then none else some next) = some next
    rw [shows.locked, free]
    rfl
  exact .step rfl begun (.here ((shows.progress ..).lock true) (calls_progress_self rfl here))

/-- **A spawn chooses the least free number.** -/
theorem Comes.choose {site : Site} (shows : crowd.Shows (manager.view site))
    (here : crowd.calls[caller]? = some ⟨.spawn, .outside⟩) (least : IsLeast manager.free pid)
    (last : pid ≤ lastPid) :
    crowd.Comes caller ⟨.spawn, .chosen pid⟩ { manager.view site with locked := true } := by
  obtain ⟨⟨first, unknown⟩, before⟩ := least
  obtain ⟨distance, rfl⟩ := Nat.exists_eq_add_of_le first
  refine (Comes.lock shows rfl here).trans fun middle shows searching => ?_
  have passed (other : Nat) (start : firstPid ≤ other) (earlier : other < firstPid + distance) :
      (manager.view site).lives other ≠ none := by
    intro absent
    have free : other ∈ manager.free := ⟨start, Option.map_eq_none_iff.mp absent⟩
    exact absurd (before free) (Nat.not_le_of_lt earlier)
  refine (Comes.search shows searching last passed).trans fun after shows arrived => ?_
  have absent : (manager.view site).lives (firstPid + distance) = none :=
    Option.map_eq_none_iff.mpr unknown
  have chosen : after.search caller (firstPid + distance) =
      after.progress caller (.chosen (firstPid + distance)) := by
    unfold Crowd.search
    rw [shows.absent _ absent]
    rfl
  exact .step rfl ((step_searching arrived).trans (congrArg some chosen))
    (.here (shows.progress ..) (calls_progress_self rfl arrived))

/-- **A spawn finds no number if all are taken.** -/
theorem Comes.exhaust {site : Site} (shows : crowd.Shows (manager.view site))
    (here : crowd.calls[caller]? = some ⟨.spawn, .outside⟩)
    (full : ∀ pid, firstPid ≤ pid → pid ≤ lastPid → pid ∈ manager.taken) :
    crowd.Comes caller ⟨.spawn, .answered (.refused .pidExhausted)⟩ (manager.view site) := by
  have known (pid : Nat) (first : firstPid ≤ pid) (last : pid ≤ lastPid) :
      (manager.view site).lives pid ≠ none := by
    obtain ⟨process, known⟩ := mem_taken.mp (full pid first last)
    show manager.lives pid ≠ none
    unfold lives
    rw [known]
    exact nofun
  refine (Comes.lock shows rfl here).trans fun middle shows searching => ?_
  have inside : firstPid + (lastPid - firstPid) = lastPid := rfl
  refine (Comes.search shows searching inside.le fun other first earlier => known other first
    (inside ▸ earlier.le)).trans fun after shows arrived => ?_
  rw [inside] at arrived
  have refused : after.search caller lastPid =
      (after.progress caller (.answered (.refused .pidExhausted))).unlock := by
    obtain ⟨life, lived⟩ := Option.ne_none_iff_exists'.mp (known lastPid (by decide) (Nat.le_refl _))
    obtain ⟨number, member, there, -⟩ := shows.present lastPid life lived
    unfold Crowd.search
    rw [there, if_neg nofun, if_neg (Nat.lt_irrefl _)]
  exact .step rfl ((step_searching arrived).trans (congrArg some refused))
    (.here ((shows.progress ..).lock false) (calls_progress_self rfl arrived))

/-- **A spawn in steps is a spawn.** -/
theorem spawn_alone {site : Site} (shows : crowd.Shows (manager.view site))
    (here : crowd.calls[caller]? = some ⟨.spawn, .outside⟩) (path : String) (args : List String)
    (environment : List (String × String)) :
    let left := manager.spawn site path args environment
    crowd.Comes caller ⟨.spawn, .answered (told .spawned left.1)⟩ (left.2.1.view left.2.2) := by
  have spawned := manager.spawn_spawned site path args environment
  generalize manager.spawn site path args environment = left at spawned
  cases spawned with
  | @made pid process least last fresh added =>
    refine (Comes.choose shows here least last).trans fun middle shows chosen => ?_
    let next : Crowd := { middle.progress caller (.made pid middle.members.length) with
      members := middle.members ++ [.fresh pid middle.terminal] }
    have constructed : middle.step (.construct caller none) = some next := by
      show middle.construct caller none = _
      unfold construct
      rw [chosen]
    have made : next.calls[caller]? = some ⟨.spawn, .made pid middle.members.length⟩ :=
      calls_progress_self rfl chosen
    let after : Crowd := next.insert caller pid middle.members.length
    have inserted : next.step (.advance caller) = some after := by
      show next.advance caller = _
      unfold advance
      rw [made]
    have told : after.calls[caller]? = some ⟨.spawn, .answered (.spawned pid)⟩ :=
      calls_progress_self rfl made
    have same : (manager.put pid process).view site =
        { manager.view site with
          lives := Function.update manager.lives pid (some (Member.fresh pid middle.terminal).life) } := by
      unfold view
      congr 1
      funext other
      unfold lives
      rw [added, Function.update_apply, Function.update_apply]
      split
      · rw [shows.terminal]
        exact congrArg (fun resident : Resident => some resident.lifecycle) fresh.resident
      · rfl
    refine .step rfl constructed (.step rfl inserted (.here ?_ told))
    show after.Shows ((manager.put pid process).view site)
    rw [same]
    exact (shows.lock false).insert rfl rfl rfl rfl rfl
  | @failed pid reason sink least last =>
    refine (Comes.choose shows here least last).trans fun middle shows chosen => ?_
    let error : ProcessError := .construction pid reason
    have refused : middle.step (.construct caller (some error)) =
        some (middle.progress caller (.answered (.refused error))).unlock := by
      show middle.construct caller (some error) = _
      unfold construct
      rw [chosen]
    refine .step rfl refused (.here ((shows.progress ..).lock false) (calls_progress_self rfl chosen))
  | exhausted full => exact .exhaust shows here full

end Crowd

end Manager

end ScriptKernel
