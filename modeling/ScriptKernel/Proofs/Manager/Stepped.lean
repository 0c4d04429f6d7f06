/-
**What a step does to a crowded manager.**

* `Crowd.Passes`: how a call comes further without a change to anything it shares with the others;
* `Crowd.Effect`: **all that one step of a call can do** to what the calls share, and how far it then has come;
* `Crowd.Stepped`: a step of a call, or the end of a process by its own worker;
* `Crowd.of_step`: every step is one of these;
* `Crowd.calls_progress`: a step of one call leaves the others where they are;
* `Crowd.Stepped.grows`: **no step undoes the end of a process**, or that it has begun;
* `Crowd.run_invariant`: what every step keeps, every schedule keeps.
-/

import ScriptKernel.Manager.Interleaving

set_option autoImplicit false

namespace ScriptKernel.Manager

/-- Whether a call has the lock. -/
def Progress.isMaking : Progress → Bool
  | .searching _ | .chosen _ | .made _ _ => true
  | _ => false

/-- How a process can have changed. -/
structure Member.Grows (member later : Member) : Prop where
  pid : later.life.pid = member.life.pid
  closing : member.life.shuttingDown = true → later.life.shuttingDown = true
  finished : member.isFinished = true → later.isFinished = true

namespace Member.Grows

variable {member middle later : Member}

theorem refl (member : Member) : member.Grows member := ⟨rfl, id, id⟩

theorem begin (member : Member) :
    member.Grows { member with life := member.life.beginShutdown.2 } :=
  ⟨rfl, fun _ => rfl, id⟩

theorem stop (member : Member) : member.Grows { member with stopped := true } := ⟨rfl, id, id⟩

/-- Being terminated leaves a process that has ended, and ends any other. -/
theorem mark (member : Member) (terminals : Terminals) :
    member.Grows { member with life := (member.life.markTerminated terminals).2.1 } ∧
      (member.life.markTerminated terminals).2.1.isFinished = true := by
  unfold Lifecycle.markTerminated
  by_cases finished : member.life.isFinished = true
  · rw [if_pos finished]
    exact ⟨refl member, finished⟩
  · rw [if_neg finished]
    exact ⟨⟨rfl, id, fun _ => rfl⟩, rfl⟩

theorem exit (member : Member) (code : ExitCode) (terminals : Terminals) :
    member.Grows { member with life := (member.life.markExited code terminals).2.1 } := by
  unfold Lifecycle.markExited
  by_cases finished : member.life.isFinished = true
  · rw [if_pos finished]
    exact refl member
  · rw [if_neg finished]
    exact ⟨rfl, id, fun _ => rfl⟩

end Member.Grows

namespace Crowd

variable {crowd after : Crowd} {caller number : Nat} {call : Call} {pid : Pid} {progress : Progress}

/-! ### Steps -/

/-- How a call comes further without a change to the processes, the table or the lock. -/
inductive Passes (crowd : Crowd) (call : Call) : Progress → Prop
  | free {pid : Pid} : call.progress = .searching pid → crowd.table pid = none →
      Passes crowd call (.chosen pid)
  | taken {pid : Pid} : call.progress = .searching pid → Passes crowd call (.searching (pid + 1))
  | unknown {pid : Pid} : call.task = .terminate pid → call.progress = .outside →
      Passes crowd call (.answered (.refused (.notFound pid)))
  | sweep : call.task = .reap ∨ call.task = .shutdownAll → call.progress = .outside →
      Passes crowd call (.collecting [])
  | direct {number : Nat} : call.task = .endMember number → call.progress = .outside →
      Passes crowd call (.ending number .beginning (.answered .done))
  | again {number : Nat} {next : Progress} {member : Member} :
      call.progress = .ending number .beginning next → crowd.members[number]? = some member →
      member.life.shuttingDown = true → Passes crowd call next
  | absent {pid : Pid} {number : Nat} : call.progress = .ended pid number →
      Passes crowd call (.answered .done)
  | collected {found : List Pid} : call.progress = .collecting found →
      Passes crowd call (.clearing found [])
  | skipped {pid : Pid} {left gone : List Pid} : call.progress = .clearing (pid :: left) gone →
      Passes crowd call (.clearing left gone)
  | cleared {gone : List Pid} : call.progress = .clearing [] gone →
      Passes crowd call (.answered (call.task.conclude gone))
  | left {number : Nat} : call.progress = .leaving number → Passes crowd call (.answered .done)
  | last {number : Nat} : call.progress = .leaving number →
      Passes crowd call (.ending number .beginning (.answered .done))

/-- How a call comes further when it finds a process. -/
inductive Finds (call : Call) (pid : Pid) (number : Nat) : Progress → Prop
  | terminate : call.task = .terminate pid → call.progress = .outside →
      Finds call pid number (.ending number .beginning (.ended pid number))
  | sweep {found : List Pid} : call.progress = .collecting found →
      Finds call pid number (.collecting (found ++ [pid]))

/-- How a call comes further when it takes a process out. -/
inductive Removes (call : Call) (pid : Pid) (number : Nat) : Progress → Prop
  | terminate {found : Nat} : call.progress = .ended pid found →
      Removes call pid number (.leaving number)
  | sweep {left gone : List Pid} : call.progress = .clearing (pid :: left) gone →
      Removes call pid number (.ending number .beginning (.clearing left (gone ++ [pid])))

/-- **What a step of a call does**, with how far the call then has come. -/
inductive Effect (crowd : Crowd) (caller : Nat) (call : Call) : Progress → Crowd → Prop
  | pass {progress : Progress} : Passes crowd call progress →
      Effect crowd caller call progress crowd
  | lock : call.task = .spawn → call.progress = .outside → crowd.locked = false →
      Effect crowd caller call (.searching firstPid) { crowd with locked := true }
  | unlock {pid : Pid} {error : ProcessError} :
      call.progress = .searching pid ∨ call.progress = .chosen pid →
      Effect crowd caller call (.answered (.refused error)) crowd.unlock
  | make {pid : Pid} : call.progress = .chosen pid →
      Effect crowd caller call (.made pid crowd.members.length)
        { crowd with members := crowd.members ++ [.fresh pid crowd.terminal] }
  | insert {pid : Pid} {number : Nat} : call.progress = .made pid number →
      Effect crowd caller call (.answered (.spawned pid))
        ({ crowd with table := Function.update crowd.table pid (some number) }.note
          (.inserted caller pid number)).unlock
  | find {pid : Pid} {number : Nat} {progress : Progress} : crowd.table pid = some number →
      Finds call pid number progress →
      Effect crowd caller call progress (crowd.note (.found caller pid number))
  | remove {pid : Pid} {number : Nat} {progress : Progress} : crowd.table pid = some number →
      Removes call pid number progress →
      Effect crowd caller call progress
        ({ crowd with table := Function.update crowd.table pid none }.note
          (.removed caller pid number))
  | begin {number : Nat} {next : Progress} {member : Member} :
      call.progress = .ending number .beginning next → crowd.members[number]? = some member →
      Effect crowd caller call (.ending number .joining next)
        (crowd.change number { member with life := member.life.beginShutdown.2 })
  | join {number : Nat} {next : Progress} {member : Member} :
      call.progress = .ending number .joining next → crowd.members[number]? = some member →
      Effect crowd caller call (.ending number .marking next)
        (crowd.change number { member with stopped := true })
  | mark {number : Nat} {next : Progress} {member : Member} :
      call.progress = .ending number .marking next → crowd.members[number]? = some member →
      Effect crowd caller call next
        { crowd.change number
            { member with life := (member.life.markTerminated crowd.terminals).2.1 } with
          terminals := (member.life.markTerminated crowd.terminals).2.2 }

/-- **What one step of one party does.** -/
inductive Stepped (crowd : Crowd) : Crowd → Prop
  | call {caller : Nat} {call : Call} {progress : Progress} {shared : Crowd} :
      crowd.calls[caller]? = some call → Effect crowd caller call progress shared →
      Stepped crowd (shared.progress caller progress)
  | exit {number : Nat} {member : Member} {code : ExitCode} :
      crowd.members[number]? = some member →
      Stepped crowd { crowd.change number
          { member with life := (member.life.markExited code crowd.terminals).2.1 } with
        terminals := (member.life.markExited code crowd.terminals).2.2 }

/-! ### Every step is one of these -/

theorem of_search {task : Task} (here : crowd.calls[caller]? = some ⟨task, .searching pid⟩) :
    Stepped crowd (crowd.search caller pid) := by
  unfold search
  by_cases free : (crowd.table pid).isNone
  · rw [if_pos free]
    exact .call here (.pass (.free rfl (Option.isNone_iff_eq_none.mp free)))
  · rw [if_neg free]
    by_cases more : pid < lastPid
    · rw [if_pos more]
      exact .call here (.pass (.taken rfl))
    · rw [if_neg more]
      exact .call here (.unlock (.inl rfl))

theorem of_construct {failure : Option ProcessError}
    (taken : crowd.construct caller failure = some after) : Stepped crowd after := by
  unfold construct at taken
  split at taken
  · rename_i here
    cases failure with
    | some error =>
      cases taken
      exact .call here (.unlock (.inr rfl))
    | none =>
      cases taken
      exact .call here (.make rfl)
  · cases taken

/-- Ending a process a second time changes nothing. -/
theorem change_again {member : Member} (there : crowd.members[number]? = some member)
    (begun : member.life.shuttingDown = true) :
    crowd.change number { member with life := member.life.beginShutdown.2 } = crowd := by
  have same : { member with life := member.life.beginShutdown.2 } = member := by
    show { member with life := { member.life with shuttingDown := true } } = member
    rw [← begun]
  rw [same]
  show { crowd with members := crowd.members.set number member } = crowd
  obtain ⟨inside, rfl⟩ := List.getElem?_eq_some_iff.mp there
  rw [List.set_getElem_self]

theorem of_endPart {task : Task} {part : Part} {next : Progress} {member : Member}
    (here : crowd.calls[caller]? = some ⟨task, .ending number part next⟩)
    (there : crowd.members[number]? = some member) :
    Stepped crowd (crowd.endPart caller number member next part) := by
  cases part with
  | beginning =>
    by_cases begun : member.life.shuttingDown = true
    · have same : crowd.endPart caller number member next .beginning = crowd.progress caller next := by
        have unchanged := change_again there begun
        have first : member.life.beginShutdown.1 = false := by
          show (!member.life.shuttingDown) = false
          rw [begun]
          rfl
        show (crowd.change number { member with life := member.life.beginShutdown.2 }).progress caller
          (if member.life.beginShutdown.1 then .ending number .joining next else next) = _
        rw [unchanged, first]
        rfl
      rw [same]
      exact .call here (.pass (.again rfl there begun))
    · have first : member.life.beginShutdown.1 = true := by
        show (!member.life.shuttingDown) = true
        rw [eq_false_of_ne_true begun]
        rfl
      have same : crowd.endPart caller number member next .beginning =
          (crowd.change number { member with life := member.life.beginShutdown.2 }).progress caller
            (.ending number .joining next) := by
        show (crowd.change number { member with life := member.life.beginShutdown.2 }).progress caller
          (if member.life.beginShutdown.1 then .ending number .joining next else next) = _
        rw [first]
        rfl
      rw [same]
      exact .call here (.begin rfl there)
  | joining => exact .call here (.join rfl there)
  | marking => exact .call here (.mark rfl there)

theorem of_lookUp (here : crowd.calls[caller]? = some ⟨.terminate pid, .outside⟩) :
    Stepped crowd (crowd.lookUp caller pid) := by
  unfold lookUp
  cases found : crowd.table pid with
  | none => exact .call here (.pass (.unknown rfl rfl))
  | some number => exact .call here (.find found (.terminate rfl rfl))

theorem of_takeOut {absent : Progress} {present : Nat → Progress}
    (here : crowd.calls[caller]? = some call) (passes : Passes crowd call absent)
    (removes : ∀ number, Removes call pid number (present number)) :
    Stepped crowd (crowd.takeOut caller pid absent present) := by
  unfold takeOut
  cases found : crowd.table pid with
  | none => exact .call here (.pass passes)
  | some number => exact .call here (.remove found (removes number))

theorem of_visit (taken : crowd.visit caller pid = some after) : Stepped crowd after := by
  unfold visit at taken
  split at taken
  · rename_i here found
    split at taken
    · split at taken
      · cases taken
        exact .call here (.find found (.sweep rfl))
      · cases taken
    · cases taken
  · cases taken

theorem of_letGo {last : Bool} (taken : crowd.letGo caller last = some after) :
    Stepped crowd after := by
  unfold letGo at taken
  split at taken
  · rename_i here
    cases last with
    | true =>
      simp only [if_true] at taken
      split at taken
      · cases taken
      · cases taken
        exact .call here (.pass (.last rfl))
    | false =>
      cases taken
      exact .call here (.pass (.left rfl))
  · cases taken

theorem of_start {task : Task} (here : crowd.calls[caller]? = some ⟨task, .outside⟩)
    (taken : crowd.start caller task = some after) : Stepped crowd after := by
  cases task with
  | spawn =>
    simp only [start] at taken
    split at taken
    · cases taken
    · rename_i unlocked
      cases taken
      exact .call here (.lock rfl rfl (eq_false_of_ne_true unlocked))
  | terminate pid =>
    cases taken
    exact of_lookUp here
  | reap =>
    cases taken
    exact .call here (.pass (.sweep (.inl rfl) rfl))
  | shutdownAll =>
    cases taken
    exact .call here (.pass (.sweep (.inr rfl) rfl))
  | endMember number =>
    simp only [start] at taken
    split at taken
    · cases taken
      exact .call here (.pass (.direct rfl rfl))
    · cases taken

theorem of_advance (taken : crowd.advance caller = some after) : Stepped crowd after := by
  unfold advance at taken
  split at taken
  · rename_i here
    exact of_start here taken
  · rename_i here
    cases taken
    exact of_search here
  · rename_i here
    cases taken
    exact .call here (.insert rfl)
  · rename_i here
    obtain ⟨member, there, rfl⟩ := Option.map_eq_some_iff.mp taken
    exact of_endPart here there
  · rename_i here
    cases taken
    exact of_takeOut here (.absent rfl) fun _ => .terminate rfl
  · rename_i here
    cases taken
    exact .call here (.pass (.collected rfl))
  · rename_i here
    cases taken
    exact of_takeOut here (.skipped rfl) fun _ => .sweep rfl
  · rename_i here
    cases taken
    exact .call here (.pass (.cleared rfl))
  · cases taken

theorem of_exit {code : ExitCode} (taken : crowd.exit number code = some after) :
    Stepped crowd after := by
  unfold exit at taken
  split at taken
  · rename_i there
    split at taken
    · cases taken
    · cases taken
      exact .exit there
  · cases taken

/-- **Every step does one of these things.** -/
theorem of_step {move : Move} (taken : crowd.step move = some after) : Stepped crowd after := by
  cases move with
  | advance caller => exact of_advance taken
  | construct caller failure => exact of_construct taken
  | visit caller pid => exact of_visit taken
  | letGo caller last => exact of_letGo taken
  | exit number code => exact of_exit taken

/-! ### What a step leaves as it is -/

/-- What the calls share holds nothing of how far they have come. -/
theorem Effect.calls {shared : Crowd} (effect : Effect crowd caller call progress shared) :
    shared.calls = crowd.calls := by
  cases effect <;> rfl

/-- The call that moves. -/
theorem calls_progress_self {shared : Crowd} (same : shared.calls = crowd.calls)
    (here : crowd.calls[caller]? = some call) :
    (shared.progress caller progress).calls[caller]? = some { call with progress } := by
  show (shared.calls.modify caller _)[caller]? = _
  rw [List.getElem?_modify_eq, same, here]
  rfl

/-- Any other call. -/
theorem calls_progress_other {shared : Crowd} (same : shared.calls = crowd.calls) {other : Nat}
    (different : other ≠ caller) :
    (shared.progress caller progress).calls[other]? = crowd.calls[other]? := by
  show (shared.calls.modify caller _)[other]? = _
  rw [List.getElem?_modify_ne _ _ (Ne.symm different), same]

/-- **A call that is found after a step is the one that moved, or stands where it stood.** -/
theorem calls_progress {shared : Crowd} (same : shared.calls = crowd.calls)
    (here : crowd.calls[caller]? = some call) {other : Nat} {later : Call}
    (there : (shared.progress caller progress).calls[other]? = some later) :
    (other = caller ∧ later = { call with progress }) ∨
      (other ≠ caller ∧ crowd.calls[other]? = some later) := by
  by_cases moved : other = caller
  · subst moved
    rw [calls_progress_self same here] at there
    exact .inl ⟨rfl, (Option.some.inj there).symm⟩
  · rw [calls_progress_other same moved] at there
    exact .inr ⟨moved, there⟩

/-- A process that was made is still there when another is changed, or when it is. -/
theorem grows_change {place : Nat} {old new member : Member} (there : crowd.members[place]? = some old)
    (grows : old.Grows new) (here : crowd.members[number]? = some member) :
    ∃ later, (crowd.change place new).members[number]? = some later ∧ member.Grows later := by
  show ∃ later, (crowd.members.set place new)[number]? = some later ∧ member.Grows later
  by_cases same : place = number
  · subst same
    cases here.symm.trans there
    obtain ⟨inside, -⟩ := List.getElem?_eq_some_iff.mp there
    exact ⟨new, List.getElem?_set_self inside, grows⟩
  · exact ⟨member, (List.getElem?_set_ne same).trans here, .refl member⟩

theorem Effect.grows {shared : Crowd} (effect : Effect crowd caller call progress shared)
    {member : Member} (here : crowd.members[number]? = some member) :
    ∃ later, shared.members[number]? = some later ∧ member.Grows later := by
  cases effect with
  | begin _ there => exact grows_change there (.begin _) here
  | join _ there => exact grows_change there (.stop _) here
  | mark _ there => exact grows_change there (Member.Grows.mark _ _).1 here
  | make =>
    obtain ⟨inside, -⟩ := List.getElem?_eq_some_iff.mp here
    exact ⟨member, (List.getElem?_append_left inside).trans here, .refl member⟩
  | pass | lock | unlock | insert | find | remove => exact ⟨member, here, .refl member⟩

/-- **No step undoes the end of a process**, or that it has begun. -/
theorem Stepped.grows (step : Stepped crowd after) {member : Member}
    (here : crowd.members[number]? = some member) :
    ∃ later, after.members[number]? = some later ∧ member.Grows later := by
  cases step with
  | call _ effect => exact effect.grows here
  | exit there => exact grows_change there (.exit _ _ _) here

/-! ### Schedules -/

/-- **What every step keeps, every schedule keeps.** -/
theorem run_invariant {kept : Crowd → Prop}
    (keeps : ∀ {crowd after : Crowd}, Stepped crowd after → kept crowd → kept after)
    (schedule : List Move) (before : kept crowd) : kept (crowd.run schedule) := by
  induction schedule generalizing crowd with
  | nil => exact before
  | cons move rest ih =>
    refine ih ?_
    show kept ((crowd.step move).getD crowd)
    cases taken : crowd.step move with
    | none => exact before
    | some after => exact keeps (of_step taken) before

end Crowd

end ScriptKernel.Manager
