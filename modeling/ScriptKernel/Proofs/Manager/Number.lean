/-
**Whose number is free again.**

A number is free as soon as its process is taken out, and that can come before the end of the process.

* `Crowd.InHand`: a process that has ended, or that a call is about to wait for or to mark; every process whose end
  has begun is (`Tended.stepped`);
* `Crowd.Departed`: **who takes a process out before its end**: another call is in the middle of ending it, or the
  one that took it out ends it next, or a terminate has taken it out in another's place;
* `Crowd.Numbered`: a process has its number in the table, is about to get it, or was taken out;
* `number_released`: **two processes that have not ended have one number only if one of them was taken out too
  early**, in any schedule of any calls;
* `number_released_early`: there are such processes.
-/

import ScriptKernel.Proofs.Manager.Removal

set_option autoImplicit false

namespace ScriptKernel.Manager.Crowd

variable {crowd after shared origin : Crowd} {caller number : Nat} {call : Call} {pid : Pid}
  {progress : Progress}

/-- The process has ended. -/
def IsOver (crowd : Crowd) (number : Nat) : Prop :=
  ∃ member, crowd.members[number]? = some member ∧ member.isFinished = true

/-- A call is in the middle of ending the process, with some part of that. -/
def IsEnded (crowd : Crowd) (number : Nat) (reached : Part → Prop) : Prop :=
  ∃ (caller : Nat) (call : Call) (part : Part) (next : Progress), crowd.calls[caller]? = some call ∧
    call.progress = .ending number part next ∧ reached part

/-- **The process has ended, or the call that ends it is about to wait for its worker or to mark its end.** -/
def InHand (crowd : Crowd) (number : Nat) : Prop :=
  crowd.IsOver number ∨ crowd.IsEnded number (· ≠ .beginning)

/-- A call that takes out a process has found another one under the number. -/
def Strays (crowd : Crowd) (caller : Nat) (pid : Pid) (number : Nat) : Prop :=
  ∃ call found, crowd.calls[caller]? = some call ∧ call.task = .terminate pid ∧
    .found caller pid found ∈ crowd.log ∧ found ≠ number

/-! ### Processes whose end has begun -/

theorem Stepped.isOver (step : Stepped crowd after) (isOver : crowd.IsOver number) : after.IsOver number := by
  obtain ⟨member, here, finished⟩ := isOver
  obtain ⟨later, there, grows⟩ := step.grows here
  exact ⟨later, there, grows.finished finished⟩

/-- A call that marks a process leaves it ended. -/
theorem over_of_mark {member : Member} (there : crowd.members[number]? = some member)
    (terminals : Terminals) :
    (crowd.change number
      { member with life := (member.life.markTerminated terminals).2.1 }).IsOver number := by
  obtain ⟨inside, -⟩ := List.getElem?_eq_some_iff.mp there
  exact ⟨_, List.getElem?_set_self inside, (Member.Grows.mark member terminals).2⟩

/-- **A call that ends a process goes on with that**, until the process has ended, unless another has begun before
it. -/
theorem Stepped.ending (step : Stepped crowd after) (here : crowd.calls[caller]? = some call)
    {part : Part} {next : Progress} (ending : call.progress = .ending number part next) :
    after.IsOver number ∨
      after.IsEnded number (fun later => part ≠ .beginning → later ≠ .beginning) ∨
      (part = .beginning ∧ crowd.IsClosing number) := by
  cases step with
  | exit => exact .inr (.inl ⟨caller, call, part, next, here, ending, id⟩)
  | @call actor moved progress shared there effect =>
    by_cases mine : caller = actor
    · subst mine
      cases here.symm.trans there
      have self : (shared.progress caller progress).calls[caller]? = some { call with progress } :=
        calls_progress_self effect.calls here
      obtain ⟨task, reached⟩ := call
      have same : reached = .ending number part next := ending
      subst same
      cases effect with
      | pass passes =>
        cases passes with
        | again same member begun =>
          cases same
          exact .inr (.inr ⟨rfl, _, member, begun⟩)
        | free same | taken same | absent same | collected same | skipped same | cleared same
        | left same | last same | unknown _ same | sweep _ same | direct _ same => cases same
      | begin same =>
        cases same
        exact .inr (.inl ⟨caller, _, .joining, next, self, rfl, fun _ => nofun⟩)
      | join same =>
        cases same
        exact .inr (.inl ⟨caller, _, .marking, next, self, rfl, fun _ => nofun⟩)
      | mark same member =>
        cases same
        exact .inl (over_of_mark member crowd.terminals)
      | find _ finds => cases finds <;> contradiction
      | remove _ removes => cases removes <;> contradiction
      | unlock had => rcases had with same | same <;> cases same
      | make same | insert same | lock _ same => cases same
    · refine .inr (.inl ⟨caller, call, part, next, ?_, ending, id⟩)
      rw [calls_progress_other effect.calls mine]
      exact here

/-- **A process in hand stays so.** -/
theorem Stepped.inHand (step : Stepped crowd after) (inHand : crowd.InHand number) :
    after.InHand number := by
  rcases inHand with isOver | ⟨caller, call, part, next, here, ending, begun⟩
  · exact .inl (step.isOver isOver)
  · rcases step.ending here ending with isOver | ⟨caller, call, part, next, there, same, later⟩ |
      ⟨first, -⟩
    · exact .inl isOver
    · exact .inr ⟨caller, call, part, next, there, same, later begun⟩
    · exact absurd first begun

/-- A process that is changed. -/
theorem closing_change {place : Nat} {old new : Member} (there : crowd.members[place]? = some old)
    (closing : (crowd.change place new).IsClosing number) :
    (number = place ∧ new.life.shuttingDown = true) ∨ crowd.IsClosing number := by
  obtain ⟨member, here, begun⟩ := closing
  have here : (crowd.members.set place new)[number]? = some member := here
  by_cases same : number = place
  · subst same
    obtain ⟨inside, -⟩ := List.getElem?_eq_some_iff.mp there
    rw [List.getElem?_set_self inside] at here
    cases here
    exact .inl ⟨rfl, begun⟩
  · rw [List.getElem?_set_ne (Ne.symm same)] at here
    exact .inr ⟨member, here, begun⟩

/-- **Every process whose end has begun is in hand.** -/
def Tended (crowd : Crowd) : Prop := ∀ number, crowd.IsClosing number → crowd.InHand number

theorem Fresh.tended (fresh : crowd.Fresh) : crowd.Tended := by
  rintro number ⟨member, here, -⟩
  rw [fresh.members] at here
  cases here

theorem Tended.stepped (step : Stepped crowd after) (tended : crowd.Tended) : after.Tended := by
  intro number closing
  -- only the first call to begin the end of a process makes a new one of these
  have old (before : crowd.IsClosing number) : after.InHand number := step.inHand (tended number before)
  cases step with
  | @exit place member code there =>
    rcases closing_change there closing with ⟨rfl, begun⟩ | before
    · refine old ⟨member, there, ?_⟩
      have kept : (member.life.markExited code crowd.terminals).2.1.shuttingDown =
          member.life.shuttingDown := by
        unfold Lifecycle.markExited
        split <;> rfl
      exact kept.symm.trans begun
    · exact old before
  | @call caller call progress shared here effect =>
    cases effect with
    | pass | lock | unlock | insert | find | remove => exact old closing
    | make =>
      obtain ⟨member, there, begun⟩ := closing
      have there : (crowd.members ++ [_])[number]? = some member := there
      by_cases inside : number < crowd.members.length
      · rw [List.getElem?_append_left inside] at there
        exact old ⟨member, there, begun⟩
      · rw [List.getElem?_append_right (Nat.le_of_not_lt inside)] at there
        cases List.mem_singleton.mp (List.mem_of_getElem? there)
        cases begun
    | @begin place next member same there =>
      rcases closing_change there closing with ⟨rfl, -⟩ | before
      · exact .inr ⟨caller, _, .joining, next, calls_progress_self rfl here, rfl, nofun⟩
      · exact old before
    | @join place next member same there =>
      rcases closing_change there closing with ⟨rfl, begun⟩ | before
      · exact old ⟨member, there, begun⟩
      · exact old before
    | @mark place next member same there =>
      rcases closing_change there closing with ⟨rfl, begun⟩ | before
      · exact .inl (over_of_mark there crowd.terminals)
      · exact old before

/-! ### Processes that were taken out -/

/-- **What is known of a process that a call has taken out**: it has ended, or a call is in the middle of ending it,
or it was taken out in another's place. -/
def Departed (crowd : Crowd) (caller : Nat) (pid : Pid) (number : Nat) : Prop :=
  crowd.IsOver number ∨ crowd.IsEnded number (fun _ => True) ∨ crowd.Strays caller pid number

/-- What a call is for does not change. -/
theorem Stepped.task (step : Stepped crowd after) (here : crowd.calls[caller]? = some call) :
    ∃ later, after.calls[caller]? = some later ∧ later.task = call.task := by
  cases step with
  | exit => exact ⟨call, here, rfl⟩
  | @call actor moved progress shared there effect =>
    by_cases mine : caller = actor
    · subst mine
      cases here.symm.trans there
      exact ⟨_, calls_progress_self effect.calls here, rfl⟩
    · exact ⟨call, (calls_progress_other effect.calls mine).trans here, rfl⟩

theorem Stepped.log_sublist (step : Stepped crowd after) : crowd.log.Sublist after.log := by
  cases step with
  | exit => exact .refl _
  | call _ effect => exact effect.log_sublist

theorem Stepped.strays (step : Stepped crowd after) (strays : crowd.Strays caller pid number) :
    after.Strays caller pid number := by
  obtain ⟨call, found, here, task, seen, other⟩ := strays
  obtain ⟨later, there, same⟩ := step.task here
  exact ⟨later, found, there, same.trans task, step.log_sublist.subset seen, other⟩

theorem InHand.departed (inHand : crowd.InHand number) : crowd.Departed caller pid number := by
  rcases inHand with isOver | ⟨ender, call, part, next, here, ending, -⟩
  · exact .inl isOver
  · exact .inr (.inl ⟨ender, call, part, next, here, ending, trivial⟩)

/-- **What is known of a process that was taken out outlasts every step.** -/
theorem Departed.stepped (step : Stepped crowd after) (tended : crowd.Tended)
    (departed : crowd.Departed caller pid number) : after.Departed caller pid number := by
  rcases departed with isOver | ⟨ender, call, part, next, here, ending, -⟩ | strays
  · exact .inl (step.isOver isOver)
  · rcases step.ending here ending with isOver | ⟨ender, call, part, next, there, same, -⟩ |
      ⟨-, closing⟩
    · exact .inl isOver
    · exact .inr (.inl ⟨ender, call, part, next, there, same, trivial⟩)
    · exact (step.inHand (tended number closing)).departed
  · exact .inr (.inr (step.strays strays))

/-- **A process is taken out** by a call that has ended it or ends it next, or by a terminate that has found another
one. -/
theorem Effect.departed (courses : crowd.Courses) (tended : crowd.Tended)
    (here : crowd.calls[caller]? = some call) (effect : Effect crowd caller call progress shared)
    (removed : .removed caller pid number ∈ shared.log) (new : .removed caller pid number ∉ crowd.log) :
    (shared.progress caller progress).Departed caller pid number := by
  have step : Stepped crowd (shared.progress caller progress) := .call here effect
  have self : (shared.progress caller progress).calls[caller]? = some { call with progress } :=
    calls_progress_self effect.calls here
  cases effect with
  | pass | lock | unlock | make | begin | join | mark => exact absurd removed new
  | insert | find =>
    rcases List.mem_append.mp removed with old | last
    · exact absurd old new
    · cases List.mem_singleton.mp last
  | @remove place gone _ there removes =>
    rcases List.mem_append.mp removed with old | last
    · exact absurd old new
    · cases List.mem_singleton.mp last
      cases removes with
      | sweep => exact .inr (.inl ⟨caller, _, .beginning, _, self, rfl, trivial⟩)
      | @terminate found same =>
        have task : call.task = .terminate pid := by
          refine (courses.exclusive.sound caller call here).own pid ?_
          rw [same]
          rfl
        have course := courses.course caller call pid here task
        rw [same] at course
        cases course with
        | ended alone _ closing =>
          by_cases other : found = number
          · subst other
            exact (step.inHand (tended found closing)).departed
          · have seen : .found caller pid found ∈ crowd.deeds caller := by
              rw [alone]
              exact .head _
            exact .inr (.inr ⟨_, found, self, task,
              step.log_sublist.subset (mem_log_of_deeds seen), other⟩)

/-! ### Numbers -/

/-- The number of a process. -/
def pidOf (crowd : Crowd) (number : Nat) : Option Pid :=
  (crowd.members[number]?).map fun member => member.life.pid

/-- **A process has its number in the table, or is about to get it, or was taken out.** -/
def Numbered (crowd : Crowd) : Prop :=
  ∀ number pid, crowd.pidOf number = some pid → crowd.table pid = some number ∨
    (∃ (caller : Nat) (call : Call), crowd.calls[caller]? = some call ∧
      call.progress = .made pid number) ∨
    ∃ caller, .removed caller pid number ∈ crowd.log

theorem Fresh.numbered (fresh : crowd.Fresh) : crowd.Numbered := by
  intro number pid same
  unfold Crowd.pidOf at same
  rw [fresh.members] at same
  cases same

/-- Only one step makes a process. -/
theorem Effect.members_length (effect : Effect crowd caller call progress shared) :
    shared.members.length = crowd.members.length ∨
      ∃ pid, progress = .made pid crowd.members.length ∧
        shared.members = crowd.members ++ [.fresh pid crowd.terminal] := by
  cases effect with
  | make => exact .inr ⟨_, rfl, rfl⟩
  | pass | lock | unlock | insert | find | remove => exact .inl rfl
  | begin | join | mark => exact .inl List.length_set

/-- **A process keeps its number**, and one that is made is about to get it. -/
theorem Stepped.pidOf (step : Stepped crowd after) (same : after.pidOf number = some pid) :
    crowd.pidOf number = some pid ∨
      ∃ (caller : Nat) (call : Call), after.calls[caller]? = some call ∧
        call.progress = .made pid number := by
  by_cases inside : number < crowd.members.length
  · have here : crowd.members[number]? = some crowd.members[number] := List.getElem?_eq_getElem inside
    obtain ⟨later, there, grows⟩ := step.grows here
    unfold Crowd.pidOf at same ⊢
    rw [there] at same
    rw [here]
    exact .inl ((congrArg some grows.pid).symm.trans same)
  · obtain ⟨member, there, named⟩ := Option.map_eq_some_iff.mp same
    have outside {members : List Member} (found : members[number]? = some member)
        (length : members.length = crowd.members.length) : False := by
      obtain ⟨bound, -⟩ := List.getElem?_eq_some_iff.mp found
      omega
    cases step with
    | exit => exact absurd List.length_set (outside there)
    | @call caller call progress shared here effect =>
      have there : shared.members[number]? = some member := there
      rcases effect.members_length with length | ⟨place, made, longer⟩
      · exact absurd length (outside there)
      · rw [longer, List.getElem?_append_right (Nat.le_of_not_lt inside)] at there
        obtain ⟨bound, new⟩ := List.getElem?_eq_some_iff.mp there
        have last : number = crowd.members.length := by
          simp only [List.length_singleton] at bound
          omega
        subst last
        cases List.mem_singleton.mp (List.mem_of_getElem? there)
        cases named
        exact .inr ⟨caller, _, calls_progress_self effect.calls here, made⟩

/-- A step of a call leaves a process in the table, or takes it out. -/
theorem Effect.table (exclusive : crowd.Exclusive) (here : crowd.calls[caller]? = some call)
    (effect : Effect crowd caller call progress shared) (there : crowd.table pid = some number) :
    shared.table pid = some number ∨ .removed caller pid number ∈ shared.log := by
  cases effect with
  | pass | lock | unlock | make | find | begin | join | mark => exact .inl there
  | @insert place new made =>
    have free : crowd.table place = none := by
      refine exclusive.free caller call place here ?_
      rw [made]
      rfl
    have other : pid ≠ place := by
      rintro rfl
      cases free.symm.trans there
    exact .inl ((Function.update_of_ne other _ _).trans there)
  | @remove place gone _ found =>
    by_cases same : pid = place
    · subst same
      cases there.symm.trans found
      exact .inr (List.mem_append_right _ (.head _))
    · exact .inl ((Function.update_of_ne same _ _).trans there)

/-- A call that has made a process puts it into the table. -/
theorem Effect.made (made : call.progress = .made pid number)
    (effect : Effect crowd caller call progress shared) : shared.table pid = some number := by
  obtain ⟨task, reached⟩ := call
  have made : reached = .made pid number := made
  subst made
  cases effect with
  | insert same =>
    cases same
    exact Function.update_self _ _ _
  | pass passes =>
    cases passes with
    | free same | taken same | absent same | collected same | skipped same | cleared same
    | left same | last same | again same | unknown _ same | sweep _ same | direct _ same =>
      cases same
  | find _ finds => cases finds <;> contradiction
  | remove _ removes => cases removes <;> contradiction
  | unlock had => rcases had with same | same <;> cases same
  | make same | begin same | join same | mark same | lock _ same => cases same

theorem Numbered.stepped (step : Stepped crowd after) (exclusive : crowd.Exclusive)
    (numbered : crowd.Numbered) : after.Numbered := by
  intro number pid same
  have longer := step.log_sublist
  rcases step.pidOf same with before | new
  · cases step with
    | exit => exact numbered number pid before
    | @call caller call progress shared here effect =>
      rcases numbered number pid before with there | ⟨maker, made, found, reached⟩ | ⟨remover, gone⟩
      · rcases effect.table exclusive here there with still | removed
        · exact .inl still
        · exact .inr (.inr ⟨caller, removed⟩)
      · by_cases mine : maker = caller
        · subst mine
          cases here.symm.trans found
          have there : shared.table pid = some number := effect.made reached
          exact .inl there
        · exact .inr (.inl ⟨maker, made, (calls_progress_other effect.calls mine).trans found, reached⟩)
      · exact .inr (.inr ⟨remover, longer.subset gone⟩)
  · exact .inr (.inl new)

/-- **Of two processes with one number, one was taken out.** -/
theorem Numbered.apart (numbered : crowd.Numbered) (exclusive : crowd.Exclusive) {other : Nat}
    (different : number ≠ other) (first : crowd.pidOf number = some pid)
    (second : crowd.pidOf other = some pid) :
    ∃ gone caller, (gone = number ∨ gone = other) ∧ .removed caller pid gone ∈ crowd.log := by
  -- the number of a process that is being made is free
  have free {maker place : Nat} {call : Call} (here : crowd.calls[maker]? = some call)
      (made : call.progress = .made pid place) : crowd.table pid = none := by
    refine exclusive.free maker call pid here ?_
    rw [made]
    rfl
  rcases numbered number pid first with there | ⟨maker, call, here, made⟩ | ⟨caller, removed⟩
  · rcases numbered other pid second with found | ⟨maker, call, here, made⟩ | ⟨caller, removed⟩
    · exact absurd (Option.some.inj (there.symm.trans found)) different
    · cases (free here made).symm.trans there
    · exact ⟨other, caller, .inr rfl, removed⟩
  · rcases numbered other pid second with found | ⟨also, too, there, same⟩ | ⟨caller, removed⟩
    · cases (free here made).symm.trans found
    · have making {call : Call} {place : Nat} (made : call.progress = .made pid place) :
          call.progress.isMaking = true := by
        rw [made]
        rfl
      cases exclusive.alone maker also call too here there (making made) (making same)
      cases here.symm.trans there
      cases made.symm.trans same
      exact absurd rfl different
    · exact ⟨other, caller, .inr rfl, removed⟩
  · exact ⟨number, caller, .inl rfl, removed⟩

/-! ### Every schedule -/

/-- **What is known of every process.** -/
structure Accounted (crowd : Crowd) : Prop where
  courses : crowd.Courses
  tended : crowd.Tended
  departed : ∀ (caller : Nat) (pid : Pid) (number : Nat), .removed caller pid number ∈ crowd.log →
    crowd.Departed caller pid number
  numbered : crowd.Numbered

theorem Fresh.accounted (fresh : crowd.Fresh) : crowd.Accounted := by
  refine ⟨fresh.courses, fresh.tended, fun caller pid number removed => ?_, fresh.numbered⟩
  rw [fresh.log] at removed
  cases removed

theorem Accounted.stepped (step : Stepped crowd after) (accounted : crowd.Accounted) :
    after.Accounted := by
  refine ⟨accounted.courses.stepped step, accounted.tended.stepped step,
    fun caller pid number removed => ?_, accounted.numbered.stepped step accounted.courses.exclusive⟩
  by_cases old : .removed caller pid number ∈ crowd.log
  · exact (accounted.departed caller pid number old).stepped step accounted.tended
  · cases step with
    | exit => exact absurd removed old
    | @call actor call progress shared here effect =>
      have mine : actor = caller := by
        rcases effect.log_cases with same | ⟨event, his, longer⟩
        · exact absurd (same ▸ removed) old
        · have removed : .removed caller pid number ∈ shared.log := removed
          rw [longer] at removed
          rcases List.mem_append.mp removed with before | last
          · exact absurd before old
          · rw [← his, ← List.mem_singleton.mp last]
            rfl
      subst mine
      exact effect.departed accounted.courses accounted.tended here removed old

theorem Accounted.run (accounted : crowd.Accounted) (schedule : List Move) :
    (crowd.run schedule).Accounted :=
  run_invariant Accounted.stepped schedule accounted

/-- **Whose number is free again.** In any schedule of any calls, a process that was taken out has ended, or a call
is in the middle of ending it, or a terminate took it out in another's place; and of two processes that have not
ended and have one number, one was taken out like that. -/
theorem number_released (fresh : origin.Fresh) (schedule : List Move) :
    (∀ caller pid number, .removed caller pid number ∈ (origin.run schedule).log →
      (origin.run schedule).Departed caller pid number) ∧
    ∀ first second pid, first ≠ second → (origin.run schedule).pidOf first = some pid →
      (origin.run schedule).pidOf second = some pid → ¬ (origin.run schedule).IsOver first →
      ¬ (origin.run schedule).IsOver second →
      ∃ gone caller, (gone = first ∨ gone = second) ∧
        .removed caller pid gone ∈ (origin.run schedule).log ∧
        ((origin.run schedule).IsEnded gone (fun _ => True) ∨
          (origin.run schedule).Strays caller pid gone) := by
  have accounted := fresh.accounted.run schedule
  refine ⟨accounted.departed, fun first second pid different one two goesOn alive => ?_⟩
  obtain ⟨gone, caller, either, removed⟩ :=
    accounted.numbered.apart accounted.courses.exclusive different one two
  refine ⟨gone, caller, either, removed, ?_⟩
  rcases accounted.departed caller pid gone removed with isOver | departed
  · rcases either with rfl | rfl
    · exact absurd isOver goesOn
    · exact absurd isOver alive
  · exact departed

/-! ### Two processes with one number -/

/-- The first process was taken out while a terminate was in the middle of ending it. -/
theorem number_released_of_hurry :
    (hurried.run hurriedSchedule).Departed 2 1 0 :=
  (number_released hurried_fresh hurriedSchedule).1 2 1 0 (by decide)

/-- **Two processes that have not ended have one number**: the reap takes out the first while it is being ended. -/
theorem number_released_early :
    ∃ (origin : Crowd) (schedule : List Move), origin.Fresh ∧
      .removed 2 1 0 ∈ (origin.run schedule).log ∧
      ((origin.run schedule).members.map fun member => (member.life.pid, member.isFinished)) =
        [(1, false), (1, false)] ∧
      (origin.run schedule).table 1 = some 1 := by
  refine ⟨hurried, hurriedSchedule, hurried_fresh, ?_, ?_, ?_⟩ <;> decide

end ScriptKernel.Manager.Crowd
