/-
**Which process a terminate takes out.**

A terminate looks up the process of a number and ends it, and then takes out the process that the number has by
then.

* `Crowd.deeds`: what one call has done to numbers, in order;
* `Crowd.Since`: what can have become of a number since a call found a process there;
* `Crowd.Course`: **how far a terminate has come, and what it has done so far**; every step keeps it
  (`Courses.stepped`);
* `removed_by_terminate`: **a terminate takes out the process it has ended, or one that was made later**, after
  another call had taken the first one out;
* `stranger_removed`: the second does happen, to a process that nobody has asked to end.
-/

import ScriptKernel.Proofs.Manager.Lock

set_option autoImplicit false

namespace ScriptKernel.Manager

/-- The call that did it. -/
def Event.caller : Event → Nat
  | .found caller _ _ | .inserted caller _ _ | .removed caller _ _ => caller

namespace Crowd

variable {crowd after shared origin : Crowd} {caller actor found number : Nat} {call : Call}
  {pid : Pid} {progress : Progress}

/-- What a call has done to numbers. -/
def deeds (crowd : Crowd) (caller : Nat) : List Event :=
  crowd.log.filter fun event => event.caller == caller

/-- Someone has begun to end the process. -/
def IsClosing (crowd : Crowd) (number : Nat) : Prop :=
  ∃ member, crowd.members[number]? = some member ∧ member.life.shuttingDown = true

/-- **What has become of a number since a call found a process there**: nothing, or another call has taken that
process out, and the process that the number has now, if any, was put in afterwards. -/
def Since (crowd : Crowd) (caller : Nat) (pid : Pid) (found : Nat) : Prop :=
  crowd.table pid = some found ∨
    ∃ other, other ≠ caller ∧
      [.found caller pid found, .removed other pid found].Sublist crowd.log ∧
      ∀ number, crowd.table pid = some number → ∃ spawner,
        [.found caller pid found, .removed other pid found, .inserted spawner pid number].Sublist
          crowd.log

/-- **A terminate has ended one process and taken out one**: the same, or one that was put in after another call
had taken out the first. -/
structure TookOut (crowd : Crowd) (caller : Nat) (pid : Pid) (found removed : Nat) : Prop where
  deeds : crowd.deeds caller = [.found caller pid found, .removed caller pid removed]
  closing : crowd.IsClosing found
  cause : removed = found ∨ ∃ other spawner, other ≠ caller ∧
    [.found caller pid found, .removed other pid found, .inserted spawner pid removed,
      .removed caller pid removed].Sublist crowd.log

/-- **How far a terminate has come**, and what it has done to its number so far. -/
inductive Course (crowd : Crowd) (caller : Nat) (pid : Pid) : Progress → Prop
  | outside : crowd.deeds caller = [] → Course crowd caller pid .outside
  | unknown : crowd.deeds caller = [] → Course crowd caller pid (.answered (.refused (.notFound pid)))
  | ending {found : Nat} {part : Part} : crowd.deeds caller = [.found caller pid found] →
      crowd.Since caller pid found → (part ≠ .beginning → crowd.IsClosing found) →
      Course crowd caller pid (.ending found part (.ended pid found))
  | ended {found : Nat} : crowd.deeds caller = [.found caller pid found] →
      crowd.Since caller pid found → crowd.IsClosing found →
      Course crowd caller pid (.ended pid found)
  | absent {found : Nat} : crowd.deeds caller = [.found caller pid found] →
      Course crowd caller pid (.answered .done)
  | leaving {found removed : Nat} : crowd.TookOut caller pid found removed →
      Course crowd caller pid (.leaving removed)
  | dropping {found removed : Nat} {part : Part} : crowd.TookOut caller pid found removed →
      Course crowd caller pid (.ending removed part (.answered .done))
  | answered {found removed : Nat} : crowd.TookOut caller pid found removed →
      Course crowd caller pid (.answered .done)

/-! ### What others do -/

/-- What is in the log was done by its caller. -/
theorem mem_log_of_deeds {event : Event} (mem : event ∈ crowd.deeds caller) : event ∈ crowd.log :=
  (List.mem_filter.mp mem).1

/-- A step of a call adds to the log only what that call does. -/
theorem Effect.log_cases (effect : Effect crowd actor call progress shared) :
    shared.log = crowd.log ∨ ∃ event, event.caller = actor ∧ shared.log = crowd.log ++ [event] := by
  cases effect with
  | insert | find | remove => exact .inr ⟨_, rfl, rfl⟩
  | pass | lock | unlock | make | begin | join | mark => exact .inl rfl

theorem Effect.log_sublist (effect : Effect crowd actor call progress shared) :
    crowd.log.Sublist shared.log := by
  rcases effect.log_cases with same | ⟨event, -, longer⟩
  · exact same ▸ .refl _
  · rw [longer]
    exact List.sublist_append_left _ _

/-- One more deed of a call. -/
theorem deeds_note (crowd : Crowd) (event : Event) :
    (crowd.note event).deeds event.caller = crowd.deeds event.caller ++ [event] := by
  have mine : (event.caller == event.caller) = true := beq_self_eq_true _
  show List.filter _ (crowd.log ++ event :: []) = _
  rw [List.filter_append, List.filter_cons, if_pos mine]
  rfl

/-- What one call does is no deed of another. -/
theorem Effect.deeds_other (effect : Effect crowd actor call progress shared)
    (different : caller ≠ actor) : shared.deeds caller = crowd.deeds caller := by
  unfold deeds
  rcases effect.log_cases with same | ⟨event, his, longer⟩
  · rw [same]
  · have apart : ¬ (event.caller == caller) = true := by
      rw [his]
      exact fun same => different (eq_of_beq same).symm
    rw [longer, List.filter_append]
    show _ ++ List.filter _ (event :: []) = _
    rw [List.filter_cons, if_neg apart]
    exact List.append_nil _

theorem Effect.closing (effect : Effect crowd actor call progress shared)
    (closing : crowd.IsClosing number) : shared.IsClosing number := by
  obtain ⟨member, here, begun⟩ := closing
  obtain ⟨later, there, grows⟩ := effect.grows here
  exact ⟨later, there, grows.closing begun⟩

/-- Behind a part of the log stands one event more. -/
theorem sublist_snoc {events log : List Event} (inside : events.Sublist log) (event : Event) :
    (events ++ [event]).Sublist (log ++ [event]) :=
  inside.append (List.Sublist.refl _)

/-- A number that nothing is done to. -/
theorem Since.mono (since : crowd.Since caller pid found) (same : after.table pid = crowd.table pid)
    (longer : crowd.log.Sublist after.log) : after.Since caller pid found := by
  rcases since with still | ⟨other, apart, gone, later⟩
  · exact .inl (same.trans still)
  · refine .inr ⟨other, apart, gone.trans longer, fun number now => ?_⟩
    obtain ⟨spawner, order⟩ := later number (same.symm.trans now)
    exact ⟨spawner, order.trans longer⟩

/-- **What another call does to a number since a call found a process there.** -/
theorem Since.effect (since : crowd.Since caller pid found) (exclusive : crowd.Exclusive)
    (here : crowd.calls[actor]? = some call) (effect : Effect crowd actor call progress shared)
    (different : caller ≠ actor) (seen : .found caller pid found ∈ crowd.log) :
    shared.Since caller pid found := by
  have longer := effect.log_sublist
  cases effect with
  | pass | lock | unlock | make | find | begin | join | mark => exact since.mono rfl longer
  | @insert place new made =>
    by_cases same : pid = place
    · subst same
      have free : crowd.table pid = none := by
        refine exclusive.free actor call pid here ?_
        rw [made]
        rfl
      rcases since with still | ⟨other, apart, gone, -⟩
      · cases free.symm.trans still
      · refine .inr ⟨other, apart, gone.trans longer, fun number now => ?_⟩
        have now : Function.update crowd.table pid (some new) pid = some number := now
        rw [Function.update_self] at now
        cases now
        exact ⟨actor, sublist_snoc gone _⟩
    · exact since.mono (Function.update_of_ne same _ _) longer
  | @remove place old _ there =>
    by_cases same : pid = place
    · subst same
      have nothing (number : Nat) : Function.update crowd.table pid none pid ≠ some number := by
        rw [Function.update_self]
        exact nofun
      rcases since with still | ⟨other, apart, gone, -⟩
      · cases there.symm.trans still
        refine .inr ⟨actor, Ne.symm different, ?_, fun number now => absurd now (nothing number)⟩
        exact sublist_snoc (List.singleton_sublist.mpr seen) _
      · exact .inr ⟨other, apart, gone.trans longer, fun number now => absurd now (nothing number)⟩
    · exact since.mono (Function.update_of_ne same _ _) longer

theorem TookOut.mono (took : crowd.TookOut caller pid found number)
    (deeds : after.deeds caller = crowd.deeds caller)
    (closing : crowd.IsClosing found → after.IsClosing found) (longer : crowd.log.Sublist after.log) :
    after.TookOut caller pid found number := by
  refine ⟨deeds.trans took.deeds, closing took.closing, ?_⟩
  rcases took.cause with same | ⟨other, spawner, apart, order⟩
  · exact .inl same
  · exact .inr ⟨other, spawner, apart, order.trans longer⟩

/-- **What is known of a terminate outlasts the steps of others.** -/
theorem Course.mono (course : crowd.Course caller pid progress)
    (deeds : after.deeds caller = crowd.deeds caller)
    (closing : ∀ number, crowd.IsClosing number → after.IsClosing number)
    (longer : crowd.log.Sublist after.log)
    (since : ∀ found, .found caller pid found ∈ crowd.log → crowd.Since caller pid found →
      after.Since caller pid found) : after.Course caller pid progress := by
  have seen {found : Nat} (alone : crowd.deeds caller = [.found caller pid found]) :
      .found caller pid found ∈ crowd.log := by
    have mine : .found caller pid found ∈ crowd.deeds caller := by
      rw [alone]
      exact .head _
    exact mem_log_of_deeds mine
  cases course with
  | outside none => exact .outside (deeds.trans none)
  | unknown none => exact .unknown (deeds.trans none)
  | ending alone before begun =>
    exact .ending (deeds.trans alone) (since _ (seen alone) before) fun later => closing _ (begun later)
  | ended alone before begun =>
    exact .ended (deeds.trans alone) (since _ (seen alone) before) (closing _ begun)
  | absent alone => exact .absent (deeds.trans alone)
  | leaving took => exact .leaving (took.mono deeds (closing _) longer)
  | dropping took => exact .dropping (took.mono deeds (closing _) longer)
  | answered took => exact .answered (took.mono deeds (closing _) longer)

/-! ### What the terminate does itself -/

/-- Ending a process has begun, whichever part of it is next. -/
theorem isClosing_change {member later : Member} (there : crowd.members[number]? = some member)
    (begun : later.life.shuttingDown = true) : (crowd.change number later).IsClosing number := by
  obtain ⟨inside, -⟩ := List.getElem?_eq_some_iff.mp there
  exact ⟨later, List.getElem?_set_self inside, begun⟩

/-- A terminate takes out what its number has by then. -/
theorem takesOut (alone : crowd.deeds caller = [.found caller pid found])
    (since : crowd.Since caller pid found) (closing : crowd.IsClosing found)
    (there : crowd.table pid = some number) :
    ({ crowd with table := Function.update crowd.table pid none }.note
      (.removed caller pid number)).TookOut caller pid found number := by
  refine ⟨?_, closing, ?_⟩
  · refine (deeds_note _ _).trans ?_
    show crowd.deeds caller ++ _ = _
    rw [alone]
    rfl
  · rcases since with still | ⟨other, apart, -, later⟩
    · cases there.symm.trans still
      exact .inl rfl
    · obtain ⟨spawner, order⟩ := later number there
      exact .inr ⟨other, spawner, apart, sublist_snoc order _⟩

/-- A part of ending a process changes neither the table nor the log. -/
theorem Course.part (course : crowd.Course caller pid progress) {changed : Crowd}
    (closing : ∀ number, crowd.IsClosing number → changed.IsClosing number)
    (table : changed.table = crowd.table) (log : changed.log = crowd.log) :
    changed.Course caller pid progress := by
  refine course.mono ?_ closing ?_ fun found _ since => ?_
  · unfold deeds
    rw [log]
  · exact log ▸ .refl _
  · unfold Since at *
    rw [table, log]
    exact since

/-- A terminate that ends a process comes to the next part of that, and to what is behind it, once the end has
begun. -/
theorem Course.onward {part : Part} {next : Progress}
    (course : crowd.Course caller pid (.ending number part next))
    (first : part = .beginning → crowd.IsClosing number) :
    (∀ other, crowd.Course caller pid (.ending number other next)) ∧ crowd.Course caller pid next := by
  cases course with
  | ending alone since begun =>
    have closing : crowd.IsClosing number := by
      by_cases same : part = .beginning
      · exact first same
      · exact begun same
    exact ⟨fun other => .ending alone since fun _ => closing, .ended alone since closing⟩
  | dropping took => exact ⟨fun other => .dropping took, .answered took⟩

/-- **A step of a terminate.** -/
theorem Course.effect (course : crowd.Course caller pid call.progress)
    (task : call.task = .terminate pid) (effect : Effect crowd caller call progress shared) :
    shared.Course caller pid progress := by
  obtain ⟨asked, reached⟩ := call
  have course : crowd.Course caller pid reached := course
  have task : asked = .terminate pid := task
  subst task
  have closing (number : Nat) (begun : crowd.IsClosing number) : shared.IsClosing number :=
    effect.closing begun
  cases effect with
  | pass passes =>
    cases passes with
    | free same | taken same | collected same | skipped same | cleared same =>
      cases same
      cases course
    | unknown known same =>
      cases same
      cases known
      cases course with
      | outside none => exact .unknown none
    | sweep known | direct known =>
      rcases known with known | known <;> cases known
    | again same there begun =>
      cases same
      exact (course.onward fun _ => ⟨_, there, begun⟩).2
    | absent same =>
      cases same
      cases course with
      | ended alone => exact .absent alone
    | left same =>
      cases same
      cases course with
      | leaving took => exact .answered took
    | last same =>
      cases same
      cases course with
      | leaving took => exact .dropping took
  | lock known => cases known
  | unlock had =>
    rcases had with same | same <;>
    · cases same
      cases course
  | make same | insert same =>
    cases same
    cases course
  | find there finds =>
    cases finds with
    | terminate known same =>
      cases same
      cases known
      cases course with
      | outside none =>
        refine .ending ?_ (.inl there) fun begun => absurd rfl begun
        refine (deeds_note _ _).trans ?_
        show crowd.deeds caller ++ _ = _
        rw [none]
        rfl
    | sweep same =>
      cases same
      cases course
  | remove there removes =>
    cases removes with
    | terminate same =>
      cases same
      cases course with
      | ended alone since closing => exact .leaving (takesOut alone since closing there)
    | sweep same =>
      cases same
      cases course
  | begin same there =>
    cases same
    exact ((course.part closing rfl rfl).onward fun _ => isClosing_change there rfl).1 _
  | join same there =>
    cases same
    exact ((course.part closing rfl rfl).onward nofun).1 _
  | mark same there =>
    cases same
    exact ((course.part closing rfl rfl).onward nofun).2

/-! ### Every schedule -/

/-- **Every terminate keeps its course.** -/
structure Courses (crowd : Crowd) : Prop where
  exclusive : crowd.Exclusive
  course : ∀ (caller : Nat) (call : Call) (pid : Pid), crowd.calls[caller]? = some call →
    call.task = .terminate pid → crowd.Course caller pid call.progress

theorem Fresh.courses (fresh : crowd.Fresh) : crowd.Courses := by
  refine ⟨fresh.exclusive, fun caller call pid here _ => ?_⟩
  rw [fresh.calls call (List.mem_of_getElem? here)]
  refine .outside ?_
  unfold deeds
  rw [fresh.log]
  rfl

theorem Courses.stepped (step : Stepped crowd after) (courses : crowd.Courses) : after.Courses := by
  have closing (number : Nat) (closing : crowd.IsClosing number) : after.IsClosing number := by
    obtain ⟨member, here, begun⟩ := closing
    obtain ⟨later, there, grows⟩ := step.grows here
    exact ⟨later, there, grows.closing begun⟩
  refine ⟨courses.exclusive.stepped step, fun number later pid there task => ?_⟩
  cases step with
  | exit => exact (courses.course number later pid there task).part closing rfl rfl
  | @call caller call progress shared here effect =>
    have course : shared.Course number pid later.progress := by
      rcases calls_progress effect.calls here there with ⟨rfl, rfl⟩ | ⟨different, found⟩
      · exact (courses.course number call pid here task).effect task effect
      · exact (courses.course number later pid found task).mono (effect.deeds_other different)
          (fun _ => effect.closing) effect.log_sublist
          fun _ seen since => since.effect courses.exclusive here effect different seen
    exact course.part (fun _ => id) rfl rfl

theorem Courses.run (courses : crowd.Courses) (schedule : List Move) :
    (crowd.run schedule).Courses :=
  run_invariant Courses.stepped schedule courses

/-- Which process a terminate has taken out, if any. -/
theorem Course.removed (course : crowd.Course caller pid progress) {place : Pid}
    (removed : .removed caller place number ∈ crowd.log) :
    place = pid ∧ ∃ found, crowd.TookOut caller pid found number := by
  have mine : .removed caller place number ∈ crowd.deeds caller :=
    List.mem_filter.mpr ⟨removed, beq_self_eq_true caller⟩
  have never {events : List Event} (same : crowd.deeds caller = events)
      (none : .removed caller place number ∉ events) : False := by
    rw [same] at mine
    exact none mine
  have once {found gone : Nat} (took : crowd.TookOut caller pid found gone) :
      place = pid ∧ ∃ found, crowd.TookOut caller pid found number := by
    rw [took.deeds] at mine
    have same : Event.removed caller place number = .removed caller pid gone := by simpa using mine
    cases same
    exact ⟨rfl, found, took⟩
  cases course with
  | outside none | unknown none => exact absurd List.not_mem_nil (never none)
  | ending alone | ended alone | absent alone => exact absurd (by simp) (never alone)
  | leaving took | dropping took | answered took => exact once took

/-- **A terminate takes out the process that it has ended, or one that was put in after another call had taken that
process out**, in any schedule of any calls. -/
theorem removed_by_terminate (fresh : origin.Fresh) (schedule : List Move)
    (here : (origin.run schedule).calls[caller]? = some call) (task : call.task = .terminate pid)
    {place : Pid} (removed : .removed caller place number ∈ (origin.run schedule).log) :
    place = pid ∧ ∃ found, (origin.run schedule).TookOut caller pid found number :=
  ((fresh.courses.run schedule).course caller call pid here task).removed removed

/-! ### A process that nobody has asked to end -/

/-- Two spawns, and a terminate and a reap of the first process. -/
def hurried : Crowd where
  terminal := .detached
  calls := [{ task := .spawn }, { task := .terminate 1 }, { task := .reap }, { task := .spawn }]

/-- The terminate has begun to end the first process when the reap comes by and takes it out; the second process
then gets the number. -/
def hurriedSchedule : List Move :=
  [.advance 0, .advance 0, .construct 0 none, .advance 0, .advance 1, .advance 1, .advance 2,
    .visit 2 1, .advance 2, .advance 2, .advance 3, .advance 3, .construct 3 none, .advance 3]

/-- The terminate ends the first process, takes out the second and lets go of it. -/
def hurriedEnd : List Move :=
  [.advance 1, .advance 1, .advance 1, .letGo 1 true, .advance 1, .advance 1, .advance 1]

theorem hurried_fresh : hurried.Fresh :=
  ⟨by simp [hurried], rfl, rfl, rfl, rfl⟩

/-- The terminate took out the second process, since another call had taken out the first. -/
theorem removed_by_terminate_of_hurry :
    Event.removed 1 1 1 ∈ (hurried.run (hurriedSchedule ++ hurriedEnd)).log ∧
      ∃ found, (hurried.run (hurriedSchedule ++ hurriedEnd)).TookOut 1 1 found 1 := by
  have removed : Event.removed 1 1 1 ∈ (hurried.run (hurriedSchedule ++ hurriedEnd)).log := by decide
  have here : (hurried.run (hurriedSchedule ++ hurriedEnd)).calls[1]? =
      some ⟨.terminate 1, .answered .done⟩ := by decide
  exact ⟨removed, (removed_by_terminate hurried_fresh _ here rfl removed).2⟩

/-- **A terminate that has found one process takes out another**, which is in the table and takes work, and ends
it. -/
theorem stranger_removed :
    ∃ (origin : Crowd) (schedule rest : List Move), origin.Fresh ∧
      ((origin.calls[1]?).map Call.task = some (.terminate 1)) ∧
      (origin.run schedule).table 1 = some 1 ∧
      (((origin.run schedule).members[1]?).map Member.isAlive = some true) ∧
      ((origin.run schedule).run rest).deeds 1 = [.found 1 1 0, .removed 1 1 1] ∧
      ((origin.run schedule).run rest).table 1 = none ∧
      (((origin.run schedule).run rest).members.map fun member => member.life.state) =
        [.terminated, .terminated] := by
  refine ⟨hurried, hurriedSchedule, hurriedEnd, hurried_fresh, rfl, ?_, ?_, ?_, ?_, ?_⟩ <;> decide

end Crowd

end ScriptKernel.Manager
