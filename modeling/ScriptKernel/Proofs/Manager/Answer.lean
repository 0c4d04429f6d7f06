/-
**What a manager answers, and what becomes of its processes by number.**

* `Manager.Spawned`: **a new process gets the least free number**; one that cannot be constructed leaves the
  manager as it was and is reported once;
* `Manager.Directed`, `Manager.Addressed`: a request to the process of a number is refused exactly if the number is
  free, and is passed on to that process and to no other;
* `Manager.Released`, `Manager.Reaped`: ending a process takes out that process, and reaping takes out those that take
  no more work;
* `Manager.Listed`: the list shows every process once, in order of their numbers.
-/

import ScriptKernel.Proofs.Manager.Directory
import ScriptKernel.Proofs.Process.Life

set_option autoImplicit false

namespace ScriptKernel

/-- A process that does not come up could not be constructed, and nothing has changed. -/
theorem ScriptProcess.start_error {spec : ProcessSpec} {terminal : TerminalRef} {table : SyscallTable}
    {config : KernelConfig} {site there : Site} {error : ProcessError}
    (refused : ScriptProcess.start spec terminal table config site = (.error error, there)) :
    (∃ reason, error = .construction spec.pid reason) ∧ there = site := by
  unfold ScriptProcess.start at refused
  dsimp only at refused
  split at refused
  · cases refused
    exact ⟨⟨_, rfl⟩, rfl⟩
  · split at refused <;> cases refused <;> exact ⟨⟨_, rfl⟩, rfl⟩

/-- A report stands behind the others. -/
theorem Sink.reports_report (sink : Sink) (pid : Pid) (kind : DiagnosticKind) (message : String) :
    (sink.report pid kind message).2.reports = sink.reports ++ [(pid, kind, message)] := by
  unfold report reports
  simp only [Array.toList_push, List.map_append, List.map_cons, List.map_nil]

namespace Manager

/-! ### New processes -/

/-- **What a spawn does.** -/
inductive Spawned (manager : Manager) (site : Site) (path : String) (args : List String)
    (environment : List (String × String)) : Except ProcessError Pid × Manager × Site → Prop
  | made {pid : Pid} {process : ScriptProcess} (least : IsLeast manager.free pid)
      (last : pid ≤ lastPid)
      (fresh : process.Fresh (.of pid path args environment) manager.terminal manager.table
        manager.config)
      (added : (manager.put pid process).get = Function.update manager.get pid (some process)) :
      Spawned manager site path args environment (.ok pid, manager.put pid process, site)
  | failed {pid : Pid} {reason : String} {sink : Sink} (least : IsLeast manager.free pid)
      (last : pid ≤ lastPid)
      (reported : sink.reports = site.sink.reports ++
        [(pid, .construction, (ProcessError.construction pid reason).message)]) :
      Spawned manager site path args environment
        (.error (.construction pid reason), manager, { site with sink })
  | exhausted (full : ∀ pid, firstPid ≤ pid → pid ≤ lastPid → pid ∈ manager.taken) :
      Spawned manager site path args environment (.error .pidExhausted, manager, site)

theorem spawn_spawned (manager : Manager) (site : Site) (path : String) (args : List String)
    (environment : List (String × String)) :
    manager.Spawned site path args environment (manager.spawn site path args environment) := by
  unfold spawn
  cases next : manager.nextPid? with
  | none => exact .exhausted (nextPid?_eq_none_iff.mp next)
  | some pid =>
    obtain ⟨least, last⟩ := nextPid?_eq_some_iff.mp next
    dsimp only
    split <;> rename_i started
    · obtain ⟨fresh, same⟩ := ScriptProcess.start_ok (congrArg Prod.fst started)
      rw [started] at same
      subst same
      exact .made least last fresh (get_put manager pid _)
    · obtain ⟨⟨reason, rfl⟩, rfl⟩ := ScriptProcess.start_error started
      exact .failed least last (Sink.reports_report _ _ _ _)

/-- **A number that was not used is used next.** -/
theorem Spawned.again {manager after : Manager} {site there here : Site} {path other : String}
    {args others : List String} {environment further : List (String × String)} {pid next : Pid}
    {reason : String}
    (failed : manager.Spawned site path args environment (.error (.construction pid reason), after, there))
    (spawned : (after.spawn here other others further).1 = .ok next) : next = pid := by
  have again := spawn_spawned after here other others further
  generalize after.spawn here other others further = left at spawned again
  cases failed with
  | failed least =>
    cases again with
    | made least' =>
      cases spawned
      exact least'.unique least
    | failed => cases spawned
    | exhausted => cases spawned

/-- A spawn takes no process out. -/
theorem Spawned.taken_subset {manager : Manager} {site : Site} {path : String} {args : List String}
    {environment : List (String × String)} {left : Except ProcessError Pid × Manager × Site}
    (spawned : manager.Spawned site path args environment left) :
    manager.taken ⊆ left.2.1.taken := by
  intro other taken
  cases spawned with
  | failed | exhausted => exact taken
  | @made pid process _ _ _ added =>
    obtain ⟨found, known⟩ := mem_taken.mp taken
    rw [mem_taken, added]
    by_cases same : other = pid
    · exact ⟨process, by rw [same, Function.update_self]⟩
    · exact ⟨found, by rw [Function.update_of_ne same, known]⟩

/-! ### Requests to one process -/

variable {α : Type} {manager : Manager} {site : Site} {pid : Pid} {process : ScriptProcess}

/-- **A request to the process of a number** is refused exactly if there is none, and then changes nothing. -/
structure Directed (manager : Manager) (site : Site) (pid : Pid)
    (left : Except ProcessError α × Manager × Site) : Prop where
  unknown : ∀ number, left.1 = .error (.notFound number) ↔ number = pid ∧ manager.get pid = none
  absent : manager.get pid = none → left.2 = (manager, site)

theorem directed_none (unknown : manager.get pid = none) (site : Site) :
    manager.Directed site pid ((.error (.notFound pid) : Except ProcessError α), manager, site) := by
  refine ⟨fun number => ⟨fun same => ?_, fun ⟨same, _⟩ => ?_⟩, fun _ => rfl⟩
  · cases same
    exact ⟨rfl, unknown⟩
  · rw [same]

theorem directed_some (known : manager.get pid = some process)
    {left : Except ProcessError α × Manager × Site}
    (answered : ∀ number, left.1 ≠ .error (.notFound number)) : manager.Directed site pid left := by
  have taken : manager.get pid ≠ none := by
    rw [known]
    exact nofun
  exact ⟨fun number => ⟨fun same => absurd same (answered number), fun free => absurd free.2 taken⟩,
    fun free => absurd free taken⟩

/-- **A request that is passed on to the process of a number**, and to no other. -/
structure Addressed (manager : Manager) (site : Site) (pid : Pid)
    (act : ScriptProcess → ScriptProcess × Site)
    (left : Except ProcessError α × Manager × Site) : Prop
    extends Directed manager site pid left where
  passed : ∀ process, manager.get pid = some process →
    left.2.1.get = Function.update manager.get pid (some (act process).1) ∧
      left.2.2 = (act process).2

/-- Such a request takes no number and frees none. -/
theorem Addressed.taken {act : ScriptProcess → ScriptProcess × Site}
    {left : Except ProcessError α × Manager × Site} (addressed : manager.Addressed site pid act left) :
    left.2.1.taken = manager.taken := by
  cases known : manager.get pid with
  | none => rw [addressed.absent known]
  | some process =>
    ext other
    rw [mem_taken, mem_taken, (addressed.passed process known).1]
    by_cases same : other = pid
    · subst same
      rw [Function.update_self, known]
      exact ⟨fun _ => ⟨_, rfl⟩, fun _ => ⟨_, rfl⟩⟩
    · rw [Function.update_of_ne same]

theorem onProcess_none (unknown : manager.get pid = none) (site : Site)
    (act : ScriptProcess → Site → α × ScriptProcess × Site) :
    manager.onProcess site pid act = (.error (.notFound pid), manager, site) := by
  unfold onProcess
  rw [unknown]

/-- What is done with a known process becomes of that process. -/
theorem onProcess_some (known : manager.get pid = some process) (site : Site)
    (act : ScriptProcess → Site → α × ScriptProcess × Site) :
    manager.onProcess site pid act = (.ok (act process site).1,
      manager.put pid (act process site).2.1, (act process site).2.2) := by
  unfold onProcess
  rw [known]

theorem onProcess_addressed (manager : Manager) (site : Site) (pid : Pid)
    (act : ScriptProcess → Site → α × ScriptProcess × Site) :
    manager.Addressed site pid (fun process => (act process site).2)
      (manager.onProcess site pid act) := by
  cases known : manager.get pid with
  | none =>
    rw [onProcess_none known]
    refine ⟨directed_none known site, fun process here => ?_⟩
    rw [known] at here
    cases here
  | some process =>
    rw [onProcess_some known]
    refine ⟨directed_some known nofun, fun other here => ?_⟩
    cases known.symm.trans here
    exact ⟨get_put manager pid _, rfl⟩

/-- A signal reaches the process of its number. -/
theorem signal_addressed (manager : Manager) (site : Site) (pid : Pid) (number : Nat)
    (answered : ∀ process, manager.get pid = some process → ∀ other,
      (process.signal site number).1 ≠ .error (.notFound other)) :
    manager.Addressed site pid (fun process => (process.signal site number).2)
      (manager.signal site pid number) := by
  have addressed := manager.onProcess_addressed site pid fun process site =>
    process.signal site number
  refine ⟨?_, addressed.passed⟩
  unfold signal
  cases known : manager.get pid with
  | none =>
    rw [onProcess_none known]
    exact directed_none known site
  | some process =>
    rw [onProcess_some known]
    exact directed_some known (answered process known)

/-! ### Processes that are taken out -/

/-- **What ending the process of a number does.** -/
structure Released (manager : Manager) (site : Site) (pid : Pid)
    (left : Except ProcessError Unit × Manager × Site) : Prop
    extends Directed manager site pid left where
  removed : left.2.1.get = Function.update manager.get pid none
  ended : ∀ process, manager.get pid = some process → left.2.2 = (process.terminate site).2

theorem terminate_none (unknown : manager.get pid = none) (site : Site) :
    manager.terminate site pid = (.error (.notFound pid), manager, site) := by
  unfold terminate
  rw [unknown]

theorem terminate_some (known : manager.get pid = some process) (site : Site) :
    manager.terminate site pid = (.ok (), manager.remove pid, (process.terminate site).2) := by
  unfold terminate
  rw [known]

theorem Ordered.terminate_released (ordered : manager.Ordered) (site : Site) (pid : Pid) :
    manager.Released site pid (manager.terminate site pid) := by
  cases known : manager.get pid with
  | none =>
    rw [terminate_none known]
    refine ⟨directed_none known site, (Function.update_eq_self_iff.mpr known.symm).symm,
      fun process here => ?_⟩
    rw [known] at here
    cases here
  | some process =>
    rw [terminate_some known]
    refine ⟨directed_some known nofun, ordered.get_remove pid, fun other here => ?_⟩
    cases known.symm.trans here
    rfl

/-- **What reaping does.** -/
structure Reaped (manager : Manager) (left : List Pid × Manager × Site) : Prop where
  ascending : left.1.Pairwise (· < ·)
  reaped : ∀ pid, pid ∈ left.1 ↔ ∃ process, manager.get pid = some process ∧ process.isAlive = false
  kept : ∀ pid, left.2.1.get pid = (manager.get pid).filter fun process => process.isAlive

theorem reap_eq (manager : Manager) (site : Site) :
    manager.reap site =
      let finished := manager.processes.filter fun entry => !entry.2.isAlive
      (finished.map Prod.fst,
        { manager with processes := manager.processes.filter fun entry => entry.2.isAlive },
        terminateAll finished site) := by
  unfold reap
  rw [List.partition_eq_filter_filter]
  rfl

theorem Ordered.reap_reaped (ordered : manager.Ordered) (site : Site) :
    manager.Reaped (manager.reap site) := by
  rw [reap_eq]
  refine ⟨(ordered.filter fun entry => !entry.2.isAlive).numbers, fun pid => ?_,
    ordered.get_filter fun entry => entry.2.isAlive⟩
  rw [ordered.mem_filter]
  simp only [Bool.not_eq_true']

/-! ### The list -/

/-- **What the list shows.** -/
structure Listed (manager : Manager) : Prop where
  ascending : (manager.list.map ProcessInfo.pid).Pairwise (· < ·)
  shown : ∀ info, info ∈ manager.list ↔
    ∃ process, manager.get info.pid = some process ∧ process.info = info

/-- The list of processes that bear their numbers. -/
theorem Ordered.listed (ordered : manager.Ordered)
    (named : ∀ pid process, manager.get pid = some process → process.pid = pid) :
    manager.Listed := by
  have names : manager.list.map ProcessInfo.pid = manager.processes.map Prod.fst := by
    unfold list
    rw [List.map_map]
    exact List.map_congr_left fun entry here =>
      named entry.1 entry.2 (ordered.get_eq_some_iff.mpr here)
  refine ⟨names ▸ ordered.numbers, fun info => ?_⟩
  unfold list
  rw [List.mem_map]
  constructor
  · rintro ⟨⟨pid, process⟩, here, rfl⟩
    have known := ordered.get_eq_some_iff.mpr here
    refine ⟨process, ?_, rfl⟩
    show manager.get process.pid = some process
    rw [named pid process known]
    exact known
  · rintro ⟨process, known, shown⟩
    exact ⟨(info.pid, process), ordered.get_eq_some_iff.mp known, shown⟩

end Manager

end ScriptKernel
