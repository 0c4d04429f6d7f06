/-
**Sessions.**

* `Request`, `Session.handle`: the requests to a manager, and operations by those who hold a process themselves;
* `Session.Reached`: the sessions that requests in turn lead to; what goes on around them announces nothing in the
  name of a process;
* `Accounted`: **what holds of a process in its place**: it bears its number, it began to shut down only if it has
  ended, and since it came up its terminal has heard of one end if it has ended and of none otherwise;
* `Session.Sound`, `Reached.sound`: the processes of a session that is reached are in order and accounted for;
* `Departed`, `Sound.departed`: **a process that is taken out has ended**, and its terminal has heard of one end;
* `Session.RefinesMap`, `session_refines_map`: a manager is a finite map from numbers to processes.
-/

import ScriptKernel.Proofs.Manager.Answer

set_option autoImplicit false

namespace ScriptKernel

/-! ### Requests -/

/-- The processes of a session, where they run, and what the terminal had heard of each number when its process
came up. -/
structure Session where
  manager : Manager
  site : Site
  earlier : Pid → Option (List ProcessEvent)

/-- **What can be asked of a session.** -/
inductive Request : Type 1
  | spawn (path : String) (args : List String) (environment : List (String × String))
  | execute (files : FileSystem) (pid : Pid)
  | invoke (pid : Pid) (name : String) (args : List Json)
  | signal (pid : Pid) (number : Nat)
  | terminate (pid : Pid)
  | reap
  | shutdownAll
  /-- An operation by someone who holds the process itself. -/
  | directly (pid : Pid) (operation : Operation)

/-- Nothing more is heard of a number at another site; its terminal may be gone there. -/
def Site.Hears (terminal : TerminalRef) (pid : Pid) (site there : Site) : Prop :=
  ∀ now, there.terminals.heard terminal pid = some now → site.terminals.heard terminal pid = some now

namespace Session

/-- What the terminal of the session has heard of a number. -/
def heard (session : Session) (pid : Pid) : Option (List ProcessEvent) :=
  session.site.terminals.heard session.manager.terminal pid

/-- The session with the processes and the site that a request leaves. -/
def holding (session : Session) (left : Manager × Site) : Session :=
  { session with manager := left.1, site := left.2 }

/-- The session after a request. -/
def handle (session : Session) : Request → Session
  | .spawn path args environment =>
    match session.manager.spawn session.site path args environment with
    | (.ok pid, left) =>
      { session.holding left with
        earlier := Function.update session.earlier pid (session.heard pid) }
    | (.error _, left) => session.holding left
  | .execute files pid => session.holding (session.manager.execute session.site files pid).2
  | .invoke pid name args => session.holding (session.manager.invoke session.site pid name args).2
  | .signal pid number => session.holding (session.manager.signal session.site pid number).2
  | .terminate pid => session.holding (session.manager.terminate session.site pid).2
  | .reap => session.holding (session.manager.reap session.site).2
  | .shutdownAll => session.holding (session.manager.shutdownAll session.site)
  | .directly pid operation =>
    session.holding (session.manager.onProcess session.site pid fun process site =>
      ((), operation.perform process site)).2

/-- **The sessions that requests in turn lead to.** Between two of them the site may change in any way in which
nothing is announced in the name of a process. -/
inductive Reached (terminal : TerminalRef) (table : SyscallTable) : Session → Prop
  | start (config : KernelConfig) (site : Site) :
      Reached terminal table ⟨{ terminal, config, table }, site, fun _ => none⟩
  | request {session : Session} (request : Request) :
      Reached terminal table session → Reached terminal table (session.handle request)
  | meanwhile {session : Session} {there : Site} :
      Reached terminal table session → (∀ pid, session.site.Hears terminal pid there) →
      Reached terminal table { session with site := there }

end Session

/-! ### Processes in their places -/

/-- **What holds of a process in its place.** -/
structure Accounted (reference : TerminalRef) (bound : SyscallTable) (site : Site)
    (earlier : Option (List ProcessEvent)) (number : Pid) (process : ScriptProcess) : Prop where
  pid : process.resident.pid = number
  lifecyclePid : process.resident.lifecycle.pid = number
  terminal : process.resident.lifecycle.terminal = reference
  table : process.executor.table = bound
  shutting : process.resident.lifecycle.shuttingDown = true →
    process.resident.lifecycle.isFinished = true
  /-- What the terminal has heard since the process came up tells of its end if it has ended. -/
  told : ∀ now, site.terminals.heard reference number = some now →
    ∃ before events, earlier = some before ∧ now = before ++ events ∧
      ends events = process.resident.lifecycle.isFinished.toNat

/-- **What holds of a process that is taken out**: it has ended, and the terminal has heard of one end since it came
up. -/
structure Departed (terminal : TerminalRef) (site : Site) (earlier : Option (List ProcessEvent))
    (number : Pid) (process : ScriptProcess) : Prop where
  finished : ∀ there, (process.terminate there).1.resident.lifecycle.isFinished = true
  told : ∀ now, site.terminals.heard terminal number = some now →
    ∃ before events, earlier = some before ∧ now = before ++ events ∧ ends events = 1

section Lives

variable {terminal : TerminalRef} {table : SyscallTable} {site there : Site}
  {earlier : Option (List ProcessEvent)} {pid : Pid} {process : ScriptProcess}

namespace Accounted

/-- A process that has just come up. -/
theorem fresh {path : String} {args : List String} {environment : List (String × String)}
    {config : KernelConfig} (site : Site)
    (fresh : process.Fresh (.of pid path args environment) terminal table config) :
    Accounted terminal table site (site.terminals.heard terminal pid) pid process := by
  refine ⟨?_, ?_, ?_, fresh.table, ?_,
    fun now heard => ⟨now, [], heard, (List.append_nil now).symm, ?_⟩⟩
  all_goals
    rw [fresh.resident]
  · rfl
  · rfl
  · rfl
  · exact nofun
  · rfl

/-- Nothing more is heard of a process that is left alone. -/
theorem elsewhere (accounted : Accounted terminal table site earlier pid process)
    (quiet : site.Hears terminal pid there) :
    Accounted terminal table there earlier pid process :=
  ⟨accounted.pid, accounted.lifecyclePid, accounted.terminal, accounted.table, accounted.shutting,
    fun now heard => accounted.told now (quiet now heard)⟩

/-- **A stretch of its life keeps a process accounted for.** -/
theorem lives {left : ScriptProcess × Site}
    (accounted : Accounted terminal table site earlier pid process)
    (lives : process.Lives site left) : Accounted terminal table left.2 earlier pid left.1 := by
  refine ⟨lives.lived.pid.trans accounted.pid, lives.lived.lifecyclePid.trans accounted.lifecyclePid,
    lives.lived.terminal.trans accounted.terminal, lives.table.trans accounted.table,
    fun began => ?_, fun now heard => ?_⟩
  · rcases lives.lived.shutting began with earlier | ended
    · exact lives.lived.finished (accounted.shutting earlier)
    · exact ended
  · obtain ⟨further, later, count⟩ := lives.lived.heard
    rw [show (SyscallContext.of process.resident site).lifecycle.terminal = terminal from
        accounted.terminal,
      show (SyscallContext.of process.resident site).lifecycle.pid = pid from accounted.lifecyclePid]
      at later
    obtain ⟨known, heardBefore, rfl⟩ := Option.map_eq_some_iff.mp (later.symm.trans heard)
    obtain ⟨before, events, came, rfl, ended⟩ := accounted.told known heardBefore
    refine ⟨before, events ++ further, came, List.append_assoc .., ?_⟩
    rw [ends_append, ended, Nat.add_comm]
    exact count

/-- The life of one process is not heard of another. -/
theorem apart {other : ScriptProcess} {left : ScriptProcess × Site}
    (accounted : Accounted terminal table site earlier pid process) (lives : other.Lives site left)
    (different : pid ≠ other.resident.lifecycle.pid) :
    Accounted terminal table left.2 earlier pid process :=
  accounted.elsewhere fun _ heard => (lives.lived.others terminal pid different).symm.trans heard

/-- **A process that is ended from outside has ended**, and that has been heard. -/
theorem departed (accounted : Accounted terminal table site earlier pid process) :
    Departed terminal (process.terminate site).2 earlier pid process := by
  have finished (there : Site) :
      (process.terminate there).1.resident.lifecycle.isFinished = true := by
    obtain ⟨lives, ends⟩ := ScriptProcess.lives_terminate process there
    cases began : process.resident.lifecycle.shuttingDown with
    | false => exact ends began
    | true => exact lives.lived.finished (accounted.shutting began)
  have told := (accounted.lives (ScriptProcess.lives_terminate process site).1).told
  rw [finished site] at told
  exact ⟨finished, told⟩

end Accounted

/-- Nothing more is heard of a process that is gone. -/
theorem Departed.elsewhere (departed : Departed terminal site earlier pid process)
    (quiet : site.Hears terminal pid there) : Departed terminal there earlier pid process :=
  ⟨departed.finished, fun now heard => departed.told now (quiet now heard)⟩

end Lives

/-! ### Ending several processes -/

/-- Ending some processes is not heard of others. -/
theorem Manager.hears_terminateAll (terminal : TerminalRef) {pid : Pid}
    (entries : List (Pid × ScriptProcess)) (site : Site)
    (different : ∀ entry ∈ entries, pid ≠ entry.2.resident.lifecycle.pid) :
    site.Hears terminal pid (terminateAll entries site) := by
  induction entries generalizing site with
  | nil => exact fun _ heard => heard
  | cons entry rest ih =>
    have first := (ScriptProcess.lives_terminate entry.2 site).1.lived.others terminal pid
      (different entry List.mem_cons_self)
    intro now heard
    exact first.symm.trans
      (ih _ (fun other here => different other (List.mem_cons_of_mem _ here)) now heard)

/-- **Processes that are ended one after the other have all ended**, and that has been heard. -/
theorem Manager.departed_terminateAll {terminal : TerminalRef} {table : SyscallTable}
    {earlier : Pid → Option (List ProcessEvent)} {entries : List (Pid × ScriptProcess)} {site : Site}
    (ordered : entries.Pairwise fun entry later => entry.1 < later.1)
    (accounted : ∀ entry ∈ entries,
      Accounted terminal table site (earlier entry.1) entry.1 entry.2) :
    ∀ entry ∈ entries,
      Departed terminal (terminateAll entries site) (earlier entry.1) entry.1 entry.2 := by
  induction entries generalizing site with
  | nil => exact fun _ here => absurd here List.not_mem_nil
  | cons first rest ih =>
    obtain ⟨before, ordered⟩ := List.pairwise_cons.mp ordered
    have here := accounted first List.mem_cons_self
    have lives := (ScriptProcess.lives_terminate first.2 site).1
    have later (entry : Pid × ScriptProcess) (among : entry ∈ rest) :
        Accounted terminal table (first.2.terminate site).2 (earlier entry.1) entry.1 entry.2 :=
      (accounted entry (List.mem_cons_of_mem _ among)).apart lives
        (by rw [here.lifecyclePid]; exact Nat.ne_of_gt (before entry among))
    intro entry among
    rcases List.mem_cons.mp among with rfl | among
    · refine here.departed.elsewhere (hears_terminateAll terminal rest _ fun other among => ?_)
      rw [(later other among).lifecyclePid]
      exact Nat.ne_of_lt (before other among)
    · exact ih ordered later entry among

/-! ### Sound sessions -/

namespace Session

/-- **What holds of a session that is reached.** -/
structure Sound (reference : TerminalRef) (bound : SyscallTable) (session : Session) : Prop where
  terminal : session.manager.terminal = reference
  table : session.manager.table = bound
  ordered : session.manager.Ordered
  accounted : ∀ pid process, session.manager.get pid = some process →
    Accounted reference bound session.site (session.earlier pid) pid process

variable {terminal : TerminalRef} {table : SyscallTable} {session : Session}

/-- A new process is accounted for, and so are the others. -/
theorem Sound.spawn (sound : session.Sound terminal table) (path : String) (args : List String)
    (environment : List (String × String)) :
    (session.handle (.spawn path args environment)).Sound terminal table := by
  have spawned := session.manager.spawn_spawned session.site path args environment
  dsimp only [handle]
  generalize session.manager.spawn session.site path args environment = left at spawned ⊢
  cases spawned with
  | failed =>
    exact ⟨sound.terminal, sound.table, sound.ordered, fun pid process known =>
      (sound.accounted pid process known).elsewhere fun _ heard => heard⟩
  | exhausted => exact sound
  | @made pid process least last fresh added =>
    refine ⟨sound.terminal, sound.table, sound.ordered.put pid process, fun other found known => ?_⟩
    rw [sound.terminal, sound.table] at fresh
    replace known := (congrFun added other).symm.trans known
    show Accounted terminal table session.site
      (Function.update session.earlier pid (session.heard pid) other) other found
    by_cases same : other = pid
    · subst same
      rw [Function.update_self] at known ⊢
      cases known
      unfold heard
      rw [sound.terminal]
      exact .fresh session.site fresh
    · rw [Function.update_of_ne same] at known ⊢
      exact sound.accounted other found known

/-- **What is done with one process keeps all accounted for.** -/
theorem Sound.onProcess {α : Type} (sound : session.Sound terminal table) (pid : Pid)
    (act : ScriptProcess → Site → α × ScriptProcess × Site)
    (lives : ∀ process : ScriptProcess, process.executor.table = table →
      process.Lives session.site (act process session.site).2) :
    (session.holding (session.manager.onProcess session.site pid act).2).Sound terminal table := by
  cases known : session.manager.get pid with
  | none =>
    rw [Manager.onProcess_none known]
    exact sound
  | some process =>
    rw [Manager.onProcess_some known]
    have accounted := sound.accounted pid process known
    have life := lives process accounted.table
    refine ⟨sound.terminal, sound.table, sound.ordered.put pid _, fun other found there => ?_⟩
    replace there := (congrFun (Manager.get_put session.manager pid _) other).symm.trans there
    by_cases same : other = pid
    · subst same
      rw [Function.update_self] at there
      cases there
      exact accounted.lives life
    · rw [Function.update_of_ne same] at there
      refine (sound.accounted other found there).apart life ?_
      rw [accounted.lifecyclePid]
      exact same

/-- **Taking processes out and ending them**: those that are kept stay accounted for, the others have departed. -/
theorem Sound.part (sound : session.Sound terminal table) (kept : Pid × ScriptProcess → Bool) :
    let gone := session.manager.processes.filter fun entry => !kept entry
    let left := session.holding
      ({ session.manager with processes := session.manager.processes.filter kept },
        Manager.terminateAll gone session.site)
    left.Sound terminal table ∧ ∀ entry ∈ gone,
      Departed terminal left.site (session.earlier entry.1) entry.1 entry.2 := by
  have accounted (entry : Pid × ScriptProcess) (here : entry ∈ session.manager.processes) :=
    sound.accounted entry.1 entry.2 (sound.ordered.get_eq_some_iff.mpr here)
  refine ⟨⟨sound.terminal, sound.table, sound.ordered.filter kept, fun pid process known => ?_⟩,
    Manager.departed_terminateAll (sound.ordered.filter _) fun entry here =>
      accounted entry (List.mem_filter.mp here).1⟩
  obtain ⟨here, stays⟩ := List.mem_filter.mp ((sound.ordered.filter kept).get_eq_some_iff.mp known)
  refine (accounted (pid, process) here).elsewhere
    (Manager.hears_terminateAll terminal _ _ fun entry gone => ?_)
  obtain ⟨among, leaves⟩ := List.mem_filter.mp gone
  rw [(accounted entry among).lifecyclePid]
  rintro rfl
  have same := sound.ordered.get_eq_some_iff.mpr among
  rw [sound.ordered.get_eq_some_iff.mpr here] at same
  cases same
  rw [show kept (entry.1, entry.2) = true from stays] at leaves
  cases leaves

theorem Sound.terminate (sound : session.Sound terminal table) (pid : Pid) :
    (session.handle (.terminate pid)).Sound terminal table := by
  dsimp only [handle]
  cases known : session.manager.get pid with
  | none =>
    rw [Manager.terminate_none known]
    exact sound
  | some process =>
    rw [Manager.terminate_some known]
    refine ⟨sound.terminal, sound.table, sound.ordered.filter _, fun other found there => ?_⟩
    replace there := (congrFun (sound.ordered.get_remove pid) other).symm.trans there
    by_cases same : other = pid
    · subst same
      rw [Function.update_self] at there
      cases there
    · rw [Function.update_of_ne same] at there
      refine (sound.accounted other found there).apart
        (ScriptProcess.lives_terminate process session.site).1 ?_
      rw [(sound.accounted pid process known).lifecyclePid]
      exact same

theorem handle_reap (session : Session) :
    session.handle .reap = session.holding
      ({ session.manager with
          processes := session.manager.processes.filter fun entry => entry.2.isAlive },
        Manager.terminateAll (session.manager.processes.filter fun entry => !entry.2.isAlive)
          session.site) := by
  dsimp only [handle]
  rw [Manager.reap_eq]

/-- Nothing is kept when all is shut down. -/
theorem handle_shutdownAll (session : Session) :
    session.handle .shutdownAll = session.holding
      ({ session.manager with processes := session.manager.processes.filter fun _ => false },
        Manager.terminateAll (session.manager.processes.filter fun _ => !false) session.site) := by
  rw [List.filter_false, Bool.not_false, List.filter_true]
  rfl

/-- **Every request keeps a session sound.** -/
theorem Sound.handle (sound : session.Sound terminal table) (modest : table.Modest)
    (reticent : table.Reticent) (request : Request) :
    (session.handle request).Sound terminal table := by
  have performs (operation : Operation) (process : ScriptProcess)
      (bound : process.executor.table = table) :
      process.Lives session.site (operation.perform process session.site) :=
    ScriptProcess.lives_perform (bound ▸ modest) (bound ▸ reticent) operation session.site
  cases request with
  | spawn path args environment => exact sound.spawn path args environment
  | execute files pid => exact sound.onProcess pid _ (performs (.execute files))
  | invoke pid name args => exact sound.onProcess pid _ (performs (.invoke name args))
  | signal pid number =>
    exact sound.onProcess pid (fun process site => process.signal site number)
      (performs (.signal number))
  | directly pid operation => exact sound.onProcess pid _ (performs operation)
  | terminate pid => exact sound.terminate pid
  | reap =>
    rw [handle_reap]
    exact (sound.part _).1
  | shutdownAll =>
    rw [handle_shutdownAll]
    exact (sound.part _).1

/-- **Every session that is reached is sound.** -/
theorem Reached.sound (reached : Reached terminal table session) (modest : table.Modest)
    (reticent : table.Reticent) : session.Sound terminal table := by
  induction reached with
  | start config site =>
    refine ⟨rfl, rfl, .nil, fun pid process known => ?_⟩
    cases known
  | request request _ ih => exact ih.handle modest reticent request
  | meanwhile _ quiet ih =>
    exact ⟨ih.terminal, ih.table, ih.ordered, fun pid process known =>
      (ih.accounted pid process known).elsewhere (quiet pid)⟩

/-- **A request takes out no process that has not ended and been heard to.** -/
theorem Sound.departed (sound : session.Sound terminal table) (request : Request) {pid : Pid}
    {process : ScriptProcess} (known : session.manager.get pid = some process)
    (gone : (session.handle request).manager.get pid = none) :
    Departed terminal (session.handle request).site (session.earlier pid) pid process := by
  have here := sound.ordered.get_eq_some_iff.mp known
  -- most requests take nothing out
  have stays (kept : session.manager.taken ⊆ (session.handle request).manager.taken) : False := by
    obtain ⟨after, still⟩ := Manager.mem_taken.mp (kept (Manager.mem_taken.mpr ⟨process, known⟩))
    rw [gone] at still
    cases still
  cases request with
  | spawn path args environment =>
    refine (stays ?_).elim
    refine (session.manager.spawn_spawned session.site path args environment).taken_subset.trans ?_
    dsimp only [Session.handle]
    split <;> rename_i spawned <;> rw [spawned] <;> exact subset_rfl
  | execute files number => exact (stays (Manager.onProcess_addressed _ _ number _).taken.ge).elim
  | invoke number name args =>
    exact (stays (Manager.onProcess_addressed _ _ number _).taken.ge).elim
  | signal number signal =>
    exact (stays (Manager.onProcess_addressed _ _ number
      fun process site => process.signal site signal).taken.ge).elim
  | directly number operation =>
    exact (stays (Manager.onProcess_addressed _ _ number _).taken.ge).elim
  | terminate number =>
    replace gone := (congrFun (sound.ordered.terminate_released session.site number).removed
      pid).symm.trans gone
    by_cases same : pid = number
    · subst same
      show Departed terminal (session.manager.terminate session.site pid).2.2 _ _ _
      rw [Manager.terminate_some known]
      exact (sound.accounted pid process known).departed
    · rw [Function.update_of_ne same, known] at gone
      cases gone
  | reap =>
    rw [handle_reap] at gone ⊢
    refine (sound.part fun entry => entry.2.isAlive).2 (pid, process)
      (List.mem_filter.mpr ⟨here, ?_⟩)
    replace gone := (sound.ordered.get_filter (fun entry => entry.2.isAlive) pid).symm.trans gone
    rw [known] at gone
    simpa using gone
  | shutdownAll =>
    rw [handle_shutdownAll]
    exact (sound.part fun _ => false).2 (pid, process) (List.mem_filter.mpr ⟨here, rfl⟩)

/-! ### A finite map -/

/-- **A session answers as a finite map from numbers does.** -/
structure RefinesMap (session : Session) : Prop where
  listed : session.manager.Listed
  size : session.manager.taken.Finite ∧ session.manager.size = session.manager.taken.ncard
  spawn : ∀ path args environment, session.manager.Spawned session.site path args environment
    (session.manager.spawn session.site path args environment)
  /-- A spawn that fails leaves its number to the next one. -/
  again : ∀ path args environment {pid reason after there},
    session.manager.spawn session.site path args environment =
        (.error (.construction pid reason), after, there) →
      ∀ {here other others further next},
        (after.spawn here other others further).1 = .ok next → next = pid
  execute : ∀ files pid, session.manager.Addressed session.site pid
    (fun process => process.execute session.site files)
    (session.manager.execute session.site files pid)
  invoke : ∀ pid name args, session.manager.Addressed session.site pid
    (fun process => (process.invoke session.site name args).2)
    (session.manager.invoke session.site pid name args)
  signal : ∀ pid number, session.manager.Addressed session.site pid
    (fun process => (process.signal session.site number).2)
    (session.manager.signal session.site pid number)
  terminate : ∀ pid, session.manager.Released session.site pid
    (session.manager.terminate session.site pid)
  reap : session.manager.Reaped (session.manager.reap session.site)
  shutdownAll : (session.manager.shutdownAll session.site).1.taken = ∅
  departed : ∀ request pid process, session.manager.get pid = some process →
    (session.handle request).manager.get pid = none →
      Departed session.manager.terminal (session.handle request).site (session.earlier pid) pid
        process

/-- A sound session is a finite map. -/
theorem Sound.refinesMap (sound : session.Sound terminal table) (modest : table.Modest)
    (reticent : table.Reticent) : session.RefinesMap where
  listed := sound.ordered.listed fun pid process known => (sound.accounted pid process known).pid
  size := sound.ordered.size_eq
  spawn := session.manager.spawn_spawned session.site
  again := fun path args environment _ _ _ _ failed _ _ _ _ _ spawned => by
    have before := session.manager.spawn_spawned session.site path args environment
    rw [failed] at before
    exact before.again spawned
  execute := fun files pid =>
    session.manager.onProcess_addressed session.site pid fun process site =>
      ((), process.execute site files)
  invoke := fun pid name args =>
    session.manager.onProcess_addressed session.site pid fun process site =>
      ((process.invoke site name args).1.toOption, (process.invoke site name args).2)
  signal := fun pid number => session.manager.signal_addressed session.site pid number
    fun process known => by
      have bound := (sound.accounted pid process known).table
      exact (ScriptProcess.lives_signal (bound ▸ modest) (bound ▸ reticent) session.site number).2
  terminate := sound.ordered.terminate_released session.site
  reap := sound.ordered.reap_reaped session.site
  shutdownAll := Set.eq_empty_of_forall_notMem fun pid taken => by cases taken
  departed := fun request pid process known gone =>
    sound.terminal ▸ sound.departed request known gone

end Session

/-- **A manager is a finite map from numbers to processes**, after every history of requests, whatever its processes
do: a new process gets the least free number, processes are found and taken out by their numbers, and every process
that is taken out has ended and been heard to end once. -/
theorem session_refines_map {terminal : TerminalRef} {table : SyscallTable} {session : Session}
    (modest : table.Modest) (reticent : table.Reticent) (reached : session.Reached terminal table) :
    session.RefinesMap :=
  (reached.sound modest reticent).refinesMap modest reticent

/-- One of two processes exits and is reaped. -/
theorem session_refines_map_of_reaped : ∃ session : Session,
    session.Reached ⟨some 0⟩ .standard ∧ session.manager.list.map ProcessInfo.pid = [2] ∧
      session.heard 1 = some [.exited 3] ∧ session.RefinesMap := by
  have reached : Session.Reached ⟨some 0⟩ .standard _ :=
    .request .reap (.request (.directly 1 (.invoke "exit" [Json.nat 3]))
      (.request (.spawn "second.js" [] []) (.request (.spawn "first.js" [] []) (.start {} .single))))
  refine ⟨_, reached, by decide +kernel, by decide +kernel, ?_⟩
  exact session_refines_map SyscallTable.standard_modest SyscallTable.standard_reticent reached

end ScriptKernel
