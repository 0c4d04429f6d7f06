/-
**Processes side by side, and the handles of their host.**

The host holds handles: to variables of its own, and to those of its processes. A clone of a handle is for the same
variables, a copy for others that begin alike. The processes share a site and take their steps in any order, piece by
piece, and the host uses its handles in between.

* `Holder`, `Company`: whose variables a handle is for; the processes, the variables of the host, and its handles;
* `Act`, `Act.take`: what can be done, and what is told of it;
* `Roll`: **which handles come from each other by cloning**, and which belong to a process; `Roll.deeds`: what was done
  to their variables through any of them, or by a script;
* `Kept.take`, `Kept.run`: variables are as these deeds have left them, whatever else is done;
* `variables_shared`: so everyone who asks for a variable is told what the latest deed has made of it.
-/

import ScriptKernel.Proofs.Binding
import ScriptKernel.Proofs.Process.Variables

set_option autoImplicit false

namespace ScriptKernel

open Environment (Deed done latest)
open ScriptProcess (Demand Throng)

/-! ### The company -/

/-- What a process is made with, and what its callers ask of it. -/
structure Birth where
  pid : Pid
  path : String
  args : List String
  envp : List (String × String)
  terminal : TerminalRef
  table : SyscallTable
  config : KernelConfig
  capacity : Nat
  demands : List Demand

/-- Makes the process, or tells why that is not possible. -/
def Birth.start (birth : Birth) (site : Site) : Except ProcessError ScriptProcess × Site :=
  ScriptProcess.start (.of birth.pid birth.path birth.args birth.envp) birth.terminal birth.table birth.config
    site

/-- Whose variables a handle is for. -/
inductive Holder
  | own (handle : EnvironmentHandle)
  | process (number : Nat)
  deriving DecidableEq

/-- The processes in the order in which they were made, the variables of the host, and its handles. -/
structure Company where
  site : Site := {}
  throngs : List Throng := []
  store : Environments := {}
  handles : List Holder := []

namespace Company

/-- The variables of a holder. -/
def environment (company : Company) : Holder → Environment
  | .own handle => company.store.snapshot handle
  | .process number => (company.throngs[number]?.map Throng.environment).getD {}

/-- The variables behind a handle. -/
def at? (company : Company) (handle : Nat) : Option Environment :=
  company.handles[handle]?.map company.environment

/-- The host works on the variables of a holder. -/
def perform (company : Company) (deed : Deed) : Holder → Company
  | .own handle =>
    { company with
      store := match deed with
        | .set name value => company.store.set handle name value
        | .remove name => (company.store.remove handle name).2 }
  | .process number =>
    { company with throngs := company.throngs.modify number fun throng => throng.perform deed }

/-- A handle to new variables. -/
def found (company : Company) (environment : Environment) : Company :=
  let (handle, store) := company.store.create environment
  { company with store, handles := company.handles ++ [.own handle] }

/-- A process is made, with a handle to its variables. -/
def start (company : Company) (birth : Birth) : Option Company :=
  match birth.start company.site with
  | (.ok process, site) =>
    some { company with
      site
      throngs := company.throngs ++ [.fresh process site birth.capacity birth.demands]
      handles := company.handles ++ [.process company.throngs.length] }
  | (.error _, _) => none

/-- A process takes a step, if it can; a call of a host function is told. -/
def turn (company : Company) (number : Nat) (move : Throng.Move) : Option (Option Calling × Company) :=
  (company.throngs[number]?).bind fun throng =>
    let throng := throng.sited company.site
    (throng.step move).map fun next =>
      (throng.calling? next,
        { company with throngs := company.throngs.set number next, site := next.crowd.site })

/-- What can be done: with handles, which are numbered in the order in which they were made, and with processes. -/
inductive Act
  | make (entries : List (String × String))
  | start (birth : Birth)
  | clone (handle : Nat)
  | copy (handle : Nat)
  | change (handle : Nat) (deed : Deed)
  | get (handle : Nat) (name : String)
  | count (handle : Nat)
  | snapshot (handle : Nat)
  | turn (number : Nat) (move : Throng.Move)

/-- What is told. -/
inductive Told
  | nothing
  | started
  | value (value : Option String)
  | count (size : Nat) (empty : Bool)
  | entries (entries : List (String × String))
  | called (calling : Calling)

/-- What the host is told of its work: what was taken away. -/
def Told.ofDeed (environment : Environment) : Deed → Told
  | .set .. => .nothing
  | .remove name => .value (environment.get name)

/-- What is told of an act, and what it leaves. Without the handle or the process it is for it does nothing. -/
def Act.take (company : Company) : Act → Told × Company
  | .make entries => (.nothing, company.found (.ofList entries))
  | .start birth =>
    match company.start birth with
    | some started => (.started, started)
    | none => (.nothing, company)
  | .clone handle =>
    (.nothing, { company with handles := company.handles ++ company.handles[handle]?.toList })
  | .copy handle => (.nothing, ((company.at? handle).map company.found).getD company)
  | .change handle deed =>
    ((company.at? handle).elim .nothing fun environment => .ofDeed environment deed,
      (company.handles[handle]?.map (company.perform deed)).getD company)
  | .get handle name =>
    ((company.at? handle).elim .nothing fun environment => .value (environment.get name), company)
  | .count handle =>
    ((company.at? handle).elim .nothing fun environment => .count environment.size environment.isEmpty,
      company)
  | .snapshot handle =>
    ((company.at? handle).elim .nothing fun environment => .entries environment.entries, company)
  | .turn number move =>
    match company.turn number move with
    | some (calling, next) => (calling.elim .nothing .called, next)
    | none => (.nothing, company)

/-- The company after some acts. -/
def run (company : Company) (acts : List Act) : Company :=
  acts.foldl (fun company act => (act.take company).2) company

/-- The company after a history, which begins without processes and handles. -/
def after (past : List Act) : Company := run {} past

/-- Acts with what is told of them. -/
def trace (company : Company) : List Act → List (Act × Told)
  | [] => []
  | act :: later => (act, (act.take company).1) :: trace (act.take company).2 later

theorem after_append (past later : List Act) : after (past ++ later) = (after past).run later :=
  List.foldl_append

/-! ### Who shares with whom -/

/-- For each handle the one it comes from by cloning, and for each process the one it was made with. -/
structure Roll where
  roots : List Nat := []
  processes : List Nat := []

namespace Roll

/-- A handle that comes from no other. -/
def found (roll : Roll) : Roll := { roll with roots := roll.roots ++ [roll.roots.length] }

/-- What an act adds to the roll. -/
def note (roll : Roll) : Act → Told → Roll
  | .make _, _ => roll.found
  | .start _, .started => { roll.found with processes := roll.processes ++ [roll.roots.length] }
  | .clone handle, _ => { roll with roots := roll.roots ++ roll.roots[handle]?.toList }
  | .copy handle, _ => if handle < roll.roots.length then roll.found else roll
  | _, _ => roll

/-- What an act does to the variables of the handles that come from one. -/
def deed? (roll : Roll) (root : Nat) : Act → Told → Option Deed
  | .change handle deed, _ => if roll.roots[handle]? = some root then some deed else none
  | .turn number _, .called calling => if roll.processes[number]? = some root then calling.deed? else none
  | _, _ => none

/-- The roll after some acts. -/
def noted (roll : Roll) (told : List (Act × Told)) : Roll :=
  told.foldl (fun roll entry => roll.note entry.1 entry.2) roll

/-- **What some acts do to the variables of the handles that come from one**, in order. -/
def deeds (roll : Roll) (root : Nat) : List (Act × Told) → List Deed
  | [] => []
  | (act, told) :: later => (roll.deed? root act told).toList ++ (roll.note act told).deeds root later

end Roll

/-- The roll of a history. -/
def rollOf (past : List Act) : Roll := Roll.noted {} (trace {} past)

/-! ### What acts leave -/

/-- A company has the variables of a holder. -/
def Has (company : Company) : Holder → Prop
  | .own handle => handle.place < company.store.tables.size
  | .process number => number < company.throngs.length

/-- Nothing that a company has is changed. -/
structure Extends (company after : Company) : Prop where
  has : ∀ holder, company.Has holder → after.Has holder
  same : ∀ holder, company.Has holder → after.environment holder = company.environment holder

section

variable {company after : Company}

/-- New variables are put beside the others. -/
theorem found_extends (company : Company) (environment : Environment) :
    company.Extends (company.found environment) := by
  constructor
  · intro holder has
    cases holder with
    | own handle =>
      show handle.place < (company.store.tables.push environment).size
      rw [Array.size_push]
      exact Nat.lt_succ_of_lt has
    | process number => exact has
  · intro holder has
    cases holder with
    | own handle => exact (company.store.snapshot_create environment handle).trans (if_neg (Nat.ne_of_lt has))
    | process number => rfl

/-- So is a new process. -/
theorem started_extends (company : Company) (throng : Throng) (site : Site) (handles : List Holder) :
    company.Extends { company with site, throngs := company.throngs ++ [throng], handles } := by
  constructor
  · intro holder has
    cases holder with
    | own handle => exact has
    | process number =>
      show number < (company.throngs ++ [throng]).length
      rw [List.length_append]
      exact Nat.lt_add_right _ has
  · intro holder has
    cases holder with
    | own handle => rfl
    | process number =>
      show ((company.throngs ++ [throng])[number]?.map Throng.environment).getD {} = _
      rw [List.getElem?_append_left has]
      rfl

/-- New variables of the host are what it has put there, … -/
theorem environment_found (company : Company) (environment : Environment) :
    (company.found environment).environment (.own ⟨company.store.tables.size⟩) = environment :=
  (company.store.snapshot_create environment _).trans (if_pos rfl)

/-- … and those of a new process are what it has come up with. -/
theorem environment_started (company : Company) (throng : Throng) (site : Site) (handles : List Holder) :
    ({ company with site, throngs := company.throngs ++ [throng], handles } : Company).environment
      (.process company.throngs.length) = throng.environment := by
  show ((company.throngs ++ [throng])[company.throngs.length]?.map Throng.environment).getD {} = _
  rw [List.getElem?_concat_length]
  rfl

/-- They are behind the handle that comes with them. -/
theorem at?_last {holder : Holder} (handles : after.handles = company.handles ++ [holder]) :
    after.at? company.handles.length = some (after.environment holder) := by
  rw [at?, handles, List.getElem?_concat_length]
  rfl

/-- What is done with variables is done with no others. -/
theorem environment_perform {holder : Holder} (has : company.Has holder) (deed : Deed) (other : Holder) :
    (company.perform deed holder).environment other =
      if other = holder then deed.apply (company.environment other) else company.environment other := by
  cases holder with
  | own handle =>
    cases other with
    | own another =>
      simp only [Holder.own.injEq]
      cases deed <;> exact company.store.snapshot_modify has _ another
    | process number => exact (if_neg nofun).symm
  | process number =>
    cases other with
    | own another => exact (if_neg nofun).symm
    | process another =>
      simp only [Holder.process.injEq]
      show ((company.throngs.modify number _)[another]?.map Throng.environment).getD {} = _
      rw [List.getElem?_modify]
      by_cases same : another = number
      · subst same
        obtain ⟨throng, here⟩ : ∃ throng, company.throngs[another]? = some throng :=
          ⟨_, List.getElem?_eq_getElem has⟩
        rw [if_pos rfl, environment, here]
        show (if another = another then throng.perform deed else throng).environment = deed.apply throng.environment
        rw [if_pos rfl, throng.environment_perform]
      · rw [if_neg same]
        simp only [if_neg (Ne.symm same), Option.map_eq_map, Option.map_id']
        rfl

/-- What is done with variables takes none away. -/
theorem has_perform {holder : Holder} (deed : Deed) (other : Holder) (has : company.Has other) :
    (company.perform deed holder).Has other := by
  cases holder with
  | own handle =>
    cases other with
    | own another =>
      have size (change : Environment → Environment) :
          (company.store.tables.modify handle.place change).size = company.store.tables.size :=
        Array.size_modify
      cases deed <;> exact Nat.lt_of_lt_of_eq has (size _).symm
    | process number => exact has
  | process number =>
    cases other with
    | own another => exact has
    | process another =>
      show another < (company.throngs.modify number _).length
      rw [List.length_modify]
      exact has

/-! ### What a company keeps to -/

/-- **The handles agree with the roll**: those that come from each other are for the same variables, and no others
are. Each of the pairs is a handle, with the one it comes from and with its holder. -/
structure Kept (pairs : List (Nat × Holder)) (roll : Roll) (company : Company) : Prop where
  roots : roll.roots = pairs.map Prod.fst
  handles : company.handles = pairs.map Prod.snd
  matched : ∀ one ∈ pairs, ∀ other ∈ pairs, one.1 = other.1 ↔ one.2 = other.2
  bounded : ∀ pair ∈ pairs, pair.1 < pairs.length
  has : ∀ pair ∈ pairs, company.Has pair.2
  sorted : ∀ pair ∈ pairs, (company.environment pair.2).Sorted
  settled : ∀ throng ∈ company.throngs, throng.Settled
  processes : roll.processes.length = company.throngs.length
  numbered : ∀ number root, roll.processes[number]? = some root → (root, .process number) ∈ pairs

/-- What is left of a company: the handles there were, with what was done to their variables. -/
structure Follows (pairs : List (Nat × Holder)) (company : Company) (deeds : Nat → List Deed) (roll : Roll)
    (after : Company) : Prop where
  kept : ∃ more, Kept (pairs ++ more) roll after
  left : ∀ pair ∈ pairs, after.environment pair.2 = (company.environment pair.2).done (deeds pair.1)

variable {pairs : List (Nat × Holder)} {roll : Roll}

/-- What changes nothing leaves all as it was. -/
theorem Kept.idle (kept : Kept pairs roll company) : Follows pairs company (fun _ => []) roll company :=
  ⟨⟨[], by rwa [List.append_nil]⟩, fun _ _ => rfl⟩

/-- **A handle that comes from no other** is for variables of its own. -/
theorem Kept.found (kept : Kept pairs roll company) {holder : Holder} {processes : List Nat}
    (grown : company.Extends after) (handles : after.handles = company.handles ++ [holder])
    (new : ¬ company.Has holder) (there : after.Has holder) (sorted : (after.environment holder).Sorted)
    (settled : ∀ throng ∈ after.throngs, throng.Settled) (length : processes.length = after.throngs.length)
    (numbered : ∀ number root, processes[number]? = some root →
      (root, .process number) ∈ pairs ++ [(pairs.length, holder)]) :
    Follows pairs company (fun _ => []) ⟨roll.roots ++ [roll.roots.length], processes⟩ after := by
  have apart (pair : Nat × Holder) (old : pair ∈ pairs) : pair.1 ≠ pairs.length ∧ pair.2 ≠ holder :=
    ⟨Nat.ne_of_lt (kept.bounded pair old), fun same => new (same ▸ kept.has pair old)⟩
  refine ⟨⟨[(pairs.length, holder)], ?_⟩, fun pair old => grown.same pair.2 (kept.has pair old)⟩
  refine ⟨?_, ?_, ?_, ?_, ?_, ?_, settled, length, numbered⟩
  · rw [kept.roots, List.map_append, List.length_map]
    rfl
  · rw [handles, kept.handles, List.map_append]
    rfl
  · intro one first other second
    rw [List.mem_append, List.mem_singleton] at first second
    rcases first with first | rfl
    · rcases second with second | rfl
      · exact kept.matched one first other second
      · exact iff_of_false (apart one first).1 (apart one first).2
    · rcases second with second | rfl
      · exact iff_of_false (apart other second).1.symm (apart other second).2.symm
      · exact iff_of_true rfl rfl
  · intro pair here
    rw [List.length_append, List.length_singleton]
    rcases List.mem_append.mp here with old | last
    · exact Nat.lt_succ_of_lt (kept.bounded pair old)
    · rw [List.mem_singleton.mp last]
      exact Nat.lt_succ_self _
  · intro pair here
    rcases List.mem_append.mp here with old | last
    · exact grown.has pair.2 (kept.has pair old)
    · rw [List.mem_singleton.mp last]
      exact there
  · intro pair here
    rcases List.mem_append.mp here with old | last
    · rw [grown.same pair.2 (kept.has pair old)]
      exact kept.sorted pair old
    · rw [List.mem_singleton.mp last]
      exact sorted

/-- The host makes new variables. -/
theorem Kept.make (kept : Kept pairs roll company) {environment : Environment} (sorted : environment.Sorted) :
    Follows pairs company (fun _ => []) roll.found (company.found environment) := by
  refine kept.found (found_extends company environment) rfl (Nat.lt_irrefl _) ?_ ?_ kept.settled
    kept.processes fun number root here => List.mem_append_left _ (kept.numbered number root here)
  · show company.store.tables.size < (company.store.tables.push environment).size
    rw [Array.size_push]
    exact Nat.lt_succ_self _
  · rw [environment_found]
    exact sorted

/-- A handle is cloned. -/
theorem Kept.clone (kept : Kept pairs roll company) (handle : Nat) :
    Follows pairs company (fun _ => []) { roll with roots := roll.roots ++ roll.roots[handle]?.toList }
      { company with handles := company.handles ++ company.handles[handle]?.toList } := by
  have old {pair : Nat × Holder} (here : pair ∈ pairs ++ pairs[handle]?.toList) : pair ∈ pairs := by
    rcases List.mem_append.mp here with old | clone
    · exact old
    · exact List.mem_of_getElem? (Option.mem_toList.mp clone)
  refine ⟨⟨pairs[handle]?.toList, ?_⟩, fun _ _ => rfl⟩
  refine ⟨?_, ?_, fun one first other second => kept.matched one (old first) other (old second),
    fun pair here => ?_, fun pair here => kept.has pair (old here), fun pair here => kept.sorted pair (old here),
    kept.settled, kept.processes, fun number root here => List.mem_append_left _ (kept.numbered number root here)⟩
  · rw [List.map_append, ← Option.toList_map, ← List.getElem?_map, ← kept.roots]
  · rw [List.map_append, ← Option.toList_map, ← List.getElem?_map, ← kept.handles]
  · rw [List.length_append]
    exact Nat.lt_add_right _ (kept.bounded pair (old here))

/-- The handle at a place, with the one it comes from. -/
theorem Kept.pair (kept : Kept pairs roll company) (handle : Nat) :
    roll.roots[handle]? = pairs[handle]?.map Prod.fst ∧ company.handles[handle]? = pairs[handle]?.map Prod.snd := by
  rw [kept.roots, kept.handles, List.getElem?_map, List.getElem?_map]
  exact ⟨rfl, rfl⟩

/-- The variables behind a handle are those of its holder. -/
theorem Kept.at?_eq (kept : Kept pairs roll company) (handle : Nat) :
    company.at? handle = pairs[handle]?.map fun pair => company.environment pair.2 := by
  rw [at?, (kept.pair handle).2, Option.map_map]
  rfl

/-- The host works on the variables behind a handle. -/
theorem Kept.change (kept : Kept pairs roll company) {handle : Nat} {origin : Nat × Holder}
    (here : pairs[handle]? = some origin) (deed : Deed) (told : Told) :
    Follows pairs company (fun root => (roll.deed? root (.change handle deed) told).toList) roll
      (company.perform deed origin.2) := by
  have member := List.mem_of_getElem? here
  have left (pair : Nat × Holder) (there : pair ∈ pairs) : (company.perform deed origin.2).environment pair.2 =
      (company.environment pair.2).done (roll.deed? pair.1 (.change handle deed) told).toList := by
    have matched : roll.roots[handle]? = some pair.1 ↔ origin.2 = pair.2 := by
      rw [(kept.pair handle).1, here, Option.map_some, Option.some.injEq]
      exact kept.matched origin member pair there
    rw [environment_perform (kept.has origin member), Roll.deed?]
    by_cases same : pair.2 = origin.2
    · rw [if_pos same, if_pos (matched.mpr same.symm)]
      rfl
    · rw [if_neg same, if_neg fun root => same (matched.mp root).symm]
      rfl
  refine ⟨⟨[], ?_⟩, left⟩
  rw [List.append_nil]
  refine ⟨kept.roots, ?_, kept.matched, kept.bounded, fun pair there => has_perform deed _ (kept.has pair there),
    fun pair there => ?_, ?_, ?_, kept.numbered⟩
  · cases origin.2 <;> exact kept.handles
  · rw [left pair there]
    exact Environment.sorted_done (kept.sorted pair there) _
  · cases origin.2 with
    | own handle => exact kept.settled
    | process number =>
      intro throng found
      obtain ⟨place, there⟩ := List.mem_iff_getElem?.mp found
      rcases Queue.modify_cases there with ⟨-, old⟩ | ⟨-, before, old, rfl⟩
      · exact kept.settled throng (List.mem_of_getElem? old)
      · exact (kept.settled before (List.mem_of_getElem? old)).perform deed
  · cases origin.2 with
    | own handle => exact kept.processes
    | process number => exact kept.processes.trans (List.length_modify ..).symm

/-- Whoever is made has come up. -/
theorem of_start {birth : Birth} {next : Company} (made : company.start birth = some next) :
    ∃ process site, (birth.start company.site).1 = .ok process ∧
      next = { company with
        site
        throngs := company.throngs ++ [.fresh process site birth.capacity birth.demands]
        handles := company.handles ++ [.process company.throngs.length] } := by
  unfold start at made
  split at made
  · rename_i process site started
    cases made
    exact ⟨process, site, congrArg Prod.fst started, rfl⟩
  · cases made

/-- What a process has come up with are the variables it was made with. -/
theorem environment_fresh {birth : Birth} {process : ScriptProcess} {site : Site}
    (started : (birth.start site).1 = .ok process) :
    process.resident.environment = .ofList birth.envp := by
  rw [(ScriptProcess.start_ok started).1.resident]
  rfl

/-- A process that is made has variables of its own. -/
theorem Kept.start (kept : Kept pairs roll company) {birth : Birth} (customary : birth.table.Customary)
    {next : Company} (made : company.start birth = some next) :
    Follows pairs company (fun _ => [])
      { roll.found with processes := roll.processes ++ [roll.roots.length] } next := by
  obtain ⟨process, site, started, rfl⟩ := of_start made
  have fresh := (ScriptProcess.start_ok started).1
  refine kept.found (started_extends company _ site _) rfl (Nat.lt_irrefl _) ?_ ?_ ?_ ?_ ?_
  · show company.throngs.length < (company.throngs ++ [_]).length
    rw [List.length_append]
    exact Nat.lt_succ_self _
  · rw [environment_started]
    show process.resident.environment.Sorted
    rw [environment_fresh started]
    exact Environment.sorted_ofList birth.envp
  · intro throng here
    rcases List.mem_append.mp here with old | last
    · exact kept.settled throng old
    · rw [List.mem_singleton.mp last]
      exact Throng.fresh_settled (fresh.table.symm ▸ customary) site birth.capacity birth.demands
  · rw [List.length_append, List.length_append, kept.processes]
    rfl
  · intro number root here
    rw [List.getElem?_append] at here
    split at here
    · exact List.mem_append_left _ (kept.numbered number root here)
    · rename_i beyond
      obtain ⟨last, same⟩ := List.getElem?_eq_some_iff.mp here
      have place : number = company.throngs.length := by
        rw [List.length_singleton] at last
        rw [← kept.processes]
        omega
      rw [List.getElem_singleton, kept.roots, List.length_map] at same
      rw [place, ← same]
      exact List.mem_append_right _ List.mem_cons_self

/-- A step of a process changes the variables of no other holder. -/
theorem environment_turn {number : Nat} {throng next : Throng} (here : company.throngs[number]? = some throng)
    (site : Site) (other : Holder) :
    ({ company with throngs := company.throngs.set number next, site } : Company).environment other =
      if other = .process number then next.environment else company.environment other := by
  cases other with
  | own handle => exact (if_neg nofun).symm
  | process another =>
    simp only [Holder.process.injEq]
    show ((company.throngs.set number next)[another]?.map Throng.environment).getD {} = _
    by_cases same : another = number
    · rw [if_pos same, same, List.getElem?_set_self (List.getElem?_eq_some_iff.mp here).1]
      rfl
    · rw [if_neg same, List.getElem?_set_ne (Ne.symm same)]
      rfl

/-- What a step of a process tells and leaves. -/
theorem of_turn {number : Nat} {move : Throng.Move} {calling : Option Calling} {after : Company}
    (taken : company.turn number move = some (calling, after)) :
    ∃ throng next, company.throngs[number]? = some throng ∧
      (throng.sited company.site).step move = some next ∧
      calling = (throng.sited company.site).calling? next ∧
      after = { company with throngs := company.throngs.set number next, site := next.crowd.site } := by
  obtain ⟨throng, here, taken⟩ := Option.bind_eq_some_iff.mp taken
  obtain ⟨next, moved, same⟩ := Option.map_eq_some_iff.mp taken
  cases same
  exact ⟨throng, next, here, moved, rfl, rfl⟩

/-- At the site that it shares a process is as settled as before. -/
theorem Kept.sited (kept : Kept pairs roll company) {number : Nat} {throng : Throng}
    (here : company.throngs[number]? = some throng) : (throng.sited company.site).Settled :=
  have settled := kept.settled throng (List.mem_of_getElem? here)
  settled.onward rfl settled.sparing

/-- **A process takes a step**: what its script sets is set for all its handles. -/
theorem Kept.turn (kept : Kept pairs roll company) {number : Nat} {move : Throng.Move} {calling : Option Calling}
    {after : Company} (taken : company.turn number move = some (calling, after)) :
    Follows pairs company
      (fun root => (roll.deed? root (.turn number move) (calling.elim .nothing .called)).toList) roll after := by
  obtain ⟨throng, next, here, moved, told, rfl⟩ := of_turn taken
  obtain ⟨settled, deeds⟩ := (kept.sited here).step (Throng.of_step moved)
  rw [← told] at deeds
  obtain ⟨origin, listed⟩ : ∃ origin, roll.processes[number]? = some origin :=
    ⟨_, List.getElem?_eq_getElem (kept.processes ▸ (List.getElem?_eq_some_iff.mp here).1)⟩
  have told (root : Nat) : roll.deed? root (.turn number move) (calling.elim .nothing .called) =
      if roll.processes[number]? = some root then calling.bind Calling.deed? else none := by
    cases calling with
    | none => exact (ite_self _).symm
    | some calling => rfl
  have left (pair : Nat × Holder) (there : pair ∈ pairs) :
      ({ company with throngs := company.throngs.set number next, site := next.crowd.site } : Company).environment
          pair.2 = (company.environment pair.2).done
            (roll.deed? pair.1 (.turn number move) (calling.elim .nothing .called)).toList := by
    have matched : roll.processes[number]? = some pair.1 ↔ .process number = pair.2 := by
      rw [listed, Option.some.injEq]
      exact kept.matched _ (kept.numbered number origin listed) pair there
    rw [environment_turn here, told]
    by_cases same : pair.2 = .process number
    · rw [if_pos same, if_pos (matched.mpr same.symm), deeds, same, environment, here]
      rfl
    · rw [if_neg same, if_neg fun listed => same (matched.mp listed).symm]
      rfl
  refine ⟨⟨[], ?_⟩, left⟩
  rw [List.append_nil]
  refine ⟨kept.roots, kept.handles, kept.matched, kept.bounded, fun pair there => ?_, fun pair there => ?_,
    fun other found => ?_, kept.processes.trans List.length_set.symm, kept.numbered⟩
  · have has := kept.has pair there
    revert has
    cases pair.2 with
    | own handle => exact id
    | process another =>
      intro has
      exact Nat.lt_of_lt_of_eq has List.length_set.symm
  · rw [left pair there]
    exact Environment.sorted_done (kept.sorted pair there) _
  · rcases List.mem_or_eq_of_mem_set found with old | rfl
    · exact kept.settled other old
    · exact settled

/-! ### Acts -/

/-- The host functions of every process that is made are of the usual kind. -/
def Act.Customary : Act → Prop
  | .start birth => birth.table.Customary
  | _ => True

/-- **What an act does to the variables of every handle**: what the roll says, and nothing else. -/
theorem Kept.take (kept : Kept pairs roll company) (act : Act) (customary : act.Customary) :
    Follows pairs company (fun root => (roll.deed? root act (act.take company).1).toList)
      (roll.note act (act.take company).1) (act.take company).2 := by
  cases act with
  | make entries => exact kept.make (Environment.sorted_ofList entries)
  | start birth =>
    cases made : company.start birth with
    | none =>
      simp only [Act.take, made]
      exact kept.idle
    | some next =>
      simp only [Act.take, made]
      exact kept.start customary made
  | clone handle => exact kept.clone handle
  | copy handle =>
    have place : handle < roll.roots.length ↔ handle < pairs.length := by rw [kept.roots, List.length_map]
    cases here : pairs[handle]? with
    | none =>
      have beyond := mt place.mp (Nat.not_lt.mpr (List.getElem?_eq_none_iff.mp here))
      simp only [Act.take, Roll.note, kept.at?_eq, here, if_neg beyond]
      exact kept.idle
    | some origin =>
      have within := place.mpr (List.getElem?_eq_some_iff.mp here).1
      simp only [Act.take, Roll.note, kept.at?_eq, here, if_pos within]
      exact kept.make (kept.sorted origin (List.mem_of_getElem? here))
  | change handle deed =>
    have holder := (kept.pair handle).2
    cases here : pairs[handle]? with
    | none =>
      have nobody (root : Nat) : roll.roots[handle]? ≠ some root := by
        rw [(kept.pair handle).1, here]
        exact nofun
      simp only [Act.take, holder, here, Roll.deed?, if_neg (nobody _)]
      exact kept.idle
    | some origin =>
      simp only [Act.take, holder, here]
      exact kept.change here deed _
  | get | count | snapshot => exact kept.idle
  | turn number move =>
    cases taken : company.turn number move with
    | none =>
      simp only [Act.take, taken]
      exact kept.idle
    | some told =>
      simp only [Act.take, taken]
      exact kept.turn taken

end

/-! ### Histories -/

variable {company : Company} {pairs : List (Nat × Holder)} {roll : Roll}

/-- **What many acts do.** -/
theorem Kept.run (kept : Kept pairs roll company) (acts : List Act) (customary : ∀ act ∈ acts, act.Customary) :
    Follows pairs company (fun root => roll.deeds root (company.trace acts)) (roll.noted (company.trace acts))
      (company.run acts) := by
  induction acts generalizing pairs roll company with
  | nil => exact kept.idle
  | cons act later ih =>
    obtain ⟨first, rest⟩ := List.forall_mem_cons.mp customary
    obtain ⟨⟨more, next⟩, left⟩ := kept.take act first
    obtain ⟨⟨others, last⟩, leftLater⟩ := ih next rest
    refine ⟨⟨more ++ others, List.append_assoc .. ▸ last⟩, fun pair here => ?_⟩
    refine (leftLater pair (List.mem_append_left _ here)).trans ?_
    rw [left pair here, ← Environment.done_append]
    rfl

/-- A history begins without handles and processes. -/
theorem kept_after {past : List Act} (customary : ∀ act ∈ past, act.Customary) :
    ∃ pairs, Kept pairs (rollOf past) (after past) := by
  have began : Kept [] {} {} := {
    roots := rfl
    handles := rfl
    matched := List.forall_mem_nil _
    bounded := List.forall_mem_nil _
    has := List.forall_mem_nil _
    sorted := List.forall_mem_nil _
    settled := List.forall_mem_nil _
    processes := rfl
    numbered := fun _ _ here => nomatch here }
  obtain ⟨pairs, kept⟩ := (began.run past customary).kept
  exact ⟨pairs, kept⟩

theorem trace_append (company : Company) (first second : List Act) :
    company.trace (first ++ second) = company.trace first ++ (company.run first).trace second := by
  induction first generalizing company with
  | nil => rfl
  | cons act rest ih => exact congrArg ((act, (act.take company).1) :: ·) (ih _)

theorem rollOf_append (past later : List Act) :
    rollOf (past ++ later) = (rollOf past).noted ((after past).trace later) := by
  rw [rollOf, trace_append]
  exact List.foldl_append

/-- A handle is for the variables of its holder. -/
theorem Kept.of_root (kept : Kept pairs roll company) {handle root : Nat} (listed : roll.roots[handle]? = some root) :
    ∃ holder, pairs[handle]? = some (root, holder) ∧ company.at? handle = some (company.environment holder) := by
  rw [(kept.pair handle).1] at listed
  obtain ⟨⟨_, holder⟩, here, rfl⟩ := Option.map_eq_some_iff.mp listed
  refine ⟨holder, here, ?_⟩
  rw [kept.at?_eq, here]
  rfl

/-- What is seen through a handle afterwards. -/
theorem Follows.at?_eq {deeds : Nat → List Deed} {next : Company} (follows : Follows pairs company deeds roll next)
    {handle : Nat} {pair : Nat × Holder} (here : pairs[handle]? = some pair) :
    next.at? handle = some ((company.environment pair.2).done (deeds pair.1)) := by
  obtain ⟨more, kept⟩ := follows.kept
  rw [kept.at?_eq, List.getElem?_append_left (List.getElem?_eq_some_iff.mp here).1, here, Option.map_some,
    follows.left pair (List.mem_of_getElem? here)]

/-- **An act that does nothing to the variables behind a handle is not seen there.** -/
theorem Kept.unseen (kept : Kept pairs roll company) {act : Act} (customary : act.Customary) {handle root : Nat}
    (listed : roll.roots[handle]? = some root) (idle : roll.deed? root act (act.take company).1 = none) :
    (act.take company).2.at? handle = company.at? handle := by
  obtain ⟨holder, here, same⟩ := kept.of_root listed
  rw [(kept.take act customary).at?_eq here, idle, same]
  rfl

/-- New variables of the host are behind a new handle. -/
theorem at?_found (company : Company) (environment : Environment) :
    (company.found environment).at? company.handles.length = some environment :=
  (at?_last rfl).trans (congrArg some (company.environment_found environment))

/-- So are those of a new process. -/
theorem at?_start {birth : Birth} {next : Company} (made : company.start birth = some next) :
    next.at? company.handles.length = some (.ofList birth.envp) := by
  obtain ⟨process, site, started, rfl⟩ := of_start made
  refine (at?_last rfl).trans (congrArg some ?_)
  rw [environment_started]
  exact environment_fresh started

/-- What a script is told is about the variables behind the handles to its process. -/
theorem Kept.called (kept : Kept pairs roll company) {number : Nat} {move : Throng.Move} {calling : Calling}
    {next : Company} (taken : company.turn number move = some (some calling, next)) :
    ∃ root, roll.processes[number]? = some root ∧ ∀ handle, roll.roots[handle]? = some root →
      ∃ environment, company.at? handle = some environment ∧ calling.Heeds environment := by
  obtain ⟨throng, next, here, moved, made, -⟩ := of_turn taken
  obtain ⟨root, listed⟩ : ∃ root, roll.processes[number]? = some root :=
    ⟨_, List.getElem?_eq_getElem (kept.processes ▸ (List.getElem?_eq_some_iff.mp here).1)⟩
  refine ⟨root, listed, fun handle rooted => ?_⟩
  obtain ⟨holder, there, same⟩ := kept.of_root rooted
  have own : .process number = holder :=
    (kept.matched _ (kept.numbered number root listed) _ (List.mem_of_getElem? there)).mp rfl
  subst own
  refine ⟨_, same, ?_⟩
  rw [environment, here]
  exact (kept.sited here).heeds made.symm

/-! ### Who is told what -/

/-- An act makes a handle that comes from no other, for these variables. -/
def Founds (past : List Act) (act : Act) (environment : Environment) : Prop :=
  (after (past ++ [act])).at? (after past).handles.length = some environment ∧
    ∃ root, (rollOf (past ++ [act])).roots[(after past).handles.length]? = some root ∧
      root ∉ (rollOf past).roots

/-- **Who shares variables with whom after a history**, and what is left of them after what is done next. -/
structure Shared (past later : List Act) : Prop where
  /-- Handles that come from each other agree. -/
  agree : ∀ one other root, (rollOf past).roots[one]? = some root → (rollOf past).roots[other]? = some root →
    (after past).at? one = (after past).at? other
  /-- A variable is as the latest deed has left it that was done through one of them, or by a script of their process;
  it is as it was before if there was none. -/
  recent : ∀ handle root, (rollOf past).roots[handle]? = some root → ∃ before now,
    (after past).at? handle = some before ∧ (after (past ++ later)).at? handle = some now ∧
      ∀ name, now.get name =
        (latest name ((rollOf past).deeds root ((after past).trace later))).getD (before.get name)
  /-- A clone is for the same variables. -/
  cloned : ∀ handle root, (rollOf past).roots[handle]? = some root →
    (rollOf (past ++ [.clone handle])).roots[(after past).handles.length]? = some root
  /-- Handles that come from no other: to variables the host is given, … -/
  made : ∀ entries, Founds past (.make entries) (.ofList entries)
  /-- … to a copy, which begins as what is copied is then, … -/
  copied : ∀ handle environment, (after past).at? handle = some environment →
    Founds past (.copy handle) environment
  /-- … and to the variables of a process, which it has come up with. -/
  started : ∀ birth, ((Act.start birth).take (after past)).1 = .started →
    Founds past (.start birth) (.ofList birth.envp)
  /-- What the host is told: the value, how many names have one, and all entries. -/
  asked : ∀ handle environment, (after past).at? handle = some environment →
    (∀ name, ((Act.get handle name).take (after past)).1 = .value (environment.get name)) ∧
    (∀ name, ((Act.change handle (.remove name)).take (after past)).1 = .value (environment.get name)) ∧
    (∃ size, ((Act.count handle).take (after past)).1 = .count size (size == 0) ∧ environment.Counts size) ∧
    ((Act.snapshot handle).take (after past)).1 = .entries environment.entries
  /-- What a script is told is about the variables behind the handles to its process. -/
  called : ∀ number move calling, ((Act.turn number move).take (after past)).1 = .called calling →
    ∃ root, (rollOf past).processes[number]? = some root ∧ ∀ handle, (rollOf past).roots[handle]? = some root →
      ∃ environment, (after past).at? handle = some environment ∧ calling.Heeds environment
  /-- What the host does through a handle is not seen through one that does not come from it, … -/
  apart : ∀ one other root, (rollOf past).roots[one]? = some root → (rollOf past).roots[other]? ≠ some root →
    ∀ deed, (after (past ++ [.change other deed])).at? one = (after past).at? one
  /-- … and what a process does is seen through its own handles only, … -/
  aside : ∀ one root number, (rollOf past).roots[one]? = some root → (rollOf past).processes[number]? ≠ some root →
    ∀ move, (after (past ++ [.turn number move])).at? one = (after past).at? one
  /-- … which are of no other process. -/
  distinct : ∀ (number other root : Nat), (rollOf past).processes[number]? = some root →
    (rollOf past).processes[other]? = some root → number = other

/-- A handle that comes from no other has a new place in the roll. -/
theorem Kept.founds {past : List Act} (kept : Kept pairs (rollOf past) (after past)) {act : Act}
    {environment : Environment}
    (noted : ((rollOf past).note act (act.take (after past)).1).roots =
      (rollOf past).roots ++ [(rollOf past).roots.length])
    (made : (act.take (after past)).2.at? (after past).handles.length = some environment) :
    Founds past act environment := by
  refine ⟨?_, (rollOf past).roots.length, ?_, fun listed => ?_⟩
  · rw [after_append]
    exact made
  · rw [rollOf_append]
    show ((rollOf past).note act _).roots[_]? = _
    rw [noted, kept.handles, List.length_map, kept.roots, List.length_map, ← List.length_map Prod.fst,
      List.getElem?_concat_length]
  · rw [kept.roots] at listed
    obtain ⟨pair, here, same⟩ := List.mem_map.mp listed
    have below := kept.bounded pair here
    rw [same, List.length_map] at below
    exact Nat.lt_irrefl _ below

/-- **Everyone who asks for a variable is told what the latest deed has made of it**, of those done through the handles
that come from the same one or by the script whose process they belong to, and of no others. -/
theorem variables_shared (past later : List Act) (customary : ∀ act ∈ past ++ later, act.Customary) :
    Shared past later := by
  obtain ⟨before, behind⟩ := List.forall_mem_append.mp customary
  obtain ⟨pairs, kept⟩ := kept_after before
  have next (act : Act) : after (past ++ [act]) = (act.take (after past)).2 := after_append past [act]
  constructor
  case agree =>
    intro one other root first second
    obtain ⟨holder, here, same⟩ := kept.of_root first
    obtain ⟨holder', there, same'⟩ := kept.of_root second
    have shared : holder = holder' :=
      (kept.matched _ (List.mem_of_getElem? here) _ (List.mem_of_getElem? there)).mp rfl
    rw [same, same', shared]
  case recent =>
    intro handle root listed
    obtain ⟨holder, here, same⟩ := kept.of_root listed
    refine ⟨_, _, same, ?_, fun name => Environment.get_done ..⟩
    rw [after_append]
    exact (kept.run later behind).at?_eq here
  case cloned =>
    intro handle root listed
    rw [rollOf_append]
    show ((rollOf past).roots ++ (rollOf past).roots[handle]?.toList)[_]? = _
    rw [listed, Option.toList_some, kept.handles, List.length_map, ← List.length_map Prod.fst, ← kept.roots,
      List.getElem?_concat_length]
  case made =>
    intro entries
    exact kept.founds rfl (at?_found _ _)
  case copied =>
    intro handle environment found
    have within : handle < (rollOf past).roots.length := by
      rw [kept.at?_eq] at found
      obtain ⟨pair, here, -⟩ := Option.map_eq_some_iff.mp found
      rw [kept.roots, List.length_map]
      exact (List.getElem?_eq_some_iff.mp here).1
    refine kept.founds ?_ ?_
    · simp only [Roll.note, if_pos within, Roll.found]
    · simp only [Act.take, found, Option.map_some, Option.getD_some]
      exact at?_found _ _
  case started =>
    intro birth started
    cases made : (after past).start birth with
    | none =>
      simp only [Act.take, made] at started
      cases started
    | some company =>
      refine kept.founds (by rw [started]; rfl) ?_
      simp only [Act.take, made]
      exact at?_start made
  case asked =>
    intro handle environment found
    have sorted : environment.Sorted := by
      rw [kept.at?_eq] at found
      obtain ⟨pair, here, rfl⟩ := Option.map_eq_some_iff.mp found
      exact kept.sorted pair (List.mem_of_getElem? here)
    have empty : environment.isEmpty = (environment.size == 0) :=
      Bool.eq_iff_iff.mpr (environment.isEmpty_iff.trans beq_iff_eq.symm)
    refine ⟨fun name => ?_, fun name => ?_, ⟨environment.size, ?_, Environment.counts_size sorted⟩, ?_⟩
    · simp only [Act.take, found, Option.elim_some]
    · simp only [Act.take, found, Option.elim_some, Told.ofDeed]
    · simp only [Act.take, found, Option.elim_some, empty]
    · simp only [Act.take, found, Option.elim_some]
  case called =>
    intro number move calling told
    cases taken : (after past).turn number move with
    | none =>
      simp only [Act.take, taken] at told
      cases told
    | some left =>
      obtain ⟨made, company⟩ := left
      simp only [Act.take, taken] at told
      cases made with
      | none => cases told
      | some made =>
        cases told
        exact kept.called taken
  case apart =>
    intro one other root listed different deed
    rw [next]
    exact kept.unseen (show (Act.change other deed).Customary from trivial) listed (if_neg different)
  case aside =>
    intro one root number listed different move
    rw [next]
    refine kept.unseen (show (Act.turn number move).Customary from trivial) listed ?_
    cases ((Act.turn number move).take (after past)).1 with
    | called calling => exact if_neg different
    | nothing | started | value | count | entries => rfl
  case distinct =>
    intro number other root first second
    have matched := kept.matched _ (kept.numbered number root first) _ (kept.numbered other root second)
    exact Holder.process.inj (matched.mp rfl)

/-- A process whose callers ask for a variable and set it. -/
def greeter (pid : Pid) : Birth where
  pid
  path := "greet.js"
  args := []
  envp := [("LANG", "C")]
  terminal := .detached
  table := .standard
  config := {}
  capacity := 2
  demands := [.invoke "getenv" [.text "LANG"], .invoke "setenv" [.text "LANG", .text "de"]]

/-- Two such processes, a clone of the handle to the first one, and a copy. -/
def introduced : List Act := [.start (greeter 1), .start (greeter 2), .clone 0, .copy 0]

/-- Both callers submit their calls, and the worker does the first one and then the other. -/
def greeting : List Throng.Move :=
  [.party (.look 0), .party (.queue (.accept 0)), .party (.queue (.send 0)), .party (.look 1),
    .party (.queue (.accept 1)), .party (.queue .receive), .party (.queue .begin),
    .party (.queue (.send 1)), .party (.work 0), .party (.work 0)] ++
  List.replicate 13 .piece ++
  [.party (.work 0), .party (.work 0), .party (.work 0), .party (.queue .receive),
    .party (.queue .begin), .party (.work 0), .party (.work 0)] ++
  List.replicate 12 .piece

/-- The host sets the variable through the clone, and then the first process is at work. -/
def addressed : List Act := .change 2 (.set "LANG" "fr") :: greeting.map (.turn 0)

set_option maxRecDepth 100000 in
/-- **What the host and the script have set is seen through both handles to the process**, and neither by the other
process nor in the copy. -/
theorem variables_shared_with_clone :
    Shared introduced addressed ∧
      (rollOf introduced).deeds 0 ((after introduced).trace addressed) = [.set "LANG" "fr", .set "LANG" "de"] ∧
      [0, 1, 2, 3].map (fun handle => ((after (introduced ++ addressed)).at? handle).bind (·.get "LANG")) =
        [some "de", some "C", some "de", some "C"] := by
  refine ⟨variables_shared introduced addressed (List.forall_mem_append.mpr ⟨?_, ?_⟩), by decide +kernel⟩
  · intro act here
    simp only [introduced, List.mem_cons, List.not_mem_nil, or_false] at here
    rcases here with rfl | rfl | rfl | rfl
    exacts [SyscallTable.standard_customary, SyscallTable.standard_customary, trivial, trivial]
  · intro act here
    rcases List.mem_cons.mp here with rfl | turn
    · trivial
    · obtain ⟨move, -, rfl⟩ := List.mem_map.mp turn
      trivial

end Company

end ScriptKernel
