/-
**The processes of a manager by number.**

* `Manager.get_put`: **putting a process in its place changes what is known of one number**;
* `Manager.Ordered`: the processes stand in order of their numbers, each number once;
* `Ordered.get_eq_some_iff`, `Ordered.size_eq`: **then a manager is no more than a finite map from numbers**;
* `Ordered.put`, `Ordered.filter`, `Ordered.get_filter`: they keep standing so, and what is known once some are
  taken out;
* `nextPid?_eq_some_iff`, `nextPid?_eq_none_iff`: the number of the next process is the least that is free.
-/

import ScriptKernel.Manager
import Mathlib.Order.Lattice.Nat
import Mathlib.Data.Set.Card

set_option autoImplicit false

namespace ScriptKernel.Manager

variable {manager : Manager} {pid : Pid} {process : ScriptProcess}

/-- The numbers that are taken. -/
def taken (manager : Manager) : Set Pid := {pid | manager.isTaken pid}

/-- The numbers that a new process may get. -/
def free (manager : Manager) : Set Pid := {pid | firstPid ≤ pid ∧ manager.get pid = none}

theorem mem_taken : pid ∈ manager.taken ↔ ∃ process, manager.get pid = some process :=
  Option.isSome_iff_exists

/-! ### One number -/

/-- What is found behind a process that was put in its place. -/
theorem find?_place (pid other : Pid) (process : ScriptProcess)
    (entries : List (Pid × ScriptProcess)) :
    (place pid process entries).find? (fun entry => entry.1 == other) =
      if other = pid then some (pid, process) else entries.find? fun entry => entry.1 == other := by
  by_cases here : other = pid
  · subst here
    rw [if_pos rfl]
    induction entries with
    | nil => simp only [place, List.find?_cons, beq_self_eq_true]
    | cons entry rest ih =>
      rcases entry with ⟨number, old⟩
      unfold place
      by_cases before : other < number
      · simp only [if_pos before, List.find?_cons, beq_self_eq_true]
      · by_cases same : other = number
        · simp only [if_neg before, if_pos same, List.find?_cons, beq_self_eq_true]
        · have passed : (number == other) = false := by simpa using Ne.symm same
          simp only [if_neg before, if_neg same, List.find?_cons, passed, ih]
  · have passed : (pid == other) = false := by simpa using Ne.symm here
    rw [if_neg here]
    induction entries with
    | nil => simp only [place, List.find?_cons, passed]
    | cons entry rest ih =>
      rcases entry with ⟨number, old⟩
      unfold place
      by_cases before : pid < number
      · rw [if_pos before, List.find?_cons, passed]
      · by_cases same : pid = number
        · subst same
          simp only [if_neg before, if_true, List.find?_cons, passed]
        · rw [if_neg before, if_neg same, List.find?_cons, List.find?_cons, ih]

/-- **Putting a process in its place** changes what is known of its number. -/
theorem get_put (manager : Manager) (pid : Pid) (process : ScriptProcess) :
    (manager.put pid process).get = Function.update manager.get pid (some process) := by
  funext other
  unfold get put
  dsimp only
  rw [find?_place, Function.update_apply]
  split <;> rfl

/-! ### All numbers -/

/-- **The processes stand in order of their numbers.** -/
def Ordered (manager : Manager) : Prop :=
  manager.processes.Pairwise fun entry later => entry.1 < later.1

theorem mem_place {entry : Pid × ScriptProcess} {entries : List (Pid × ScriptProcess)}
    (here : entry ∈ place pid process entries) : entry = (pid, process) ∨ entry ∈ entries := by
  induction entries with
  | nil => exact .inl (List.mem_singleton.mp here)
  | cons first rest ih =>
    unfold place at here
    split at here
    · exact List.mem_cons.mp here
    · split at here
      · exact (List.mem_cons.mp here).imp_right (List.mem_cons_of_mem _)
      · rcases List.mem_cons.mp here with same | later
        · exact .inr (same ▸ List.mem_cons_self)
        · exact (ih later).imp_right (List.mem_cons_of_mem _)

namespace Ordered

/-- The numbers in order. -/
theorem numbers (ordered : manager.Ordered) :
    (manager.processes.map Prod.fst).Pairwise (· < ·) :=
  List.pairwise_map.mpr ordered

theorem nodup (ordered : manager.Ordered) : (manager.processes.map Prod.fst).Nodup :=
  ordered.numbers.imp Nat.ne_of_lt

/-- **What is known of a number** is the entry that stands in the list. -/
theorem get_eq_some_iff (ordered : manager.Ordered) :
    manager.get pid = some process ↔ (pid, process) ∈ manager.processes := by
  unfold get
  rw [Option.map_eq_some_iff]
  constructor
  · rintro ⟨⟨number, found⟩, here, rfl⟩
    have same : number = pid := by simpa using List.find?_some here
    exact same ▸ List.mem_of_find?_eq_some here
  · intro here
    cases found : manager.processes.find? fun entry => entry.1 == pid with
    | none => exact absurd (List.find?_eq_none.mp found _ here) (by simp)
    | some entry =>
      have same : entry.1 = pid := by simpa using List.find?_some found
      have entry_eq : entry = (pid, process) := List.inj_on_of_nodup_map ordered.nodup
        (List.mem_of_find?_eq_some found) here same
      exact ⟨entry, rfl, by rw [entry_eq]⟩

/-- **The number of processes is the number of numbers that are taken.** -/
theorem size_eq (ordered : manager.Ordered) :
    manager.taken.Finite ∧ manager.size = manager.taken.ncard := by
  have taken : manager.taken = ((manager.processes.map Prod.fst).toFinset : Set Pid) := by
    ext pid
    rw [mem_taken, Finset.mem_coe, List.mem_toFinset, List.mem_map]
    constructor
    · rintro ⟨process, known⟩
      exact ⟨(pid, process), ordered.get_eq_some_iff.mp known, rfl⟩
    · rintro ⟨⟨number, process⟩, here, rfl⟩
      exact ⟨process, ordered.get_eq_some_iff.mpr here⟩
  rw [taken, Set.ncard_coe_finset, List.toFinset_card_of_nodup ordered.nodup, List.length_map]
  exact ⟨Finset.finite_toSet _, rfl⟩

theorem put (ordered : manager.Ordered) (pid : Pid) (process : ScriptProcess) :
    (manager.put pid process).Ordered := by
  unfold Ordered Manager.put at *
  dsimp only
  generalize manager.processes = entries at ordered ⊢
  induction entries with
  | nil => exact List.pairwise_singleton ..
  | cons first rest ih =>
    rcases first with ⟨number, old⟩
    obtain ⟨least, later⟩ := List.pairwise_cons.mp ordered
    unfold place
    by_cases before : pid < number
    · rw [if_pos before]
      refine List.pairwise_cons.mpr ⟨fun entry here => ?_, ordered⟩
      rcases List.mem_cons.mp here with rfl | here
      · exact before
      · exact before.trans (least entry here)
    · by_cases same : pid = number
      · rw [if_neg before, if_pos same]
        exact List.pairwise_cons.mpr ⟨same ▸ least, later⟩
      · rw [if_neg before, if_neg same]
        refine List.pairwise_cons.mpr ⟨fun entry here => ?_, ih later⟩
        rcases mem_place here with rfl | here
        · exact Nat.lt_of_le_of_ne (Nat.le_of_not_lt before) (Ne.symm same)
        · exact least entry here

theorem filter (ordered : manager.Ordered) (kept : Pid × ScriptProcess → Bool) :
    ({ manager with processes := manager.processes.filter kept } : Manager).Ordered :=
  List.Pairwise.filter kept ordered

/-- The numbers of some of the processes. -/
theorem mem_filter (ordered : manager.Ordered) (chosen : Pid × ScriptProcess → Bool) (pid : Pid) :
    pid ∈ (manager.processes.filter chosen).map Prod.fst ↔
      ∃ process, manager.get pid = some process ∧ chosen (pid, process) = true := by
  rw [List.mem_map]
  constructor
  · rintro ⟨⟨number, process⟩, here, rfl⟩
    obtain ⟨here, isChosen⟩ := List.mem_filter.mp here
    exact ⟨process, ordered.get_eq_some_iff.mpr here, isChosen⟩
  · rintro ⟨process, known, isChosen⟩
    exact ⟨(pid, process), List.mem_filter.mpr ⟨ordered.get_eq_some_iff.mp known, isChosen⟩, rfl⟩

/-- What is known once some processes are taken out. -/
theorem get_filter (ordered : manager.Ordered) (kept : Pid × ScriptProcess → Bool) (pid : Pid) :
    ({ manager with processes := manager.processes.filter kept } : Manager).get pid =
      (manager.get pid).filter fun process => kept (pid, process) := by
  ext process
  rw [(ordered.filter kept).get_eq_some_iff, Option.filter_eq_some_iff, ordered.get_eq_some_iff]
  exact List.mem_filter

/-- Taking the process of a number out changes what is known of that number. -/
theorem get_remove (ordered : manager.Ordered) (pid : Pid) :
    (manager.remove pid).get = Function.update manager.get pid none := by
  funext other
  refine (ordered.get_filter _ other).trans ?_
  rw [Function.update_apply]
  by_cases same : other = pid
  · cases manager.get other <;> simp [same]
  · cases manager.get other <;> simp [same]

end Ordered

/-! ### The next number -/

/-- The search for a free number finds the first one. -/
theorem freeFrom_eq_some_iff (manager : Manager) (attempts start : Nat) {found : Nat} :
    manager.freeFrom attempts start = some found ↔
      start ≤ found ∧ found < start + attempts ∧ manager.get found = none ∧
        ∀ other : Nat, start ≤ other → other < found → manager.get other ≠ none := by
  induction attempts generalizing start with
  | zero =>
    refine ⟨nofun, fun ⟨least, few, _⟩ => ?_⟩
    omega
  | succ attempts ih =>
    unfold freeFrom isTaken
    cases here : manager.get start with
    | none =>
      simp only [Option.isSome_none, Bool.false_eq_true, if_false, Option.some.injEq]
      constructor
      · rintro rfl
        exact ⟨Nat.le_refl _, by omega, here, fun other first last => by omega⟩
      · rintro ⟨least, -, -, before⟩
        by_contra different
        exact before start (Nat.le_refl _) (Nat.lt_of_le_of_ne least different) here
    | some process =>
      simp only [Option.isSome_some, if_true]
      rw [ih]
      constructor
      · rintro ⟨least, few, unknown, before⟩
        refine ⟨by omega, by omega, unknown, fun other first last => ?_⟩
        rcases Nat.eq_or_lt_of_le first with rfl | later
        · rw [here]
          exact nofun
        · exact before other later last
      · rintro ⟨least, few, unknown, before⟩
        have different : start ≠ found := by
          rintro rfl
          rw [here] at unknown
          cases unknown
        exact ⟨by omega, by omega, unknown, fun other first last => before other (by omega) last⟩

/-- **The number of the next process is the least that is free.** -/
theorem nextPid?_eq_some_iff :
    manager.nextPid? = some pid ↔ IsLeast manager.free pid ∧ pid ≤ lastPid := by
  unfold nextPid?
  rw [freeFrom_eq_some_iff]
  constructor
  · rintro ⟨first, last, unknown, before⟩
    refine ⟨⟨⟨first, unknown⟩, fun other free => ?_⟩, Nat.le_of_lt_succ last⟩
    by_contra greater
    exact before other free.1 (Nat.lt_of_not_le greater) free.2
  · rintro ⟨⟨free, least⟩, last⟩
    refine ⟨free.1, Nat.lt_succ_of_le last, free.2, fun other first before unknown => ?_⟩
    exact absurd (least ⟨first, unknown⟩) (Nat.not_le_of_lt before)

/-- **There is no next number only if all are taken.** -/
theorem nextPid?_eq_none_iff :
    manager.nextPid? = none ↔ ∀ pid, firstPid ≤ pid → pid ≤ lastPid → pid ∈ manager.taken := by
  constructor
  · intro exhausted pid first last
    by_contra untaken
    -- the least free number would have been found
    have unknown : pid ∈ manager.free :=
      ⟨first, Option.not_isSome_iff_eq_none.mp untaken⟩
    have least := isLeast_csInf (show (manager.free : Set Nat).Nonempty from ⟨pid, unknown⟩)
    have found := nextPid?_eq_some_iff.mpr ⟨least, (Nat.sInf_le unknown).trans last⟩
    rw [exhausted] at found
    cases found
  · intro full
    cases found : manager.nextPid? with
    | none => rfl
    | some pid =>
      obtain ⟨⟨⟨first, unknown⟩, -⟩, last⟩ := nextPid?_eq_some_iff.mp found
      obtain ⟨process, known⟩ := mem_taken.mp (full pid first last)
      rw [unknown] at known
      cases known

end ScriptKernel.Manager
