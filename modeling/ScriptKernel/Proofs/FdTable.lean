/-
**Tables of slots and their copies.**

* `mem_used`, `used_ascends`: the slots in use are those that hold text, in order; `beq_iff`: tables are equal if
  their slots are;
* `Work`, `Step`: what can be done with one table, and with several that were made anew or by copying;
* `Work.remap`, `addressed`: what work makes of a map from slots to texts, and the work that one table is given;
* `Stands.take`, `Stands.run`: **a table stands for what the work addressed to it makes of its map**, whatever is done
  to the other tables;
* `tables_mapped`: so do all tables after every history, from empty slots or from those of the table copied.
-/

import ScriptKernel.Fd
import Mathlib.Data.List.FinRange
import Mathlib.Logic.Function.Basic

set_option autoImplicit false

namespace ScriptKernel.FdTable

/-! ### One table -/

/-- Tables with the same texts in their slots are the same. -/
theorem ext_get {one other : FdTable} (same : ∀ fd, one.get fd = other.get fd) : one = other := by
  obtain ⟨slots⟩ := one
  obtain ⟨others⟩ := other
  exact congrArg mk (Vector.ext fun place bound => same ⟨place, bound⟩)

/-- **Tables are equal exactly if they agree on every slot.** -/
theorem beq_iff (one other : FdTable) : (one == other) = true ↔ ∀ fd, one.get fd = other.get fd := by
  rw [beq_iff_eq]
  exact ⟨fun same fd => by rw [same], ext_get⟩

/-- **The slots in use are those that hold text**, with their texts. -/
theorem mem_used (table : FdTable) (fd : Fd) (text : String) :
    (fd, text) ∈ table.used ↔ table.get fd = text ∧ text ≠ "" := by
  unfold used
  rw [List.mem_filterMap]
  constructor
  · rintro ⟨place, -, found⟩
    split at found
    · cases found
    · rename_i holding
      cases found
      exact ⟨rfl, fun empty => holding (String.isEmpty_iff.mpr empty)⟩
  · rintro ⟨rfl, holding⟩
    exact ⟨fd, List.mem_finRange fd, if_neg fun empty => holding (String.isEmpty_iff.mp empty)⟩

/-- **They come in order.** -/
theorem used_ascends (table : FdTable) : (table.used.map Prod.fst).Pairwise (· < ·) := by
  unfold used
  rw [List.pairwise_map, List.pairwise_filterMap]
  refine List.pairwise_lt_finRange 256 |>.imp fun {one other} before entry found entry' found' => ?_
  split at found
  · cases found
  · split at found'
    · cases found'
    · cases found
      cases found'
      exact before

/-! ### Work on one table -/

/-- What can be done with a table. -/
inductive Work
  | set (fd : Fd) (text : String)
  | append (fd : Fd) (text : String)
  | take (fd : Fd)
  | clear (fd : Fd)
  | clearAll
  deriving DecidableEq

/-- What work answers, if it does, and the table it leaves. -/
def Work.perform (table : FdTable) : Work → Option String × FdTable
  | .set fd text => (none, table.set fd text)
  | .append fd text => (none, table.append fd text)
  | .take fd => (some (table.take fd).1, (table.take fd).2)
  | .clear fd => (none, table.clear fd)
  | .clearAll => (none, table.clearAll)

/-- The slot that work is for, unless it is for all. -/
def Work.slot? : Work → Option Fd
  | .set fd _ | .append fd _ | .take fd | .clear fd => some fd
  | .clearAll => none

/-- **What work makes of a map from slots to texts.** -/
def Work.remap (texts : Fd → String) : Work → Fd → String
  | .set fd text => Function.update texts fd text
  | .append fd text => Function.update texts fd (texts fd ++ text)
  | .take fd | .clear fd => Function.update texts fd ""
  | .clearAll => fun _ => ""

/-- A text put into a slot is the only change. -/
theorem get_set (table : FdTable) (fd : Fd) (text : String) :
    (table.set fd text).get = Function.update table.get fd text := by
  funext other
  by_cases same : other = fd
  · subst same
    rw [Function.update_self, get_set_same]
  · rw [Function.update_of_ne same, get_set_other table (Ne.symm same)]

/-- **Work does to the slots what it does to their map.** -/
theorem get_perform (table : FdTable) (work : Work) :
    (work.perform table).2.get = work.remap table.get := by
  cases work with
  | set | append | take | clear => exact get_set ..
  | clearAll => exact funext get_empty

/-- Work for one slot leaves the others. -/
theorem remap_other {work : Work} {fd other : Fd} (target : work.slot? = some fd) (different : other ≠ fd)
    (texts : Fd → String) : work.remap texts other = texts other := by
  cases work with
  | set | append | take | clear =>
    cases target
    exact Function.update_of_ne different ..
  | clearAll => cases target

/-! ### Several tables -/

/-- What can be done with tables, which are numbered in the order in which they were made. -/
inductive Step
  | make
  | clone (place : Nat)
  | give (place : Nat) (work : Work)
  deriving DecidableEq

/-- What a step answers, if it does, and the tables it leaves. Without the table it is for it does nothing. -/
def Step.take (tables : List FdTable) : Step → Option String × List FdTable
  | .make => (none, tables ++ [.empty])
  | .clone place => (none, tables ++ tables[place]?.toList)
  | .give place work =>
    (tables[place]?.bind fun table => (work.perform table).1,
      tables.modify place fun table => (work.perform table).2)

/-- The tables after some steps. -/
def run (tables : List FdTable) (steps : List Step) : List FdTable :=
  steps.foldl (fun tables step => (step.take tables).2) tables

/-- The tables after a history, which begins without any. -/
def after (past : List Step) : List FdTable := run [] past

/-- The work that a step gives a table. -/
def Step.on? (place : Nat) : Step → Option Work
  | .give other work => if other = place then some work else none
  | .make | .clone _ => none

/-- **The work that is addressed to a table.** -/
def addressed (place : Nat) (steps : List Step) : List Work := steps.filterMap (Step.on? place)

/-- The table at a place stands for a map from slots to texts. -/
def Stands (tables : List FdTable) (place : Nat) (texts : Fd → String) : Prop :=
  ∃ table, tables[place]? = some table ∧ table.get = texts

variable {tables : List FdTable} {place : Nat} {table : FdTable} {texts : Fd → String}

theorem after_append (past later : List Step) : after (past ++ later) = run (after past) later :=
  List.foldl_append

/-- Only a step for a table gives it work. -/
theorem on?_eq_some {step : Step} {work : Work} : step.on? place = some work ↔ step = .give place work := by
  cases step with
  | make | clone => exact ⟨nofun, nofun⟩
  | give other given =>
    rw [Step.on?, Option.ite_none_right_eq_some, Option.some.injEq, Step.give.injEq]

/-- A step leaves the tables that it gives no work. -/
theorem take_elsewhere {step : Step} (aside : step.on? place = none) (here : place < tables.length) :
    (step.take tables).2[place]? = tables[place]? := by
  cases step with
  | make => exact List.getElem?_append_left here
  | clone => exact List.getElem?_append_left here
  | give other work =>
    have different : other ≠ place := by
      rintro rfl
      cases aside.symm.trans (on?_eq_some.mpr rfl)
    show (tables.modify other _)[place]? = tables[place]?
    rw [List.getElem?_modify]
    simp [different]

/-- A step gives a table its work. -/
theorem take_here {step : Step} {work : Work} (given : step.on? place = some work)
    (found : tables[place]? = some table) : (step.take tables).2[place]? = some (work.perform table).2 := by
  rw [on?_eq_some.mp given]
  simp [Step.take, found]

/-- **A step does to the map of a table what the work does that it gives the table.** -/
theorem Stands.take (stands : Stands tables place texts) (step : Step) :
    Stands (step.take tables).2 place ((addressed place [step]).foldl Work.remap texts) := by
  obtain ⟨table, found, rfl⟩ := stands
  cases given : step.on? place with
  | none =>
    refine ⟨table, ?_, ?_⟩
    · rw [take_elsewhere given (List.getElem?_eq_some_iff.mp found).1, found]
    · simp [addressed, given]
  | some work =>
    refine ⟨(work.perform table).2, take_here given found, ?_⟩
    simp [addressed, given, get_perform]

/-- **So do many steps**: what is done to other tables has no part in it. -/
theorem Stands.run (stands : Stands tables place texts) (later : List Step) :
    Stands (run tables later) place ((addressed place later).foldl Work.remap texts) := by
  induction later generalizing tables texts with
  | nil => exact stands
  | cons step rest ih =>
    have split : addressed place (step :: rest) = addressed place [step] ++ addressed place rest :=
      List.filterMap_append (l := [step])
    rw [split, List.foldl_append]
    exact ih (stands.take step)

/-- A table that has just been put behind the others. -/
theorem stands_last (tables : List FdTable) (table : FdTable) :
    Stands (tables ++ [table]) tables.length table.get :=
  ⟨table, List.getElem?_concat_length, rfl⟩

/-! ### What tables stand for -/

/-- **What tables stand for after a history.** -/
structure Mapped (past : List Step) : Prop where
  /-- Every table has 256 slots. -/
  slots : ∀ table ∈ after past, table.slots.toList.length = 256 ∧ table.size = 256
  /-- A new table stands for what the work addressed to it makes of empty slots, … -/
  made : ∀ later, Stands (after (past ++ .make :: later)) (after past).length
    ((addressed (after past).length later).foldl Work.remap fun _ => "")
  /-- … and a copy for what it makes of the slots of the table copied, as they were then. -/
  cloned : ∀ place table, (after past)[place]? = some table →
    ∀ later, Stands (after (past ++ .clone place :: later)) (after past).length
      ((addressed (after past).length later).foldl Work.remap table.get)
  /-- Work for one slot changes no other slot of the table. -/
  otherSlots : ∀ place table work fd, (after past)[place]? = some table → work.slot? = some fd →
    ∃ changed, (after (past ++ [.give place work]))[place]? = some changed ∧
      ∀ other, other ≠ fd → changed.get other = table.get other
  /-- No step changes a table that it gives no work. -/
  otherTables : ∀ step place, step.on? place = none → place < (after past).length →
    (after (past ++ [step]))[place]? = (after past)[place]?
  /-- Taking answers the text of the slot. -/
  taken : ∀ place table fd, (after past)[place]? = some table →
    ((Step.give place (.take fd)).take (after past)).1 = some (table.get fd)
  /-- The slots in use are those that hold text, in order. -/
  used : ∀ table ∈ after past, (∀ fd text, (fd, text) ∈ table.used ↔ table.get fd = text ∧ text ≠ "") ∧
    (table.used.map Prod.fst).Pairwise (· < ·)
  /-- Tables are equal exactly if they agree on every slot. -/
  equal : ∀ one ∈ after past, ∀ other ∈ after past,
    (one == other) = true ↔ ∀ fd, one.get fd = other.get fd

/-- **So it is after every history**: a table is the map that the work addressed to it has made. -/
theorem tables_mapped (past : List Step) : Mapped past where
  slots table _ := ⟨by simp, rfl⟩
  made later := by
    rw [after_append]
    have began := (stands_last (after past) .empty).run later
    rwa [funext get_empty] at began
  cloned place table found later := by
    rw [after_append]
    have copied : ((Step.clone place).take (after past)).2 = after past ++ [table] := by
      simp [Step.take, found]
    show Stands (run ((Step.clone place).take (after past)).2 later) _ _
    rw [copied]
    exact (stands_last (after past) table).run later
  otherSlots place table work fd found target := by
    refine ⟨(work.perform table).2, ?_, fun other different => ?_⟩
    · rw [after_append]
      exact take_here (on?_eq_some.mpr rfl) found
    · rw [get_perform]
      exact remap_other target different table.get
  otherTables step place aside here := by
    rw [after_append]
    exact take_elsewhere aside here
  taken place table fd found := by
    simp [Step.take, found, Work.perform, FdTable.take]
  used table _ := ⟨mem_used table, used_ascends table⟩
  equal one _ other _ := beq_iff one other

/-- A copy goes its own way. -/
example : (after [.make, .give 0 (.append 3 "ab"), .clone 0, .give 0 (.append 3 "cd"),
    .give 1 (.take 3)]).map (fun table => table.get 3) = ["abcd", ""] := by decide +kernel

end ScriptKernel.FdTable
