/-
**The variables after what was done with them.**

* `get_remove_same`, `get_remove_other`: what is left when a variable is taken away;
* `Sorted`: the names ascend, whatever is done; `counts_size`: **so the size is the number of names that have a
  value**;
* `Deed`, `latest`: what can be done with variables, and what the latest of several deeds says of a name;
* `get_done`: **a variable is as the latest deed has left it**, and as it was before if there was none.
-/

import Mathlib.Data.Finset.Card
import ScriptKernel.Proofs.Json.Shape
import ScriptKernel.Proofs.Syscall.Confined

set_option autoImplicit false

namespace ScriptKernel

/-- A key has a value exactly if it is among the keys. -/
theorem Json.isSome_lookup? {α : Type} (key : String) (entries : List (String × α)) :
    (lookup? key entries).isSome ↔ key ∈ entries.map Prod.fst := by
  induction entries with
  | nil => simp [lookup?]
  | cons entry rest ih =>
    obtain ⟨first, value⟩ := entry
    rw [lookup?]
    split
    · rename_i same
      simp [same]
    · rename_i different
      rw [ih, List.map_cons, List.mem_cons, or_iff_right different]

/-- What is found of the fields that are kept. -/
theorem Json.lookup?_filter {α : Type} (keeps : String → Bool) (key : String) (entries : List (String × α)) :
    lookup? key (entries.filter fun entry => keeps entry.1) =
      if keeps key then lookup? key entries else none := by
  induction entries with
  | nil => simp [lookup?]
  | cons entry rest ih =>
    obtain ⟨first, value⟩ := entry
    by_cases same : key = first
    · subst same
      by_cases kept : keeps key
      · simp [lookup?, kept]
      · rw [List.filter_cons, if_neg kept, ih, if_neg kept, if_neg kept]
    · by_cases kept : keeps first
      · rw [List.filter_cons, if_pos kept, lookup?, if_neg same, ih, lookup?, if_neg same]
      · rw [List.filter_cons, if_neg kept, ih, lookup?, if_neg same]

namespace Environment

variable {environment : Environment}

/-- A variable that is taken away has no value. -/
theorem get_remove_same (environment : Environment) (name : String) : (environment.remove name).get name = none := by
  refine (Json.lookup?_filter (· != name) name environment.entries).trans (if_neg ?_)
  simp

/-- The others stay as they were. -/
theorem get_remove_other (environment : Environment) {name other : String} (different : other ≠ name) :
    (environment.remove name).get other = environment.get other := by
  refine (Json.lookup?_filter (· != name) other environment.entries).trans (if_pos ?_)
  simpa using different

/-! ### How many there are -/

/-- The names ascend. -/
def Sorted (environment : Environment) : Prop := (environment.entries.map Prod.fst).Pairwise (· < ·)

/-- So many names have a value. -/
def Counts (environment : Environment) (count : Nat) : Prop :=
  ∃ names : Finset String, (∀ name, name ∈ names ↔ (environment.get name).isSome) ∧ names.card = count

theorem sorted_set (sorted : environment.Sorted) (name value : String) : (environment.set name value).Sorted :=
  Json.insert_ascends sorted

theorem sorted_remove (sorted : environment.Sorted) (name : String) : (environment.remove name).Sorted :=
  sorted.sublist (List.filter_sublist.map Prod.fst)

/-- **The size is the number of names that have a value.** -/
theorem counts_size (sorted : environment.Sorted) : environment.Counts environment.size := by
  refine ⟨(environment.entries.map Prod.fst).toFinset, fun name => ?_, ?_⟩
  · rw [List.mem_toFinset]
    exact (Json.isSome_lookup? name environment.entries).symm
  · rw [List.toFinset_card_of_nodup (sorted.imp fun below => ne_of_lt below), List.length_map]
    rfl

/-- There is no variable exactly if the size is zero. -/
theorem isEmpty_iff (environment : Environment) : environment.isEmpty = true ↔ environment.size = 0 := by
  unfold isEmpty size
  rw [List.isEmpty_iff, List.length_eq_zero_iff]

/-! ### What was done -/

/-- What can be done with variables. -/
inductive Deed
  | set (name value : String)
  | remove (name : String)
  deriving DecidableEq

/-- What a deed makes of variables. -/
def Deed.apply (environment : Environment) : Deed → Environment
  | .set name value => environment.set name value
  | .remove name => environment.remove name

/-- What a deed says of a name: the value it gives, or that it takes the value away. -/
def Deed.says? (name : String) : Deed → Option (Option String)
  | .set other value => if other = name then some (some value) else none
  | .remove other => if other = name then some none else none

/-- The variables after some deeds. -/
def done (environment : Environment) (deeds : List Deed) : Environment := deeds.foldl Deed.apply environment

/-- **What the latest of several deeds says of a name**, if one of them says anything. -/
def latest (name : String) (deeds : List Deed) : Option (Option String) :=
  deeds.reverse.findSome? (Deed.says? name)

theorem done_append (environment : Environment) (first second : List Deed) :
    environment.done (first ++ second) = (environment.done first).done second :=
  List.foldl_append

/-- A deed that says nothing of a name leaves it as it was. -/
theorem get_apply (environment : Environment) (deed : Deed) (name : String) :
    (deed.apply environment).get name = (deed.says? name).getD (environment.get name) := by
  cases deed with
  | set other value =>
    by_cases same : other = name
    · subst same
      simp [Deed.apply, Deed.says?, get_set_same]
    · rw [Deed.says?, if_neg same]
      exact get_set_other environment (Ne.symm same) value
  | remove other =>
    by_cases same : other = name
    · subst same
      simp [Deed.apply, Deed.says?, get_remove_same]
    · rw [Deed.says?, if_neg same]
      exact get_remove_other environment (Ne.symm same)

/-- **A variable is as the latest deed has left it**, and as it was before if there was none. -/
theorem get_done (environment : Environment) (deeds : List Deed) (name : String) :
    (environment.done deeds).get name = (latest name deeds).getD (environment.get name) := by
  unfold done latest
  induction deeds generalizing environment with
  | nil => rfl
  | cons deed rest ih =>
    rw [List.foldl_cons, ih, get_apply, List.reverse_cons, List.findSome?_append]
    cases rest.reverse.findSome? (Deed.says? name) with
    | some said => rfl
    | none => cases said : deed.says? name <;> simp [said]

theorem sorted_apply (sorted : environment.Sorted) (deed : Deed) : (deed.apply environment).Sorted := by
  cases deed with
  | set name value => exact sorted_set sorted name value
  | remove name => exact sorted_remove sorted name

/-- **Whatever is done, the names ascend.** -/
theorem sorted_done (sorted : environment.Sorted) (deeds : List Deed) : (environment.done deeds).Sorted := by
  unfold done
  induction deeds generalizing environment with
  | nil => exact sorted
  | cons deed rest ih => exact ih (sorted_apply sorted deed)

theorem sorted_empty : Sorted {} := List.Pairwise.nil

/-- Variables given in any order are those that are set one after the other. -/
theorem ofList_eq_done (entries : List (String × String)) :
    ofList entries = done {} (entries.map fun entry => .set entry.1 entry.2) := by
  unfold ofList done
  rw [List.foldl_map]
  exact (List.foldl_hom mk fun _ _ => rfl).symm

/-- Of two values of one name the last counts. -/
theorem get_ofList (entries : List (String × String)) (name : String) :
    (ofList entries).get name = (latest name (entries.map fun entry => .set entry.1 entry.2)).join := by
  rw [ofList_eq_done, get_done]
  cases latest name _ <;> rfl

theorem sorted_ofList (entries : List (String × String)) : (ofList entries).Sorted := by
  rw [ofList_eq_done]
  exact sorted_done sorted_empty _

/-- The last of two values of one name counts. -/
example : (done {} [.set "A" "1", .set "B" "2", .remove "B", .set "A" "3"]).entries = [("A", "3")] := by
  decide +kernel

end Environment

/-! ### Handles -/

namespace Environments

/-- New variables are put behind the others. -/
theorem snapshot_create (store : Environments) (environment : Environment) (handle : EnvironmentHandle) :
    (store.create environment).2.snapshot handle =
      if handle.place = store.tables.size then environment else store.snapshot handle := by
  show ((store.tables.push environment)[handle.place]?).getD {} = _
  rw [Array.getElem?_push]
  split <;> rfl

/-- What is done with the variables behind a handle is done with no others. -/
theorem snapshot_modify (store : Environments) {handle : EnvironmentHandle} (there : handle.place < store.tables.size)
    (change : Environment → Environment) (other : EnvironmentHandle) :
    (store.modify handle change).snapshot other =
      if other = handle then change (store.snapshot other) else store.snapshot other := by
  show ((store.tables.modify handle.place change)[other.place]?).getD {} = _
  rw [Array.getElem?_modify]
  by_cases same : other = handle
  · subst same
    rw [if_pos rfl, if_pos rfl, snapshot, Array.getElem?_eq_getElem there]
    rfl
  · have apart : handle.place ≠ other.place := fun place => same (by cases other; cases handle; cases place; rfl)
    rw [if_neg apart, if_neg same]
    rfl

end Environments

end ScriptKernel
