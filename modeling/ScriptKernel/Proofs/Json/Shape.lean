/-
**The shape of structured values.**

* `Json.induct`: what holds of a value once it holds of its parts holds of every value;
* `Json.depth`: how deep lists and objects are nested;
* `Json.Integral`: every number is an integer that structured text can hold;
* `Json.Whole`: every number is an integer that a double holds exactly;
* `Json.Ordered`: the keys of every object ascend, as a value of the host keeps them;
* `Json.normal`: the value with the fields of every object put in order; an ordered value is its own
  (`Ordered.normal_eq`), and the order in which fields come does not matter (`object_perm`).
-/

import Mathlib.Data.List.Sort
import Mathlib.Data.String.Basic
import ScriptKernel.Json.Basic

set_option autoImplicit false

namespace ScriptKernel.Json

/-! ### Parts -/

/-- **What holds of a value once it holds of its parts holds of every value.** -/
@[elab_as_elim, induction_eliminator]
theorem induct {motive : Json → Prop} (null : motive .null)
    (boolean : ∀ value, motive (.boolean value)) (number : ∀ value, motive (.number value))
    (text : ∀ value, motive (.text value))
    (list : ∀ items, (∀ item ∈ items, motive item) → motive (.list items))
    (members : ∀ entries : List (String × Json), (∀ entry ∈ entries, motive entry.2) →
      motive (.members entries)) : ∀ json, motive json
  | .null => null
  | .boolean value => boolean value
  | .number value => number value
  | .text value => text value
  | .list items => list items fun item found =>
    have : sizeOf item < sizeOf items := List.sizeOf_lt_of_mem found
    induct null boolean number text list members item
  | .members entries => members entries fun entry found =>
    have : sizeOf entry < sizeOf entries := List.sizeOf_lt_of_mem found
    have : sizeOf entry.2 < sizeOf entry := by
      obtain ⟨key, value⟩ := entry
      simp
    induct null boolean number text list members entry.2

/-! ### Depth -/

mutual

/-- How deep lists and objects are nested. -/
def depth : Json → Nat
  | .list items => itemsDepth items + 1
  | .members entries => entriesDepth entries + 1
  | _ => 0

/-- The depth of the deepest item. -/
def itemsDepth : List Json → Nat
  | [] => 0
  | item :: rest => max (depth item) (itemsDepth rest)

/-- The depth of the deepest field. -/
def entriesDepth : List (String × Json) → Nat
  | [] => 0
  | entry :: rest => max (fieldDepth entry) (entriesDepth rest)

/-- The depth of a field. -/
def fieldDepth : String × Json → Nat
  | (_, value) => depth value

end

theorem itemsDepth_lt {items : List Json} {limit : Nat} (positive : 0 < limit) :
    itemsDepth items < limit ↔ ∀ item ∈ items, item.depth < limit := by
  induction items with
  | nil => simp [itemsDepth, positive]
  | cons item rest ih => simp [itemsDepth, ih]

theorem entriesDepth_lt {entries : List (String × Json)} {limit : Nat} (positive : 0 < limit) :
    entriesDepth entries < limit ↔ ∀ entry ∈ entries, entry.2.depth < limit := by
  induction entries with
  | nil => simp [entriesDepth, positive]
  | cons entry rest ih =>
    obtain ⟨key, value⟩ := entry
    simp [entriesDepth, fieldDepth, ih]

/-- The order of fields does not matter for their depth. -/
theorem entriesDepth_perm {entries others : List (String × Json)} (same : entries.Perm others) :
    entriesDepth entries = entriesDepth others := by
  refine Nat.le_antisymm (Nat.le_of_lt_succ ?_) (Nat.le_of_lt_succ ?_)
  · rw [entriesDepth_lt (Nat.succ_pos _)]
    intro entry found
    exact (entriesDepth_lt (Nat.succ_pos _)).mp (Nat.lt_succ_self _) entry (same.mem_iff.mp found)
  · rw [entriesDepth_lt (Nat.succ_pos _)]
    intro entry found
    exact (entriesDepth_lt (Nat.succ_pos _)).mp (Nat.lt_succ_self _) entry (same.mem_iff.mpr found)

/-- An item is nested less deep than its list. -/
theorem depth_lt_list {item : Json} {items : List Json} (found : item ∈ items) :
    item.depth < (Json.list items).depth :=
  (itemsDepth_lt (Nat.succ_pos _)).mp (Nat.lt_succ_self (itemsDepth items)) item found

/-- A field is nested less deep than its object. -/
theorem depth_lt_members {entry : String × Json} {entries : List (String × Json)}
    (found : entry ∈ entries) : entry.2.depth < (Json.members entries).depth :=
  (entriesDepth_lt (Nat.succ_pos _)).mp (Nat.lt_succ_self (entriesDepth entries)) entry found

/-! ### Numbers and keys -/

/-- An integer that structured text can hold: sixty-four bits, with a sign or without. -/
def Number.InRange (value : Int) : Prop := -(Nat.pow 2 63 : Nat) ≤ value ∧ value < (Nat.pow 2 64 : Nat)

/-- **Every number of the value is an integer that structured text can hold.** -/
inductive Integral : Json → Prop
  | null : Integral .null
  | boolean (value : Bool) : Integral (.boolean value)
  | number {value : Int} : Number.InRange value → Integral (.number (.integer value))
  | text (value : String) : Integral (.text value)
  | list {items : List Json} : (∀ item ∈ items, Integral item) → Integral (.list items)
  | members {entries : List (String × Json)} :
      (∀ entry ∈ entries, Integral entry.2) → Integral (.members entries)

/-- A natural number of sixty-four bits is one that structured text can hold. -/
theorem nat_integral {value : Nat} (small : value < Nat.pow 2 64) : (nat value).Integral :=
  .number ⟨by omega, Int.ofNat_lt.mpr small⟩

/-- The greatest magnitude up to which a double holds every integer. -/
def wholeLimit : Nat := Nat.pow 2 53

/-- **Every number of the value is an integer that a double holds exactly.** -/
inductive Whole : Json → Prop
  | null : Whole .null
  | boolean (value : Bool) : Whole (.boolean value)
  | number {value : Int} : value.natAbs ≤ wholeLimit → Whole (.number (.integer value))
  | text (value : String) : Whole (.text value)
  | list {items : List Json} : (∀ item ∈ items, Whole item) → Whole (.list items)
  | members {entries : List (String × Json)} :
      (∀ entry ∈ entries, Whole entry.2) → Whole (.members entries)

/-- An integer that a double holds is one that structured text can hold. -/
theorem Number.inRange_of_whole {value : Int} (small : value.natAbs ≤ wholeLimit) :
    Number.InRange value := by
  unfold wholeLimit at small
  unfold Number.InRange
  simp only [Nat.pow_eq] at small ⊢
  omega

theorem Whole.integral {value : Json} (whole : value.Whole) : value.Integral := by
  induction whole with
  | null => exact .null
  | boolean value => exact .boolean value
  | number small => exact .number (Number.inRange_of_whole small)
  | text value => exact .text value
  | list _ ih => exact .list ih
  | members _ ih => exact .members ih

/-- **The keys of every object of the value ascend.** -/
inductive Ordered : Json → Prop
  | null : Ordered .null
  | boolean (value : Bool) : Ordered (.boolean value)
  | number (value : Number) : Ordered (.number value)
  | text (value : String) : Ordered (.text value)
  | list {items : List Json} : (∀ item ∈ items, Ordered item) → Ordered (.list items)
  | members {entries : List (String × Json)} :
      (entries.map Prod.fst).Pairwise (· < ·) → (∀ entry ∈ entries, Ordered entry.2) →
      Ordered (.members entries)

/-! ### Fields in order -/

section Insert

variable {α : Type}

/-- Putting a new field in its place adds it, in some place. -/
theorem insert_perm {key : String} (value : α) {entries : List (String × α)}
    (new : key ∉ entries.map Prod.fst) :
    (insert key value entries).Perm ((key, value) :: entries) := by
  induction entries with
  | nil => exact .refl _
  | cons entry rest ih =>
    obtain ⟨other, old⟩ := entry
    simp only [List.map_cons, List.mem_cons, not_or] at new
    unfold insert
    split
    · exact .refl _
    · rw [if_neg new.1]
      exact ((ih new.2).cons _).trans (.swap ..)

/-- The keys are those that were there, and the one put in. -/
theorem mem_keys_insert {key other : String} {value : α} {entries : List (String × α)} :
    other ∈ (insert key value entries).map Prod.fst ↔ other = key ∨ other ∈ entries.map Prod.fst := by
  induction entries with
  | nil => simp [insert]
  | cons entry rest ih =>
    obtain ⟨first, old⟩ := entry
    unfold insert
    split
    · simp
    · split
      · rename_i same
        simp [same]
      · rw [List.map_cons, List.mem_cons, ih, List.map_cons, List.mem_cons, or_left_comm]

/-- Putting a field in its place keeps the keys ascending. -/
theorem insert_ascends {key : String} {value : α} {entries : List (String × α)}
    (ascends : (entries.map Prod.fst).Pairwise (· < ·)) :
    ((insert key value entries).map Prod.fst).Pairwise (· < ·) := by
  induction entries with
  | nil => simp [insert]
  | cons entry rest ih =>
    obtain ⟨other, old⟩ := entry
    rw [List.map_cons, List.pairwise_cons] at ascends
    unfold insert
    split
    · rename_i before
      refine List.pairwise_cons.mpr ⟨?_, List.pairwise_cons.mpr ascends⟩
      intro third found
      rcases List.mem_cons.mp found with rfl | found
      · exact before
      · exact before.trans (ascends.1 third found)
    · rename_i behind
      split
      · rename_i same
        exact same ▸ List.pairwise_cons.mpr ascends
      · rename_i different
        refine List.pairwise_cons.mpr ⟨?_, ih ascends.2⟩
        intro third found
        rcases mem_keys_insert.mp found with rfl | found
        · exact lt_of_le_of_ne (not_lt.mp behind) (Ne.symm different)
        · exact ascends.1 third found

/-- Fields put in their places one by one: the keys ascend, and each is there. -/
theorem insertAll_spec (entries built : List (String × α))
    (ascends : (built.map Prod.fst).Pairwise (· < ·))
    (apart : (built.map Prod.fst ++ entries.map Prod.fst).Nodup) :
    ((entries.foldl (fun built entry => insert entry.1 entry.2 built) built).map
        Prod.fst).Pairwise (· < ·) ∧
      (entries.foldl (fun built entry => insert entry.1 entry.2 built) built).Perm
        (built ++ entries) := by
  induction entries generalizing built with
  | nil => exact ⟨ascends, by rw [List.append_nil]; exact .refl _⟩
  | cons entry rest ih =>
    have split := List.nodup_append.mp apart
    have new : entry.1 ∉ built.map Prod.fst := fun found =>
      split.2.2 entry.1 found entry.1 List.mem_cons_self rfl
    have placed : (insert entry.1 entry.2 built).Perm (entry :: built) := insert_perm _ new
    have apart' : ((insert entry.1 entry.2 built).map Prod.fst ++ rest.map Prod.fst).Nodup := by
      refine (((placed.map Prod.fst).append_right _).trans ?_).nodup_iff.mpr apart
      exact List.perm_middle.symm
    obtain ⟨sorted, same⟩ := ih _ (insert_ascends ascends) apart'
    exact ⟨sorted, same.trans ((placed.append_right rest).trans List.perm_middle.symm)⟩

/-- **Fields whose keys ascend are what fields in any other order become.** -/
theorem insertAll_perm {entries others : List (String × α)}
    (ascends : (entries.map Prod.fst).Pairwise (· < ·)) (same : others.Perm entries) :
    others.foldl (fun built entry => insert entry.1 entry.2 built) [] = entries := by
  have apart : (others.map Prod.fst).Nodup :=
    (same.map Prod.fst).nodup_iff.mpr (ascends.imp fun below => ne_of_lt below)
  obtain ⟨sorted, placed⟩ := insertAll_spec others [] List.Pairwise.nil apart
  refine List.Perm.eq_of_pairwise ?_ (List.pairwise_map.mp sorted) (List.pairwise_map.mp ascends)
    (placed.trans same)
  exact fun _ _ _ _ below above => absurd below (lt_asymm above)

end Insert

/-- The order in which the fields of an object come does not matter. -/
theorem object_perm {entries others : List (String × Json)}
    (ascends : (entries.map Prod.fst).Pairwise (· < ·)) (same : others.Perm entries) :
    object others = .members entries := by
  rw [object, insertAll_perm ascends same]

/-- An object has the fields it is made of, in some order. -/
theorem object_members {entries : List (String × Json)} (apart : (entries.map Prod.fst).Nodup) :
    ∃ sorted, object entries = .members sorted ∧ sorted.Perm entries :=
  ⟨_, rfl, (insertAll_spec entries [] List.Pairwise.nil apart).2⟩

/-! ### Values in order -/

mutual

/-- The value with the fields of every object put in order. -/
def normal : Json → Json
  | .list items => .list (itemsNormal items)
  | .members entries => object (entriesNormal entries)
  | simple => simple

/-- The items in order. -/
def itemsNormal : List Json → List Json
  | [] => []
  | item :: rest => normal item :: itemsNormal rest

/-- The fields with their values in order. -/
def entriesNormal : List (String × Json) → List (String × Json)
  | [] => []
  | entry :: rest => fieldNormal entry :: entriesNormal rest

/-- A field with its value in order. -/
def fieldNormal : String × Json → String × Json
  | (key, value) => (key, normal value)

end

theorem itemsNormal_eq (items : List Json) : itemsNormal items = items.map normal := by
  induction items with
  | nil => rfl
  | cons item rest ih => rw [itemsNormal, ih, List.map_cons]

theorem entriesNormal_eq (entries : List (String × Json)) :
    entriesNormal entries = entries.map fun entry => (entry.1, entry.2.normal) := by
  induction entries with
  | nil => rfl
  | cons entry rest ih => rw [entriesNormal, ih, List.map_cons, fieldNormal]

/-- **An ordered value is already in order.** -/
theorem Ordered.normal_eq {value : Json} (ordered : value.Ordered) : value.normal = value := by
  induction ordered with
  | null | boolean _ | number _ | text _ => rfl
  | list _ ih =>
    rw [normal, itemsNormal_eq, List.map_congr_left ih, List.map_id']
  | @members entries ascends _ ih =>
    have same : entriesNormal entries = entries := by
      rw [entriesNormal_eq]
      conv_rhs => rw [← List.map_id entries]
      exact List.map_congr_left fun entry found => by rw [ih entry found]; rfl
    rw [normal, same, object_perm ascends (.refl _)]

end ScriptKernel.Json
