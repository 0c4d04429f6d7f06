/-
**The same value with its fields in another order.**

* `Json.Reordered`: a value that differs from another only in the order of the fields of its objects, as far
  inside as they go;
* `Reordered.normal_eq`, `Reordered.depth_eq`, `Reordered.readable`: it has the same value in order, is nested
  as deep, and is read from its own text as well;
* `Reordered.of_object`: an object of given fields is written as these fields in some order.
-/

import Mathlib.Data.List.Forall2
import Mathlib.Data.List.Perm.Basic
import ScriptKernel.Proofs.Json.Number

set_option autoImplicit false

namespace ScriptKernel.Json

mutual

/-- **A value with the fields of each of its objects in any order.** -/
inductive Reordered : Json → Json → Prop
  | null : Reordered .null .null
  | boolean (value : Bool) : Reordered (.boolean value) (.boolean value)
  | number (value : Number) : Reordered (.number value) (.number value)
  | text (value : String) : Reordered (.text value) (.text value)
  | list {items others : List Json} : ReorderedItems items others → Reordered (.list items) (.list others)
  | members {entries kept others : List (String × Json)} :
      ReorderedEntries entries kept → kept.Perm others → Reordered (.members entries) (.members others)

/-- Items with the fields inside each of them in any order. -/
inductive ReorderedItems : List Json → List Json → Prop
  | nil : ReorderedItems [] []
  | cons {item other : Json} {items others : List Json} :
      Reordered item other → ReorderedItems items others → ReorderedItems (item :: items) (other :: others)

/-- Fields with the fields inside each of them in any order. -/
inductive ReorderedEntries : List (String × Json) → List (String × Json) → Prop
  | nil : ReorderedEntries [] []
  | cons {key : String} {item other : Json} {entries others : List (String × Json)} :
      Reordered item other → ReorderedEntries entries others →
        ReorderedEntries ((key, item) :: entries) ((key, other) :: others)

end

namespace Reordered

theorem refl (json : Json) : json.Reordered json := by
  induction json with
  | null => exact .null
  | boolean value => exact .boolean value
  | number value => exact .number value
  | text value => exact .text value
  | list items ih =>
    refine .list ?_
    induction items with
    | nil => exact .nil
    | cons item rest tail =>
      exact .cons (ih item List.mem_cons_self) (tail fun item found => ih item (.tail _ found))
  | members entries ih =>
    refine .members ?_ (.refl entries)
    induction entries with
    | nil => exact .nil
    | cons entry rest tail =>
      exact .cons (ih entry List.mem_cons_self) (tail fun entry found => ih entry (.tail _ found))

end Reordered

/-! ### What the order does not change -/

mutual

theorem Reordered.depth_eq {record json : Json} : record.Reordered json → record.depth = json.depth
  | .null | .boolean _ | .number _ | .text _ => rfl
  | .list items => by rw [depth, depth, items.depth_eq]
  | .members entries same => by rw [depth, depth, entries.depth_eq, entriesDepth_perm same]

theorem ReorderedItems.depth_eq {items others : List Json} :
    ReorderedItems items others → itemsDepth items = itemsDepth others
  | .nil => rfl
  | .cons first rest => by rw [itemsDepth, itemsDepth, first.depth_eq, rest.depth_eq]

theorem ReorderedEntries.depth_eq {entries others : List (String × Json)} :
    ReorderedEntries entries others → entriesDepth entries = entriesDepth others
  | .nil => rfl
  | .cons first rest => by
    rw [entriesDepth, entriesDepth, rest.depth_eq]
    exact congrArg (max · _) first.depth_eq

end

mutual

/-- **A value in order is what it is put in order from any order of its fields.** -/
theorem Reordered.normal_eq {record json : Json} : record.Reordered json → json.Ordered → record.normal = json
  | .null, _ | .boolean _, _ | .number _, _ | .text _, _ => rfl
  | .list items, .list ordered => by rw [normal, items.normal_eq ordered]
  | .members entries same, .members ascends ordered => by
    rw [normal, entries.normal_eq fun entry found => ordered entry (same.mem_iff.mp found)]
    exact object_perm ascends same

theorem ReorderedItems.normal_eq {items others : List Json} :
    ReorderedItems items others → (∀ other ∈ others, other.Ordered) → itemsNormal items = others
  | .nil, _ => rfl
  | .cons first rest, ordered => by
    rw [itemsNormal, first.normal_eq (ordered _ List.mem_cons_self),
      rest.normal_eq fun other found => ordered other (.tail _ found)]

theorem ReorderedEntries.normal_eq {entries others : List (String × Json)} :
    ReorderedEntries entries others → (∀ other ∈ others, other.2.Ordered) → entriesNormal entries = others
  | .nil, _ => rfl
  | .cons first rest, ordered => by
    rw [entriesNormal, fieldNormal, first.normal_eq (ordered _ List.mem_cons_self),
      rest.normal_eq fun other found => ordered other (.tail _ found)]

end

mutual

theorem Reordered.readable {record json : Json} : record.Reordered json → json.Readable → record.Readable
  | .null, _ => .null
  | .boolean value, _ => .boolean value
  | .number _, .number readable => .number readable
  | .text value, _ => .text value
  | .list items, .list readable => .list (items.readable readable)
  | .members entries same, .members readable =>
    .members (entries.readable fun entry found => readable entry (same.mem_iff.mp found))

theorem ReorderedItems.readable {items others : List Json} :
    ReorderedItems items others → (∀ other ∈ others, other.Readable) → ∀ item ∈ items, item.Readable
  | .nil, _ => List.forall_mem_nil _
  | .cons first rest, readable =>
    List.forall_mem_cons.mpr ⟨first.readable (readable _ List.mem_cons_self),
      rest.readable fun other found => readable other (.tail _ found)⟩

theorem ReorderedEntries.readable {entries others : List (String × Json)} :
    ReorderedEntries entries others → (∀ other ∈ others, other.2.Readable) →
      ∀ entry ∈ entries, entry.2.Readable
  | .nil, _ => List.forall_mem_nil _
  | .cons first rest, readable =>
    List.forall_mem_cons.mpr ⟨first.readable (readable _ List.mem_cons_self),
      rest.readable fun other found => readable other (.tail _ found)⟩

end

/-! ### Its fields -/

/-- The names of the fields are the same, in their places. -/
theorem ReorderedEntries.names_eq {entries others : List (String × Json)}
    (same : ReorderedEntries entries others) : entries.map Prod.fst = others.map Prod.fst := by
  induction others generalizing entries with
  | nil =>
    cases same
    rfl
  | cons other others ih =>
    cases same with
    | cons first rest => rw [List.map_cons, List.map_cons, ih rest]

/-- What holds of each field with what belongs to it holds of the fields written in another order inside, if the
order inside does not matter to it. -/
theorem ReorderedEntries.forall₂ {β : Type} {first second : String × Json → β → Prop}
    (moves : ∀ key item other value, item.Reordered other → first (key, other) value → second (key, item) value)
    {entries others : List (String × Json)} {values : List β} (same : ReorderedEntries entries others)
    (each : List.Forall₂ first others values) : List.Forall₂ second entries values := by
  induction each generalizing entries with
  | nil =>
    cases same
    exact .nil
  | cons holds _ ih =>
    cases same with
    | cons here rest => exact .cons (moves _ _ _ _ here holds) (ih rest)

/-- Fields one after the other are reordered each for itself. -/
theorem reorderedEntries_append {entries first second : List (String × Json)} :
    ReorderedEntries entries (first ++ second) ↔
      ∃ front back, entries = front ++ back ∧ ReorderedEntries front first ∧ ReorderedEntries back second := by
  constructor
  · intro same
    induction first generalizing entries with
    | nil => exact ⟨[], entries, rfl, .nil, same⟩
    | cons other first ih =>
      cases same with
      | cons here rest =>
        obtain ⟨front, back, rfl, before, after⟩ := ih rest
        exact ⟨_ :: front, back, rfl, .cons here before, after⟩
  · rintro ⟨front, back, rfl, before, after⟩
    induction first generalizing front with
    | nil =>
      cases before
      exact after
    | cons other first ih =>
      cases before with
      | cons here rest => exact .cons here (ih _ rest)

/-- What is written like an object of fields with names of their own is an object of these fields in some
order, each of them written in any order. -/
theorem Reordered.of_object {record : Json} {fields : List (String × Json)}
    (apart : (fields.map Prod.fst).Nodup) (same : record.Reordered (object fields)) :
    ∃ entries kept, record = .members entries ∧ ReorderedEntries entries kept ∧ kept.Perm fields := by
  obtain ⟨sorted, made, placed⟩ := object_members apart
  rw [made] at same
  cases same with
  | members entries kept => exact ⟨_, _, rfl, entries, kept.trans placed⟩

/-- Fields in some order, each of them written in any order, make up what is written like their object. -/
theorem Reordered.to_object {entries kept fields : List (String × Json)}
    (apart : (fields.map Prod.fst).Nodup) (same : ReorderedEntries entries kept) (placed : kept.Perm fields) :
    (Json.members entries).Reordered (object fields) := by
  obtain ⟨sorted, made, sortedSame⟩ := object_members apart
  rw [made]
  exact .members same (placed.trans sortedSame.symm)

end ScriptKernel.Json
