/-
**Structured values on their way into a script.**

* `Realm.Holds`: how a value of a script stands for a structured one, the parts of an object below it; what is
  made of a structured value stands for it (`Realm.materialize_holds`) and goes on doing so in any realm that
  has grown (`Holds.grown`);
* `Json.Stands`: a value that is another one once it is put in order.
-/

import Mathlib.Data.List.Forall2
import ScriptKernel.Proofs.Script.Listed
import ScriptKernel.Proofs.Script.Memory

set_option autoImplicit false

namespace ScriptKernel

/-- Lists related item by item are related by what that implies of their items. -/
theorem forall₂_imp {α β : Type} {before after : α → β → Prop} {firsts : List α} {seconds : List β}
    (related : List.Forall₂ before firsts seconds)
    (implies : ∀ first ∈ firsts, ∀ second, before first second → after first second) :
    List.Forall₂ after firsts seconds := by
  induction related with
  | nil => exact .nil
  | cons here _ ih =>
    exact .cons (implies _ List.mem_cons_self _ here)
      (ih fun first found => implies first (List.mem_cons_of_mem _ found))

/-- Lists related item by item are related at every place. -/
theorem forall₂_getElem? {α β : Type} {related : α → β → Prop} {firsts : List α}
    {seconds : List β} (pairs : List.Forall₂ related firsts seconds) {index : Nat}
    (few : index < firsts.length) :
    ∃ first second, firsts[index]? = some first ∧ seconds[index]? = some second ∧
      related first second := by
  have same := pairs.length_eq
  refine ⟨_, _, List.getElem?_eq_getElem few, List.getElem?_eq_getElem (same ▸ few), ?_⟩
  exact pairs.get few (same ▸ few)

/-! ### Values put in order -/

namespace Json

/-- **A value is another one once it is put in order**, and is nested as deep. -/
structure Stands (same json : Json) : Prop where
  whole : same.Whole
  normal : same.normal = json
  depth : same.depth = json.depth

theorem Stands.simple {json : Json} (whole : json.Whole) (normal : json.normal = json) :
    json.Stands json := ⟨whole, normal, rfl⟩

theorem Stands.list {sames items : List Json} (stand : List.Forall₂ Stands sames items) :
    (Json.list sames).Stands (.list items) := by
  have whole : ∀ same ∈ sames, same.Whole := by
    induction stand with
    | nil => exact nofun
    | cons first _ ih => exact List.forall_mem_cons.mpr ⟨first.whole, ih⟩
  have normal : itemsNormal sames = items := by
    induction stand with
    | nil => rfl
    | cons first _ ih =>
      rw [itemsNormal, first.normal, ih fun same found => whole same (List.mem_cons_of_mem _ found)]
  have depth : itemsDepth sames = itemsDepth items := by
    clear whole normal
    induction stand with
    | nil => rfl
    | cons first _ ih => rw [itemsDepth, itemsDepth, first.depth, ih]
  refine ⟨.list whole, ?_, ?_⟩
  · rw [Json.normal, normal]
  · rw [Json.depth, Json.depth, depth]

/-- Fields in another order, with values that stand for theirs. -/
theorem Stands.members {entries listed sames : List (String × Json)}
    (ascends : (entries.map Prod.fst).Pairwise (· < ·)) (order : listed.Perm entries)
    (stand : List.Forall₂ (fun same entry => same.1 = entry.1 ∧ same.2.Stands entry.2) sames listed) :
    (Json.members sames).Stands (.members entries) := by
  have whole : ∀ same ∈ sames, same.2.Whole := by
    clear order
    induction stand with
    | nil => exact nofun
    | cons first _ ih => exact List.forall_mem_cons.mpr ⟨first.2.whole, ih⟩
  have normal : entriesNormal sames = listed := by
    clear order whole
    rw [entriesNormal_eq]
    induction stand with
    | nil => rfl
    | cons first _ ih => rw [List.map_cons, first.1, first.2.normal, ih]
  have depth : entriesDepth sames = entriesDepth listed := by
    clear order whole normal
    induction stand with
    | nil => rfl
    | @cons same entry _ _ first _ ih =>
      obtain ⟨key, value⟩ := same
      obtain ⟨other, json⟩ := entry
      rw [entriesDepth, entriesDepth, ih]
      exact congrArg (max · _) first.2.depth
  refine ⟨.members whole, ?_, ?_⟩
  · rw [Json.normal, normal, object_perm ascends order]
  · rw [Json.depth, Json.depth, depth, entriesDepth_perm order]

end Json

namespace Script

/-! ### Values that stand for structured ones -/

/-- A value that is no object, or one below an address. -/
def Value.Below (bound : Address) (value : Value) : Prop :=
  ∀ address, value = .object address → address < bound

theorem Value.Below.mono {bound more : Address} {value : Value} (below : value.Below bound)
    (le : bound ≤ more) : value.Below more := fun address same =>
  Nat.lt_of_lt_of_le (below address same) le

namespace Realm

/-- An array with an item for each value. -/
def row (realm : Realm) (values : List Value) : Object :=
  { kind := .array (.ofList (values.map some)), parent := some realm.landmarks.arrayParent }

/-- An object with a field for each name. -/
def record (realm : Realm) (fields : List (String × Value)) : Object :=
  .record (some realm.landmarks.objectParent) fields

mutual

/-- **How a value of a script stands for a structured one**: the parts of an object are below it. -/
def Holds (realm : Realm) : Json → Value → Prop
  | .null, value => value = .null
  | .boolean flag, value => value = .boolean flag
  | .number number, value => value = .number (numberValue number)
  | .text text, value => value = .ofString text
  | .list items, value => ∃ address values, value = .object address ∧
      address < realm.objects.size ∧ realm.object address = realm.row values ∧
      (∀ value ∈ values, value.Below address) ∧ HoldsItems realm items values
  | .members entries, value => ∃ address fields, value = .object address ∧
      address < realm.objects.size ∧ realm.object address = realm.record fields ∧
      (∀ field ∈ fields, field.2.Below address) ∧ HoldsEntries realm entries fields

/-- How values stand for items. -/
def HoldsItems (realm : Realm) : List Json → List Value → Prop
  | [], values => values = []
  | item :: rest, values => ∃ value others, values = value :: others ∧ Holds realm item value ∧
      HoldsItems realm rest others

/-- How values stand for fields. -/
def HoldsEntries (realm : Realm) : List (String × Json) → List (String × Value) → Prop
  | [], fields => fields = []
  | entry :: rest, fields => ∃ value others, fields = (entry.1, value) :: others ∧
      HoldsField realm entry value ∧ HoldsEntries realm rest others

/-- How a value stands for that of a field. -/
def HoldsField (realm : Realm) : String × Json → Value → Prop
  | (_, json), value => Holds realm json value

end

variable {realm before after : Realm}

theorem holdsItems_iff {items : List Json} {values : List Value} :
    realm.HoldsItems items values ↔ List.Forall₂ realm.Holds items values := by
  induction items generalizing values with
  | nil =>
    rw [HoldsItems]
    exact ⟨fun same => same ▸ .nil, fun none => by cases none; rfl⟩
  | cons item rest ih =>
    rw [HoldsItems]
    constructor
    · rintro ⟨value, others, rfl, first, later⟩
      exact .cons first (ih.mp later)
    · rintro (_ | ⟨first, later⟩)
      exact ⟨_, _, rfl, first, ih.mpr later⟩

theorem holdsEntries_iff {entries : List (String × Json)} {fields : List (String × Value)} :
    realm.HoldsEntries entries fields ↔
      List.Forall₂ (fun entry field => field.1 = entry.1 ∧ realm.Holds entry.2 field.2) entries
        fields := by
  induction entries generalizing fields with
  | nil =>
    rw [HoldsEntries]
    exact ⟨fun same => same ▸ .nil, fun none => by cases none; rfl⟩
  | cons entry rest ih =>
    rw [HoldsEntries]
    constructor
    · rintro ⟨value, others, rfl, first, later⟩
      refine .cons ⟨rfl, ?_⟩ (ih.mp later)
      rwa [HoldsField.eq_def] at first
    · rintro (_ | ⟨⟨same, first⟩, later⟩)
      refine ⟨_, _, by rw [← same], ?_, ih.mpr later⟩
      rwa [HoldsField.eq_def]

/-- Every field stands for that of some entry. -/
theorem holdsEntries_mem {entries : List (String × Json)} {fields : List (String × Value)}
    (parts : realm.HoldsEntries entries fields) {field : String × Value} (member : field ∈ fields) :
    ∃ entry ∈ entries, field.1 = entry.1 ∧ realm.Holds entry.2 field.2 := by
  rw [holdsEntries_iff] at parts
  induction parts with
  | nil => cases member
  | cons here _ ih =>
    rcases List.mem_cons.mp member with rfl | later
    · exact ⟨_, List.mem_cons_self, here⟩
    · obtain ⟨entry, found, same⟩ := ih later
      exact ⟨entry, List.mem_cons_of_mem _ found, same⟩

theorem Holds.below {json : Json} {value : Value} (holds : realm.Holds json value) :
    value.Below realm.objects.size := by
  intro address same
  subst same
  cases json with
  | null | boolean _ | number _ | text _ => cases holds
  | list _ | members _ =>
    obtain ⟨place, _, same, made, -⟩ := holds
    cases same
    exact made

/-- **What stands for a value cannot be called.** -/
theorem Holds.inert {json : Json} {value : Value} (holds : realm.Holds json value) :
    realm.Inert value := by
  cases json with
  | null | boolean _ | number _ | text _ =>
    cases holds
    exact ⟨nofun, nofun⟩
  | list _ | members _ =>
    obtain ⟨address, _, rfl, made, object, -⟩ := holds
    refine ⟨nofun, fun other same => ?_⟩
    cases same
    exact ⟨made, by rw [object]; rfl⟩

/-- **What stands for a value goes on doing so.** -/
theorem Holds.grown {json : Json} {value : Value} (holds : before.Holds json value)
    (grown : before.Grown after) : after.Holds json value := by
  induction json generalizing value with
  | null | boolean _ | number _ | text _ => exact holds
  | list items ih =>
    obtain ⟨address, values, rfl, made, object, below, parts⟩ := holds
    refine ⟨address, values, rfl, Nat.lt_of_lt_of_le made grown.size_le, ?_, below, ?_⟩
    · rw [grown.object_eq made, object]
      unfold row
      rw [grown.landmarks_eq]
    · rw [holdsItems_iff] at parts ⊢
      exact forall₂_imp parts fun item found _ => ih item found
  | members entries ih =>
    obtain ⟨address, fields, rfl, made, object, below, parts⟩ := holds
    refine ⟨address, fields, rfl, Nat.lt_of_lt_of_le made grown.size_le, ?_, below, ?_⟩
    · rw [grown.object_eq made, object]
      unfold record
      rw [grown.landmarks_eq]
    · rw [holdsEntries_iff] at parts ⊢
      exact forall₂_imp parts fun entry found _ field => ⟨field.1, ih entry found field.2⟩

/-! ### Into a script -/

/-- What a structured value is made of stands for it, and nothing else has changed. -/
def Materializes (json : Json) : Prop :=
  ∀ realm : Realm, realm.Grown (realm.materialize json).2 ∧
    (realm.materialize json).2.Holds json (realm.materialize json).1

theorem materializeItems_holds (realm : Realm) {items : List Json}
    (parts : ∀ item ∈ items, Materializes item) :
    realm.Grown (realm.materializeItems items).2 ∧
      List.Forall₂ (realm.materializeItems items).2.Holds items (realm.materializeItems items).1 ∧
      ∀ value ∈ (realm.materializeItems items).1,
        value.Below (realm.materializeItems items).2.objects.size := by
  induction items generalizing realm with
  | nil => exact ⟨.refl realm, .nil, nofun⟩
  | cons item rest later =>
    obtain ⟨grown, holds⟩ := parts item List.mem_cons_self realm
    obtain ⟨grown', holds', below⟩ := later (realm.materialize item).2
      fun other found => parts other (List.mem_cons_of_mem _ found)
    rw [materializeItems]
    refine ⟨grown.trans grown', .cons (holds.grown grown') holds', ?_⟩
    exact List.forall_mem_cons.mpr ⟨holds.below.mono grown'.size_le, below⟩

theorem materializeEntries_holds (realm : Realm) {entries : List (String × Json)}
    (parts : ∀ entry ∈ entries, Materializes entry.2) :
    ∃ fields : List (String × Value), (realm.materializeEntries entries).1 =
        fields.map (fun field => (.ofString field.1, .plain field.2)) ∧
      realm.Grown (realm.materializeEntries entries).2 ∧
      List.Forall₂ (fun entry field => field.1 = entry.1 ∧
        (realm.materializeEntries entries).2.Holds entry.2 field.2) entries fields ∧
      ∀ field ∈ fields, field.2.Below (realm.materializeEntries entries).2.objects.size := by
  induction entries generalizing realm with
  | nil => exact ⟨[], rfl, .refl realm, .nil, nofun⟩
  | cons entry rest later =>
    obtain ⟨key, json⟩ := entry
    obtain ⟨grown, holds⟩ := parts (key, json) List.mem_cons_self realm
    obtain ⟨fields, made, grown', holds', below⟩ := later (realm.materialize json).2
      fun other found => parts other (List.mem_cons_of_mem _ found)
    rw [materializeEntries, materializeEntry]
    refine ⟨(key, (realm.materialize json).1) :: fields, ?_, grown.trans grown',
      .cons ⟨rfl, holds.grown grown'⟩ holds', ?_⟩
    · rw [List.map_cons, ← made]
    · exact List.forall_mem_cons.mpr ⟨holds.below.mono grown'.size_le, below⟩

/-- **What is made of a value stands for it**, and nothing else has changed. -/
theorem materialize_holds (json : Json) : Materializes json := by
  induction json with
  | null | boolean _ | number _ | text _ => exact fun realm => ⟨.refl realm, rfl⟩
  | list items ih =>
    intro realm
    obtain ⟨grown, holds, below⟩ := materializeItems_holds realm ih
    have last := Grown.create (realm.materializeItems items).2
      ((realm.materializeItems items).2.row (realm.materializeItems items).1)
    refine ⟨grown.trans last, _, _, rfl, ?_, object_created _ _, below, ?_⟩
    · rw [materialize]
      exact size_created _ _ ▸ Nat.lt_succ_self _
    · exact holdsItems_iff.mpr (holds.imp fun _ _ here => here.grown last)
  | members entries ih =>
    intro realm
    obtain ⟨fields, made, grown, holds, below⟩ := materializeEntries_holds realm ih
    have last := Grown.create (realm.materializeEntries entries).2
      ((realm.materializeEntries entries).2.record fields)
    have built : realm.materialize (.members entries) =
        (.object (realm.materializeEntries entries).2.objects.size,
          ((realm.materializeEntries entries).2.create
            ((realm.materializeEntries entries).2.record fields)).2) := by
      rw [materialize]
      unfold record Object.record
      rw [← made]
      rfl
    rw [built]
    refine ⟨grown.trans last, _, _, rfl, ?_, object_created _ _, below, ?_⟩
    · exact size_created _ _ ▸ Nat.lt_succ_self _
    · exact holdsEntries_iff.mpr (holds.imp fun _ _ here => ⟨here.1, here.2.grown last⟩)

end Realm

end Script

end ScriptKernel
