/-
**From prototype to prototype.**

* `Realm.Lineage`: the objects on the way from one to the last of its prototypes; they are all made, and the
  way comes to an end;
* `Lineage.nodup`, `Lineage.length_le`: none comes twice, so there are no more than objects;
* `Lineage.field?_eq`: so a field is found at the first object on the way that has it, however many objects
  there are besides;
* `Lineage.create`, `Lineage.define`: the way stays when an object is made and when a field is put in place;
* `Object.own?_define_name`: what a new field changes in an object of any class.
-/

import ScriptKernel.Proofs.Script.Furnished

set_option autoImplicit false

namespace ScriptKernel.Script

/-! ### The way to the last prototype -/

namespace Realm

/-- **The objects on the way to the last prototype**, all of them made. -/
inductive Lineage (realm : Realm) : Option Address → List Address → Prop
  | ends : Lineage realm none []
  | further {address : Address} {rest : List Address} : address < realm.objects.size →
      Lineage realm (realm.object address).parent rest → Lineage realm (some address) (address :: rest)

variable {realm : Realm} {start : Option Address} {line : List Address}

/-- There is one way only. -/
theorem Lineage.unique (lineage : realm.Lineage start line) {other : List Address}
    (another : realm.Lineage start other) : line = other := by
  induction lineage generalizing other with
  | ends =>
    cases another
    rfl
  | further made _ ih =>
    cases another with
    | further _ behind => rw [ih behind]

theorem Lineage.made (lineage : realm.Lineage start line) : ∀ address ∈ line, address < realm.objects.size := by
  induction lineage with
  | ends => simp
  | further made _ ih => exact List.forall_mem_cons.mpr ⟨made, ih⟩

theorem Lineage.start_made {address : Address} (lineage : realm.Lineage (some address) line) :
    address < realm.objects.size := by
  cases lineage with
  | further made _ => exact made

theorem Lineage.start_mem {address : Address} (lineage : realm.Lineage (some address) line) :
    address ∈ line := by
  cases lineage with
  | further _ _ => exact List.mem_cons_self

/-- The way from an object on the way is a part of it. -/
theorem Lineage.suffix (lineage : realm.Lineage start line) {address : Address} (passed : address ∈ line) :
    ∃ rest, realm.Lineage (some address) (address :: rest) ∧ (address :: rest).length ≤ line.length := by
  induction lineage with
  | ends => simp at passed
  | @further here rest made behind ih =>
    rcases List.mem_cons.mp passed with rfl | later
    · exact ⟨rest, .further made behind, Nat.le_refl _⟩
    · obtain ⟨others, way, shorter⟩ := ih later
      exact ⟨others, way, Nat.le_succ_of_le shorter⟩

/-- **No object comes twice.** -/
theorem Lineage.nodup (lineage : realm.Lineage start line) : line.Nodup := by
  induction lineage with
  | ends => simp
  | @further here rest made behind ih =>
    refine List.nodup_cons.mpr ⟨?_, ih⟩
    -- an object that came again would have two ways of different lengths
    intro again
    obtain ⟨others, way, shorter⟩ := behind.suffix again
    have same := way.unique (.further made behind)
    rw [same, List.length_cons] at shorter
    omega

/-- **There are no more objects on the way than objects.** -/
theorem Lineage.length_le (lineage : realm.Lineage start line) : line.length ≤ realm.objects.size := by
  have within : line ⊆ List.range realm.objects.size := by
    intro address passed
    exact List.mem_range.mpr (lineage.made address passed)
  have fewer := lineage.nodup.length_le_of_subset within
  rwa [List.length_range] at fewer

/-! ### Fields on the way -/

/-- The first field with a key on a way. -/
def found? (realm : Realm) (key : Key) (line : List Address) : Option Property :=
  line.findSome? fun address => (realm.object address).own? key

theorem Lineage.inherited?_eq (lineage : realm.Lineage start line) (key : Key) {limit : Nat}
    (far : line.length ≤ limit) : realm.inherited? key limit start = realm.found? key line := by
  induction lineage generalizing limit with
  | ends => cases limit <;> rfl
  | @further here rest made behind ih =>
    obtain ⟨limit, rfl⟩ : ∃ less, limit = less + 1 := ⟨limit - 1, by simp at far; omega⟩
    rw [inherited?, found?, List.findSome?_cons]
    cases own : (realm.object here).own? key with
    | some property => rfl
    | none => exact ih (Nat.le_of_succ_le_succ far)

/-- **A field is found at the first object on the way that has it.** -/
theorem Lineage.field?_eq {address : Address} (lineage : realm.Lineage (some address) line) (key : Key) :
    realm.field? (realm.object address) key = realm.found? key line := by
  cases lineage with
  | further made behind =>
    rw [field?, found?, List.findSome?_cons, behind.inherited?_eq key (Nat.le_succ_of_le behind.length_le)]
    cases (realm.object address).own? key <;> rfl

/-- Where nothing is found, no object on the way has the field. -/
theorem found?_eq_none {key : Key} :
    realm.found? key line = none ↔ ∀ address ∈ line, (realm.object address).own? key = none := by
  rw [found?, List.findSome?_eq_none_iff]

/-! ### Changes that keep the way -/

theorem Lineage.create (lineage : realm.Lineage start line) (object : Object) :
    (realm.create object).2.Lineage start line := by
  induction lineage with
  | ends => exact .ends
  | further made _ ih =>
    have larger := size_created realm object
    refine .further (larger ▸ Nat.lt_succ_of_lt made) ?_
    rwa [realm.object_create object made]

/-- What is found depends on the objects on the way only. -/
theorem found?_congr {other : Realm} {key : Key}
    (alike : ∀ address ∈ line, (other.object address).own? key = (realm.object address).own? key) :
    other.found? key line = realm.found? key line := by
  unfold found?
  induction line with
  | nil => rfl
  | cons address rest ih =>
    rw [List.forall_mem_cons] at alike
    rw [List.findSome?_cons, List.findSome?_cons, alike.1, ih alike.2]

theorem Lineage.define (lineage : realm.Lineage start line) {place : Address}
    (placed : place < realm.objects.size) (key : Key) (property : Property) :
    (realm.define place key property).Lineage start line := by
  induction lineage with
  | ends => exact .ends
  | @further here rest made _ ih =>
    have same : (realm.define place key property).objects.size = realm.objects.size := Array.size_modify
    refine .further (same ▸ made) ?_
    rw [realm.object_define placed]
    by_cases met : place = here
    · rw [if_pos met, define_parent]
      exact ih
    · rw [if_neg met]
      exact ih

end Realm

/-! ### New fields -/

/-- Putting a field into an object changes nothing about whether it can get more. -/
theorem Realm.define_extensible (object : Object) (key : Key) (property : Property) :
    (object.define key property).extensible = object.extensible := by
  unfold Object.define
  repeat' split
  all_goals rfl

/-- What an object has by its class comes before the fields it holds. -/
theorem Object.own?_by_class (kind : ObjectClass) (key : Key) :
    ∃ special : Option Property, ∀ parent fields extensible,
      own? ⟨kind, parent, fields, extensible⟩ key = special.or (find? key fields) := by
  cases kind with
  | array items =>
    cases item : key.index?.bind items.item? with
    | some value => exact ⟨some (.plain value), by simp [own?, item]⟩
    | none =>
      by_cases length : key = lengthKey
      · subst length
        exact ⟨some items.lengthField, by simp [own?, item]⟩
      · exact ⟨none, by simp [own?, item, length]⟩
  | wrapper value =>
    cases value with
    | text text =>
      cases item : key.index?.bind fun index => text.units[index]? with
      | some unit =>
        exact ⟨some { slot := .data (.text ⟨[unit]⟩) false, configurable := false }, by simp [own?, item]⟩
      | none =>
        by_cases length : key = lengthKey
        · subst length
          exact ⟨some (.fixed (.ofNat text.length)), by simp [own?, item]⟩
        · exact ⟨none, by simp [own?, item, length]⟩
    | _ => exact ⟨none, fun _ _ _ => rfl⟩
  | _ => exact ⟨none, fun _ _ _ => rfl⟩

/-- **A new field under a name that is no index** is found, and every other field is as it was. -/
theorem Object.own?_define_name {object : Object} {key : Key} (named : key.index? = none)
    (free : object.own? key = none) (property : Property) (other : Key) :
    (object.define key property).own? other = if key = other then some property else object.own? other := by
  have put_eq : object.define key property =
      { object with fields := put key property object.fields } := by
    unfold define
    split
    · rename_i index
      rw [named] at index
      cases index
    · rfl
  obtain ⟨special, by_class⟩ := own?_by_class object.kind other
  rw [put_eq, by_class]
  by_cases same : key = other
  · subst same
    have plain : special.or (find? key object.fields) = none := (by_class ..).symm.trans free
    rw [if_pos rfl, find?_put_self, (Option.or_eq_none_iff.mp plain).1]
    rfl
  · rw [if_neg same, find?_put_other same]
    exact (by_class ..).symm

end ScriptKernel.Script
