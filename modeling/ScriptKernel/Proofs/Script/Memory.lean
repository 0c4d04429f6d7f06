/-
**Parts that end at once, and what lasts in a realm.**

* `Run.Ends`: a part that ends without asking the host, put together from others by `Ends.bind`;
* `Realm.Grown`: a realm in which only objects have been added, and work counted; what was there is as it was;
* `Realm.Inert`: a value that cannot be called, now or after the realm has grown;
* `Realm.Mute`: going from prototype to prototype, nothing that can be called is found under a key, so looking
  it up calls nothing (`ends_get_mute`).
-/

import ScriptKernel.Proofs.Binding
import ScriptKernel.Script.Property

set_option autoImplicit false

namespace ScriptKernel.Script

/-! ### Parts that end at once -/

namespace Run

variable {α β : Type}

/-- **A part that ends without asking the host.** -/
def Ends (run : Run α) (before : Memory) (outcome : Outcome α) (after : Memory) : Prop :=
  run.part before = .done (outcome, after)

variable {before middle after : Memory}

theorem ends_pure (answer : α) (memory : Memory) :
    (pure answer : Run α).Ends memory (.value answer) memory := rfl

theorem ends_look (view : Realm → α) (memory : Memory) :
    (look view).Ends memory (.value (view memory.realm)) memory := rfl

theorem ends_make (step : Realm → α × Realm) (memory : Memory) :
    (make step).Ends memory (.value (step memory.realm).1)
      { memory with realm := (step memory.realm).2 } := rfl

/-- A part goes on from the value of another. -/
theorem Ends.bind {first : Run α} {next : α → Run β} {answer : α} {outcome : Outcome β}
    (started : first.Ends before (.value answer) middle)
    (continued : (next answer).Ends middle outcome after) :
    (first >>= next).Ends before outcome after := by
  show Part.andThen _ _ before = _
  rw [Part.andThen_apply, started]
  exact continued

/-- Nothing goes on from an exception. -/
theorem Ends.bind_thrown {first : Run α} {exception : Value}
    (thrown : first.Ends before (.thrown exception) after) (next : α → Run β) :
    (first >>= next).Ends before (.thrown exception) after := by
  show Part.andThen _ _ before = _
  rw [Part.andThen_apply, thrown]
  rfl

/-- An error is thrown, and is the only thing that is new. -/
theorem ends_raise (kind : ErrorKind) (message : String) (memory : Memory) :
    (raise kind message : Run α).Ends memory
      (.thrown (.object (memory.realm.createError kind (.ofString message)).1))
      { memory with realm := (memory.realm.createError kind (.ofString message)).2 } := rfl

/-- The host hears a value. -/
theorem Ends.heard_value {run : Run α} {answer : α} (ends : run.Ends before (.value answer) after) :
    run.heard.Ends before (.value answer) after := by
  show Part.andThen _ _ before = _
  rw [Part.andThen_apply, ends]
  rfl

/-- The host hears an exception, if no panic waits. -/
theorem Ends.heard_thrown {run : Run α} {exception : Value}
    (ends : run.Ends before (.thrown exception) after) (quiet : after.panicking = false) :
    run.heard.Ends before (.thrown exception) after := by
  show Part.andThen _ _ before = _
  rw [Part.andThen_apply, ends]
  simp only [Dialogue.bind, quiet]
  rfl

/-- A handled part goes on from its value. -/
theorem Ends.andThen_value {first : Run α} {value : α → Run β} {thrown : Value → Run β}
    {stopped : Run β} {answer : α} {outcome : Outcome β}
    (started : first.Ends before (.value answer) middle)
    (continued : (value answer).Ends middle outcome after) :
    (first.andThen value thrown stopped).Ends before outcome after := by
  show Part.andThen _ _ before = _
  rw [Part.andThen_apply, started]
  exact continued

/-- A handled part goes on from its exception. -/
theorem Ends.andThen_thrown {first : Run α} {value : α → Run β} {thrown : Value → Run β}
    {stopped : Run β} {exception : Value} {outcome : Outcome β}
    (started : first.Ends before (.thrown exception) middle)
    (continued : (thrown exception).Ends middle outcome after) :
    (first.andThen value thrown stopped).Ends before outcome after := by
  show Part.andThen _ _ before = _
  rw [Part.andThen_apply, started]
  exact continued

end Run

/-! ### Realms that grow -/

namespace Realm

/-- **Only objects have been added to a realm**, and work has been counted. -/
structure Grown (before after : Realm) : Prop where
  same : ∃ made countdown, after = { before with objects := before.objects ++ made, countdown }

variable {before middle after realm : Realm}

theorem Grown.refl (realm : Realm) : realm.Grown realm :=
  ⟨#[], realm.countdown, by rw [Array.append_empty]⟩

theorem Grown.trans (first : before.Grown middle) (second : middle.Grown after) :
    before.Grown after := by
  obtain ⟨made, _, rfl⟩ := first
  obtain ⟨others, countdown, rfl⟩ := second
  exact ⟨made ++ others, countdown, by rw [Array.append_assoc]⟩

theorem Grown.create (realm : Realm) (object : Object) : realm.Grown (realm.create object).2 :=
  ⟨#[object], realm.countdown, by rw [Array.append_singleton]; rfl⟩

theorem Grown.count (realm : Realm) (countdown : Nat) : realm.Grown { realm with countdown } :=
  ⟨#[], countdown, by rw [Array.append_empty]⟩

theorem Grown.size_le (grown : before.Grown after) : before.objects.size ≤ after.objects.size := by
  obtain ⟨made, _, rfl⟩ := grown
  rw [Array.size_append]
  exact Nat.le_add_right ..

/-- What was there is as it was. -/
theorem Grown.object_eq (grown : before.Grown after) {address : Address}
    (made : address < before.objects.size) : after.object address = before.object address := by
  obtain ⟨others, _, rfl⟩ := grown
  show ((before.objects ++ others)[address]?).getD {} = (before.objects[address]?).getD {}
  rw [Array.getElem?_append_left made]

theorem Grown.landmarks_eq (grown : before.Grown after) : after.landmarks = before.landmarks := by
  obtain ⟨_, _, rfl⟩ := grown
  rfl

theorem Grown.jobs_eq (grown : before.Grown after) : after.jobs = before.jobs := by
  obtain ⟨_, _, rfl⟩ := grown
  rfl

/-- The object that has just been made. -/
theorem object_created (realm : Realm) (object : Object) :
    (realm.create object).2.object (realm.create object).1 = object := by
  show ((realm.objects.push object)[realm.objects.size]?).getD {} = object
  rw [Array.getElem?_push_size]
  rfl

theorem size_created (realm : Realm) (object : Object) :
    (realm.create object).2.objects.size = realm.objects.size + 1 := Array.size_push object

end Realm

/-- Only the realm has changed, and has only grown. -/
def Memory.Grown (before after : Memory) : Prop :=
  ∃ realm, after = { before with realm } ∧ before.realm.Grown realm

namespace Memory.Grown

variable {before middle after : Memory}

theorem refl (memory : Memory) : memory.Grown memory := ⟨memory.realm, rfl, .refl _⟩

theorem trans (first : before.Grown middle) (second : middle.Grown after) : before.Grown after := by
  obtain ⟨realm, rfl, grown⟩ := first
  obtain ⟨later, rfl, grown'⟩ := second
  exact ⟨later, rfl, grown.trans grown'⟩

theorem create (memory : Memory) (object : Object) :
    memory.Grown { memory with realm := (memory.realm.create object).2 } :=
  ⟨_, rfl, .create _ _⟩

theorem realm (grown : before.Grown after) : before.realm.Grown after.realm := by
  obtain ⟨realm, rfl, grown⟩ := grown
  exact grown

theorem panicking_eq (grown : before.Grown after) : after.panicking = before.panicking := by
  obtain ⟨realm, rfl, -⟩ := grown
  rfl

end Memory.Grown

namespace Realm

variable {before after realm : Realm}

/-! ### Values that cannot be called -/

/-- **A value that cannot be called**, now or after the realm has grown. -/
structure Inert (realm : Realm) (value : Value) : Prop where
  usable : value ≠ .panic
  made : ∀ address, value = .object address →
    address < realm.objects.size ∧ (realm.object address).isCallable = false

theorem Inert.isCallable_eq {value : Value} (inert : realm.Inert value) :
    realm.isCallable value = false := by
  cases value with
  | object address => exact (inert.made address rfl).2
  | _ => rfl

theorem Inert.grown {value : Value} (inert : before.Inert value) (grown : before.Grown after) :
    after.Inert value := by
  refine ⟨inert.usable, fun address same => ?_⟩
  obtain ⟨made, idle⟩ := inert.made address same
  exact ⟨Nat.lt_of_lt_of_le made grown.size_le, by rw [grown.object_eq made]; exact idle⟩

/-! ### Keys under which nothing can be called -/

/-- A field that holds a value that cannot be called. -/
def Idle (realm : Realm) (property : Property) : Prop :=
  ∃ value writable, property.slot = .data value writable ∧ realm.Inert value

/-- **Nothing that can be called is found under a key**, going from prototype to prototype. -/
inductive Mute (realm : Realm) (key : Key) : Option Address → Prop
  | ends : Mute realm key none
  | here {address : Address} {property : Property} : address < realm.objects.size →
      (realm.object address).own? key = some property → realm.Idle property →
      Mute realm key (some address)
  | further {address : Address} : address < realm.objects.size →
      (realm.object address).own? key = none → Mute realm key (realm.object address).parent →
      Mute realm key (some address)

variable {key : Key} {parent : Option Address}

theorem Mute.grown (mute : before.Mute key parent) (grown : before.Grown after) :
    after.Mute key parent := by
  induction mute with
  | ends => exact .ends
  | here made own idle =>
    obtain ⟨value, writable, data, inert⟩ := idle
    exact .here (Nat.lt_of_lt_of_le made grown.size_le) (by rw [grown.object_eq made]; exact own)
      ⟨value, writable, data, inert.grown grown⟩
  | further made own _ ih =>
    refine .further (Nat.lt_of_lt_of_le made grown.size_le) (by rw [grown.object_eq made]; exact own) ?_
    rw [grown.object_eq made]
    exact ih

theorem Mute.inherited? (mute : realm.Mute key parent) (limit : Nat) :
    ∀ property, realm.inherited? key limit parent = some property → realm.Idle property := by
  induction mute generalizing limit with
  | ends => cases limit <;> exact nofun
  | here made own idle =>
    intro property found
    cases limit with
    | zero => cases found
    | succ limit =>
      rw [Realm.inherited?] at found
      simp only [own] at found
      exact Option.some.inj found ▸ idle
  | further made own _ ih =>
    intro property found
    cases limit with
    | zero => cases found
    | succ limit =>
      rw [Realm.inherited?] at found
      simp only [own] at found
      exact ih limit property found

end Realm

/-! ### Fields looked up -/

/-- A value that can be used is used. -/
theorem ends_usable {value : Value} (usable : value ≠ .panic) (memory : Memory) :
    (Script.usable value).Ends memory (.value value) memory := by
  cases value with
  | panic => exact absurd rfl usable
  | _ => rfl

/-- **A field of an object that holds a value is looked up.** -/
theorem ends_get (caller : Caller) {memory : Memory} {address : Address} {key : Key}
    {property : Property} {value : Value} {writable : Bool}
    (found : memory.realm.field? (memory.realm.object address) key = some property)
    (data : property.slot = .data value writable) (usable : value ≠ .panic) :
    (get caller (.object address) key).Ends memory (.value value) memory := by
  refine .bind (ends_usable (by simp) memory) (.bind (Run.ends_look _ memory) ?_)
  simp only [Realm.holder?, Option.map_some, found, data]
  exact ends_usable usable memory

/-- A field that is not there is undefined. -/
theorem ends_get_none (caller : Caller) {memory : Memory} {address : Address} {key : Key}
    (missing : memory.realm.field? (memory.realm.object address) key = none) :
    (get caller (.object address) key).Ends memory (.value .undefined) memory := by
  refine .bind (ends_usable (by simp) memory) (.bind (Run.ends_look _ memory) ?_)
  simp only [Realm.holder?, Option.map_some, missing]
  exact Run.ends_pure _ memory

/-- **Looking up what nothing answers to calls nothing**, and finds nothing that can be called. -/
theorem ends_get_mute (caller : Caller) {memory : Memory} {address : Address} {key : Key}
    (own : ∀ property, (memory.realm.object address).own? key = some property →
      memory.realm.Idle property)
    (mute : memory.realm.Mute key (memory.realm.object address).parent) :
    ∃ value, (get caller (.object address) key).Ends memory (.value value) memory ∧
      memory.realm.isCallable value = false := by
  cases found : memory.realm.field? (memory.realm.object address) key with
  | none => exact ⟨.undefined, ends_get_none caller found, rfl⟩
  | some property =>
    have idle : memory.realm.Idle property := by
      unfold Realm.field? at found
      cases mine : (memory.realm.object address).own? key with
      | some other =>
        rw [mine] at found
        exact Option.some.inj found ▸ own other mine
      | none =>
        rw [mine] at found
        exact mute.inherited? _ property found
    obtain ⟨value, writable, data, inert⟩ := idle
    exact ⟨value, ends_get caller found data inert.usable, inert.isCallable_eq⟩

end ScriptKernel.Script
