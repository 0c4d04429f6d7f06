/-
**Host functions as globals.**

A table is bound to any engine that is live and whose global object can get new fields.

* `Bare`: the names a script can use bare (`isIdentifier_iff`); `WellFormed`: a list of them, each once
  (`nameFlaw?_append`, `nameFlaw?_eq_none`);
* `Realm.Installed`: a realm in which names answer with the host functions of their places, and nothing else
  has changed;
* `Realm.Laid`: the same with what makes it last, name by name (`Laid.define`);
* `installFrom_free`: names that are free are installed one after the other, and the next one is looked at;
* `bind_bound`: what binding a table comes to (`Bound`).
-/

import ScriptKernel.Proofs.Script.Lineage

set_option autoImplicit false

namespace ScriptKernel

open Script (Address Key Memory Property Realm Run Value)

/-! ### Names -/

/-- A letter of the ASCII alphabet, `_` or `$`. -/
def Opens (char : Char) : Prop :=
  ('a' ≤ char ∧ char ≤ 'z') ∨ ('A' ≤ char ∧ char ≤ 'Z') ∨ char = '_' ∨ char = '$'

/-- **A name that a script can use bare**: a letter, `_` or `$`, then letters, digits, `_` and `$`, and no
reserved word. -/
def Bare (name : String) : Prop :=
  (∃ first rest, name.toList = first :: rest ∧ Opens first ∧
    ∀ char ∈ rest, Opens char ∨ ('0' ≤ char ∧ char ≤ '9')) ∧ name ∉ Identifier.reservedWords

theorem canStart_iff {char : Char} : Identifier.canStart char = true ↔ Opens char := by
  simp [Identifier.canStart, Identifier.isLetter, Opens, or_assoc]

theorem canFollow_iff {char : Char} :
    Identifier.canFollow char = true ↔ Opens char ∨ ('0' ≤ char ∧ char ≤ '9') := by
  simp [Identifier.canFollow, canStart_iff]

theorem isIdentifier_iff {name : String} : isIdentifier name = true ↔ Bare name := by
  unfold isIdentifier Bare
  cases chars : name.toList with
  | nil => simp
  | cons first rest =>
    simp only [Bool.and_eq_true, canStart_iff, List.all_eq_true, canFollow_iff, Bool.not_eq_true',
      List.contains_eq_mem, decide_eq_false_iff_not]
    constructor
    · rintro ⟨⟨opens, follow⟩, free⟩
      exact ⟨⟨first, rest, rfl, opens, follow⟩, free⟩
    · rintro ⟨⟨_, _, same, opens, follow⟩, free⟩
      cases same
      exact ⟨⟨opens, follow⟩, free⟩

instance : DecidablePred Bare := fun _ => decidable_of_iff _ isIdentifier_iff

/-- Such a character is one unit of script text, and no digit. -/
theorem Opens.unit {char : Char} (opens : Opens char) :
    Units.ofChar char = [char.toNat] ∧ ¬(48 ≤ char.toNat ∧ char.toNat ≤ 57) := by
  have range : char.toNat < 0x10000 ∧ ¬(48 ≤ char.toNat ∧ char.toNat ≤ 57) := by
    rcases opens with ⟨low, high⟩ | ⟨low, high⟩ | rfl | rfl
    · have low : 97 ≤ char.toNat := low
      have high : char.toNat ≤ 122 := high
      omega
    · have low : 65 ≤ char.toNat := low
      have high : char.toNat ≤ 90 := high
      omega
    · decide
    · decide
  exact ⟨by rw [Units.ofChar, if_pos range.1], range.2⟩

/-- A bare name is no index. -/
theorem Bare.index?_eq {name : String} (bare : Bare name) : (Key.ofString name).index? = none := by
  obtain ⟨⟨first, rest, chars, opens, -⟩, -⟩ := bare
  obtain ⟨single, other⟩ := opens.unit
  have units : (Units.ofString name).units = first.toNat :: (Units.ofChars rest).units := by
    rw [Units.ofString, Units.ofChars, chars, List.flatMap_cons, single]
    rfl
  have mixed : ((first.toNat :: (Units.ofChars rest).units).all fun unit => 48 ≤ unit && unit ≤ 57) =
      false := by
    rw [List.all_cons]
    simp
    omega
  show (Units.ofString name).index? = none
  unfold Units.index?
  rw [units]
  simp only [mixed]
  simp

/-- **Bare names, each of them once.** -/
structure WellFormed (names : List String) : Prop where
  bare : ∀ name ∈ names, Bare name
  once : names.Nodup

/-- Names without a flaw are passed over. -/
theorem nameFlaw?_append {earlier : List String} (sound : WellFormed earlier) (rest : List String)
    {seen : List String} (unseen : ∀ name ∈ earlier, name ∉ seen) :
    SyscallTable.nameFlaw? seen (earlier ++ rest) =
      SyscallTable.nameFlaw? (earlier.reverse ++ seen) rest := by
  induction earlier generalizing seen with
  | nil => rfl
  | cons name others ih =>
    have bare := isIdentifier_iff.mpr (sound.bare name List.mem_cons_self)
    have new : seen.contains name = false := by simpa using unseen name List.mem_cons_self
    obtain ⟨apart, once⟩ := List.nodup_cons.mp sound.once
    have sound' : WellFormed others := ⟨fun other found => sound.bare other (List.mem_cons_of_mem _ found), once⟩
    rw [List.cons_append, SyscallTable.nameFlaw?, bare, new, List.reverse_cons, List.append_assoc]
    apply ih sound'
    intro other found seen'
    rcases List.mem_cons.mp seen' with rfl | before
    · exact apart found
    · exact unseen other (List.mem_cons_of_mem _ found) before

theorem nameFlaw?_eq_none {names seen : List String} (passed : SyscallTable.nameFlaw? seen names = none) :
    WellFormed names ∧ ∀ name ∈ names, name ∉ seen := by
  induction names generalizing seen with
  | nil => exact ⟨⟨by simp, by simp⟩, by simp⟩
  | cons name rest ih =>
    unfold SyscallTable.nameFlaw? at passed
    split at passed
    · cases passed
    · rename_i bare
      split at passed
      · cases passed
      · rename_i new
        obtain ⟨sound, unseen⟩ := ih passed
        refine ⟨⟨?_, ?_⟩, ?_⟩
        · rw [List.forall_mem_cons]
          exact ⟨isIdentifier_iff.mp (by simpa using bare), sound.bare⟩
        · refine List.nodup_cons.mpr ⟨fun again => ?_, sound.once⟩
          exact unseen name again List.mem_cons_self
        · rw [List.forall_mem_cons]
          exact ⟨by simpa using new, fun other found before =>
            unseen other found (List.mem_cons_of_mem _ before)⟩

/-- **Names have no flaw exactly when they are well-formed.** -/
theorem flaw?_eq_none {table : SyscallTable} : table.flaw? = none ↔ WellFormed table.names := by
  constructor
  · intro passed
    exact (nameFlaw?_eq_none passed).1
  · intro sound
    have passed := @nameFlaw?_append table.names sound [] [] (by simp)
    rwa [List.append_nil] at passed

/-- A flaw is told of the first name that has one. -/
theorem flaw?_eq_some {table : SyscallTable} {earlier rest : List String} {name : String}
    (parts : table.names = earlier ++ name :: rest) (sound : WellFormed earlier) :
    table.flaw? = if Bare name then if name ∈ earlier then some (.duplicate name) else
      SyscallTable.nameFlaw? (name :: earlier.reverse) rest else some (.invalidName name) := by
  have passed := @nameFlaw?_append earlier sound (name :: rest) [] (by simp)
  rw [SyscallTable.flaw?, parts, passed, List.append_nil, SyscallTable.nameFlaw?]
  by_cases bare : Bare name
  · simp [bare, isIdentifier_iff.mpr bare]
  · simp [bare, mt isIdentifier_iff.mp bare]

/-! ### Names that answer with host functions -/

namespace Script.Realm

/-- The global object answers to a name, itself or through a prototype. -/
def Answers (realm : Realm) (name : String) : Prop :=
  realm.field? (realm.object realm.landmarks.globalObject) (.ofString name) ≠ none

/-- **Names answer with the host functions of their places**, and nothing else has changed: nothing but
objects has been added, and of those that were there only the global object is another. -/
structure Installed (names : List String) (before after : Realm) : Prop where
  bound : ∀ index name, names[index]? = some name → ∃ address,
    after.field? (after.object after.landmarks.globalObject) (.ofString name) =
        some (.plain (.object address)) ∧
      (after.object address).kind = .host index name
  resolved : ∀ name ∈ names, Realm.binding? name after.lexicals = none →
    ∀ scope, after.findScope name (after.scopes.size + 1) scope = none → after.resolve name scope = .field
  globals : ∀ key, (∀ name ∈ names, key ≠ .ofString name) →
    after.field? (after.object after.landmarks.globalObject) key =
      before.field? (before.object before.landmarks.globalObject) key
  others : ∀ address < before.objects.size, address ≠ before.landmarks.globalObject →
    after.object address = before.object address
  rest : after = { before with objects := after.objects }

/-- What lasts while names are installed one after the other. -/
structure Laid (before : Realm) (line : List Address) (names : List String) (after : Realm) : Prop where
  rest : after = { before with objects := after.objects }
  larger : before.objects.size ≤ after.objects.size
  lineage : after.Lineage (some before.landmarks.globalObject) line
  extensible : (after.object before.landmarks.globalObject).extensible = true
  others : ∀ address < before.objects.size, address ≠ before.landmarks.globalObject →
    after.object address = before.object address
  own : ∀ key, (∀ name ∈ names, key ≠ .ofString name) →
    (after.object before.landmarks.globalObject).own? key =
      (before.object before.landmarks.globalObject).own? key
  bound : ∀ index name, names[index]? = some name → ∃ address, before.objects.size ≤ address ∧
    (after.object before.landmarks.globalObject).own? (.ofString name) =
        some (.plain (.object address)) ∧
      (after.object address).kind = .host index name

variable {before after : Realm} {line : List Address} {names : List String}

theorem Laid.landmarks_eq (laid : before.Laid line names after) : after.landmarks = before.landmarks := by
  rw [laid.rest]

/-- Nothing has been installed yet. -/
theorem Laid.nil (lineage : before.Lineage (some before.landmarks.globalObject) line)
    (extensible : (before.object before.landmarks.globalObject).extensible = true) :
    before.Laid line [] before where
  rest := rfl
  larger := Nat.le_refl _
  lineage := lineage
  extensible := extensible
  others _ _ _ := rfl
  own _ _ := rfl
  bound _ _ := nofun

/-- A field of the global object under any other name is found where it was. -/
theorem Laid.found?_eq (laid : before.Laid line names after)
    (lineage : before.Lineage (some before.landmarks.globalObject) line) {key : Key}
    (other : ∀ name ∈ names, key ≠ .ofString name) : after.found? key line = before.found? key line := by
  apply found?_congr
  intro address passed
  by_cases global : address = before.landmarks.globalObject
  · rw [global]
    exact laid.own key other
  · rw [laid.others address (lineage.made address passed) global]

/-- **What has been laid is installed.** -/
theorem Laid.installed (laid : before.Laid line names after)
    (lineage : before.Lineage (some before.landmarks.globalObject) line) :
    before.Installed names after := by
  have answered : ∀ index name, names[index]? = some name → ∃ address,
      after.field? (after.object after.landmarks.globalObject) (.ofString name) =
          some (.plain (.object address)) ∧
        (after.object address).kind = .host index name := by
    intro index name here
    obtain ⟨address, -, own, host⟩ := laid.bound index name here
    refine ⟨address, ?_, host⟩
    rw [laid.landmarks_eq, field?, own]
  refine ⟨answered, ?_, ?_, laid.others, laid.rest⟩
  · intro name listed undeclared scope unscoped
    obtain ⟨index, here⟩ := List.mem_iff_getElem?.mp listed
    obtain ⟨address, found, -⟩ := answered index name here
    simp only [resolve, unscoped, undeclared, found]
    rfl
  · intro key other
    rw [laid.landmarks_eq, laid.lineage.field?_eq, lineage.field?_eq]
    exact laid.found?_eq lineage other

/-- A new object does not matter. -/
theorem Laid.create (laid : before.Laid line names after) (object : Object) :
    before.Laid line names (after.create object).2 := by
  have global := after.object_create object laid.lineage.start_made
  constructor
  · rw [laid.rest]
    rfl
  · exact Nat.le_trans laid.larger (size_created after object ▸ Nat.le_succ _)
  · exact laid.lineage.create object
  · rw [global]
    exact laid.extensible
  · intro address made other
    rw [after.object_create object (Nat.lt_of_lt_of_le made laid.larger)]
    exact laid.others address made other
  · rw [global]
    exact laid.own
  · intro index name here
    obtain ⟨address, new, own, host⟩ := laid.bound index name here
    refine ⟨address, new, ?_, ?_⟩
    · rw [global]
      exact own
    · rw [after.object_create object (made_of_host host)]
      exact host

/-- **One more name gets its host function.** -/
theorem Laid.define (laid : before.Laid line names after) {name : String} {address : Address}
    (made : before.landmarks.globalObject < before.objects.size)
    (named : (Key.ofString name).index? = none)
    (free : (after.object before.landmarks.globalObject).own? (.ofString name) = none)
    (new : before.objects.size ≤ address) (host : (after.object address).kind = .host names.length name) :
    before.Laid line (names ++ [name])
      (after.define before.landmarks.globalObject (.ofString name) (.plain (.object address))) := by
  have changed := after.object_define laid.lineage.start_made (.ofString name) (.plain (.object address))
  have global := changed before.landmarks.globalObject
  rw [if_pos rfl] at global
  have elsewhere {place : Address} (other : place ≠ before.landmarks.globalObject) :
      (after.define before.landmarks.globalObject (.ofString name) (.plain (.object address))).object place =
        after.object place := by
    rw [changed, if_neg (Ne.symm other)]
  have apart {place : Address} (new : before.objects.size ≤ place) :
      place ≠ before.landmarks.globalObject := (Nat.lt_of_lt_of_le made new).ne'
  have own := Object.own?_define_name named free (.plain (.object address))
  constructor
  · rw [laid.rest]
    rfl
  · exact Nat.le_trans laid.larger (Nat.le_of_eq Array.size_modify.symm)
  · exact laid.lineage.define laid.lineage.start_made _ _
  · rw [global, define_extensible]
    exact laid.extensible
  · intro place old other
    rw [elsewhere other]
    exact laid.others place old other
  · intro key other
    have different : Key.ofString name ≠ key := (other name (by simp)).symm
    rw [global, own, if_neg different]
    exact laid.own key fun label listed => other label (List.mem_append_left _ listed)
  · intro index label here
    rw [global]
    rcases Nat.lt_or_ge index names.length with earlier | last
    · rw [List.getElem?_append_left earlier] at here
      obtain ⟨place, new', own', host'⟩ := laid.bound index label here
      have different : Key.ofString name ≠ .ofString label := by
        intro same
        rw [same, own'] at free
        cases free
      refine ⟨place, new', ?_, ?_⟩
      · rw [own, if_neg different]
        exact own'
      · rw [elsewhere (apart new')]
        exact host'
    · rw [List.getElem?_append_right last, List.getElem?_singleton] at here
      split at here
      · cases here
        have place : index = names.length := by omega
        refine ⟨address, new, ?_, ?_⟩
        · rw [own, if_pos rfl]
        · rw [elsewhere (apart new), host, place]
      · cases here

end Script.Realm

/-! ### One name after the other -/

namespace Script

variable {memory : Memory} {before : Realm} {line : List Address} {names : List String}

/-- A field that an object does not have is not the length of an array. -/
theorem Object.isLength_eq_false {object : Object} {key : Key} (named : key.index? = none)
    (free : object.own? key = none) : object.isLength key = false := by
  unfold own? at free
  unfold isLength
  cases kind : object.kind with
  | array items =>
    simp only [kind, named, Option.bind_none] at free
    by_contra length
    simp only [Bool.not_eq_false, beq_iff_eq] at length
    rw [if_pos length] at free
    cases free
  | _ => rfl

/-- A field under a name that is no index is added to every object that can get more. -/
theorem Placement.adding_named {object : Object} {key : Key} (named : key.index? = none)
    (extensible : object.extensible = true) (address : Address) (value : Value) :
    Placement.adding address object key value = .define address (.plain value) := by
  unfold Placement.adding
  rw [extensible, named]
  cases object.kind <;> rfl

/-- **Setting a name that nothing on the way answers to adds a field to the global object.** -/
theorem Realm.Laid.placement_eq {after : Realm} (laid : before.Laid line names after) {key : Key}
    (named : key.index? = none) (free : after.found? key line = none) (value : Value) :
    after.placement after.globalValue key value =
      .define before.landmarks.globalObject (.plain value) := by
  have unanswered := laid.lineage.field?_eq key
  rw [free] at unanswered
  unfold Realm.field? at unanswered
  cases own : (after.object before.landmarks.globalObject).own? key with
  | some property =>
    rw [own] at unanswered
    cases unanswered
  | none =>
    rw [own] at unanswered
    unfold Realm.placement Realm.globalValue
    simp only [laid.landmarks_eq, Object.isLength_eq_false named own, own, unanswered]
    exact Placement.adding_named named laid.extensible ..

/-- Such a name gets a value. -/
theorem ends_set_named (caller : Caller) (laid : before.Laid line names memory.realm) {key : Key}
    (named : key.index? = none) (free : memory.realm.found? key line = none) (value : Value) :
    (set caller true memory.realm.globalValue key value).Ends memory (.value ())
      { memory with
        realm := memory.realm.define before.landmarks.globalObject key (.plain value) } := by
  refine (Run.ends_look (fun realm => realm.placement memory.realm.globalValue key value) memory).bind ?_
  rw [laid.placement_eq named free]
  rfl

end Script

namespace SyscallTable

open Script

variable {memory : Memory} {before : Realm} {line : List Address} {names : List String} {name : String}

/-- A name that comes once is none of those before it. -/
theorem unlisted_of_nodup {rest : List String} (once : (names ++ name :: rest).Nodup) :
    ∀ other ∈ names, Key.ofString name ≠ .ofString other := by
  intro other listed same
  have apart := List.disjoint_of_nodup_append once listed
  exact apart (Key.ofString_injective same ▸ List.mem_cons_self)

/-- A name that is taken is refused. -/
theorem install_taken (laid : before.Laid line names memory.realm)
    (taken : memory.realm.found? (.ofString name) line ≠ none) (index : Nat) :
    (install index name).Ends memory (.value (.error (.collision name))) memory := by
  have looked := Run.ends_look (fun realm =>
    (realm.field? (realm.object realm.landmarks.globalObject) (.ofString name)).isSome) memory
  rw [laid.landmarks_eq, laid.lineage.field?_eq, Option.isSome_iff_ne_none.mpr taken] at looked
  exact looked.bind (Run.ends_pure _ memory)

/-- **A name that is free gets its host function.** -/
theorem install_free (laid : before.Laid line names memory.realm)
    (made : before.landmarks.globalObject < before.objects.size) (bare : Bare name)
    (free : memory.realm.found? (.ofString name) line = none) :
    ∃ after, (install names.length name).Ends memory (.value (.ok ())) { memory with realm := after } ∧
      before.Laid line (names ++ [name]) after := by
  have looked := Run.ends_look (fun realm =>
    (realm.field? (realm.object realm.landmarks.globalObject) (.ofString name)).isSome) memory
  rw [laid.landmarks_eq, laid.lineage.field?_eq, free] at looked
  have created : (createFunction names.length name).Ends memory
      (.value (.object memory.realm.objects.size))
      { memory with realm := memory.realm.withFunction names.length name } := rfl
  have grown : before.Laid line names (memory.realm.withFunction names.length name) := laid.create _
  have free' : (memory.realm.withFunction names.length name).found? (.ofString name) line = none := by
    rw [← free]
    apply Realm.found?_congr
    intro address passed
    exact congrArg (fun object : Object => object.own? _)
      (memory.realm.object_create _ (laid.lineage.made address passed))
  have given := @ends_set_named { memory with realm := memory.realm.withFunction names.length name }
    _ _ _ .standard grown _ bare.index?_eq free' (.object memory.realm.objects.size)
  refine ⟨_, looked.bind (created.bind ((Run.ends_look Realm.globalValue _).bind
    ((ends_guarded given).bind (Run.ends_pure _ _)))), ?_⟩
  have own := Realm.found?_eq_none.mp free' before.landmarks.globalObject grown.lineage.start_mem
  exact grown.define made bare.index?_eq own laid.larger
    (congrArg Object.kind (memory.realm.object_created _))

/-- **Names that are free are installed one after the other**, and what comes next is gone on with. -/
theorem installFrom_free (laid : before.Laid line names memory.realm)
    (lineage : before.Lineage (some before.landmarks.globalObject) line) {earlier : List String}
    (bare : ∀ name ∈ earlier, Bare name) (once : (names ++ earlier).Nodup)
    (free : ∀ name ∈ earlier, ¬before.Answers name) (rest : List String) :
    ∃ after, (installFrom names.length (earlier ++ rest)).part memory =
        (installFrom (names ++ earlier).length rest).part { memory with realm := after } ∧
      before.Laid line (names ++ earlier) after := by
  induction earlier generalizing names memory with
  | nil =>
    rw [List.append_nil]
    exact ⟨memory.realm, rfl, laid⟩
  | cons name others ih =>
    rw [List.forall_mem_cons] at bare free
    have unanswered : memory.realm.found? (.ofString name) line = none := by
      rw [laid.found?_eq lineage (unlisted_of_nodup once), ← lineage.field?_eq]
      exact not_not.mp free.1
    obtain ⟨middle, installed, laid'⟩ := install_free laid lineage.start_made bare.1 unanswered
    have again : names ++ name :: others = names ++ [name] ++ others := by simp
    rw [again] at once ⊢
    obtain ⟨after, same, laid''⟩ := @ih { memory with realm := middle } (names ++ [name]) laid' bare.2 once free.2
    refine ⟨after, ?_, laid''⟩
    rw [← same, List.length_append]
    show Part.andThen _ _ memory = _
    rw [Part.andThen_apply, installed]
    rfl

/-- **What binding names comes to.** They are bound exactly when they are well-formed and free; otherwise the
first flaw among them is told and nothing has changed, or, where there is none, the first name that is taken,
and the names before it are installed. -/
structure Bound (names : List String) (before : Realm) (answer : Except BindError (List String))
    (after : Realm) : Prop where
  succeeds : (∃ symbols, answer = .ok symbols) ↔
    WellFormed names ∧ ∀ name ∈ names, ¬before.Answers name
  installs : ∀ symbols, answer = .ok symbols → symbols = names ∧ before.Installed names after
  invalid : ∀ earlier name rest, names = earlier ++ name :: rest → WellFormed earlier → ¬Bare name →
    answer = .error (.invalidName name) ∧ after = before
  duplicate : ∀ earlier name rest, names = earlier ++ name :: rest → WellFormed earlier → Bare name →
    name ∈ earlier → answer = .error (.duplicate name) ∧ after = before
  collision : WellFormed names → ∀ earlier name rest, names = earlier ++ name :: rest →
    (∀ other ∈ earlier, ¬before.Answers other) → before.Answers name →
    answer = .error (.collision name) ∧ before.Installed earlier after

/-- A flaw among the names is told, and nothing has changed. -/
theorem bind_flawed {table : SyscallTable} {flaw : BindError} (flawed : table.flaw? = some flaw)
    (memory : Memory) : table.bind.Ends memory (.value (.error flaw)) memory := by
  unfold SyscallTable.bind
  rw [flawed]
  exact Run.ends_pure _ memory

/-- **Names that are well-formed and free are bound.** -/
theorem bind_free {table : SyscallTable} (lineage : before.Lineage (some before.landmarks.globalObject) line)
    (extensible : (before.object before.landmarks.globalObject).extensible = true)
    (sound : WellFormed table.names) (free : ∀ name ∈ table.names, ¬before.Answers name)
    (same : memory.realm = before) :
    ∃ after, table.bind.Ends memory (.value (.ok table.names)) { memory with realm := after } ∧
      before.Installed table.names after := by
  subst same
  obtain ⟨after, installed, laid⟩ := installFrom_free (.nil lineage extensible) lineage sound.bare
    sound.once free []
  refine ⟨after, ?_, laid.installed lineage⟩
  rw [List.append_nil] at installed
  unfold SyscallTable.bind
  rw [flaw?_eq_none.mpr sound]
  exact Run.Ends.bind (installed.trans (Run.ends_pure _ _)) (Run.ends_pure _ _)

/-- **The first name that is taken is told**, and the names before it are installed. -/
theorem bind_taken {table : SyscallTable} (lineage : before.Lineage (some before.landmarks.globalObject) line)
    (extensible : (before.object before.landmarks.globalObject).extensible = true)
    (sound : WellFormed table.names) {earlier rest : List String}
    (parts : table.names = earlier ++ name :: rest) (free : ∀ other ∈ earlier, ¬before.Answers other)
    (taken : before.Answers name) (same : memory.realm = before) :
    ∃ after, table.bind.Ends memory (.value (.error (.collision name))) { memory with realm := after } ∧
      before.Installed earlier after := by
  subst same
  obtain ⟨bare, once⟩ := sound
  rw [parts] at bare once
  obtain ⟨after, installed, laid⟩ := installFrom_free (.nil lineage extensible) lineage
    (fun other found => bare other (List.mem_append_left _ found)) once.of_append_left free (name :: rest)
  refine ⟨after, ?_, laid.installed lineage⟩
  have refused := @install_taken { memory with realm := after } _ _ _ _ laid
    (by rwa [laid.found?_eq lineage (unlisted_of_nodup once), ← lineage.field?_eq]) earlier.length
  unfold SyscallTable.bind
  rw [flaw?_eq_none.mpr ⟨parts ▸ bare, parts ▸ once⟩, parts]
  exact Run.Ends.bind (installed.trans (refused.bind (Run.ends_pure _ _))) (Run.ends_pure _ _)

/-- The first of some names that is of a kind. -/
theorem exists_first {kind : String → Prop} {names : List String} (some : ∃ name ∈ names, kind name) :
    ∃ earlier name rest, names = earlier ++ name :: rest ∧ kind name ∧ ∀ other ∈ earlier, ¬kind other := by
  induction names with
  | nil => simp at some
  | cons name rest ih =>
    by_cases here : kind name
    · exact ⟨[], name, rest, rfl, here, by simp⟩
    · obtain ⟨earlier, other, others, parts, there, before⟩ := ih (by simpa [here] using some)
      exact ⟨name :: earlier, other, others, by rw [parts]; rfl, there, List.forall_mem_cons.mpr ⟨here, before⟩⟩

/-- Binding ends without a question to the host, and succeeds only for names that are well-formed and free. -/
theorem bind_ends (table : SyscallTable) (lineage : before.Lineage (some before.landmarks.globalObject) line)
    (extensible : (before.object before.landmarks.globalObject).extensible = true)
    (same : memory.realm = before) :
    ∃ answer after, table.bind.Ends memory (.value answer) { memory with realm := after } ∧
      ∀ symbols, answer = .ok symbols →
        WellFormed table.names ∧ ∀ name ∈ table.names, ¬before.Answers name := by
  cases flawed : table.flaw? with
  | some flaw => exact ⟨_, memory.realm, bind_flawed flawed memory, nofun⟩
  | none =>
    have sound := flaw?_eq_none.mp flawed
    by_cases free : ∀ name ∈ table.names, ¬before.Answers name
    · obtain ⟨after, ends, -⟩ := bind_free lineage extensible sound free same
      exact ⟨_, after, ends, fun _ _ => ⟨sound, free⟩⟩
    · have taken : ∃ name ∈ table.names, before.Answers name := by simpa using free
      obtain ⟨earlier, name, rest, parts, taken, free⟩ := exists_first taken
      obtain ⟨after, ends, -⟩ := bind_taken lineage extensible sound parts free taken same
      exact ⟨_, after, ends, nofun⟩

/-- **Binding a table to a live engine asks the host nothing**, and comes to what the names and the global
object decide. -/
theorem bind_bound (table : SyscallTable) {memory : Memory} {line : List Address} (context : SyscallContext)
    (lineage : memory.realm.Lineage (some memory.realm.landmarks.globalObject) line)
    (extensible : (memory.realm.object memory.realm.landmarks.globalObject).extensible = true) :
    ∃ answer after, Engine.enter ⟨some memory⟩ table table.bind context =
        (.ok (.value answer), ⟨some { memory with realm := after }⟩, context) ∧
      Bound table.names memory.realm answer after := by
  obtain ⟨answer, after, ended, succeeded⟩ := bind_ends table lineage extensible rfl
  have only {answer' : Except BindError (List String)} {after' : Realm}
      (ends : table.bind.Ends memory (.value answer') { memory with realm := after' }) :
      answer = answer' ∧ after = after' := by
    have same := ended.symm.trans ends
    cases same
    exact ⟨rfl, rfl⟩
  refine ⟨answer, after, ?_, ?_⟩
  · unfold Engine.enter
    simp only [show table.bind.part memory = _ from ended, Dialogue.run_done]
  constructor
  · constructor
    · rintro ⟨symbols, bound⟩
      exact succeeded symbols bound
    · rintro ⟨sound, free⟩
      obtain ⟨_, ends, -⟩ := bind_free lineage extensible sound free rfl
      exact ⟨_, (only ends).1⟩
  · intro symbols bound
    obtain ⟨sound, free⟩ := succeeded symbols bound
    obtain ⟨_, ends, installed⟩ := bind_free lineage extensible sound free rfl
    obtain ⟨rfl, rfl⟩ := only ends
    cases bound
    exact ⟨rfl, installed⟩
  · intro earlier name rest parts sound improper
    have flawed := flaw?_eq_some parts sound
    rw [if_neg improper] at flawed
    exact only (bind_flawed flawed memory)
  · intro earlier name rest parts sound bare again
    have flawed := flaw?_eq_some parts sound
    rw [if_pos bare, if_pos again] at flawed
    exact only (bind_flawed flawed memory)
  · intro sound earlier name rest parts free taken
    obtain ⟨_, ends, installed⟩ := bind_taken lineage extensible sound parts free taken rfl
    obtain ⟨rfl, rfl⟩ := only ends
    exact ⟨rfl, installed⟩

/-- On the way from the global object of a new realm there is one prototype. -/
theorem initial_lineage : Realm.initial.Lineage (some Realm.initial.landmarks.globalObject)
    [Realm.initial.landmarks.globalObject, Realm.initial.landmarks.objectParent] := by
  have rooted := Realm.initial_rooted
  refine .further rooted.globalMade ?_
  rw [rooted.parent]
  refine .further rooted.rootMade ?_
  rw [rooted.ends]
  exact .ends

/-- A new engine gets the standard host functions. -/
theorem bind_bound_standard :
    (Realm.initial.object Realm.initial.landmarks.globalObject).extensible = true ∧
      ∃ after, Engine.enter ⟨some { realm := Realm.initial }⟩ .standard SyscallTable.standard.bind
          (.of (.fresh 1 [] {} ⟨none⟩ "process-1") {}) =
        (.ok (.value (.ok SyscallTable.standard.names)), ⟨some { realm := after }⟩,
          .of (.fresh 1 [] {} ⟨none⟩ "process-1") {}) ∧
      Realm.initial.Installed SyscallTable.standard.names after := by
  have extensible := Realm.initial_furnished.extensible
  refine ⟨extensible, ?_⟩
  have sound : ∀ name ∈ SyscallTable.standard.names, Bare name := by decide +kernel
  have once : SyscallTable.standard.names.Nodup := by decide +kernel
  have unanswered : ∀ name ∈ SyscallTable.standard.names, Realm.initial.field?
      (Realm.initial.object Realm.initial.landmarks.globalObject) (.ofString name) = none := by
    decide +kernel
  obtain ⟨answer, after, entered, bound⟩ := @bind_bound .standard { realm := Realm.initial } _
    (.of (.fresh 1 [] {} ⟨none⟩ "process-1") {}) initial_lineage extensible
  obtain ⟨symbols, rfl⟩ := bound.succeeds.mpr
    ⟨⟨sound, once⟩, fun name listed => not_not.mpr (unanswered name listed)⟩
  obtain ⟨rfl, installed⟩ := bound.installs symbols rfl
  exact ⟨after, entered, installed⟩

end SyscallTable

end ScriptKernel
