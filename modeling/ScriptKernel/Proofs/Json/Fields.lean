/-
**What a record makes of its parts.**

* `Tree.parts?`: the parts of a record as it is written, the fields of an object or the items of a list, each
  with the name of the field it stands for;
* `Given`: a field has the value that is given for it, or keeps the one it has when nothing is given;
* `Shape.Reads`: one member of a shape leaves in a field what its part gives, the others leave it alone;
* `Shape.named_given`, `Shape.positional_given`: what the parts read leave in a field;
* `Shape.decode_given`: a record that is read has each field as it is given.
-/

import Mathlib.Data.List.Nodup
import ScriptKernel.Proofs.Json.Decoding

set_option autoImplicit false

namespace ScriptKernel.Json

/-- An answer got in two steps comes out exactly when both steps answer. -/
theorem bind_eq_ok {ε α β : Type} {first : Except ε α} {next : α → Except ε β} {result : β} :
    first >>= next = .ok result ↔ ∃ value, first = .ok value ∧ next value = .ok result := by
  constructor
  · intro made
    cases first with
    | ok value => exact ⟨value, rfl, made⟩
    | error fault => cases made
  · rintro ⟨value, rfl, made⟩
    exact made

theorem map_eq_ok {ε α β : Type} {answer : Except ε α} {make : α → β} {result : β} :
    answer.map make = .ok result ↔ ∃ value, answer = .ok value ∧ make value = result := by
  cases answer with
  | ok value => simp [Except.map]
  | error fault => simp [Except.map]

/-- The parts of a container that is read from a text are read from it too. -/
theorem Source.enter_stream {depth : Nat} {opening : List Char} {inner : Source}
    (entered : (Source.stream depth).enter opening = .ok inner) : inner = .stream (depth - 1) := by
  unfold Source.enter at entered
  by_cases deep : depth ≤ 1
  · simp [deep, malformed] at entered
  · simpa [deep, eq_comm] using entered

/-- A mismatch is never an answer. -/
theorem Decoder.mismatch_ne_ok {α : Type} (expected : String) (tree : Tree) (value : α) :
    mismatch expected tree ≠ .ok value := by
  unfold mismatch
  split <;> simp [unfit, malformed]

/-! ### What plain decoders read -/

namespace Decoder

/-- A natural number that is read is written as one of so many bits. -/
theorem natural_reads {type : String} {bits : Nat} {source : Source} {tree : Tree} {value : Nat}
    (read : natural type bits source tree = .ok value) :
    tree.Spells (Json.nat value) ∧ value < Nat.pow 2 bits := by
  obtain ⟨whole, found, rfl⟩ := map_eq_ok.mp read
  unfold integer at found
  split at found
  next written after =>
    by_cases fits : 0 ≤ written ∧ written < (Nat.pow 2 bits : Nat)
    · rw [if_pos fits] at found
      cases found
      have small : whole.toNat < Nat.pow 2 bits := by omega
      have same : Json.nat whole.toNat = .number (.integer whole) := by
        rw [Json.nat, Int.toNat_of_nonneg fits.1]
      refine ⟨?_, small⟩
      rw [same]
      exact .number _ after
    · rw [if_neg fits] at found
      cases found
  next => exact absurd found (mismatch_ne_ok _ _ _)

variable {α : Type} {values : List (String × α)} {value : α}

/-- A bare name that is known stands for its value. -/
theorem bareVariant_reads {name : String}
    (read : bareVariant (values.map fun entry => (entry.1, .bare entry.2)) name = .ok value) :
    lookup? name values = some value := by
  rw [bareVariant, lookup?_map Variant.bare] at read
  cases found : lookup? name values with
  | none => simp [found, unknownVariant, unfit] at read
  | some given => simpa [found] using read

/-- A key that is a bare name stands over null. -/
theorem keyedVariant_reads {depth : Nat} {name : String} {content : Tree}
    (read : keyedVariant (values.map fun entry => (entry.1, .bare entry.2)) (.stream depth) name content =
      .ok value) : lookup? name values = some value ∧ content.Spells .null := by
  rw [keyedVariant, lookup?_map Variant.bare] at read
  cases found : lookup? name values with
  | none => simp [found, unknownVariant, unfit] at read
  | some given =>
    rw [found] at read
    obtain ⟨_, empty, rfl⟩ := map_eq_ok.mp read
    cases content with
    | null after => exact ⟨rfl, .null after⟩
    | _ =>
      unfold emptyContent unit at empty
      exact absurd empty (mismatch_ne_ok _ _ _)

/-- One of several names that is read from a text is written as the name alone, or as a key to null. -/
theorem oneOf_reads {depth : Nat} {tree : Tree} (read : oneOf values (.stream depth) tree = .ok value) :
    ∃ name, lookup? name values = some value ∧
      (tree.Spells (.text name) ∨ tree.Spells (.members [(name, .null)])) := by
  unfold oneOf choice at read
  cases tree with
  | text written after =>
    cases written with
    | ok name => exact ⟨name, bareVariant_reads read, .inl (.text name after)⟩
    | error flaw => cases read
  | object opening entries ending =>
    obtain ⟨inner, entered, inside⟩ := bind_eq_ok.mp read
    rw [Source.enter_stream entered] at inside
    split at inside
    · split at inside <;> cases inside
    · -- the one key, if nothing is left behind it
      obtain ⟨given, taken, closed⟩ := bind_eq_ok.mp inside
      obtain ⟨found, empty⟩ := keyedVariant_reads taken
      split at closed
      · cases closed
        exact ⟨_, found, .inr (.members _ _ (.cons empty .nil))⟩
      · cases closed
      · cases closed
    · exact absurd inside (mismatch_ne_ok _ _ _)
  | broken start strict loose =>
    dsimp only at read
    split at read <;> cases read
  | _ => cases read

end Decoder

/-! ### The parts of a record -/

/-- The parts of a record with these fields, as it is written: the fields of an object under their own names,
the items of a list under the names of the fields in their places. -/
def Tree.parts? (names : List String) : Tree → Option (List (String × Tree))
  | .object _ entries _ => some (entries.map fun entry => (keyText entry.1, entry.2))
  | .list _ items _ => some (names.zip items)
  | _ => none

/-- A field has the value that each part under its name gives, or keeps the one it has when there is no such
part. -/
structure Given {α : Type} (parts : List (String × Tree)) (name : String) (gives : Tree → α → Prop)
    (missing value : α) : Prop where
  present : ∀ part, (name, part) ∈ parts → gives part value
  absent : name ∉ parts.map Prod.fst → value = missing

/-- A part under another name changes nothing about a field that is kept there. -/
theorem Given.other {α : Type} {parts : List (String × Tree)} {name other : String}
    {gives : Tree → α → Prop} {before missing value : α} (given : Given parts name gives before value)
    (tree : Tree) (differs : other ≠ name) (kept : before = missing) :
    Given ((other, tree) :: parts) name gives missing value := by
  refine ⟨fun part found => ?_, fun unnamed => ?_⟩
  · rcases List.mem_cons.mp found with first | later
    · exact absurd (congrArg Prod.fst first).symm differs
    · exact given.present part later
  · rw [List.map_cons, List.mem_cons, not_or] at unnamed
    exact (given.absent unnamed.2).trans kept

/-- The only part under its name gives a field its value. -/
theorem Given.own {α : Type} {parts : List (String × Tree)} {name : String} {gives : Tree → α → Prop}
    {before missing value : α} (given : Given parts name gives before value) {tree : Tree}
    (gave : gives tree before) (once : name ∉ parts.map Prod.fst) :
    Given ((name, tree) :: parts) name gives missing value := by
  refine ⟨fun part found => ?_, fun unnamed => ?_⟩
  · rcases List.mem_cons.mp found with first | later
    · rw [given.absent once, (Prod.mk.inj first).2]
      exact gave
    · exact absurd (List.mem_map_of_mem (f := Prod.fst) later) once
  · exact absurd List.mem_cons_self unnamed

/-! ### Members -/

namespace Member

variable {ρ α β : Type}

/-- A member leaves in a field what its part gives. -/
def Leaves (member : Member ρ) (get : ρ → β) (gives : Tree → β → Prop) : Prop :=
  ∀ depth tree before after, member.store (.stream depth) tree before = .ok after → gives tree (get after)

/-- A member leaves a field alone. -/
def Keeps (member : Member ρ) (get : ρ → β) : Prop :=
  ∀ depth tree before after, member.store (.stream depth) tree before = .ok after → get after = get before

variable {name : String} {decode : Decoder α} {put : α → ρ → ρ} {get : ρ → β}

theorem Leaves.of {get : ρ → α} {gives : Tree → α → Prop}
    (puts : ∀ value record, get (put value record) = value)
    (reads : ∀ depth tree value, decode (.stream depth) tree = .ok value → gives tree value) :
    (Member.of name decode put).Leaves get gives := by
  intro depth tree before after stored
  obtain ⟨value, read, rfl⟩ := map_eq_ok.mp stored
  rw [puts]
  exact reads depth tree value read

theorem Keeps.of (apart : ∀ value record, get (put value record) = get record) :
    (Member.of name decode put).Keeps get := by
  intro depth tree before after stored
  obtain ⟨value, -, rfl⟩ := map_eq_ok.mp stored
  exact apart value before

end Member

/-! ### Records -/

namespace Shape

variable {ρ α β : Type}

/-- How a record that is read from a text reads one of its fields: the member of that name leaves what the
part gives, and every other member leaves the field alone. -/
structure Reads (shape : Shape ρ α) (name : String) (get : ρ → β) (gives : Tree → β → Prop) : Prop where
  known : name ∈ shape.fields.map Member.name
  own : ∀ member ∈ shape.fields, member.name = name → member.Leaves get gives
  others : ∀ member ∈ shape.fields, member.name ≠ name → member.Keeps get

variable {shape : Shape ρ α} {name : String} {get : ρ → β} {gives : Tree → β → Prop}

/-- A field with a name of its own is read by the member of that name. -/
theorem reads_of {member : Member ρ} (here : member ∈ shape.fields)
    (apart : (shape.fields.map Member.name).Nodup) (leaves : member.Leaves get gives)
    (others : ∀ other ∈ shape.fields, other.name ≠ member.name → other.Keeps get) :
    shape.Reads member.name get gives where
  known := List.mem_map_of_mem here
  own := by
    intro other there same
    rwa [List.inj_on_of_nodup_map apart there here same]
  others := others

/-- What the fields of an object leave in a field of the record: a name that was seen is not read again. -/
theorem named_given (reads : shape.Reads name get gives) {depth : Nat} {entries : List (Tree × Tree)}
    {seen : List String} {record result : ρ}
    (read : shape.named (.stream depth) entries seen record = .ok result) :
    let parts := entries.map fun entry => (Tree.keyText entry.1, entry.2)
    Given parts name gives (get record) (get result) ∧ (name ∈ seen → name ∉ parts.map Prod.fst) := by
  induction entries generalizing seen record with
  | nil =>
    cases read
    exact ⟨⟨by simp, fun _ => rfl⟩, by simp⟩
  | cons entry rest ih =>
    obtain ⟨key, tree⟩ := entry
    unfold named at read
    split at read
    next member _ found =>
      have here : member ∈ shape.fields := List.mem_of_find?_eq_some found
      have names : member.name = Tree.keyText key := by simpa using List.find?_some found
      by_cases again : seen.contains member.name
      · rw [if_pos again] at read
        cases read
      · rw [if_neg again] at read
        obtain ⟨after, stored, later⟩ := bind_eq_ok.mp read
        obtain ⟨given, apart⟩ := ih later
        rw [List.map_cons, ← names]
        by_cases mine : member.name = name
        · have once := apart (by simp [mine])
          rw [mine] at again ⊢
          refine ⟨given.own (reads.own member here mine _ _ _ _ stored) once, fun old => ?_⟩
          simp [old] at again
        · refine ⟨given.other tree mine (reads.others member here mine _ _ _ _ stored), fun old => ?_⟩
          have unnamed := apart (.tail _ old)
          rw [List.map_cons, List.mem_cons, not_or]
          exact ⟨fun same => mine same.symm, unnamed⟩
    next _ unknown =>
      obtain ⟨_, _, later⟩ := bind_eq_ok.mp read
      obtain ⟨given, apart⟩ := ih later
      have other : Tree.keyText key ≠ name := by
        -- the name of a field is known, and this one is not
        rintro rfl
        obtain ⟨member, here, named⟩ := List.mem_map.mp reads.known
        have differs := List.find?_eq_none.mp unknown member here
        simp [named] at differs
      refine ⟨given.other tree other rfl, fun old => ?_⟩
      rw [List.map_cons, List.map_cons, List.mem_cons, not_or]
      exact ⟨fun same => other same.symm, apart old⟩
    next => cases read

/-- What the items of a list leave in a field of the record: each field takes the item in its place. -/
theorem positional_given (reads : shape.Reads name get gives) {depth : Nat} {ending : Ending}
    {fields : List (Member ρ)} (within : fields ⊆ shape.fields) (apart : (fields.map Member.name).Nodup)
    {trees rest : List Tree} {record result : ρ}
    (read : shape.positional (.stream depth) ending fields trees record = .ok (result, rest)) :
    Given ((fields.map Member.name).zip trees) name gives (get record) (get result) := by
  induction fields generalizing trees record with
  | nil =>
    unfold positional at read
    cases read
    exact ⟨by simp, fun _ => rfl⟩
  | cons field fields ih =>
    have inner : fields ⊆ shape.fields := fun _ found => within (.tail _ found)
    obtain ⟨new, apart⟩ := List.nodup_cons.mp apart
    cases trees with
    | nil =>
      -- past the end of the list every field left is absent
      unfold positional at read
      split at read
      · cases read
      · split at read
        · have given := ih inner apart read
          exact ⟨by simp, fun _ => given.absent (by simp)⟩
        · cases read
    | cons tree trees =>
      unfold positional at read
      obtain ⟨after, stored, later⟩ := bind_eq_ok.mp read
      have given := ih inner apart later
      have here : field ∈ shape.fields := within List.mem_cons_self
      rw [List.map_cons, List.zip_cons_cons]
      by_cases mine : field.name = name
      · rw [mine] at new ⊢
        refine given.own (reads.own field here mine _ _ _ _ stored) fun again => new ?_
        obtain ⟨part, found, rfl⟩ := List.mem_map.mp again
        exact (List.of_mem_zip found).1
      · exact given.other tree mine (reads.others field here mine _ _ _ _ stored)

/-- What a record is finished as is what its shape builds. -/
theorem build_of_finish {record : ρ} {value : α} (finished : shape.finish record = .ok value) :
    shape.build record = .ok value := by
  unfold finish at finished
  split at finished
  next made => rw [made, Except.ok.inj finished]
  next => cases finished

/-- **A record that is read from a text has each field as it is given**, and is made of the fields read. -/
theorem decode_given {depth : Nat} {tree : Tree} {value : α} (apart : (shape.fields.map Member.name).Nodup)
    (read : shape.decode (.stream depth) tree = .ok value) :
    ∃ parts record, tree.parts? (shape.fields.map Member.name) = some parts ∧
      shape.build record = .ok value ∧
      ∀ {β : Type} {name : String} {get : ρ → β} {gives : Tree → β → Prop},
        shape.Reads name get gives → Given parts name gives (get shape.start) (get record) := by
  unfold decode at read
  split at read
  next opening trees ending =>
    obtain ⟨inner, entered, read⟩ := bind_eq_ok.mp read
    obtain ⟨⟨record, rest⟩, stored, read⟩ := bind_eq_ok.mp read
    obtain ⟨made, finished, read⟩ := bind_eq_ok.mp read
    obtain ⟨_, _, same⟩ := bind_eq_ok.mp read
    cases same
    rw [Source.enter_stream entered] at stored
    exact ⟨_, record, rfl, build_of_finish finished, fun reads =>
      positional_given reads (List.Subset.refl _) apart stored⟩
  next =>
    unfold decodeNamed at read
    split at read
    next opening entries ending =>
      obtain ⟨inner, entered, read⟩ := bind_eq_ok.mp read
      obtain ⟨record, stored, read⟩ := bind_eq_ok.mp read
      obtain ⟨_, _, finished⟩ := bind_eq_ok.mp read
      rw [Source.enter_stream entered] at stored
      exact ⟨_, record, rfl, build_of_finish finished, fun reads => (named_given reads stored).1⟩
    next => exact absurd read (Decoder.mismatch_ne_ok _ _ _)

end Shape

end ScriptKernel.Json
