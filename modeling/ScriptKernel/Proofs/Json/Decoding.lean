/-
**What decoders take.**

* `Decoder.Takes`: a decoder makes the value of every tree that is written like the structured value, wherever
  the tree comes from;
* `Decoder.natural_takes`, `optional_takes`, `oneOf_takes`: the plain shapes;
* `Shape.decode_takes`: a record takes its fields in any order, each at most once;
* `Decoder.run_print`, `Decoder.ofJson_takes`: what a decoder takes it takes as a text and as a value.
-/

import Mathlib.Data.List.Perm.Basic
import ScriptKernel.Json.Decode
import ScriptKernel.Proofs.Json.Reading

set_option autoImplicit false

namespace ScriptKernel.Json

/-! ### Sources -/

/-- A source has room for a value: a text opens only so many more containers. -/
def Source.Holds (source : Source) (json : Json) : Prop :=
  ∀ depth, source = .stream depth → json.depth < depth

/-- Where there is room for an object, it is entered, and there is room for each of its fields. -/
theorem Source.Holds.enter {source : Source} {entries : List (String × Json)}
    (room : source.Holds (.members entries)) (opening : List Char) :
    ∃ inner, source.enter opening = .ok inner ∧ ∀ entry ∈ entries, inner.Holds entry.2 := by
  cases source with
  | whole => exact ⟨.whole, rfl, fun _ _ _ same => nomatch same⟩
  | setAside => exact ⟨.setAside, rfl, fun _ _ _ same => nomatch same⟩
  | stream depth =>
    have deep : entriesDepth entries + 1 < depth := room depth rfl
    refine ⟨.stream (depth - 1), if_neg (by omega), fun entry found less same => ?_⟩
    cases same
    exact (entriesDepth_lt (by omega)).mp (by omega) entry found

/-! ### Plain shapes -/

namespace Decoder

variable {α : Type}

/-- **A decoder takes a structured value as a value of its type.** -/
def Takes (decode : Decoder α) (json : Json) (value : α) : Prop :=
  ∀ source tree, source.Holds json → tree.Spells json → decode source tree = .ok value

/-- A natural number of few enough bits is taken. -/
theorem natural_takes (type : String) {bits value : Nat} (small : value < Nat.pow 2 bits) :
    (natural type bits).Takes (Json.nat value) value := by
  intro source tree _ spells
  cases spells with
  | number _ after =>
    have within : (0 : Int) ≤ value ∧ (value : Int) < (Nat.pow 2 bits : Nat) := by omega
    unfold natural integer
    simp only [if_pos within, Except.map, Int.toNat_natCast]

/-- Null is taken as no value. -/
theorem optional_takes_null (decode : Decoder α) : (optional decode).Takes .null none := by
  intro source tree _ spells
  cases spells
  rfl

/-- What is not null is taken as a value. -/
theorem optional_takes {decode : Decoder α} {json : Json} {value : α} (present : json ≠ .null)
    (takes : decode.Takes json value) : (optional decode).Takes json (some value) := by
  intro source tree room spells
  have taken := takes source tree room spells
  unfold optional
  cases spells with
  | null => exact absurd rfl present
  | _ => simp only [taken, Except.map]

/-- What is made of a value is taken with it. -/
theorem map_takes {β : Type} {decode : Decoder α} {json : Json} {value : α}
    (takes : decode.Takes json value) (make : α → β) :
    Takes (fun source tree => (decode source tree).map make) json (make value) := by
  intro source tree room spells
  dsimp only
  rw [takes source tree room spells]
  rfl

theorem lookup?_map {β : Type} (make : α → β) (key : String) (entries : List (String × α)) :
    lookup? key (entries.map fun entry => (entry.1, make entry.2)) = (lookup? key entries).map make := by
  induction entries with
  | nil => rfl
  | cons entry rest ih =>
    obtain ⟨other, value⟩ := entry
    rw [List.map_cons, lookup?, lookup?, ih]
    split <;> rfl

/-- The name of a value is taken as the value. -/
theorem oneOf_takes {values : List (String × α)} {name : String} {value : α}
    (found : lookup? name values = some value) : (oneOf values).Takes (.text name) value := by
  intro source tree _ spells
  cases spells with
  | text _ after =>
    unfold oneOf choice
    simp only [bareVariant, lookup?_map, found, Option.map_some]

end Decoder

/-! ### Records -/

namespace Shape

variable {ρ α : Type}

/-- **A record stores a field**: one of its members has the name, and takes the value. -/
def Stores (shape : Shape ρ α) (entry : String × Json) (put : ρ → ρ) : Prop :=
  ∃ member : Member ρ, shape.fields.find? (·.name == entry.1) = some member ∧
    ∀ source tree record, source.Holds entry.2 → tree.Spells entry.2 →
      member.store source tree record = .ok (put record)

/-- A member whose decoder takes the value stores it. -/
theorem stores_of_takes {shape : Shape ρ α} {β : Type} {name : String} {decode : Decoder β}
    {store : β → ρ → ρ} {put : ρ → ρ} {json : Json} {value : β}
    (found : shape.fields.find? (·.name == name) = some (.of name decode store))
    (takes : decode.Takes json value) (stored : put = store value) :
    shape.Stores (name, json) put := by
  refine ⟨_, found, fun source tree record room spells => ?_⟩
  unfold Member.of
  dsimp only
  rw [takes source tree room spells, stored]
  rfl

/-- Fields with names of their own are stored one after the other. -/
theorem named_stores {shape : Shape ρ α} {source : Source} {entries : List (String × Json)}
    {puts : List (ρ → ρ)} (stores : List.Forall₂ shape.Stores entries puts)
    (room : ∀ entry ∈ entries, source.Holds entry.2) {trees : List (Tree × Tree)}
    (spells : Tree.SpellsEntries trees entries) (seen : List String)
    (apart : (seen ++ entries.map Prod.fst).Nodup) (record : ρ) :
    shape.named source trees seen record =
      .ok (puts.foldl (fun record put => put record) record) := by
  induction stores generalizing trees seen record with
  | nil =>
    cases spells
    rfl
  | @cons entry put entries puts first others ih =>
    cases spells with
    | @cons key between tree trees item _ spelled rest =>
      obtain ⟨member, found, store⟩ := first
      have name : member.name = key := by simpa using List.find?_some found
      have new : seen.contains key = false := by
        have split := (List.nodup_append.mp apart).2.2
        simp only [List.contains_eq_mem, decide_eq_false_iff_not]
        exact fun old => split key old key List.mem_cons_self rfl
      have stored := store source tree record (room _ List.mem_cons_self) spelled
      have apart' : ((key :: seen) ++ entries.map Prod.fst).Nodup :=
        List.perm_middle.nodup_iff.mp apart
      have later := ih (fun entry found => room entry (.tail _ found)) rest (key :: seen) apart'
        (put record)
      unfold named
      have sound : Tree.keyFlaw? (.text (.ok key) between, tree) = none := rfl
      have text : Tree.keyText (.text (.ok key) between) = key := rfl
      simp only [sound, text, found, name, new, Bool.false_eq_true, if_false, stored]
      exact later

/-- **A record takes its fields in any order**, if it makes a value of what they leave. -/
theorem decode_takes {shape : Shape ρ α} {fields entries : List (String × Json)}
    {puts : List (ρ → ρ)} {value : α} (stores : List.Forall₂ shape.Stores fields puts)
    (apart : (fields.map Prod.fst).Nodup)
    (commute : ∀ first ∈ puts, ∀ second ∈ puts, ∀ record,
      second (first record) = first (second record))
    (built : shape.build (puts.foldl (fun record put => put record) shape.start) = .ok value)
    (same : entries.Perm fields) : shape.decode.Takes (.members entries) value := by
  intro source tree room spells
  obtain ⟨puts', stores', same'⟩ := List.perm_comp_forall₂ same stores
  have folded : puts'.foldl (fun record put => put record) shape.start =
      puts.foldl (fun record put => put record) shape.start :=
    same'.foldl_eq' (fun first here second there record => commute first (same'.subset here) second
      (same'.subset there) record) shape.start
  cases spells with
  | members opening after spelled =>
    obtain ⟨inner, entered, within⟩ := room.enter opening
    have apart' : ([] ++ entries.map Prod.fst).Nodup := (same.map Prod.fst).nodup_iff.mpr apart
    have read := named_stores stores' within spelled [] apart' shape.start
    rw [folded] at read
    unfold decode decodeNamed
    simp only [entered, read, Tree.objectFlaw?, Decoder.refuse, finish, built, bind, Except.bind]

end Shape

/-! ### Texts and values -/

namespace Decoder

variable {α : Type} {decode : Decoder α} {json : Json} {value : α}

/-- **What a decoder takes it takes as a text**, unless it nests too deep. -/
theorem run_print (takes : decode.Takes json value) (readable : json.Readable)
    (shallow : json.depth < Tree.depthLimit) : decode.run json.print = .ok value := by
  have reads := Tree.read_chars readable
  have taken := takes (.stream Tree.depthLimit) (Tree.read json.chars)
    (fun _ same => by cases same; exact shallow) reads.spells
  unfold run print
  simp only [String.toList_ofList, taken, reads.trailing]
  rfl

/-- **What a decoder takes it takes as a value.** -/
theorem ofJson_takes (takes : decode.Takes json value) : decode.ofJson json = .ok value :=
  takes .whole (Tree.ofJson json) (fun _ same => nomatch same) (Tree.ofJson_spells json)

end Decoder

end ScriptKernel.Json
