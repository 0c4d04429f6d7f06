/-
**The order in which the fields of an object are listed.**

* `Units.index?_ofString`: a text that is an index is the numeral of that index;
* `Key.ordered_perm`: the keys that are listed are the keys of the fields, each once;
* `Object.listed_perm`: so are the names that are written, if every field is listed.
-/

import Mathlib.Data.List.Perm.Basic
import ScriptKernel.Proofs.Json.Lexeme
import ScriptKernel.Proofs.Script.Draft

set_option autoImplicit false

namespace ScriptKernel

/-! ### Indices -/

namespace Units

/-- A character whose units are digits is a digit. -/
theorem isDigit_of_units {char : Char} (digits : ∀ unit ∈ ofChar char, 48 ≤ unit ∧ unit ≤ 57) :
    char.isDigit = true ∧ ofChar char = [char.toNat] := by
  unfold ofChar at digits ⊢
  dsimp only at digits ⊢
  split at digits
  · rename_i small
    rw [if_pos small]
    obtain ⟨above, below⟩ := digits char.toNat (List.mem_singleton.mpr rfl)
    refine ⟨?_, rfl⟩
    unfold Char.isDigit
    simp only [Bool.and_eq_true, decide_eq_true_eq, ge_iff_le, UInt32.le_iff_toNat_le]
    exact ⟨above, below⟩
  · have leading := digits (0xD800 + (char.toNat - 0x10000) / 0x400) List.mem_cons_self
    omega

/-- Characters whose units are digits are digits. -/
theorem isDigit_of_flatMap {chars : List Char}
    (digits : ∀ unit ∈ chars.flatMap ofChar, 48 ≤ unit ∧ unit ≤ 57) :
    (∀ char ∈ chars, char.isDigit = true) ∧ chars.flatMap ofChar = chars.map Char.toNat := by
  induction chars with
  | nil => exact ⟨nofun, rfl⟩
  | cons char chars ih =>
    rw [List.flatMap_cons] at digits ⊢
    obtain ⟨first, single⟩ := isDigit_of_units fun unit found =>
      digits unit (List.mem_append_left _ found)
    obtain ⟨others, singles⟩ := ih fun unit found => digits unit (List.mem_append_right _ found)
    refine ⟨List.forall_mem_cons.mpr ⟨first, others⟩, ?_⟩
    rw [single, singles, List.map_cons, List.singleton_append]

/-- The value of digits is the value of the numeral. -/
theorem foldl_toNat (chars : List Char) (start : Nat) :
    (chars.map Char.toNat).foldl (fun total unit => total * 10 + (unit - 48)) start =
      Nat.ofDigitChars 10 chars start := by
  rw [Nat.ofDigitChars_eq_foldl, List.foldl_map]
  congr 1
  funext total char
  rw [Nat.mul_comm]
  rfl

/-- **A text that is an index is the numeral of that index.** -/
theorem index?_ofString {text : String} {index : Nat}
    (found : (ofString text).index? = some index) : text = toString index := by
  unfold index? at found
  have units : (ofString text).units = text.toList.flatMap ofChar := rfl
  rw [units] at found
  cases written : text.toList.flatMap ofChar with
  | nil =>
    rw [written] at found
    cases found
  | cons first rest =>
    rw [written] at found
    dsimp only at found
    split at found
    · cases found
    split at found
    · rename_i digits
      rw [← written, List.all_eq_true] at digits
      obtain ⟨decimal, single⟩ := isDigit_of_flatMap fun unit member => by
        simpa using digits unit member
      split at found
      · cases found
      · rename_i proper
        simp only [Bool.or_eq_true, Bool.and_eq_true, beq_iff_eq, Bool.not_eq_true',
          List.isEmpty_eq_false_iff, decide_eq_true_eq, not_or, not_and, not_not] at proper
        rw [← written, single, foldl_toNat] at found
        have nonempty : text.toList ≠ [] := by
          intro none
          rw [none] at written
          cases written
        have leading : text.toList.head? = some '0' → text.toList.length = 1 := by
          intro zero
          rw [single] at written
          cases chars : text.toList with
          | nil => exact absurd chars nonempty
          | cons char chars' =>
            rw [chars] at zero written
            cases zero
            obtain ⟨same, others⟩ := List.cons.inj written
            have alone := proper.1 same.symm
            rw [← others, List.map_eq_nil_iff] at alone
            rw [alone]
            rfl
        have numeral := Numeral.toDigits_ofDigitChars nonempty decimal leading
        rw [Option.some.inj found] at numeral
        rw [Nat.toString_eq_ofList_toDigits, numeral, String.ofList_toList]
    · cases found

end Units

namespace Script

/-! ### Keys in order -/

namespace Key

theorem insertIndex_perm (index : Nat) (sorted : List Nat) :
    (insertIndex index sorted).Perm (index :: sorted) := by
  induction sorted with
  | nil => exact .refl _
  | cons other rest ih =>
    unfold insertIndex
    split
    · exact .refl _
    · exact (ih.cons other).trans (.swap ..)

theorem insertAll_perm (indices first : List Nat) :
    (indices.foldl (fun sorted index => insertIndex index sorted) first).Perm (indices ++ first) := by
  induction indices generalizing first with
  | nil => exact .refl _
  | cons index rest ih =>
    exact (ih _).trans (((insertIndex_perm index first).append_left rest).trans List.perm_middle)

/-- The key of a text that is an index is the key of that index. -/
theorem ofNat_of_index? {name : String} {index : Nat}
    (found : (Key.ofString name).index? = some index) : Key.ofNat index = Key.ofString name := by
  unfold Key.ofNat
  rw [← Units.index?_ofString found]

/-- Indices that are listed as keys are the keys they came from. -/
theorem filterMap_index? {names : List String} :
    ((names.map Key.ofString).filterMap index?).map Key.ofNat =
      (names.map Key.ofString).filter fun key => key.index?.isSome := by
  induction names with
  | nil => rfl
  | cons name rest ih =>
    rw [List.map_cons]
    cases found : (Key.ofString name).index? with
    | none => rw [List.filterMap_cons_none found, List.filter_cons_of_neg (by rw [found]; simp), ih]
    | some index =>
      rw [List.filterMap_cons_some found, List.filter_cons_of_pos (by rw [found]; rfl),
        List.map_cons, ih, ofNat_of_index? found]

/-- **The keys that are listed are the keys there are.** -/
theorem ordered_perm (names : List String) :
    (ordered [] (names.map Key.ofString)).Perm (names.map Key.ofString) := by
  have texts : ∀ key ∈ names.map Key.ofString, key.isSymbol = false := by
    intro key found
    obtain ⟨name, -, rfl⟩ := List.mem_map.mp found
    rfl
  have noSymbols : (names.map Key.ofString).filter isSymbol = [] :=
    List.filter_eq_nil_iff.mpr fun key found => by rw [texts key found]; decide
  have others : (names.map Key.ofString).filter (fun key => key.index?.isNone && !key.isSymbol) =
      (names.map Key.ofString).filter fun key => !key.index?.isSome := by
    refine List.filter_congr fun key found => ?_
    rw [texts key found]
    cases key.index? <;> rfl
  unfold ordered
  rw [noSymbols, others, List.append_nil]
  refine List.Perm.trans (.append_right _ ?_) (List.filter_append_perm _ _)
  rw [← filterMap_index?]
  refine List.Perm.map _ ((insertAll_perm _ []).trans ?_)
  rw [List.append_nil]

end Key

/-! ### Fields of objects that hold plain values -/

/-- An object with a field for each name. -/
def Object.record (parent : Option Address) (fields : List (String × Value)) : Object :=
  { parent, fields := fields.map fun field => (.ofString field.1, .plain field.2) }

theorem Key.ofString_injective {first second : String} (same : Key.ofString first = .ofString second) :
    first = second := by
  unfold Key.ofString at same
  exact Units.ofString_injective (Key.text.inj same)

variable {parent : Option Address} {fields : List (String × Value)}

/-- A field is found under its name. -/
theorem Object.own?_record (apart : (fields.map Prod.fst).Nodup) {name : String} {value : Value}
    (found : (name, value) ∈ fields) :
    (Object.record parent fields).own? (.ofString name) = some (.plain value) := by
  show Object.find? _ _ = _
  unfold Object.find? Object.record
  dsimp only
  induction fields with
  | nil => cases found
  | cons field rest ih =>
    rw [List.map_cons, List.nodup_cons] at apart
    rw [List.map_cons]
    rcases List.mem_cons.mp found with rfl | found
    · rw [List.find?_cons_of_pos (by simp)]
      rfl
    · have different : field.1 ≠ name := by
        rintro rfl
        exact apart.1 (List.mem_map.mpr ⟨_, found, rfl⟩)
      rw [List.find?_cons_of_neg, ih apart.2 found]
      simp only [beq_iff_eq]
      exact fun same => different (Key.ofString_injective same)

/-- What is found in the object is a field of its own. -/
theorem Object.own?_record_mem {key : Key} {property : Property}
    (found : (Object.record parent fields).own? key = some property) :
    ∃ name value, (name, value) ∈ fields ∧ property = .plain value := by
  obtain ⟨entry, seen, same⟩ := Option.map_eq_some_iff.mp
    (show (List.find? _ _).map Prod.snd = some property from found)
  obtain ⟨⟨name, value⟩, member, made⟩ := List.mem_map.mp (List.mem_of_find?_eq_some seen)
  exact ⟨name, value, member, by rw [← same, ← made]⟩

/-- **The names that are written of the object are the names of its fields.** -/
theorem Object.listed_perm (apart : (fields.map Prod.fst).Nodup) :
    (Object.record parent fields).listed.Perm (fields.map fun field => Units.ofString field.1) := by
  have keys : (Object.record parent fields).ownKeys =
      Key.ordered [] ((fields.map Prod.fst).map Key.ofString) := by
    show Key.ordered [] ((Object.record parent fields).fields.map Prod.fst) = _
    unfold Object.record
    rw [List.map_map, List.map_map]
    rfl
  unfold Object.listed
  rw [keys]
  refine ((Key.ordered_perm (fields.map Prod.fst)).filterMap _).trans (.of_eq ?_)
  rw [List.filterMap_map, List.filterMap_map, ← List.filterMap_eq_map]
  refine List.filterMap_congr fun field found => ?_
  obtain ⟨name, value⟩ := field
  have own : (Object.record parent fields).own? (.text (Units.ofString name)) = some (.plain value) :=
    Object.own?_record apart found
  dsimp only [Function.comp_apply, Key.ofString]
  rw [own]
  rfl

end Script

end ScriptKernel
