/-
**The draft of a structured value.**

* `Double.text_ofInt`: the text of an integer up to the limit is its digits;
* `Units.toString?_ofString`: a text that the host gives to a script comes back;
* `Draft.ofJson`: the draft whose text is the text of a value (`Draft.chars_ofJson`), so that it reads back as
  the value in order unless it nests too deep (`Draft.read_ofJson`).
-/

import Mathlib.Algebra.Order.Ring.Nat
import ScriptKernel.Proofs.Json.Reading
import ScriptKernel.Proofs.Number
import ScriptKernel.Script.Exchange

set_option autoImplicit false

namespace ScriptKernel

/-! ### Integers as doubles -/

namespace Double

/-- **The text of an integer is its digits.** -/
theorem text_ofInt {value : Int} (small : value.natAbs ≤ Json.wholeLimit) :
    (ofInt value).text = toString value := by
  rcases Nat.lt_or_eq_of_le small with below | limit
  · rw [ofInt_eq small]
    unfold text
    have few : decide (value.natAbs < Nat.pow 2 53) = true := decide_eq_true below
    have whole : (value.natAbs * one % one == 0 && decide (value.natAbs < Nat.pow 2 53)) = true := by
      rw [Nat.mul_mod_left, few]
      rfl
    simp only [Nat.mul_div_cancel _ one_pos, whole, if_true, signed_natAbs]
  · rcases Int.natAbs_eq value with same | same
    · rw [same, limit]
      decide +kernel
    · rw [same, limit]
      decide +kernel

end Double

/-! ### Texts -/

namespace Units

/-- The units of a character are read as that character. -/
theorem pieces_ofChar (char : Char) (rest : List Nat) :
    pieces (ofChar char ++ rest) = .char char :: pieces rest := by
  have valid : char.toNat < 0xD800 ∨ 0xDFFF < char.toNat ∧ char.toNat < 0x110000 := char.valid
  unfold ofChar
  dsimp only
  split
  · rename_i small
    have ordinary : isLeading char.toNat = false ∧ isTrailing char.toNat = false := by
      unfold isLeading isTrailing
      simp
      omega
    cases rest with
    | nil =>
      show [if isLeading char.toNat || isTrailing char.toNat then _ else _] = _
      rw [ordinary.1, ordinary.2, Char.ofNat_toNat]
      rfl
    | cons next rest =>
      show pieces (char.toNat :: next :: rest) = _
      rw [pieces, ordinary.1, ordinary.2, Char.ofNat_toNat]
      rfl
  · rename_i large
    have first : isLeading (0xD800 + (char.toNat - 0x10000) / 0x400) = true := by
      unfold isLeading
      simp
      omega
    have second : isTrailing (0xDC00 + (char.toNat - 0x10000) % 0x400) = true := by
      unfold isTrailing
      simp
      omega
    have whole : pair (0xD800 + (char.toNat - 0x10000) / 0x400)
        (0xDC00 + (char.toNat - 0x10000) % 0x400) = char := by
      unfold pair
      rw [show 0x10000 + (0xD800 + (char.toNat - 0x10000) / 0x400 - 0xD800) * 0x400 +
        (0xDC00 + (char.toNat - 0x10000) % 0x400 - 0xDC00) = char.toNat by omega, Char.ofNat_toNat]
    show pieces (_ :: _ :: rest) = _
    rw [pieces, first, second, whole]
    rfl

/-- The units of characters are read as those characters. -/
theorem pieces_ofChars (chars : List Char) :
    pieces (ofChars chars).units = chars.map Piece.char := by
  show pieces (chars.flatMap ofChar) = _
  induction chars with
  | nil => rfl
  | cons char chars ih => rw [List.flatMap_cons, pieces_ofChar, ih, List.map_cons]

/-- **A text of the host comes back.** -/
theorem toString?_ofString (text : String) : (ofString text).toString? = some text := by
  have chars : (ofString text).toChars? = some text.toList := by
    unfold toChars? ofString
    rw [pieces_ofChars, List.mapM_map]
    exact (List.mapM_pure (f := id)).trans (by rw [List.map_id]; rfl)
  rw [toString?, chars, Option.map_some, String.ofList_toList]

theorem ofString_injective {first second : String} (same : ofString first = ofString second) :
    first = second := by
  have back := toString?_ofString first
  rw [same, toString?_ofString] at back
  exact (Option.some.inj back).symm

end Units

namespace Script.Draft

/-! ### Drafts -/

mutual

/-- The draft whose text is the text of a value. -/
def ofJson : Json → Draft
  | .null => .null
  | .boolean value => .boolean value
  | .number value => .number (numberValue value)
  | .text value => .text (.ofString value)
  | .list items => .list (ofItems items)
  | .members entries => .fields (ofEntries entries)

/-- The drafts of items. -/
def ofItems : List Json → List Draft
  | [] => []
  | item :: rest => ofJson item :: ofItems rest

/-- The drafts of fields. -/
def ofEntries : List (String × Json) → List (Units × Draft)
  | [] => []
  | entry :: rest => ofEntry entry :: ofEntries rest

/-- The draft of a field. -/
def ofEntry : String × Json → Units × Draft
  | (key, value) => (.ofString key, ofJson value)

end

theorem ofItems_eq (items : List Json) : ofItems items = items.map ofJson := by
  induction items with
  | nil => rfl
  | cons item rest ih => rw [ofItems, ih, List.map_cons]

/-- A text of the host is written as the host writes it. -/
theorem textChars_ofString (text : String) : textChars (.ofString text) = Json.printText text := by
  unfold textChars Units.ofString Json.printText
  rw [Units.pieces_ofChars, List.flatMap_map]
  rfl

theorem itemChars_map {items : List Json}
    (same : ∀ item ∈ items, (ofJson item).chars = item.chars) :
    itemChars (ofItems items) = Json.itemChars items := by
  induction items with
  | nil => rfl
  | cons item rest ih =>
    have later := ih fun other found => same other (List.mem_cons_of_mem _ found)
    rw [ofItems]
    cases rest with
    | nil => exact same item List.mem_cons_self
    | cons next rest =>
      rw [ofItems] at later ⊢
      rw [itemChars, Json.itemChars, same item List.mem_cons_self, later]

theorem fieldChars_map {entry : String × Json} (same : (ofJson entry.2).chars = entry.2.chars) :
    fieldChars (ofEntry entry) = Json.fieldChars entry := by
  obtain ⟨key, value⟩ := entry
  show textChars _ ++ ':' :: (ofJson value).chars = _
  rw [textChars_ofString, same, Json.fieldChars]

theorem entryChars_map {entries : List (String × Json)}
    (same : ∀ entry ∈ entries, (ofJson entry.2).chars = entry.2.chars) :
    entryChars (ofEntries entries) = Json.entryChars entries := by
  induction entries with
  | nil => rfl
  | cons entry rest ih =>
    have later := ih fun other found => same other (List.mem_cons_of_mem _ found)
    have first := fieldChars_map (same entry List.mem_cons_self)
    rw [ofEntries]
    cases rest with
    | nil => exact first
    | cons next rest =>
      rw [ofEntries] at later ⊢
      rw [entryChars, Json.entryChars, first, later]

/-- **The text of the draft of a value is the text of the value.** -/
theorem chars_ofJson {value : Json} (whole : value.Whole) : (ofJson value).chars = value.chars := by
  induction whole with
  | null => rfl
  | boolean value => cases value <;> rfl
  | number small =>
    show (Double.ofInt _).text.toList = _
    rw [Double.text_ofInt small]
    rfl
  | text value => exact textChars_ofString value
  | list _ ih => rw [ofJson, chars, itemChars_map ih, Json.chars]
  | members _ ih => rw [ofJson, chars, entryChars_map ih, Json.chars]

/-- **The draft of a value reads back as the value in order, unless it nests too deep.** -/
theorem read_ofJson {value : Json} (whole : value.Whole) :
    (value.depth < Json.Tree.depthLimit → (ofJson value).read = .ok value.normal) ∧
      (Json.Tree.depthLimit ≤ value.depth →
        ∃ reason, (ofJson value).read = .error (.conversion reason)) := by
  obtain ⟨shallow, deep⟩ := Json.parse_chars whole.integral.readable
  unfold read print
  rw [chars_ofJson whole]
  refine ⟨fun few => by rw [shallow few], fun many => ?_⟩
  obtain ⟨fault, flawed⟩ := deep many
  exact ⟨_, by rw [flawed]⟩

end Script.Draft

end ScriptKernel
