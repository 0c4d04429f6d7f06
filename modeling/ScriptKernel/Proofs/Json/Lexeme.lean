/-
**Numbers and quoted texts read back.**

* `Numeral.toDigits_ofDigitChars`: a numeral without leading zeros is the one that is written for its value;
* `Lexeme.number_print`: an integer of sixty-four bits reads back, whatever delimiter follows it;
* `Lexeme.text_print`: a quoted text reads back, whatever its characters are.
-/

import Mathlib.Data.List.Induction
import ScriptKernel.Json.Lexeme
import ScriptKernel.Json.Printer
import ScriptKernel.Proofs.Json.Shape

set_option autoImplicit false

namespace ScriptKernel

/-! ### Numerals -/

namespace Numeral

/-- The digit of a character is the character of the digit. -/
theorem digitChar_of_isDigit {char : Char} (decimal : char.isDigit = true) :
    (char.toNat - '0'.toNat).digitChar = char ∧ char.toNat - '0'.toNat < 10 := by
  obtain ⟨above, below⟩ : 48 ≤ char.toNat ∧ char.toNat ≤ 57 := by
    unfold Char.isDigit at decimal
    simp only [Bool.and_eq_true, decide_eq_true_eq, ge_iff_le, UInt32.le_iff_toNat_le] at decimal
    exact decimal
  have all : ∀ code : Fin 10, (Nat.digitChar code) = Char.ofNat (48 + code) := by decide
  have bound : char.toNat - '0'.toNat < 10 := by
    show char.toNat - 48 < 10
    omega
  refine ⟨?_, bound⟩
  rw [show (char.toNat - '0'.toNat).digitChar = Char.ofNat (48 + (char.toNat - '0'.toNat)) from
    all ⟨_, bound⟩]
  have code : 48 + (char.toNat - '0'.toNat) = char.toNat := by
    show 48 + (char.toNat - 48) = char.toNat
    omega
  rw [code, Char.ofNat_toNat]

/-- A numeral that starts with another digit than zero has a value. -/
theorem ofDigitChars_pos {first : Char} (decimal : first.isDigit = true) (leading : first ≠ '0')
    (rest : List Char) : 0 < Nat.ofDigitChars 10 (first :: rest) 0 := by
  rw [Nat.ofDigitChars_cons, Nat.ofDigitChars_eq_ofDigitChars_zero]
  have digit : 0 < first.toNat - '0'.toNat := by
    by_contra none
    have zero : first.toNat - '0'.toNat = 0 := Nat.eq_zero_of_not_pos none
    have same := (digitChar_of_isDigit decimal).1
    rw [zero] at same
    exact leading same.symm
  have scaled : 0 < 10 ^ rest.length * (10 * 0 + (first.toNat - '0'.toNat)) :=
    Nat.mul_pos (Nat.pow_pos (by decide)) (by omega)
  omega

/-- Reading digits adds them to what has been read. -/
theorem le_ofDigitChars (word : List Char) (value : Nat) :
    value ≤ Nat.ofDigitChars 10 word value := by
  rw [Nat.ofDigitChars_eq_ofDigitChars_zero]
  exact (Nat.le_mul_of_pos_left value (Nat.pow_pos (by decide))).trans (Nat.le_add_right _ _)

/-- **A numeral without leading zeros is the one that is written for its value.** -/
theorem toDigits_ofDigitChars {word : List Char} (nonempty : word ≠ [])
    (decimal : ∀ char ∈ word, char.isDigit = true)
    (leading : word.head? = some '0' → word.length = 1) :
    Nat.toDigits 10 (Nat.ofDigitChars 10 word 0) = word := by
  induction word using List.reverseRecOn with
  | nil => exact absurd rfl nonempty
  | append_singleton front last ih =>
    obtain ⟨written, small⟩ := digitChar_of_isDigit (decimal last (by simp))
    rw [Nat.ofDigitChars_append, Nat.ofDigitChars_cons, Nat.ofDigitChars_nil]
    cases front with
    | nil =>
      rw [Nat.ofDigitChars_nil, Nat.mul_zero, Nat.zero_add, Nat.toDigits_of_lt_base small, written]
      rfl
    | cons first rest =>
      have notZero : first ≠ '0' := by
        rintro rfl
        simpa using leading rfl
      have value := ofDigitChars_pos (decimal first (by simp)) notZero rest
      have front : Nat.toDigits 10 (Nat.ofDigitChars 10 (first :: rest) 0) = first :: rest := by
        refine ih (List.cons_ne_nil _ _) (fun char found => decimal char ?_) fun zero => ?_
        · exact List.mem_append_left _ found
        · exact absurd (Option.some.inj zero) notZero
      rw [← Nat.toDigits_append_toDigits (by decide) value small, front,
        Nat.toDigits_of_lt_base small, written]

/-- The numeral of a number other than zero does not start with zero. -/
theorem head_toDigits {value : Nat} (positive : 0 < value) :
    ∃ first rest, Nat.toDigits 10 value = first :: rest ∧ first ≠ '0' := by
  induction value using Nat.strongRecOn with
  | ind value ih =>
    by_cases small : value < 10
    · refine ⟨value.digitChar, [], Nat.toDigits_of_lt_base small, ?_⟩
      have all : ∀ digit : Fin 10, (digit : Nat) ≠ 0 → Nat.digitChar digit ≠ '0' := by decide
      exact all ⟨value, small⟩ (Nat.ne_of_gt positive)
    · obtain ⟨first, rest, front, notZero⟩ := ih (value / 10) (by omega) (by omega)
      refine ⟨first, rest ++ [(value % 10).digitChar], ?_, notZero⟩
      rw [Nat.toDigits_of_base_le (by decide) (Nat.le_of_not_lt small), front]
      rfl

end Numeral

namespace Json

/-- What follows a value inside of structured text: nothing, or a comma or a closing bracket. -/
def Delimited (rest : List Char) : Prop :=
  ∀ char, rest.head? = some char → char = ',' ∨ char = ']' ∨ char = '\x7d'

/-! ### Numbers -/

/-- The text of a natural number. -/
theorem Number.print_ofNat (natural : Nat) :
    (Number.integer (Int.ofNat natural)).print.toList = Nat.toDigits 10 natural :=
  String.toList_ofList

/-- The text of a negative integer. -/
theorem Number.print_negSucc (natural : Nat) :
    (Number.integer (Int.negSucc natural)).print.toList = '-' :: Nat.toDigits 10 (natural + 1) := by
  show ("-" ++ String.ofList (Nat.toDigits 10 (natural + 1))).toList = _
  rw [String.toList_append, String.toList_ofList, String.toList_ofList, List.singleton_append]

/-- The digits of a number are digits. -/
theorem isDigit_of_toDigits {value : Nat} {char : Char} (found : char ∈ Nat.toDigits 10 value) :
    char.isDigit = true := Nat.isDigit_of_mem_toDigits (by decide) (by decide) found

namespace Lexeme

theorem digit?_of_isDigit {char : Char} (decimal : char.isDigit = true) :
    digit? char = some (char.toNat - '0'.toNat) := by
  unfold Char.isDigit at decimal
  simp only [Bool.and_eq_true, decide_eq_true_eq, ge_iff_le] at decimal
  exact if_pos decimal

theorem digit?_delimiter {rest : List Char} (delimited : Delimited rest) {char : Char}
    (head : rest.head? = some char) : digit? char = none := by
  rcases delimited char head with rfl | rfl | rfl <;> rfl

/-- The digits of a numeral are read, and nothing behind them. -/
theorem digits_append {word rest : List Char} (decimal : ∀ char ∈ word, char.isDigit = true)
    (delimited : Delimited rest) (value count : Nat)
    (small : Nat.ofDigitChars 10 word value < Nat.pow 2 64) :
    digits (word ++ rest) value count =
      (Nat.ofDigitChars 10 word value, count + word.length, rest) := by
  induction word generalizing value count with
  | nil =>
    cases rest with
    | nil => rfl
    | cons char rest =>
      rw [List.nil_append, digits, digit?_delimiter delimited rfl]
      rfl
  | cons char word ih =>
    rw [Nat.ofDigitChars_cons] at small ⊢
    have below : value * 10 + (char.toNat - '0'.toNat) < Nat.pow 2 64 := by
      rw [Nat.mul_comm]
      exact (Numeral.le_ofDigitChars word _).trans_lt small
    rw [List.cons_append, digits, digit?_of_isDigit (decimal char List.mem_cons_self)]
    simp only [if_pos below]
    rw [Nat.mul_comm value 10, ih (fun other found => decimal other (List.mem_cons_of_mem _ found))
      _ _ small, List.length_cons]
    congr 2
    omega

/-- Nothing is skipped where no digit stands. -/
theorem skipDigits_delimited {rest : List Char} (delimited : Delimited rest) (count : Nat) :
    skipDigits rest count = (count, rest) := by
  cases rest with
  | nil => rfl
  | cons char rest =>
    rw [skipDigits, digit?_delimiter delimited rfl]
    rfl

/-- An integer ends at its digits. -/
theorem whole_delimited {rest : List Char} (delimited : Delimited rest) (coefficient : Nat) :
    whole false coefficient 0 rest = ⟨.ok (.integer coefficient), .ok rest⟩ ∧
      (0 < coefficient → coefficient ≤ Nat.pow 2 63 →
        whole true coefficient 0 rest = ⟨.ok (.integer (-coefficient)), .ok rest⟩) := by
  have settled : ∀ negative, whole negative coefficient 0 rest =
      if !negative then ⟨.ok (.integer coefficient), .ok rest⟩
      else if coefficient = 0 ∨ coefficient > Nat.pow 2 63 then
        ⟨.ok (.double (Double.ofNat coefficient).neg), .ok rest⟩
      else ⟨.ok (.integer (-(coefficient : Int))), .ok rest⟩ := by
    intro negative
    unfold whole
    split
    · exact absurd (delimited '.' rfl) (by decide)
    · exact absurd (delimited 'e' rfl) (by decide)
    · exact absurd (delimited 'E' rfl) (by decide)
    · rw [if_neg (Nat.lt_irrefl 0)]
  refine ⟨settled false, fun positive bound => (settled true).trans ?_⟩
  rw [if_neg (by decide), if_neg (by omega)]

/-- A natural number reads as its digits, with either sign. -/
theorem unsigned_toDigits {value : Nat} (small : value < Nat.pow 2 64) {rest : List Char}
    (delimited : Delimited rest) (negative : Bool) :
    unsigned negative (Nat.toDigits 10 value ++ rest) = whole negative value 0 rest := by
  have decimal : ∀ char ∈ Nat.toDigits 10 value, char.isDigit = true := fun _ =>
    isDigit_of_toDigits
  rcases Nat.eq_zero_or_pos value with rfl | positive
  · rw [Nat.toDigits_zero]
    unfold unsigned
    cases rest with
    | nil => rfl
    | cons next rest =>
      have stops : digit? next = none := digit?_delimiter delimited rfl
      simp only [List.cons_append, List.nil_append, show digit? '0' = some 0 from rfl, stops]
      rfl
  · obtain ⟨first, others, written, notZero⟩ := Numeral.head_toDigits positive
    have isDigit : first.isDigit = true := decimal first (by rw [written]; exact List.mem_cons_self)
    have leading : first.toNat - '0'.toNat ≠ 0 := by
      intro zero
      have same := (Numeral.digitChar_of_isDigit isDigit).1
      rw [zero] at same
      exact notZero same.symm
    have within : Nat.ofDigitChars 10 (Nat.toDigits 10 value) 0 < Nat.pow 2 64 := by
      rw [Nat.ofDigitChars_ten_toDigits]
      exact small
    have read := digits_append decimal delimited 0 0 within
    rw [Nat.ofDigitChars_ten_toDigits] at read
    rw [written] at read ⊢
    unfold unsigned
    simp only [List.cons_append, digit?_of_isDigit isDigit] at read ⊢
    rw [read]
    simp only [skipDigits_delimited delimited]

/-- **An integer that structured text can hold reads back.** -/
theorem number_print {value : Int} (within : Number.InRange value) {rest : List Char}
    (delimited : Delimited rest) :
    number ((Number.integer value).print.toList ++ rest) = ⟨.ok (.integer value), .ok rest⟩ := by
  obtain ⟨low, high⟩ := within
  cases value with
  | ofNat natural =>
    have positive : number (Nat.toDigits 10 natural ++ rest) =
        unsigned false (Nat.toDigits 10 natural ++ rest) := by
      unfold number
      split
      · rename_i minus
        cases written : Nat.toDigits 10 natural with
        | nil => exact absurd written Nat.toDigits_ne_nil
        | cons first others =>
          have isDigit : first.isDigit = true :=
            isDigit_of_toDigits (by rw [written]; exact List.mem_cons_self)
          rw [written] at minus
          rw [(List.cons.inj minus).1] at isDigit
          exact absurd isDigit (by decide)
      · rfl
    have small : natural < Nat.pow 2 64 := Int.ofNat_lt.mp high
    rw [Number.print_ofNat, positive, unsigned_toDigits small delimited,
      (whole_delimited delimited _).1]
    rfl
  | negSucc natural =>
    have small : natural + 1 ≤ Nat.pow 2 63 := by omega
    rw [Number.print_negSucc, List.cons_append]
    show unsigned true (Nat.toDigits 10 (natural + 1) ++ rest) = _
    rw [unsigned_toDigits (small.trans_lt (by decide)) delimited,
      (whole_delimited delimited _).2 (Nat.succ_pos _) small]
    rfl

/-! ### Quoted texts -/

theorem hex?_hexDigit {digit : Nat} (small : digit < 16) : hex? (hexDigit digit) = some digit := by
  have all : ∀ digit : Fin 16, hex? (hexDigit digit) = some (digit : Nat) := by decide
  exact all ⟨digit, small⟩

/-- Four hexadecimal digits read back. -/
theorem hexUnit?_hexUnit {unit : Nat} (small : unit < 0x10000) (rest : List Char) :
    hexUnit? (hexUnit unit ++ rest) = .ok (unit, rest) := by
  have whole : unit / 4096 % 16 * 4096 + unit / 256 % 16 * 256 + unit / 16 % 16 * 16 + unit % 16 =
      unit := by omega
  unfold hexUnit hexUnit?
  simp only [List.cons_append, List.nil_append, hex?_hexDigit (Nat.mod_lt _ (by decide : 0 < 16)),
    whole]

/-- One character of a quoted text is read at a time. -/
theorem strictText_escapeChar (fuel : Nat) (read : List Char) (char : Char) (input : List Char) :
    strictText (fuel + 1) read (escapeChar char ++ input) = strictText fuel (char :: read) input := by
  unfold escapeChar
  split_ifs with quote slash back feed line carriage tab control
  all_goals try (subst_vars; rfl)
  · have small : char.toNat < 0x10000 := control.trans (by decide)
    have direct : escaped char.toNat input = .ok (char, input) := by
      unfold escaped
      rw [if_neg (by omega), if_neg (by omega), Char.ofNat_toNat]
    rw [List.append_assoc]
    show strictText (fuel + 1) read ('\\' :: 'u' :: (hexUnit char.toNat ++ input)) = _
    rw [strictText, hexUnit?_hexUnit small]
    simp only [direct]
  · rw [List.cons_append, List.nil_append]
    conv_lhs => unfold strictText
    split
    all_goals simp_all

/-- The characters of a quoted text read back up to the closing quote. -/
theorem strictText_print (chars read rest : List Char) {fuel : Nat} (enough : chars.length < fuel) :
    strictText fuel read (chars.flatMap escapeChar ++ '"' :: rest) =
      .ok (read.reverse ++ chars, rest) := by
  induction chars generalizing read fuel with
  | nil =>
    cases fuel with
    | zero => exact absurd enough (Nat.not_lt_zero _)
    | succ fuel => rw [List.append_nil]; rfl
  | cons char chars ih =>
    cases fuel with
    | zero => exact absurd enough (Nat.not_lt_zero _)
    | succ fuel =>
      rw [List.flatMap_cons, List.append_assoc, strictText_escapeChar,
        ih _ (Nat.lt_of_succ_lt_succ enough), List.reverse_cons, List.append_assoc]
      rfl

theorem escapeChar_ne_nil (char : Char) : 0 < (escapeChar char).length := by
  unfold escapeChar
  split_ifs <;> exact Nat.succ_pos _

theorem length_le_flatMap (chars : List Char) :
    chars.length ≤ (chars.flatMap escapeChar).length := by
  induction chars with
  | nil => exact Nat.le_refl _
  | cons char chars ih =>
    rw [List.flatMap_cons, List.length_append, List.length_cons]
    have := escapeChar_ne_nil char
    omega

/-- **A quoted text reads back.** -/
theorem text_print (value : String) (rest : List Char) :
    text (value.toList.flatMap escapeChar ++ '"' :: rest) = ⟨.ok value, .ok rest⟩ := by
  have enough : value.toList.length <
      (value.toList.flatMap escapeChar ++ '"' :: rest).length + 1 := by
    rw [List.length_append]
    have := length_le_flatMap value.toList
    omega
  unfold text
  simp only [strictText_print _ _ _ enough, List.reverse_nil, List.nil_append,
    String.ofList_toList]

end Lexeme

end Json

end ScriptKernel
