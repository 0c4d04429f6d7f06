/-
**Numbers that read back.**

* `Number.Readable`: a number that is read from its own text, as every integer of sixty-four bits is;
* `Lexeme.Steady`: what stands behind a delimiter changes nothing about what is read before it;
* `Number.Readable.read`: a number that is read from its own text is read from it whatever delimiter follows.
-/

import ScriptKernel.Proofs.Json.Lexeme

set_option autoImplicit false

namespace ScriptKernel.Json

/-- **A number that is read from its own text.** Every integer of sixty-four bits is one; of the doubles those
are whose digits are not rounded to a neighbour on the way back. -/
def Number.Readable (value : Number) : Prop :=
  Lexeme.number value.print.toList = ⟨.ok value, .ok []⟩

deriving instance DecidableEq for Lexeme

instance (value : Number) : Decidable value.Readable :=
  inferInstanceAs (Decidable (_ = _))

theorem Number.InRange.readable {value : Int} (within : Number.InRange value) :
    (Number.integer value).Readable := by
  have nothing : Delimited [] := by simp [Delimited]
  have read := Lexeme.number_print within nothing
  rwa [List.append_nil] at read

namespace Lexeme

/-! ### Digits -/

/-- Digits are read alike whatever delimiter follows what there is. -/
theorem digits_rest {rest : List Char} (delimited : Delimited rest) (input : List Char)
    (value count : Nat) :
    digits (input ++ rest) value count =
      ((digits input value count).1, (digits input value count).2.1,
        (digits input value count).2.2 ++ rest) := by
  induction input generalizing value count with
  | nil =>
    cases rest with
    | nil => rfl
    | cons char rest => simp [digits, digit?_delimiter delimited rfl]
  | cons char input ih =>
    rw [List.cons_append, digits, digits]
    cases digit? char with
    | none => rfl
    | some digit =>
      dsimp only
      by_cases small : value * 10 + digit < Nat.pow 2 64
      · simp only [if_pos small, ih]
      · simp only [if_neg small, List.cons_append]

/-- Digits are skipped alike whatever delimiter follows what there is. -/
theorem skipDigits_rest {rest : List Char} (delimited : Delimited rest) (input : List Char)
    (count : Nat) :
    skipDigits (input ++ rest) count = ((skipDigits input count).1, (skipDigits input count).2 ++ rest) := by
  induction input generalizing count with
  | nil => rw [List.nil_append, skipDigits_delimited delimited]; rfl
  | cons char input ih =>
    rw [List.cons_append, skipDigits, skipDigits]
    by_cases decimal : (digit? char).isSome
    · simp only [if_pos decimal, ih]
    · simp only [if_neg decimal, List.cons_append]

theorem length_skipDigits (input : List Char) (count : Nat) :
    (skipDigits input count).2.length ≤ input.length := by
  induction input generalizing count with
  | nil => exact Nat.le_refl _
  | cons char input ih =>
    rw [skipDigits]
    by_cases decimal : (digit? char).isSome
    · rw [if_pos decimal]
      exact (ih _).trans (Nat.le_succ _)
    · rw [if_neg decimal]

/-! ### The parts of a number -/

/-- **A reader is steady**: what it reads it reads as well where a delimiter follows, up to the same place. -/
def Steady (reader : List Char → Lexeme Number) : Prop :=
  ∀ {input value after rest}, Delimited rest → reader input = ⟨.ok value, .ok after⟩ →
    reader (input ++ rest) = ⟨.ok value, .ok (after ++ rest)⟩

theorem scaled_steady (negative : Bool) (coefficient : Nat) (exponent : Int) :
    Steady (scaled negative coefficient exponent) := by
  intro input value after rest _ read
  unfold scaled at read ⊢
  cases found : scale negative coefficient exponent with
  | none => simp [found] at read
  | some double =>
    rw [found] at read
    cases read
    rfl

/-- The digits of an exponent, after its sign. -/
def exponentDigits (negative : Bool) (coefficient : Nat) (start : Int) (down : Bool)
    (input : List Char) : Lexeme Number :=
  match input with
  | [] => ⟨.error (flawAt .endOfValue []), .error (flawAt .invalidNumber [])⟩
  | char :: rest =>
    match digit? char with
    | none => broken (flawAt .invalidNumber rest)
    | some _ =>
      let (_, after) := skipDigits rest 0
      let value : Nat := ((char :: rest).take (rest.length + 1 - after.length)).foldl
        (fun total char => if total ≥ Nat.pow 2 31 then total else total * 10 + (char.toNat - 48)) 0
      if value ≥ Nat.pow 2 31 then
        if coefficient != 0 && !down then ⟨.error (flawAt .numberOutOfRange after), .ok after⟩
        else ⟨.ok (.double (.finite negative 0)), .ok after⟩
      else
        let power : Int := if down then start - (value : Int) else start + (value : Int)
        scaled negative coefficient power after

theorem exponentDigits_steady (negative : Bool) (coefficient : Nat) (start : Int) (down : Bool) :
    Steady (exponentDigits negative coefficient start down) := by
  intro input value after rest delimited read
  cases input with
  | nil => simp [exponentDigits] at read
  | cons char input =>
    unfold exponentDigits at read ⊢
    rw [List.cons_append]
    cases decimal : digit? char with
    | none => simp [decimal, broken] at read
    | some digit =>
      have shorter := length_skipDigits input 0
      have taken : (char :: (input ++ rest)).take
          ((input ++ rest).length + 1 - ((skipDigits input 0).2 ++ rest).length) =
            (char :: input).take (input.length + 1 - (skipDigits input 0).2.length) := by
        have count : (input ++ rest).length + 1 - ((skipDigits input 0).2 ++ rest).length =
            input.length + 1 - (skipDigits input 0).2.length := by
          simp only [List.length_append]
          omega
        rw [count, ← List.cons_append]
        exact List.take_append_of_le_length (by simp)
      simp only [decimal, skipDigits_rest delimited, taken] at read ⊢
      split_ifs at read ⊢
      · simp at read
      · cases read
        rfl
      · exact scaled_steady _ _ _ delimited read
      · exact scaled_steady _ _ _ delimited read

/-- Whether an exponent is negative, and what stands behind its sign. -/
def exponentSign : List Char → Bool × List Char
  | '+' :: rest => (false, rest)
  | '-' :: rest => (true, rest)
  | other => (false, other)

theorem exponent_eq (negative : Bool) (coefficient : Nat) (start : Int) (input : List Char) :
    exponent negative coefficient start input =
      exponentDigits negative coefficient start (exponentSign input).1 (exponentSign input).2 := by
  unfold exponent
  split
  next down others signed =>
    have found : exponentSign input = (down, others) := signed
    rw [found]
    rfl

theorem exponent_steady (negative : Bool) (coefficient : Nat) (start : Int) :
    Steady (exponent negative coefficient start) := by
  intro input value after rest delimited read
  rw [exponent_eq] at read ⊢
  have sign : input ≠ [] → exponentSign (input ++ rest) =
      ((exponentSign input).1, (exponentSign input).2 ++ rest) := by
    intro nonempty
    unfold exponentSign
    cases input with
    | nil => exact absurd rfl nonempty
    | cons char input =>
      by_cases plus : char = '+'
      · simp [plus]
      · by_cases minus : char = '-'
        · simp [minus]
        · simp [plus, minus]
  cases input with
  | nil => simp [exponentSign, exponentDigits] at read
  | cons char input =>
    rw [sign (List.cons_ne_nil _ _)]
    exact exponentDigits_steady _ _ _ _ delimited read

/-- What may follow the digits of a number, of which one letter goes on with an exponent. -/
def scaledOrExponent (negative : Bool) (coefficient : Nat) (start : Int) (input : List Char) :
    Lexeme Number :=
  match input with
  | 'e' :: after | 'E' :: after => exponent negative coefficient start after
  | _ => scaled negative coefficient start input

theorem scaledOrExponent_steady (negative : Bool) (coefficient : Nat) (start : Int) :
    Steady (scaledOrExponent negative coefficient start) := by
  intro input value after rest delimited read
  cases input with
  | nil =>
    have other : scaledOrExponent negative coefficient start rest =
        scaled negative coefficient start rest := by
      unfold scaledOrExponent
      split
      · exact absurd (delimited 'e' rfl) (by decide)
      · exact absurd (delimited 'E' rfl) (by decide)
      · rfl
    rw [List.nil_append, other]
    exact scaled_steady _ _ _ delimited read
  | cons char input =>
    by_cases small : char = 'e'
    · subst small
      exact exponent_steady _ _ _ delimited read
    · by_cases large : char = 'E'
      · subst large
        exact exponent_steady _ _ _ delimited read
      · have other : ∀ others, scaledOrExponent negative coefficient start (char :: others) =
            scaled negative coefficient start (char :: others) := by
          intro others
          simp [scaledOrExponent, small, large]
        rw [other] at read
        rw [List.cons_append, other]
        exact scaled_steady _ _ _ delimited read

theorem fraction_steady (negative : Bool) (coefficient : Nat) (start : Int) :
    Steady (fraction negative coefficient start) := by
  intro input value after rest delimited read
  unfold fraction at read ⊢
  simp only [digits_rest delimited, skipDigits_rest delimited] at read ⊢
  by_cases none : ((digits input coefficient 0).2.1 +
      (skipDigits (digits input coefficient 0).2.2 0).1 == 0) = true
  · rw [if_pos none] at read
    split at read <;> cases read
  · rw [if_neg none] at read ⊢
    exact scaledOrExponent_steady _ _ _ delimited read

/-- A number that ends behind its whole part. -/
def wholeAlone (negative : Bool) (coefficient dropped : Nat) (input : List Char) : Lexeme Number :=
  if dropped > 0 then scaled negative coefficient dropped input
  else if !negative then ⟨.ok (.integer coefficient), .ok input⟩
  else if coefficient = 0 ∨ coefficient > Nat.pow 2 63 then
    ⟨.ok (.double (Double.ofNat coefficient).neg), .ok input⟩
  else ⟨.ok (.integer (-(coefficient : Int))), .ok input⟩

theorem wholeAlone_steady (negative : Bool) (coefficient dropped : Nat) :
    Steady (wholeAlone negative coefficient dropped) := by
  intro input value after rest delimited read
  unfold wholeAlone at read ⊢
  split_ifs at read ⊢
  · exact scaled_steady _ _ _ delimited read
  · cases read
    rfl
  · cases read
    rfl
  · cases read
    rfl

theorem whole_steady (negative : Bool) (coefficient dropped : Nat) :
    Steady (whole negative coefficient dropped) := by
  intro input value after rest delimited read
  cases input with
  | nil =>
    have alone : whole negative coefficient dropped rest =
        wholeAlone negative coefficient dropped rest := by
      unfold whole
      split
      · exact absurd (delimited '.' rfl) (by decide)
      · exact absurd (delimited 'e' rfl) (by decide)
      · exact absurd (delimited 'E' rfl) (by decide)
      · rfl
    rw [List.nil_append, alone]
    exact wholeAlone_steady _ _ _ delimited read
  | cons char input =>
    by_cases point : char = '.'
    · subst point
      exact fraction_steady _ _ _ delimited read
    · by_cases small : char = 'e'
      · subst small
        exact exponent_steady _ _ _ delimited read
      · by_cases large : char = 'E'
        · subst large
          exact exponent_steady _ _ _ delimited read
        · have alone : ∀ others, whole negative coefficient dropped (char :: others) =
              wholeAlone negative coefficient dropped (char :: others) := by
            intro others
            simp [whole, wholeAlone, point, small, large]
          rw [alone] at read
          rw [List.cons_append, alone]
          exact wholeAlone_steady _ _ _ delimited read

theorem unsigned_steady (negative : Bool) : Steady (unsigned negative) := by
  intro input value after rest delimited read
  cases input with
  | nil => simp [unsigned] at read
  | cons char input =>
    unfold unsigned at read ⊢
    rw [List.cons_append]
    cases decimal : digit? char with
    | none => simp [decimal, broken] at read
    | some digit =>
      cases digit with
      | zero =>
        simp only [decimal] at read ⊢
        cases input with
        | nil =>
          have other : (whole negative 0 0 rest) = ⟨.ok value, .ok (after ++ rest)⟩ :=
            whole_steady _ _ _ delimited read
          cases rest with
          | nil => exact other
          | cons next rest => simpa [digit?_delimiter delimited rfl] using other
        | cons next input =>
          by_cases again : (digit? next).isSome
          · simp [again, broken] at read
          · simp only [List.cons_append, if_neg again] at read ⊢
            exact whole_steady _ _ _ delimited read
      | succ digit =>
        simp only [decimal, ← List.cons_append, digits_rest delimited, skipDigits_rest delimited]
          at read ⊢
        exact whole_steady _ _ _ delimited read

theorem number_steady : Steady number := by
  intro input value after rest delimited read
  cases input with
  | nil => simp [number, unsigned] at read
  | cons char input =>
    by_cases minus : char = '-'
    · subst minus
      exact unsigned_steady true delimited read
    · have plain : ∀ others, number (char :: others) = unsigned false (char :: others) := by
        intro others
        simp [number, minus]
      rw [plain] at read
      rw [List.cons_append, plain]
      exact unsigned_steady false delimited read

theorem digit?_of_not_isDigit {char : Char} (other : ¬char.isDigit = true) : digit? char = none := by
  unfold Char.isDigit at other
  simp only [Bool.and_eq_true, decide_eq_true_eq, ge_iff_le] at other
  exact if_neg other

/-- What is read as a number starts with a minus or a digit. -/
theorem numeric_of_number {input after : List Char} {value : Number}
    (read : number input = ⟨.ok value, .ok after⟩) :
    ∃ first others, input = first :: others ∧ (first = '-' ∨ first.isDigit = true) := by
  cases input with
  | nil => simp [number, unsigned] at read
  | cons char input =>
    refine ⟨char, input, rfl, ?_⟩
    by_cases minus : char = '-'
    · exact .inl minus
    · right
      by_contra other
      simp [number, minus, unsigned, digit?_of_not_isDigit other, broken] at read

end Lexeme

/-- **A number that is read from its own text is read from it whatever delimiter follows.** -/
theorem Number.Readable.read {value : Number} (readable : value.Readable) {rest : List Char}
    (delimited : Delimited rest) :
    Lexeme.number (value.print.toList ++ rest) = ⟨.ok value, .ok rest⟩ :=
  Lexeme.number_steady delimited readable

/-! ### Values -/

/-- **Every number of the value is read from its own text.** -/
inductive Readable : Json → Prop
  | null : Readable .null
  | boolean (value : Bool) : Readable (.boolean value)
  | number {value : Number} : value.Readable → Readable (.number value)
  | text (value : String) : Readable (.text value)
  | list {items : List Json} : (∀ item ∈ items, Readable item) → Readable (.list items)
  | members {entries : List (String × Json)} :
      (∀ entry ∈ entries, Readable entry.2) → Readable (.members entries)

theorem Integral.readable {value : Json} (integral : value.Integral) : value.Readable := by
  induction integral with
  | null => exact .null
  | boolean value => exact .boolean value
  | number within => exact .number within.readable
  | text value => exact .text value
  | list _ ih => exact .list ih
  | members _ ih => exact .members ih

end ScriptKernel.Json
