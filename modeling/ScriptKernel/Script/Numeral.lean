/-
**Numbers as scripts write them.**

* `Numeral`: a number, or a big integer;
* `Numeral.Style`: what may be written: more in a script than in a text that is made a number;
* `Numeral.read`: the numeral in front of some characters, and what follows it;
* `Numeral.ofText`, `Numeral.wholeOfText`: what a text as a whole stands for.
-/

import ScriptKernel.Number.Double
import ScriptKernel.Script.Spacing

set_option autoImplicit false

namespace ScriptKernel.Script

/-- A number, or a big integer. -/
inductive Numeral
  | number (value : Double)
  | whole (value : Int)
  deriving DecidableEq, Repr, Inhabited

/-- The value of a digit in a base up to sixteen. -/
def digit? (base : Nat) (char : Char) : Option Nat :=
  let value? :=
    if '0' ≤ char ∧ char ≤ '9' then some (char.toNat - 48)
    else if 'a' ≤ char ∧ char ≤ 'f' then some (char.toNat - 87)
    else if 'A' ≤ char ∧ char ≤ 'F' then some (char.toNat - 55)
    else none
  value?.bind fun value => if value < base then some value else none

namespace Numeral

/-- What may be written in a numeral. -/
structure Style where
  /-- Digits may be set apart by `_`. -/
  separators : Bool
  /-- A zero in front of other digits makes them octal. -/
  octals : Bool
  /-- An `n` behind the digits makes a big integer. -/
  suffix : Bool
  /-- Neither a fraction nor an exponent follows, and the value is a big integer. -/
  whole : Bool

namespace Style

/-- Numbers in a script. -/
def script : Style := ⟨true, true, true, false⟩

/-- Texts that are made numbers. -/
def text : Style := ⟨false, false, false, false⟩

/-- Texts that are made big integers. -/
def wholeText : Style := ⟨false, false, false, true⟩

end Style

/-! ### Digits -/

/-- Whether a digit stands in front. -/
def startsDigit (base : Nat) : List Char → Bool
  | char :: _ => (digit? base char).isSome
  | [] => false

/-- The digits in front, and what follows them; a separator has to stand between two digits. -/
def takeDigits (base : Nat) (separators : Bool) : List Char → List Nat × List Char
  | [] => ([], [])
  | char :: rest =>
    match digit? base char with
    | some digit =>
      let (digits, behind) := takeDigits base separators rest
      (digit :: digits, behind)
    | none =>
      if separators && char == '_' && startsDigit base rest then takeDigits base separators rest
      else ([], char :: rest)

/-- The value of digits. -/
def valueOf (base : Nat) (digits : List Nat) : Nat :=
  digits.foldl (fun value digit => value * base + digit) 0

/-- The number of digits in a base that is a power of two: as many as fit into a word are summed, and each
one more only moves the sum up. -/
def coarse (base : Nat) (digits : List Nat) : Double :=
  let most := (Nat.pow 2 64 - base) / base
  let (sum, moved) := digits.foldl
    (fun (sum, moved) digit =>
      if sum ≤ most then (sum * base + digit, moved) else (sum, moved + 1)) (0, 0)
  (Double.ofNat sum).mul (Double.ofNat (Nat.pow base moved))

/-! ### The parts of a numeral -/

/-- How the digits of a numeral start. -/
structure Start where
  base : Nat
  separators : Bool
  /-- Whether a zero stands in front of other digits. -/
  zeroed : Bool := false
  rest : List Char

/-- Whether the first digit behind octal ones is an eight or a nine. -/
def isDecimalBehind (input : List Char) : Bool :=
  match input.dropWhile fun char => (digit? 8 char).isSome with
  | char :: _ => char == '8' || char == '9'
  | [] => false

/-- The base the first characters tell; none if a digit has to follow them and does not. -/
def start (style : Style) (input : List Char) : Option Start :=
  let based (base : Nat) (rest : List Char) : Option Start :=
    if startsDigit base rest then some { base, separators := style.separators, rest } else none
  match input with
  | '0' :: mark :: rest =>
    if mark == 'x' || mark == 'X' then based 16 rest
    else if mark == 'o' || mark == 'O' then based 8 rest
    else if mark == 'b' || mark == 'B' then based 2 rest
    else if style.octals && mark.isDigit then
      if isDecimalBehind (mark :: rest) then
        some { base := 10, separators := false, zeroed := true, rest := input }
      else some { base := 8, separators := false, zeroed := true, rest := mark :: rest }
    else some { base := 10, separators := style.separators && mark != '_', rest := input }
  | _ => some { base := 10, separators := style.separators, rest := input }

/-- The digits behind a point, if there is one; it does not count where no digit stands at either side, and
nothing can be read where a separator follows it. -/
def takePlaces (start : Start) (isFirst : Bool) (input : List Char) :
    Option (Option (List Nat) × List Char) :=
  match input with
  | '.' :: rest =>
    if isFirst && !startsDigit start.base rest then some (none, input)
    else if start.separators && rest.head? == some '_' then none
    else
      let (places, behind) := takeDigits start.base start.separators rest
      some (some places, behind)
  | _ => some (none, input)

/-- Whether a letter starts an exponent. -/
def marksExponent (base : Nat) (char : Char) : Bool :=
  if base = 10 then char == 'e' || char == 'E' else char == 'p' || char == 'P'

/-- The exponent, if there is one. -/
def takeExponent (start : Start) (input : List Char) : Option Int × List Char :=
  match input with
  | mark :: rest =>
    if marksExponent start.base mark then
      let (negative, digits) := match rest with
        | '-' :: digits => (true, digits)
        | '+' :: digits => (false, digits)
        | digits => (false, digits)
      if startsDigit 10 digits then
        let (exponent, behind) := takeDigits 10 start.separators digits
        let size := valueOf 10 exponent
        (some (if negative then -(size : Int) else size), behind)
      else (none, input)
    else (none, input)
  | [] => (none, [])

/-- The number of digits, places and an exponent; only the base ten heeds what stands behind a point. -/
def assemble (base : Nat) (digits places : List Nat) (exponent : Int) : Double :=
  if base = 10 then
    Double.ofDecimal false (valueOf 10 (digits ++ places)) (exponent - places.length)
  else coarse base digits

/-- The numeral whose digits start so, and what follows it. -/
def readFrom (style : Style) (start : Start) : Option (Numeral × List Char) := do
  let (digits, rest) := takeDigits start.base start.separators start.rest
  if style.whole then
    if digits.isEmpty then none else return (.whole (valueOf start.base digits), rest)
  else
    let (places, rest) ← takePlaces start digits.isEmpty rest
    if digits.isEmpty && places.isNone then none
    else
      let (exponent, rest) := takeExponent start rest
      match style.suffix, rest with
      | true, 'n' :: behind =>
        if start.zeroed || places.isSome || exponent.isSome then none
        else return (.whole (valueOf start.base digits), behind)
      | _, _ =>
        return (.number (assemble start.base digits (places.getD []) (exponent.getD 0)), rest)

/-- The numeral in front, and what follows it. -/
def read (style : Style) (input : List Char) : Option (Numeral × List Char) :=
  (start style input).bind (readFrom style)

/-! ### Texts -/

/-- The numeral that takes up all the characters; without a mark of another base if a sign was in front. -/
def readAll (style : Style) (signed : Bool) (input : List Char) : Option Numeral :=
  let read? :=
    if signed then readFrom style { base := 10, separators := style.separators, rest := input }
    else read style input
  match read? with
  | some (numeral, []) => some numeral
  | _ => none

/-- The number of characters without a sign; `Infinity` is one. -/
def unsigned (signed : Bool) (input : List Char) : Double :=
  if input = "Infinity".toList then .infinite false
  else match readAll .text signed input with
    | some (.number value) => value
    | _ => .nan

/-- The number a text stands for. -/
def ofText (text : Units) : Double :=
  match trimSpace text.display.toList with
  | [] => .finite false 0
  | '-' :: rest => (unsigned true rest).neg
  | '+' :: rest => unsigned true rest
  | input => unsigned false input

/-- The big integer of characters without a sign. -/
def wholeUnsigned (signed : Bool) (input : List Char) : Option Int :=
  match readAll .wholeText signed input with
  | some (.whole value) => some value
  | _ => none

/-- The big integer a text stands for, if it stands for one. -/
def wholeOfText (text : Units) : Option Int :=
  match trimSpace text.display.toList with
  | [] => some 0
  | '-' :: rest => (wholeUnsigned true rest).map fun value => -value
  | '+' :: rest => wholeUnsigned true rest
  | input => wholeUnsigned false input

end Numeral

end ScriptKernel.Script
