/-
**Characters written behind a backslash.**

* `escapedCode`: a code written in hexadecimal digits;
* `escape`: what a backslash in a text and the characters behind it stand for; reading one takes at least one
  character (`escape_shorter`).
-/

import ScriptKernel.Script.Numeral

set_option autoImplicit false

namespace ScriptKernel.Script

open Numeral (takeDigits valueOf)

/-- The code written in so many hexadecimal digits, or in any number of them in braces. -/
def escapedCode (count : Nat) (input : List Char) : Option (Nat × List Char) :=
  match input with
  | '\x7b' :: rest =>
    match takeDigits 16 false rest with
    | (digit :: digits, '\x7d' :: behind) =>
      let code := valueOf 16 (digit :: digits)
      if code ≤ 0x10FFFF then some (code, behind) else none
    | _ => none
  | _ =>
    let digits := (takeDigits 16 false (input.take count)).1
    if digits.length = count then some (valueOf 16 digits, input.drop count) else none

/-- The units of a code, which may be that of a surrogate. -/
def codeUnits (code : Nat) : List Nat :=
  if code < 0x10000 then [code] else Units.ofChar (Char.ofNat code)

/-- A code below 256 written in up to three octal digits, of which the first has been read. -/
def octalCode (first : Nat) (input : List Char) : Nat × List Char :=
  match input with
  | [] => (first, [])
  | second :: rest =>
    match digit? 8 second with
    | none => (first, second :: rest)
    | some value =>
      let both := first * 8 + value
      if first ≥ 4 then (both, rest)
      else match rest with
        | [] => (both, [])
        | third :: behind =>
          match digit? 8 third with
          | some last => (both * 8 + last, behind)
          | none => (both, third :: behind)

/-- What stands for an escape: units, how many lines it counts, and what follows it. -/
abbrev Escaped : Type := List Nat × Nat × List Char

/-- A digit behind a backslash. -/
def escapedDigit (strict : Bool) (char : Char) (rest : List Char) : Except Complaint Escaped :=
  if strict then
    if char == '0' && !Numeral.startsDigit 10 rest then .ok ([0], 0, rest)
    else if char == '8' || char == '9' then .error .malformedEscape
    else .error .octalEscape
  else match digit? 8 char with
    | some first =>
      let (code, behind) := octalCode first rest
      .ok ([code], 0, behind)
    | none => .ok (Units.ofChar char, 0, rest)

/-- A code behind a backslash and a letter. -/
def escapedLetter (count : Nat) (rest : List Char) : Except Complaint Escaped :=
  match escapedCode count rest with
  | some (code, behind) => .ok (codeUnits code, 0, behind)
  | none => .error .malformedEscape

/-- What a backslash and the characters behind it stand for. -/
def escape (strict : Bool) (input : List Char) : Except Complaint Escaped :=
  match input with
  | [] => .error .unclosedText
  | '\r' :: '\n' :: rest => .ok ([], 1, rest)
  | char :: rest =>
    if endsLine char then .ok ([], if char == '\n' || char == '\r' then 1 else 0, rest)
    else if char.isDigit then escapedDigit strict char rest
    else match char with
      | 'x' => escapedLetter 2 rest
      | 'u' => escapedLetter 4 rest
      | 'b' => .ok ([8], 0, rest)
      | 'f' => .ok ([12], 0, rest)
      | 'n' => .ok ([10], 0, rest)
      | 'r' => .ok ([13], 0, rest)
      | 't' => .ok ([9], 0, rest)
      | 'v' => .ok ([11], 0, rest)
      | _ => .ok (Units.ofChar char, 0, rest)

/-! ### Reading takes characters -/

theorem takeDigits_length (base : Nat) (separators : Bool) (input : List Char) :
    (takeDigits base separators input).2.length ≤ input.length := by
  induction input with
  | nil => simp [takeDigits]
  | cons char rest ih =>
    simp only [takeDigits, List.length_cons]
    split
    · exact Nat.le_succ_of_le ih
    · split
      · exact Nat.le_succ_of_le ih
      · simp

theorem escapedCode_length {count code : Nat} {input behind : List Char}
    (read : escapedCode count input = some (code, behind)) : behind.length ≤ input.length := by
  unfold escapedCode at read
  split at read
  · split at read
    · rename_i rest _ _ _ _ taken
      have shorter := takeDigits_length 16 false rest
      simp only [taken, List.length_cons] at shorter
      simp only at read
      split at read
      · cases read
        simp only [List.length_cons]
        omega
      · cases read
    · cases read
  · simp only at read
    split at read
    · cases read
      simp
    · cases read

theorem octalCode_length (first : Nat) (input : List Char) :
    (octalCode first input).2.length ≤ input.length := by
  unfold octalCode
  split
  · simp
  · split
    · simp
    · simp only
      split
      · simp
      · split
        · simp
        · split <;> (simp only [List.length_cons]; omega)

theorem escapedDigit_length {strict : Bool} {char : Char} {rest : List Char} {read : Escaped}
    (taken : escapedDigit strict char rest = .ok read) : read.2.2.length ≤ rest.length := by
  unfold escapedDigit at taken
  split at taken
  · split at taken
    · cases taken; simp
    · split at taken <;> cases taken
  · split at taken
    · cases taken; exact octalCode_length _ _
    · cases taken; simp

theorem escapedLetter_length {count : Nat} {rest : List Char} {read : Escaped}
    (taken : escapedLetter count rest = .ok read) : read.2.2.length ≤ rest.length := by
  unfold escapedLetter at taken
  split at taken
  · rename_i found
    cases taken
    exact escapedCode_length found
  · cases taken

/-- Reading what stands behind a backslash takes at least one character. -/
theorem escape_shorter {strict : Bool} {input : List Char} {read : Escaped}
    (taken : escape strict input = .ok read) : read.2.2.length < input.length := by
  unfold escape at taken
  split at taken
  · cases taken
  · cases taken
    exact Nat.lt_succ_of_lt (Nat.lt_succ_self _)
  · split at taken
    · cases taken; simp
    · split at taken
      · have := escapedDigit_length taken; simp; omega
      · split at taken
        · have := escapedLetter_length taken; simp; omega
        · have := escapedLetter_length taken; simp; omega
        all_goals (cases taken; simp)

end ScriptKernel.Script
