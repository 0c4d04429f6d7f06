/-
**Numbers and quoted text as they stand in structured text.**

A lexeme has a strict reading, its value or a flaw, and a loose one, which only skips it and forgives a
number out of range and a lone surrogate.

* `Lexeme.number`: the longest number at the front;
* `Lexeme.text`: quoted text after its opening quote.
-/

import ScriptKernel.Json.Flaw

set_option autoImplicit false

namespace ScriptKernel.Json

/-- The two readings of a lexeme, and what follows it when it is skipped. -/
structure Lexeme (α : Type) where
  strict : Except Flaw α
  loose : Except Flaw (List Char)

namespace Lexeme

/-- A flaw found before the remaining characters. -/
def flawAt (defect : Defect) (rest : List Char) : Flaw := ⟨defect, byteCount rest⟩

/-- A flaw found on looking at the next byte. -/
def flawPast (defect : Defect) (rest : List Char) : Flaw := ⟨defect, byteCount rest - 1⟩

/-- A lexeme with the same flaw in both readings. -/
def broken {α : Type} (flaw : Flaw) : Lexeme α := ⟨.error flaw, .error flaw⟩

/-! ### Numbers -/

/-- The value of a decimal digit. -/
def digit? (char : Char) : Option Nat :=
  if '0' ≤ char ∧ char ≤ '9' then some (char.toNat - 48) else none

/-- Reads digits into a coefficient while it stays below `2 ^ 64`; also the number of digits read. -/
def digits : List Char → Nat → Nat → Nat × Nat × List Char
  | [], value, count => (value, count, [])
  | char :: rest, value, count =>
    match digit? char with
    | some digit =>
      if value * 10 + digit < Nat.pow 2 64 then digits rest (value * 10 + digit) (count + 1)
      else (value, count, char :: rest)
    | none => (value, count, char :: rest)

/-- Skips digits, counting them. -/
def skipDigits : List Char → Nat → Nat × List Char
  | [], count => (count, [])
  | char :: rest, count =>
    if (digit? char).isSome then skipDigits rest (count + 1) else (count, char :: rest)

/-- The powers of ten up to `10 ^ 308`, each rounded to a double. -/
def powerOfTen (exponent : Nat) : Double := Double.ofDecimal false 1 exponent

/-- Divides by `10 ^ 308` until the exponent is within the powers of ten. -/
def descend : Nat → Double → Nat → Double × Nat
  | 0, value, exponent => (value, exponent)
  | steps + 1, value, exponent =>
    if exponent ≤ 308 || value.isZero then (value, exponent)
    else descend steps (value.div (powerOfTen 308)) (exponent - 308)

/-- A coefficient below `2 ^ 64` times a power of ten, in two rounded steps; none if out of range. -/
def scale (negative : Bool) (coefficient : Nat) (exponent : Int) : Option Double :=
  let start := Double.ofNat coefficient
  let value? : Option Double :=
    if exponent ≥ 0 then
      if exponent > 308 then (if start.isZero then some start else none)
      else
        let value := start.mul (powerOfTen exponent.natAbs)
        if value.isFinite then some value else none
    else
      let (value, rest) := descend 4 start exponent.natAbs
      if value.isZero then some value else some (value.div (powerOfTen rest))
  value?.map fun value => if negative then value.neg else value

/-- The double with its flaw if it is out of range. -/
def scaled (negative : Bool) (coefficient : Nat) (exponent : Int) (rest : List Char) :
    Lexeme Number :=
  match scale negative coefficient exponent with
  | some value => ⟨.ok (.double value), .ok rest⟩
  | none => ⟨.error (flawAt .numberOutOfRange rest), .ok rest⟩

/-- The exponent part, after its letter. -/
def exponent (negative : Bool) (coefficient : Nat) (start : Int) (input : List Char) :
    Lexeme Number :=
  let (down, input) := match input with
    | '+' :: rest => (false, rest)
    | '-' :: rest => (true, rest)
    | other => (false, other)
  match input with
  | [] => ⟨.error (flawAt .endOfValue []), .error (flawAt .invalidNumber [])⟩
  | char :: rest =>
    match digit? char with
    | none => broken (flawAt .invalidNumber rest)
    | some _ =>
      let (_, after) := skipDigits rest 0
      let value : Nat := ((char :: rest).take (rest.length + 1 - after.length)).foldl
        (fun total char => if total ≥ Nat.pow 2 31 then total else total * 10 + (char.toNat - 48)) 0
      if value ≥ Nat.pow 2 31 then
        if coefficient != 0 && !down then ⟨.error (flawAt .numberOutOfRange after), .ok after⟩
        else ⟨.ok (.double (.finite negative 0)), .ok after⟩
      else
        let power : Int := if down then start - (value : Int) else start + (value : Int)
        scaled negative coefficient power after

/-- The fraction part, after its point. -/
def fraction (negative : Bool) (coefficient : Nat) (start : Int) (input : List Char) :
    Lexeme Number :=
  let (value, count, rest) := digits input coefficient 0
  let (dropped, rest) := skipDigits rest 0
  if count + dropped == 0 then
    match rest with
    | [] => ⟨.error (flawAt .endOfValue []), .error (flawPast .invalidNumber [])⟩
    | _ => broken (flawPast .invalidNumber rest)
  else
    match rest with
    | 'e' :: after | 'E' :: after => exponent negative value (start - count) after
    | _ => scaled negative value (start - count) rest

/-- A number whose whole part has been read. -/
def whole (negative : Bool) (coefficient : Nat) (dropped : Nat) (input : List Char) :
    Lexeme Number :=
  match input with
  | '.' :: rest => fraction negative coefficient dropped rest
  | 'e' :: rest | 'E' :: rest => exponent negative coefficient dropped rest
  | _ =>
    if dropped > 0 then scaled negative coefficient dropped input
    else if !negative then ⟨.ok (.integer coefficient), .ok input⟩
    else if coefficient = 0 ∨ coefficient > Nat.pow 2 63 then
      ⟨.ok (.double (Double.ofNat coefficient).neg), .ok input⟩
    else ⟨.ok (.integer (-(coefficient : Int))), .ok input⟩

/-- A number after its sign. -/
def unsigned (negative : Bool) (input : List Char) : Lexeme Number :=
  match input with
  | [] => ⟨.error (flawAt .endOfValue []), .error (flawAt .invalidNumber [])⟩
  | char :: rest =>
    match digit? char with
    | none => broken (flawAt .invalidNumber rest)
    | some 0 =>
      match rest with
      | next :: _ =>
        if (digit? next).isSome then broken (flawPast .invalidNumber rest)
        else whole negative 0 0 rest
      | [] => whole negative 0 0 []
    | some _ =>
      let (value, _, after) := digits (char :: rest) 0 0
      let (dropped, after) := skipDigits after 0
      whole negative value dropped after

/-- The number at the front of the input. -/
def number (input : List Char) : Lexeme Number :=
  match input with
  | '-' :: rest => unsigned true rest
  | _ => unsigned false input

/-! ### Quoted text -/

/-- The value of a hexadecimal digit. -/
def hex? (char : Char) : Option Nat :=
  if '0' ≤ char ∧ char ≤ '9' then some (char.toNat - 48)
  else if 'a' ≤ char ∧ char ≤ 'f' then some (char.toNat - 87)
  else if 'A' ≤ char ∧ char ≤ 'F' then some (char.toNat - 55)
  else none

/-- The flaw of what should be four hexadecimal digits: four bytes are taken, if there are as many. -/
def hexFlaw (input : List Char) : Flaw :=
  if byteCount input < 4 then ⟨.endOfText, 0⟩ else ⟨.invalidEscape, byteCount input - 4⟩

/-- Four hexadecimal digits. -/
def hexUnit? (input : List Char) : Except Flaw (Nat × List Char) :=
  match input with
  | first :: second :: third :: fourth :: rest =>
    match hex? first, hex? second, hex? third, hex? fourth with
    | some a, some b, some c, some d => .ok (a * 4096 + b * 256 + c * 16 + d, rest)
    | _, _, _, _ => .error (hexFlaw input)
  | _ => .error (hexFlaw input)

/-- The character of a short escape. -/
def shortEscape? (char : Char) : Option Char :=
  if char = '"' ∨ char = '\\' ∨ char = '/' then some char
  else if char = 'b' then some '\x08'
  else if char = 'f' then some '\x0c'
  else if char = 'n' then some '\n'
  else if char = 'r' then some '\r'
  else if char = 't' then some '\t'
  else none

/-- What a four-digit escape stands for, given what follows it: a character, or a flaw. -/
def escaped (unit : Nat) (rest : List Char) : Except Flaw (Char × List Char) :=
  if 0xDC00 ≤ unit ∧ unit < 0xE000 then .error (flawAt .loneSurrogate rest)
  else if 0xD800 ≤ unit ∧ unit < 0xDC00 then
    match rest with
    | '\\' :: 'u' :: after =>
      match hexUnit? after with
      | .error flaw => .error flaw
      | .ok (second, after) =>
        if 0xDC00 ≤ second ∧ second < 0xE000 then
          .ok (Char.ofNat (0x10000 + (unit - 0xD800) * 0x400 + (second - 0xDC00)), after)
        else .error (flawAt .loneSurrogate after)
    | '\\' :: [] => .error (flawAt .endOfText [])
    | '\\' :: other => .error (flawPast .escapeCutShort other)
    | other@(_ :: _) => .error (flawPast .escapeCutShort other)
    | [] => .error (flawAt .endOfText [])
  else .ok (Char.ofNat unit, rest)

/-- The strict reading of quoted text: its characters and what follows the closing quote. -/
def strictText : Nat → List Char → List Char → Except Flaw (List Char × List Char)
  | 0, _, input => .error (flawAt .endOfText input)
  | fuel + 1, read, input =>
    match input with
    | [] => .error (flawAt .endOfText [])
    | '"' :: rest => .ok (read.reverse, rest)
    | '\\' :: [] => .error (flawAt .endOfText [])
    | '\\' :: 'u' :: rest =>
      match hexUnit? rest with
      | .error flaw => .error flaw
      | .ok (unit, after) =>
        match escaped unit after with
        | .error flaw => .error flaw
        | .ok (char, after) => strictText fuel (char :: read) after
    | '\\' :: char :: rest =>
      match shortEscape? char with
      | some char => strictText fuel (char :: read) rest
      | none => .error (flawPast .invalidEscape (char :: rest))
    | char :: rest =>
      if char.toNat < 32 then .error (flawAt .controlCharacter rest)
      else strictText fuel (char :: read) rest

/-- The loose reading of quoted text: what follows the closing quote. -/
def looseText : Nat → List Char → Except Flaw (List Char)
  | 0, input => .error (flawAt .endOfText input)
  | fuel + 1, input =>
    match input with
    | [] => .error (flawAt .endOfText [])
    | '"' :: rest => .ok rest
    | '\\' :: [] => .error (flawAt .endOfText [])
    | '\\' :: 'u' :: rest =>
      match hexUnit? rest with
      | .error flaw => .error flaw
      | .ok (_, after) => looseText fuel after
    | '\\' :: char :: rest =>
      match shortEscape? char with
      | some _ => looseText fuel rest
      | none => .error (flawPast .invalidEscape (char :: rest))
    | char :: rest =>
      if char.toNat < 32 then .error (flawAt .controlCharacter rest) else looseText fuel rest

/-- Quoted text after its opening quote. -/
def text (input : List Char) : Lexeme String :=
  let fuel := input.length + 1
  match strictText fuel [] input with
  | .ok (chars, rest) => ⟨.ok (String.ofList chars), .ok rest⟩
  | .error flaw => ⟨.error flaw, looseText fuel input⟩

end Lexeme

end ScriptKernel.Json
