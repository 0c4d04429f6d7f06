/-
**Script text: sequences of sixteen-bit code units.**

A character beyond `U+FFFF` is a pair of surrogate units; a surrogate may also stand alone.

* `Units.ofString`: the code units of a text;
* `Units.toString?`: the text, if every surrogate is paired.
-/

set_option autoImplicit false

namespace ScriptKernel

/-- A sequence of code units. -/
structure Units where
  units : List Nat
  deriving DecidableEq, Repr, Inhabited

namespace Units

/-- The units of one character. -/
def ofChar (char : Char) : List Nat :=
  let code := char.toNat
  if code < 0x10000 then [code]
  else [0xD800 + (code - 0x10000) / 0x400, 0xDC00 + (code - 0x10000) % 0x400]

/-- The units of a list of characters. -/
def ofChars (chars : List Char) : Units := ⟨chars.flatMap ofChar⟩

/-- The units of a text. -/
def ofString (text : String) : Units := ofChars text.toList

instance : Append Units := ⟨fun first second => ⟨first.units ++ second.units⟩⟩

/-- Whether a unit is the first of a pair. -/
def isLeading (unit : Nat) : Bool := 0xD800 ≤ unit && unit < 0xDC00

/-- Whether a unit is the second of a pair. -/
def isTrailing (unit : Nat) : Bool := 0xDC00 ≤ unit && unit < 0xE000

/-- The character of a surrogate pair. -/
def pair (leading trailing : Nat) : Char :=
  Char.ofNat (0x10000 + (leading - 0xD800) * 0x400 + (trailing - 0xDC00))

/-- One step of reading: a character, or a surrogate that stands alone. -/
inductive Piece
  | char (char : Char)
  | lone (unit : Nat)
  deriving DecidableEq, Repr

/-- The characters and lone surrogates of a sequence of units. -/
def pieces : List Nat → List Piece
  | [] => []
  | [unit] => [if isLeading unit || isTrailing unit then .lone unit else .char (Char.ofNat unit)]
  | unit :: next :: rest =>
    if isLeading unit && isTrailing next then .char (pair unit next) :: pieces rest
    else if isLeading unit || isTrailing unit then .lone unit :: pieces (next :: rest)
    else .char (Char.ofNat unit) :: pieces (next :: rest)

/-- The characters, if no surrogate stands alone. -/
def toChars? (text : Units) : Option (List Char) :=
  (pieces text.units).mapM fun piece => match piece with
    | .char char => some char
    | .lone _ => none

/-- The text, if no surrogate stands alone. -/
def toString? (text : Units) : Option String := text.toChars?.map String.ofList

/-- The text, a lone surrogate shown as the replacement character. -/
def display (text : Units) : String :=
  String.ofList ((pieces text.units).map fun piece => match piece with
    | .char char => char
    | .lone _ => Char.ofNat 0xFFFD)

/-- The number of units. -/
def length (text : Units) : Nat := text.units.length

/-- The text of an array index: decimal digits, no leading zero, below `2 ^ 32 - 1`. -/
def index? (text : Units) : Option Nat :=
  match text.units with
  | [] => none
  | first :: rest =>
    if (first :: rest).length > 10 then none
    else if (first :: rest).all fun unit => 48 ≤ unit && unit ≤ 57 then
      let value := (first :: rest).foldl (fun total unit => total * 10 + (unit - 48)) 0
      if (first == 48 && !rest.isEmpty) || value ≥ 4294967295 then none else some value
    else none

end Units

end ScriptKernel
