/-
**What the message of an error keeps.**

* `clipped`: as much of a message as fits into 255 bytes; a character that is cut shows as the replacement
  character;
* `shownName`: a name as a message shows it: one beyond ASCII is cut once it has taken 58 bytes, and nothing
  is shown from a NUL on.
-/

import ScriptKernel.Text.Units

set_option autoImplicit false

namespace ScriptKernel.Script

/-- The bytes a unit takes up on its own. -/
def unitSize (unit : Nat) : Nat := if unit < 0x80 then 1 else if unit < 0x800 then 2 else 3

/-- The pieces of a message that fit into so many bytes. -/
def clippedPieces : Nat → List Units.Piece → List Nat
  | _, [] => []
  | 0, _ => []
  | room, .char char :: rest =>
    if char.utf8Size ≤ room then Units.ofChar char ++ clippedPieces (room - char.utf8Size) rest
    else [0xFFFD]
  | room, .lone unit :: rest =>
    if unitSize unit ≤ room then unit :: clippedPieces (room - unitSize unit) rest
    else [0xFFFD]

/-- What the message of an error keeps. -/
def clipped (message : Units) : Units := ⟨clippedPieces 255 (Units.pieces message.units)⟩

/-- The first units of a name, until fifty-eight bytes are reached. -/
def shortenName : Nat → List Nat → List Nat
  | _, [] => []
  | size, unit :: rest =>
    if size ≥ 58 then [] else unit :: shortenName (size + unitSize unit) rest

/-- A name as a message shows it. -/
def shownName (name : Units) : Units :=
  let shown := name.units.takeWhile (· != 0)
  if name.units.all (· < 0x80) then ⟨shown⟩ else ⟨shortenName 0 shown⟩

/-- A message with a name in it. -/
def messageAbout (before : String) (name : Units) (behind : String) : Units :=
  clipped (Units.ofString before ++ shownName name ++ Units.ofString behind)

end ScriptKernel.Script
