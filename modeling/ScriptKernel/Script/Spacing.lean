/-
**What stands between the words of a script.**

Blanks and comments only leave a note whether a line ended, and how many lines have passed. A comment may
also be written as a markup comment: `<!--` starts one anywhere, `-->` only where nothing but blanks and
comments stands before it on its line.

* `endsLine`, `isSpace`: the characters that end a line, and all that count as blank;
* `Gap.skip`: the characters behind blanks and comments.
-/

import ScriptKernel.Script.Complaint

set_option autoImplicit false

namespace ScriptKernel.Script

/-- Whether a character ends a line. -/
def endsLine (char : Char) : Bool :=
  char == '\n' || char == '\r' || char == '\u2028' || char == '\u2029'

/-- Whether a character is blank, or ends a line. -/
def isSpace (char : Char) : Bool :=
  let code := char.toNat
  (9 ≤ code && code ≤ 13) || code == 0x20 || code == 0xA0 || code == 0x1680 ||
    (0x2000 ≤ code && code ≤ 0x200A) || code == 0x2028 || code == 0x2029 || code == 0x202F ||
    code == 0x205F || code == 0x3000 || code == 0xFEFF

/-- The characters without the blank ones at either end. -/
def trimSpace (chars : List Char) : List Char :=
  ((chars.dropWhile isSpace).reverse.dropWhile isSpace).reverse

/-- What has been skipped: whether a line ended, the line reached, and the characters that follow. -/
structure Gap where
  afterLine : Bool
  line : Nat
  rest : List Char

namespace Gap

/-- What is being skipped. -/
inductive Mode
  | blanks
  | line
  | comment

/-- Skips blanks and comments behind a word that starts on a line. Only a line feed counts a line in a
comment, and a line separator that ends a comment goes with it. -/
def skip (wordLine : Nat) : Mode → Bool → Nat → List Char → Except Complaint Gap
  | .blanks, afterLine, line, '/' :: '/' :: rest => skip wordLine .line afterLine line rest
  | .blanks, afterLine, line, '/' :: '*' :: rest => skip wordLine .comment afterLine line rest
  | .blanks, afterLine, line, '<' :: '!' :: '-' :: '-' :: rest =>
    skip wordLine .line afterLine line rest
  | .blanks, afterLine, line, '-' :: '-' :: '>' :: rest =>
    if line = wordLine then .ok ⟨afterLine, line, '-' :: '-' :: '>' :: rest⟩
    else skip wordLine .line afterLine line rest
  | .blanks, _, line, '\r' :: '\n' :: rest => skip wordLine .blanks true (line + 1) rest
  | .blanks, afterLine, line, char :: rest =>
    if endsLine char then skip wordLine .blanks true (line + 1) rest
    else if isSpace char then skip wordLine .blanks afterLine line rest
    else .ok ⟨afterLine, line, char :: rest⟩
  | .line, _, line, '\r' :: '\n' :: rest => skip wordLine .blanks true (line + 1) rest
  | .line, afterLine, line, char :: rest =>
    if char == '\n' || char == '\r' then skip wordLine .blanks true (line + 1) rest
    else if endsLine char then skip wordLine .blanks afterLine line rest
    else skip wordLine .line afterLine line rest
  | .comment, afterLine, line, '*' :: '/' :: rest => skip wordLine .blanks afterLine line rest
  | .comment, afterLine, line, char :: rest =>
    skip wordLine .comment (afterLine || endsLine char) (if char == '\n' then line + 1 else line) rest
  | .comment, _, _, [] => .error .unclosedComment
  | _, afterLine, line, [] => .ok ⟨afterLine, line, []⟩

end Gap

/-- The characters behind the first line, with what ends it, if that line names an interpreter. -/
def skipInterpreterLine : List Char → List Char
  | '#' :: '!' :: rest =>
    match rest.dropWhile fun char => !endsLine char with
    | char :: behind => if char == '\n' || char == '\r' then char :: behind else behind
    | [] => []
  | input => input

end ScriptKernel.Script
