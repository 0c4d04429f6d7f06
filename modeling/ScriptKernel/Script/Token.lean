/-
**The words of a script.**

A source is read token by token, as the parser asks for them: what a number or a text may look like hangs on
whether the code around it is strict.

* `Token`: a name, a number, a text, a mark or the end, with its place in the source;
* `Token.next`: the token behind another one, or what is wrong with it;
* `Token.word?`: whether a name is a keyword.
-/

import ScriptKernel.Script.Escape
import ScriptKernel.Text.Letter

set_option autoImplicit false

namespace ScriptKernel.Script

/-- What a token is. -/
inductive Token.Kind
  /-- A name, and whether it is written with an escape. -/
  | name (name : String) (escaped : Bool)
  | privateName
  | number (value : Double)
  | bigint (value : Int)
  | text (value : Units)
  | mark (mark : String)
  | ending
  deriving DecidableEq, Repr, Inhabited

/-- A token and its place: the source from its first character and from behind its last, and the lines these
are on. -/
structure Token where
  kind : Token.Kind
  /-- Whether a line ended before it. -/
  afterLine : Bool
  line : Nat
  start : List Char
  lastLine : Nat
  after : List Char
  deriving Inhabited

namespace Token

/-- The characters of a token. -/
def source (token : Token) : String :=
  String.ofList (token.start.take (token.start.length - token.after.length))

/-! ### Names -/

/-- Whether a name may start with a character. -/
def startsName (char : Char) : Bool := char == '_' || char == '$' || startsWord char

/-- Whether a name may go on with a character. -/
def followsName (char : Char) : Bool :=
  char == '_' || char == '$' || followsWord char || char == '\u200C' || char == '\u200D'

/-- The rest of a name, whether an escape stands in it or behind it, and what follows. -/
def takeName : List Char → List Char × Bool × List Char
  | [] => ([], false, [])
  | '\\' :: 'u' :: rest =>
    match taken : escapedCode 4 rest with
    | some (code, behind) =>
      have : behind.length < rest.length + 1 + 1 := by have := escapedCode_length taken; omega
      if followsName (Char.ofNat code) then
        let (name, _, follows) := takeName behind
        (Char.ofNat code :: name, true, follows)
      else ([], true, '\\' :: 'u' :: rest)
    | none => ([], true, '\\' :: 'u' :: rest)
  | char :: rest =>
    if followsName char then
      let (name, escaped, follows) := takeName rest
      (char :: name, escaped, follows)
    else ([], false, char :: rest)
termination_by input => input.length

/-- The words that name nothing in any code. -/
def keywords : List String :=
  ["null", "false", "true", "if", "else", "return", "var", "this", "delete", "void", "typeof", "new",
    "in", "instanceof", "do", "while", "for", "break", "continue", "switch", "case", "default",
    "throw", "try", "catch", "finally", "function", "debugger", "with", "class", "const", "enum",
    "export", "extends", "import", "super"]

/-- The words that name nothing in strict code. -/
def strictKeywords : List String :=
  ["implements", "interface", "let", "package", "private", "protected", "public", "static", "yield"]

/-- Whether a word is reserved. -/
def isReserved (strict : Bool) (word : String) : Bool :=
  keywords.contains word || (strict && strictKeywords.contains word)

/-- What a name counts as. -/
inductive Word
  | keyword (word : String)
  /-- A name that can be bound. -/
  | identifier (name : String)
  /-- A reserved word written with an escape. -/
  | disguised (word : String)
  deriving DecidableEq, Repr

/-- What a token counts as, if it is a name. -/
def word? (strict : Bool) (token : Token) : Option Word :=
  match token.kind with
  | .name name escaped =>
    some (if isReserved strict name then (if escaped then .disguised name else .keyword name)
      else .identifier name)
  | _ => none

/-! ### Texts and marks -/

/-- The rest of a text up to its closing quote, and how many lines it counts. -/
def takeText (quote : Char) (strict : Bool) (units : List Nat) (lines : Nat) (input : List Char) :
    Except Complaint (Units × Nat × List Char) :=
  match input with
  | [] => .error .unclosedText
  | '\\' :: rest =>
    match taken : escape strict rest with
    | .error complaint => .error complaint
    | .ok (more, passed, behind) =>
      have : behind.length < rest.length + 1 := by have := escape_shorter taken; simp_all; omega
      takeText quote strict (more.reverse ++ units) (lines + passed) behind
  | char :: rest =>
    if char == quote then .ok (⟨units.reverse⟩, lines, rest)
    else if char == '\n' || char == '\r' then .error .unclosedText
    else takeText quote strict ((Units.ofChar char).reverse ++ units) lines rest
termination_by input.length

/-- The marks of more than one character, longer ones first. -/
def longMarks : List String :=
  [">>>=", "...", "===", "!==", "**=", "<<=", ">>=", ">>>", "&&=", "||=", "??=", "=>", "==", "!=",
    "<=", ">=", "&&", "||", "??", "?.", "++", "--", "+=", "-=", "*=", "/=", "%=", "&=", "|=", "^=",
    "<<", ">>", "**"]

/-- Whether a mark stands in front; a point and a digit behind a question mark are a number. -/
def startsMark (input : List Char) (mark : String) : Bool :=
  mark.toList.isPrefixOf input &&
    !(mark == "?." && Numeral.startsDigit 10 (input.drop mark.length))

/-- The mark in front. -/
def takeMark (char : Char) (rest : List Char) : Kind × List Char :=
  match longMarks.find? (startsMark (char :: rest)) with
  | some mark => (.mark mark, (char :: rest).drop mark.length)
  | none => (.mark (String.ofList [char]), rest)

/-! ### One token after the other -/

/-- The character a name starts with, which may be escaped, and what follows. -/
def nameStart? (input : List Char) : Option (Char × Bool × List Char) :=
  match input with
  | '\\' :: 'u' :: rest =>
    match escapedCode 4 rest with
    | some (code, behind) =>
      if startsName (Char.ofNat code) then some (Char.ofNat code, true, behind) else none
    | none => none
  | char :: rest => if startsName char then some (char, false, rest) else none
  | [] => none

/-- A number. -/
def takeNumber (strict : Bool) (input : List Char) : Except Complaint (Kind × List Char) :=
  let isOctal := match input with
    | '0' :: next :: _ => next.isDigit
    | _ => false
  if strict && isOctal then .error .octalNumber
  else match Numeral.read .script input with
    | none => .error .malformedNumber
    | some (numeral, rest) =>
      if (rest.head?.map followsName).getD false then .error .malformedNumber
      else match numeral with
        | .number value => .ok (.number value, rest)
        | .whole value => .ok (.bigint value, rest)

/-- The token in front of characters that are not blank, the lines it counts, and what follows. -/
def first (strict : Bool) (input : List Char) : Except Complaint (Kind × Nat × List Char) :=
  match input with
  | [] => .ok (.ending, 0, [])
  | char :: rest =>
    match nameStart? input with
    | some (initial, escaped, behind) =>
      let (name, moreEscaped, follows) := takeName behind
      .ok (.name (String.ofList (initial :: name)) (escaped || moreEscaped), 0, follows)
    | none =>
      if char.isDigit || (char == '.' && Numeral.startsDigit 10 rest) then
        (takeNumber strict input).map fun (kind, follows) => (kind, 0, follows)
      else if char == '"' || char == '\'' then
        (takeText char strict [] 0 rest).map fun (text, lines, follows) => (.text text, lines, follows)
      else if char == '#' then
        match nameStart? rest with
        | some (_, _, behind) => .ok (.privateName, 0, (takeName behind).2.2)
        | none => .error .malformedPrivateName
      else if char.toNat ≥ 0x80 then .error .strangeCharacter
      else
        let (kind, follows) := takeMark char rest
        .ok (kind, 0, follows)

/-- The token that starts behind a gap. -/
def behind (strict : Bool) (gap : Gap) : Except Complaint Token :=
  (first strict gap.rest).map fun (kind, lines, after) =>
    { kind, afterLine := gap.afterLine, line := gap.line, start := gap.rest,
      lastLine := gap.line + lines, after }

/-- The token behind another one. -/
def next (strict : Bool) (token : Token) : Except Complaint Token :=
  (Gap.skip token.line .blanks false token.lastLine token.after).bind (behind strict)

/-- A token read again, where the code around it has turned out to be strict or not. -/
def again (strict : Bool) (token : Token) : Except Complaint Token :=
  behind strict ⟨false, token.line, token.start⟩

/-- The place in front of a source. -/
def opening (source : String) : Token :=
  { kind := .ending, afterLine := false, line := 1, start := source.toList, lastLine := 1,
    after := skipInterpreterLine source.toList }

/-- Whether a name of a statement is followed by a colon; only blanks that are ASCII may stand between. -/
def isFollowedByColon (token : Token) : Bool :=
  let rec look : Gap.Mode → List Char → Bool
    | .blanks, '/' :: '/' :: rest => look .line rest
    | .blanks, '/' :: '*' :: rest => look .comment rest
    | .blanks, char :: rest =>
      if char == ':' then true
      else if char.toNat < 0x80 && isSpace char then look .blanks rest
      else false
    | .line, char :: rest => look (if char == '\n' || char == '\r' then .blanks else .line) rest
    | .comment, '*' :: '/' :: rest => look .blanks rest
    | .comment, _ :: rest => look .comment rest
    | _, [] => false
  look .blanks token.after

end Token

end ScriptKernel.Script
