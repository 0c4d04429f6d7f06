/-
**Which names a script may declare where.**

While a function is read its levels of nesting are numbered as they open: level 0 holds its parameters and
variables, level 1 is its body. What has been declared so far decides whether one more name may be declared.
At level 1 of a script names are declared for all scripts.

* `Declarations`: what has been declared so far, and the levels around the current one;
* `declareLexical`, `declareVariable`, `declareCaught`, `declareFunction`, `declareBlockFunction`: one more
  declaration, or what is wrong with it;
* `enter`, `leave`: a level is entered and left.
-/

import ScriptKernel.Script.Complaint
import ScriptKernel.Script.Tree

set_option autoImplicit false

namespace ScriptKernel.Script

/-- What a name that is seen only at its level and deeper stands for. -/
inductive Nested.Kind
  | lexical
  | function
  | caught
  deriving DecidableEq, Repr

/-- A name that is seen only at its level and deeper. -/
structure Nested where
  name : String
  level : Nat
  kind : Nested.Kind

/-- What has been declared so far in a function or a script. -/
structure Declarations where
  isScript : Bool
  parameters : List String := []
  /-- The current level. -/
  level : Nat := 1
  /-- The level around each level. -/
  around : Array Nat := #[0, 0]
  /-- The nested names that are seen from the current level, the last one first. -/
  seen : List Nested := []
  /-- The variables of a function and the levels they were declared at, the last one first. -/
  declared : List (String × Nat) := []
  /-- What a script declares for all scripts and the levels it was declared at, the last one first. -/
  shared : List (String × Shared × Nat) := []

namespace Declarations

/-- The level of a body. -/
def bodyLevel : Nat := 1

/-- Whether a level is another one or lies in it; a level has a greater number than the one around it. -/
def isWithin (names : Declarations) (level outer : Nat) : Bool :=
  if level = outer then true
  else
    let next := (names.around[level]?).getD 0
    if next < level then names.isWithin next outer else false
termination_by level

/-- Enters a level. -/
def enter (names : Declarations) : Declarations :=
  { names with level := names.around.size, around := names.around.push names.level }

/-- Leaves a level that was entered from another one. -/
def leave (names outer : Declarations) : Declarations :=
  { names with level := outer.level, seen := outer.seen }

/-- What is seen of a name: where it is nested, or that it is declared for all scripts. -/
inductive Sight
  | nested (found : Nested)
  | shared

/-- The first of the declarations of a name for all scripts. -/
def firstShared? (names : Declarations) (name : String) : Option (Shared × Nat) :=
  (names.shared.reverse.find? fun entry => entry.1 == name).map Prod.snd

/-- What is seen of a name that is not a variable; what was caught may be passed over. -/
def sight? (names : Declarations) (name : String) (caught : Bool) : Option Sight :=
  match names.seen.find? fun nested => nested.name == name && (caught || nested.kind != .caught) with
  | some found => some (.nested found)
  | none =>
    match names.firstShared? name with
    | some (.lexical _, _) => some .shared
    | _ => none

/-- Whether a name is a variable, a function among them. -/
def isVariable (names : Declarations) (name : String) : Bool :=
  names.parameters.contains name || names.declared.any fun entry => entry.1 == name

/-- Adds a nested name. -/
def nest (names : Declarations) (name : String) (kind : Nested.Kind) : Declarations :=
  { names with seen := ⟨name, names.level, kind⟩ :: names.seen }

/-- Adds a name for all scripts. -/
def share (names : Declarations) (name : String) (shared : Shared) (level : Nat) : Declarations :=
  { names with shared := (name, shared, level) :: names.shared }

/-- Adds a variable of a function, once. -/
def addVariable (names : Declarations) (name : String) (level : Nat) : Declarations :=
  if names.isVariable name then names
  else { names with declared := (name, level) :: names.declared }

/-- Complains about a name of the current level that is declared a second time there, or for the code around
it. Sloppy code may declare a function of a block twice. -/
def checkNested (names : Declarations) (strict isFunction : Bool) (name : String) :
    Except Complaint Unit := do
  match names.sight? name true with
  | some (.nested found) =>
    if found.level = names.level then
      if strict || !isFunction || found.kind != .function then throw .redefinedLexical
    else if found.kind == .caught && found.level + 2 = names.level then throw .redefinedLexical
  | some .shared => if names.level = bodyLevel then throw .redefinedLexical
  | none => pure ()
  if !isFunction && names.level = bodyLevel && names.parameters.contains name then
    throw .redefinedParameter
  if names.declared.any fun entry => entry.1 == name && names.isWithin entry.2 names.level then
    throw .redefinedVariable
  match names.firstShared? name with
  | some (_, level) => if names.isWithin level names.level then throw .redefinedShared
  | none => pure ()

/-- Declares a name with `let` or `const`. -/
def declareLexical (names : Declarations) (strict constant : Bool) (name : String) :
    Except Complaint Declarations := do
  names.checkNested strict false name
  if names.isScript && names.level = bodyLevel then
    return names.share name (.lexical constant) names.level
  else return names.nest name .lexical

/-- Declares a variable. -/
def declareVariable (names : Declarations) (name : String) : Except Complaint Declarations :=
  if (names.sight? name false).isSome then .error .redefinedLexical
  else if names.isScript then .ok (names.share name .variable names.level)
  else .ok (names.addVariable name names.level)

/-- Declares what a handler calls the exception it has caught. -/
def declareCaught (names : Declarations) (name : String) : Declarations := names.nest name .caught

/-- When a function that is declared in a block is bound: in sloppy code it becomes a variable too, unless
something else is seen under its name. -/
def blockHoisting (names : Declarations) (strict : Bool) (name : String) : Hoisting :=
  let lifted := !strict && (names.sight? name false).isNone && !names.parameters.contains name &&
    (names.isScript || name != "arguments")
  if names.isScript && names.level = bodyLevel then .reached else .block lifted

/-- Declares a function of a block, before it is read. -/
def declareBlockFunction (names : Declarations) (strict : Bool) (name : String) :
    Except Complaint Declarations := do
  if names.isScript && names.level = bodyLevel then
    match names.firstShared? name with
    | some (_, level) => if level = names.level then throw .redefinedShareOfLabel
    | none => pure ()
    return names
  else
    names.checkNested strict true name
    return names.nest name .function

/-- Declares the variable that a function of a block becomes, after it is read. -/
def lift (names : Declarations) (name : String) : Declarations :=
  if names.isScript then names.share name .variable 0 else names.addVariable name 0

/-- Declares a function of a body, after it is read. -/
def declareFunction (names : Declarations) (name : String) (definition : Function) :
    Except Complaint Declarations :=
  if names.isScript then .ok (names.share name (.function definition) names.level)
  else names.declareVariable name

end Declarations

end ScriptKernel.Script
