/-
**Scripts as trees.**

* `Expression`, `Entry`, `Statement`, `Function`: the parts of a script;
* `Statement.functions`, `Statement.lexicals`: what a list of statements declares at its own level;
* `Source`: a whole script, with what it declares for all scripts.
-/

import ScriptKernel.Number.Double
import ScriptKernel.Text.Units

set_option autoImplicit false

namespace ScriptKernel.Script

/-- An operator between two values. -/
inductive BinaryOperator
  | add
  | subtract
  | multiply
  | divide
  | remainder
  | less
  | greater
  | lessOrEqual
  | greaterOrEqual
  | equal
  | unequal
  | same
  | different
  | isIn
  | instanceOf
  deriving DecidableEq, Repr, Inhabited

/-- An operator that may leave its second part alone. -/
inductive LogicalOperator
  | conjunction
  | disjunction
  deriving DecidableEq, Repr, Inhabited

/-- An operator in front of a value. -/
inductive UnaryOperator
  | plus
  | minus
  | negation
  | nothing
  deriving DecidableEq, Repr, Inhabited

/-- How names are declared. -/
inductive DeclarationKind
  | variable
  | lexical (constant : Bool)
  deriving DecidableEq, Repr, Inhabited

/-- When a declared function is bound to its name. -/
inductive Hoisting
  /-- Before the code it is declared in starts. -/
  | first
  /-- When its block is entered; if it is lifted, it also becomes a variable when it is reached. -/
  | block (lifted : Bool)
  /-- When it is reached. -/
  | reached
  deriving DecidableEq, Repr, Inhabited

/-- How a function is written. -/
inductive FunctionForm
  | plain
  /-- A field of an object that is called. -/
  | method
  | getter
  | setter
  deriving DecidableEq, Repr, Inhabited

/-- What the name of a function starts with. -/
def FunctionForm.nameStart : FunctionForm → Units
  | .getter => .ofString "get "
  | .setter => .ofString "set "
  | _ => ⟨[]⟩

/-- What is known of a function beside its body. -/
structure Signature where
  /-- The name; empty if it has none. -/
  name : Units := ⟨[]⟩
  /-- Whether it sees itself under its name. -/
  seesItself : Bool := false
  form : FunctionForm := .plain
  parameters : List String := []
  /-- The variables declared anywhere in the body. -/
  locals : List String := []
  /-- Whether the body names its arguments. -/
  usesArguments : Bool := false
  strict : Bool := false
  /-- The text it was read from. -/
  source : String := ""
  deriving Repr, Inhabited

mutual

/-- An expression. -/
inductive Expression
  | number (value : Double)
  | bigint (value : Int)
  | text (value : Units)
  | boolean (value : Bool)
  | null
  | this
  | name (name : String)
  | array (items : List (Option Expression))
  | object (entries : List Entry)
  | function (definition : Function)
  | unary (operator : UnaryOperator) (operand : Expression)
  | typeOf (operand : Expression)
  | delete (operand : Expression)
  | update (increment before : Bool) (target : Expression)
  | binary (operator : BinaryOperator) (first second : Expression)
  | logical (operator : LogicalOperator) (first second : Expression)
  | conditional (test first second : Expression)
  | assign (operator : Option BinaryOperator) (target value : Expression)
  | member (subject : Expression) (name : String)
  | index (subject key : Expression)
  | call (callee : Expression) (args : List Expression)
  | construct (callee : Expression) (args : List Expression)
  | sequence (first second : Expression)

/-- A part of an object. -/
inductive Entry
  | field (key : Units) (value : Expression)
  | computed (key value : Expression)
  /-- The prototype of the object. -/
  | parent (value : Expression)
  | method (key : Units) (definition : Function)
  | computedMethod (key : Expression) (definition : Function)

/-- A statement. -/
inductive Statement
  | empty
  | expression (value : Expression)
  | declare (kind : DeclarationKind) (entries : List (String × Option Expression))
  | function (name : String) (definition : Function) (hoisting : Hoisting)
  | block (body : List Statement)
  | give (value : Option Expression)
  | throw (value : Expression)
  | choose (test : Expression) (first : Statement) (second : Option Statement)
  | loop (label : Option String) (start : Option Statement) (test step : Option Expression)
      (body : Statement)
  | repeat (label : Option String) (body : Statement) (test : Expression)
  | labelled (label : String) (body : Statement)
  | attempt (body : List Statement) (handler : Option (Option String × List Statement))
      (finalizer : Option (List Statement))
  | leave (label : Option String)
  | next (label : Option String)

/-- A function. -/
inductive Function
  | mk (signature : Signature) (body : List Statement)

end

instance : Inhabited Expression := ⟨.null⟩
instance : Inhabited Statement := ⟨.empty⟩
instance : Inhabited Function := ⟨.mk {} []⟩

namespace Function

/-- What is known of a function beside its body. -/
def signature : Function → Signature
  | mk signature _ => signature

/-- The statements. -/
def body : Function → List Statement
  | mk _ body => body

/-- A function without a name, under a name. -/
def named (name : Units) : Function → Function
  | mk signature body =>
    if signature.name.units.isEmpty then mk { signature with name } body else mk signature body

/-- Whether the function has no name. -/
def isAnonymous (function : Function) : Bool := function.signature.name.units.isEmpty

end Function

/-- An expression as the value of a name: a function without a name gets it. -/
def Expression.named (name : Units) : Expression → Expression
  | .function definition => .function (definition.named name)
  | other => other

/-- The function a statement binds on entering its block, if it does. -/
def Statement.blockFunction? : Statement → Option (String × Function)
  | .function name definition (.block _) => some (name, definition)
  | .labelled _ body => body.blockFunction?
  | _ => none

/-- The function a statement binds before the code around it starts, if it does. -/
def Statement.firstFunction? : Statement → Option (String × Function)
  | .function name definition .first => some (name, definition)
  | _ => none

/-- The names a list of statements declares for its own level, and whether each may change. -/
def Statement.lexicals (statements : List Statement) : List (String × Bool) :=
  statements.flatMap fun statement =>
    match statement with
    | .declare (.lexical constant) entries => entries.map fun entry => (entry.1, !constant)
    | _ => []

/-- What a script declares for all scripts. -/
inductive Shared
  | variable
  | function (definition : Function)
  | lexical (constant : Bool)

/-- A whole script, with what it declares for all scripts, in order. -/
structure Source where
  shared : List (String × Shared)
  body : List Statement
  strict : Bool

end ScriptKernel.Script
