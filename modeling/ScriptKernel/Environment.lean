/-
**Environment variables.**

* `Environment`: the variables of one process, in order of their names;
* `Environments`: several of them behind handles; handles made by sharing name the same variables, a copy
  names variables of its own.
-/

import ScriptKernel.Json.Basic

set_option autoImplicit false

namespace ScriptKernel

/-- Variables and their values, in order of their names. -/
structure Environment where
  entries : List (String × String) := []
  deriving DecidableEq, Repr, Inhabited

namespace Environment

/-- Variables given in any order, the last of two values of one name winning. -/
def ofList (entries : List (String × String)) : Environment :=
  ⟨entries.foldl (fun built entry => Json.insert entry.1 entry.2 built) []⟩

/-- The value of a variable. -/
def get (environment : Environment) (name : String) : Option String :=
  Json.lookup? name environment.entries

/-- Gives a variable a value. -/
def set (environment : Environment) (name value : String) : Environment :=
  ⟨Json.insert name value environment.entries⟩

/-- Takes a variable away. -/
def remove (environment : Environment) (name : String) : Environment :=
  ⟨environment.entries.filter fun entry => entry.1 != name⟩

/-- The number of variables. -/
def size (environment : Environment) : Nat := environment.entries.length

/-- Whether there is no variable. -/
def isEmpty (environment : Environment) : Bool := environment.entries.isEmpty

end Environment

/-- A name for variables that several holders may share. -/
structure EnvironmentHandle where
  place : Nat
  deriving DecidableEq, Repr

/-- The variables behind handles. -/
structure Environments where
  tables : Array Environment := #[]
  deriving Repr

namespace Environments

/-- The variables behind a handle. -/
def snapshot (store : Environments) (handle : EnvironmentHandle) : Environment :=
  store.tables[handle.place]?.getD {}

/-- A handle to variables of its own. -/
def create (store : Environments) (environment : Environment) : EnvironmentHandle × Environments :=
  (⟨store.tables.size⟩, ⟨store.tables.push environment⟩)

/-- A handle to a copy of the variables behind another. -/
def copy (store : Environments) (handle : EnvironmentHandle) : EnvironmentHandle × Environments :=
  store.create (store.snapshot handle)

/-- Changes the variables behind a handle. -/
def modify (store : Environments) (handle : EnvironmentHandle)
    (change : Environment → Environment) : Environments :=
  ⟨store.tables.modify handle.place change⟩

/-- The value of a variable. -/
def get (store : Environments) (handle : EnvironmentHandle) (name : String) : Option String :=
  (store.snapshot handle).get name

/-- Gives a variable a value. -/
def set (store : Environments) (handle : EnvironmentHandle) (name value : String) : Environments :=
  store.modify handle fun environment => environment.set name value

/-- Takes a variable away and answers the value it had. -/
def remove (store : Environments) (handle : EnvironmentHandle) (name : String) :
    Option String × Environments :=
  (store.get handle name, store.modify handle fun environment => environment.remove name)

end Environments

end ScriptKernel
