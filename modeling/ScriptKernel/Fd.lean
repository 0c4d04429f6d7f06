/-
**Descriptors and their table.**

A process has 256 slots of text. A script names a slot by a number, which is checked before the table sees
it.

* `Fd.ofJson`, `Fd.ofInt`: the slot a number names, written as an integer or as a double;
* `FdTable`: the slots, with `get`, `set`, `append`, `take`, `clear`, `clearAll`;
* `FdTable.used`: the slots that hold text, in order.
-/

import ScriptKernel.Error
import ScriptKernel.Json.Numeric
import ScriptKernel.Json.Printer

set_option autoImplicit false

namespace ScriptKernel

/-- The number of a slot. -/
abbrev Fd := Fin 256

namespace Fd

/-- The slot of an index, if there is one. -/
def ofNat? (index : Nat) : Option Fd :=
  if bound : index < 256 then some ⟨index, bound⟩ else none

/-- The slot of an integer, if there is one. -/
def ofInteger? : Int → Option Fd
  | .ofNat index => ofNat? index
  | .negSucc _ => none

/-- The slot an integer names. -/
def ofInt (value : Int) : Except SyscallError Fd :=
  match ofInteger? value with
  | some fd => .ok fd
  | none => .error (.badFd (toString value))

/-- The slot of a double, which has to be whole and not below zero. -/
def ofDouble? (value : Double) : Option Fd :=
  if value.isWhole && value.isNonnegative then ofNat? value.toUnsigned else none

/-- The slot of a number: of its word, else of its double. -/
def ofNumber? (number : Json.Number) : Option Fd :=
  (number.asUnsigned?.bind ofNat?).or (ofDouble? number.asDouble)

/-- The slot a value names. -/
def ofJson (value : Json) : Except SyscallError Fd :=
  match value.number?.bind ofNumber? with
  | some fd => .ok fd
  | none => .error (.badFd value.print)

end Fd

/-- The slots of a process; an empty text is an unused slot. -/
structure FdTable where
  slots : Vector String 256
  deriving DecidableEq

namespace FdTable

/-- The table with every slot unused. -/
def empty : FdTable := ⟨Vector.replicate 256 ""⟩

instance : Inhabited FdTable := ⟨empty⟩

/-- The text of a slot. -/
def get (table : FdTable) (fd : Fd) : String := table.slots[fd]

/-- Puts a text in place of the one in a slot. -/
def set (table : FdTable) (fd : Fd) (text : String) : FdTable := ⟨table.slots.set fd text⟩

/-- Puts a text behind the one in a slot. -/
def append (table : FdTable) (fd : Fd) (text : String) : FdTable :=
  table.set fd (table.get fd ++ text)

/-- Leaves a slot unused. -/
def clear (table : FdTable) (fd : Fd) : FdTable := table.set fd ""

/-- The text of a slot, which is left unused. -/
def take (table : FdTable) (fd : Fd) : String × FdTable := (table.get fd, table.clear fd)

/-- Leaves every slot unused. -/
def clearAll (_ : FdTable) : FdTable := empty

/-- Whether a slot is unused. -/
def isEmptySlot (table : FdTable) (fd : Fd) : Bool := (table.get fd).isEmpty

/-- The slots in use, in order. -/
def used (table : FdTable) : List (Fd × String) :=
  (List.finRange 256).filterMap fun fd =>
    if (table.get fd).isEmpty then none else some (fd, table.get fd)

/-- The number of slots. -/
def size (_ : FdTable) : Nat := 256

/-- The table in short. -/
def describe (table : FdTable) : String :=
  "FdTable \x7b slots: " ++ toString table.size ++ ", used: " ++ toString table.used.length ++ " \x7d"

/-! ### Small facts -/

@[simp] theorem get_empty (fd : Fd) : empty.get fd = "" := by
  simp [empty, get]

@[simp] theorem get_set_same (table : FdTable) (fd : Fd) (text : String) :
    (table.set fd text).get fd = text := by
  simp [get, set]

theorem get_set_other (table : FdTable) {fd other : Fd} (distinct : fd ≠ other) (text : String) :
    (table.set fd text).get other = table.get other := by
  have apart : (fd : Nat) ≠ (other : Nat) := fun same => distinct (Fin.ext same)
  simp [get, set, apart]

end FdTable

end ScriptKernel
