/-
**Exceptions in words, where scripts have left the errors as they were.**

* `Realm.Intact`: a realm in which no prototype speaks for objects and arrays, and in which the errors that
  host functions fail with answer to their own names;
* `Realm.Raised`: an error that has just been made, with its message;
* `ends_describe`: such an error is told as its name and its message, and nothing is called for it.
-/

import ScriptKernel.Proofs.Script.Drafted
import ScriptKernel.Script.Entry
import ScriptKernel.Script.HostCall

set_option autoImplicit false

namespace ScriptKernel.Script

variable {memory : Memory}

/-! ### Errors as they were -/

/-- The key of the name of an error. -/
def nameKey : Key := .ofString "name"

/-- The key of the message of an error. -/
def messageKey : Key := .ofString "message"

/-- The kinds of errors that calls of host functions end with. -/
def hostErrors : List ErrorKind := [.error, .range, .type, .internal]

namespace Realm

variable {realm before after : Realm}

/-- An object has a field of its own with a text. -/
def Says (realm : Realm) (address : Address) (key : Key) (text : String) : Prop :=
  ∃ property writable, (realm.object address).own? key = some property ∧
    property.slot = .data (.ofString text) writable

/-- **A realm whose own prototypes scripts have left as they were**, as far as host functions depend on them. -/
structure Intact (realm : Realm) : Prop where
  literal : realm.Literal
  names : ∀ kind ∈ hostErrors,
    realm.errorParent kind < realm.objects.size ∧ realm.Says (realm.errorParent kind) nameKey kind.name

theorem Grown.errorParent_eq (grown : before.Grown after) (kind : ErrorKind) :
    after.errorParent kind = before.errorParent kind := by
  unfold errorParent
  rw [grown.landmarks_eq]

theorem Intact.grown (intact : before.Intact) (grown : before.Grown after) : after.Intact where
  literal := intact.literal.grown grown
  names kind known := by
    obtain ⟨made, named⟩ := intact.names kind known
    rw [grown.errorParent_eq]
    refine ⟨Nat.lt_of_lt_of_le made grown.size_le, ?_⟩
    unfold Says
    rw [grown.object_eq made]
    exact named

/-- **An error that has just been made**: of a kind, with a message. -/
structure Raised (realm : Realm) (kind : ErrorKind) (message : String) (exception : Value) : Prop where
  known : kind ∈ hostErrors
  made : ∃ address field, exception = .object address ∧
    realm.object address =
      { kind := .error, parent := some (realm.errorParent kind), fields := [(messageKey, field)] } ∧
    ∃ writable, field.slot = .data (.ofString message) writable

end Realm

/-! ### What throwing makes -/

/-- A new error is raised. -/
theorem raised_createError {kind : ErrorKind} (realm : Realm) (message : String)
    (known : kind ∈ hostErrors) :
    (realm.createError kind (.ofString message)).2.Raised kind message
      (.object (realm.createError kind (.ofString message)).1) := by
  have grown : realm.Grown (realm.createError kind (.ofString message)).2 := .create _ _
  refine ⟨known, _, .hidden (.text (.ofString message)), rfl, ?_, true, rfl⟩
  rw [grown.errorParent_eq]
  exact realm.object_created _

/-- Throwing a new error. -/
theorem ends_raise_raised {α : Type} {kind : ErrorKind} (message : String) (memory : Memory)
    (known : kind ∈ hostErrors) :
    ∃ exception after, (Run.raise kind message : Run α).Ends memory (.thrown exception) after ∧
      memory.Grown after ∧ after.realm.Raised kind message exception :=
  ⟨_, _, Run.ends_raise kind message memory, .create memory _, raised_createError _ message known⟩

/-- The name that the failure of a host function is thrown under. -/
def failureName : SyscallError → String
  | .badFd _ => "RangeError"
  | .invalidArgument _ => "TypeError"
  | .unavailable _ => "Error"

/-- What the message of the thrown failure of a host function keeps. -/
def failureMessage (name : String) (error : SyscallError) : String :=
  match error with
  | .unavailable _ => name ++ ": " ++ error.message
  | _ => curtail (name ++ ": " ++ error.message)

theorem failureKind_name (error : SyscallError) : (failureKind error).name = failureName error := by
  cases error <;> rfl

theorem failureKind_known (error : SyscallError) :
    failureKind error ∈ hostErrors := by
  cases error <;> simp [failureKind, hostErrors]

/-- **The failure of a host function is thrown as an error of its kind.** -/
theorem ends_throwFailure {α : Type} (name : String) (error : SyscallError) (memory : Memory) :
    ∃ exception after, (throwFailure name error : Run α).Ends memory (.thrown exception) after ∧
      memory.Grown after ∧
      after.realm.Raised (failureKind error) (failureMessage name error) exception := by
  cases error with
  | badFd value =>
    exact ends_raise_raised (curtail (name ++ ": " ++ (SyscallError.badFd value).message)) memory
      (failureKind_known (.badFd value))
  | invalidArgument reason =>
    exact ends_raise_raised (curtail (name ++ ": " ++ (SyscallError.invalidArgument reason).message))
      memory (failureKind_known (.invalidArgument reason))
  | unavailable reason =>
    refine ⟨_, _, rfl, .create memory _, failureKind_known (.unavailable reason), _,
      .plain (.ofString (name ++ ": " ++ (SyscallError.unavailable reason).message)), rfl, ?_, true, rfl⟩
    exact memory.realm.object_created _

/-! ### Words -/

/-- A name and a message as a description gives them. -/
def worded (name message : String) : String := if message.isEmpty then name else name ++ ": " ++ message

/-- What ends with a value is kept as that value. -/
theorem ends_guarded {α : Type} {run : Run α} {answer : α} {after : Memory}
    (ends : run.Ends memory (.value answer) after) :
    (guarded run).Ends memory (.value (.ok answer)) after :=
  ends.heard_value.andThen_value (Run.ends_pure _ after)

/-- A text of an exception is read. -/
theorem ends_exceptionText {part : Run (Option Units)} {text : String}
    (ends : part.Ends memory (.value (some (.ofString text))) memory) :
    (exceptionText part).Ends memory (.value (some text)) memory := by
  refine (ends_guarded ends).bind ?_
  rw [← Units.toString?_ofString text]
  exact Run.ends_pure _ memory

/-- **An error that has just been made is told as its name and its message**, and nothing is called for it. -/
theorem ends_describe (intact : memory.realm.Intact) {kind : ErrorKind} {message : String}
    {exception : Value} (raised : memory.realm.Raised kind message exception) :
    (describe exception).Ends memory (.value (worded kind.name message)) memory := by
  obtain ⟨address, field, rfl, object, writable, data⟩ := raised.made
  obtain ⟨-, property, writable', named, data'⟩ := intact.names kind raised.known
  have isError : memory.realm.isError (.object address) = true := by
    unfold Realm.isError
    simp only [object]
  have ownMessage : (memory.realm.object address).own? messageKey = some field := by
    rw [object]
    rfl
  have ownName : (memory.realm.object address).own? nameKey = none := by
    rw [object]
    rfl
  have nameFound : memory.realm.field? (memory.realm.object address) nameKey = some property := by
    unfold Realm.field?
    rw [ownName, object]
    show memory.realm.inherited? nameKey (memory.realm.objects.size + 1) _ = _
    rw [Realm.inherited?]
    simp only [named]
  have messageFound : memory.realm.field? (memory.realm.object address) messageKey = some field := by
    unfold Realm.field?
    rw [ownMessage]
  have name : (errorName (.object address)).Ends memory (.value (some (.ofString kind.name))) memory :=
    (ends_get .standard nameFound data' (by simp [Value.ofString])).bind (Run.ends_pure _ memory)
  have text : (errorMessage (.object address)).Ends memory (.value (some (.ofString message))) memory :=
    (ends_get .standard messageFound data (by simp [Value.ofString])).bind (Run.ends_pure _ memory)
  refine (Run.ends_look _ memory).bind ?_
  rw [isError]
  refine (ends_exceptionText name).bind ((ends_exceptionText text).bind ?_)
  exact Run.ends_pure _ memory

end ScriptKernel.Script
