import InferenceBatching.Batcher.Basic

namespace InferenceBatching

/-!
# Operations on batchers

An operation comes with all that its caller chooses: requests, instants,
instances and reports are arbitrary. A run is a list of operations on a new
batcher, and what it reaches is what folding the operations over it gives.
-/

/-- An operation on a batcher. -/
inductive Operation where
  | enqueue (request : Request) (now : Nat)
  | form (instanceIndex : Nat) (now : Nat)
  | complete (instanceIndex : Nat) (records : List DispatchRecord) (now : Nat)
  | halt (instanceIndex : Nat)
  | drain
  deriving Repr, DecidableEq

namespace SequenceBatcher

/-- The batcher after an operation, whatever the operation answered. -/
def perform
    (batcher : SequenceBatcher) :
    Operation →
    SequenceBatcher
  | .enqueue request now => (batcher.enqueue request now).batcher
  | .form instanceIndex now => (batcher.formBatch instanceIndex now).batcher
  | .complete instanceIndex records now =>
      (batcher.complete instanceIndex records now).batcher
  | .halt instanceIndex => (batcher.halt instanceIndex).batcher
  | .drain => batcher.drain.batcher

/-- The batcher after a run of operations. -/
def after
    (batcher : SequenceBatcher)
    (operations : List Operation) :
    SequenceBatcher :=
  operations.foldl perform batcher

end SequenceBatcher

namespace BacklogBatcher

/-- The batcher after an operation, whatever the operation answered. -/
def perform
    (batcher : BacklogBatcher) :
    Operation →
    BacklogBatcher
  | .enqueue request now => (batcher.enqueue request now).batcher
  | .form instanceIndex now => (batcher.formBatch instanceIndex now).batcher
  | .complete instanceIndex records now =>
      (batcher.complete instanceIndex records now).batcher
  | .halt instanceIndex => (batcher.halt instanceIndex).batcher
  | .drain => batcher.drain.batcher

/-- The batcher after a run of operations. -/
def after
    (batcher : BacklogBatcher)
    (operations : List Operation) :
    BacklogBatcher :=
  operations.foldl perform batcher

end BacklogBatcher

/-- The instant at which an operation is made, if it depends on one. -/
def Operation.instant? :
    Operation →
    Option Nat
  | .enqueue _ now => some now
  | .form _ now => some now
  | .complete _ _ now => some now
  | .halt _ => none
  | .drain => none

namespace DynamicBatcher

/--
What is left of trying to form a batch. When room for the batch cannot be made,
the attempt is broken off: there is no batch and nobody is told of a failure.
-/
def attempt
    (batcher : DynamicBatcher)
    (instanceIndex : Nat)
    (now : Nat) :
    Formation DynamicBatcher :=
  match batcher.overreach? now with
  | some lost => .idle lost.batcher [] none
  | none => batcher.formBatch instanceIndex now

/-- The batcher after an operation, whatever the operation answered. -/
def perform
    (batcher : DynamicBatcher) :
    Operation →
    DynamicBatcher
  | .enqueue request now => (batcher.enqueue request now).batcher
  | .form instanceIndex now => (batcher.attempt instanceIndex now).batcher
  | .complete instanceIndex _ _ => (batcher.complete instanceIndex).batcher
  | .halt instanceIndex => (batcher.halt instanceIndex).batcher
  | .drain => batcher.drain.batcher

/-- The batcher after a run of operations. -/
def after
    (batcher : DynamicBatcher)
    (operations : List Operation) :
    DynamicBatcher :=
  operations.foldl perform batcher

end DynamicBatcher

namespace Batcher

/-- A new batcher of a grouping. -/
def ofKind
    (config : ModelConfig)
    (start : Nat)
    (kind : BatchKind)
    (entryBytes : Nat := DynamicBatcher.usualEntryBytes) :
    Batcher :=
  match kind with
  | .dynamic => .dynamic (.ofConfig config entryBytes)
  | .sequence => .sequence (.ofConfig config start)

/-- The batcher that a configuration asks for is the one of its grouping. -/
theorem ofConfig_eq_ofKind
    (config : ModelConfig)
    (start : Nat)
    (entryBytes : Nat) :
    ofConfig config start entryBytes = ofKind config start config.kind entryBytes := by
  simp only [ofConfig]
  cases config.kind <;> rfl

/--
What is left of trying to form a batch. When room for the batch cannot be made,
the attempt is broken off: there is no batch and nobody is told of a failure.
-/
def attempt
    (batcher : Batcher)
    (instanceIndex : Nat)
    (now : Nat) :
    Formation Batcher :=
  match batcher.overreach? now with
  | some lost => .idle lost.batcher [] none
  | none => batcher.formBatch instanceIndex now

section Attempt

variable {batcher : DynamicBatcher}
variable {now : Nat}

/-- A batcher of sequences always has room for its batch. -/
@[simp]
theorem attempt_sequence
    (batcher : BacklogBatcher)
    (instanceIndex now : Nat) :
    (Batcher.sequence batcher).attempt instanceIndex now =
      (batcher.formBatch instanceIndex now).mapState .sequence :=
  rfl

theorem attempt_of_overreach
    {lost : Handover DynamicBatcher}
    (overreaches : batcher.overreach? now = some lost)
    (instanceIndex : Nat) :
    (Batcher.dynamic batcher).attempt instanceIndex now =
      .idle (.dynamic lost.batcher) [] none := by
  simp [attempt, overreach?, overreaches, Handover.mapState]

theorem attempt_of_room
    (room : batcher.overreach? now = none)
    (instanceIndex : Nat) :
    (Batcher.dynamic batcher).attempt instanceIndex now =
      (batcher.formBatch instanceIndex now).mapState .dynamic := by
  simp [attempt, overreach?, room, formBatch]

/-- A dynamic batcher is attempted as what it is. -/
theorem attempt_dynamic
    (batcher : DynamicBatcher)
    (instanceIndex now : Nat) :
    (Batcher.dynamic batcher).attempt instanceIndex now =
      (batcher.attempt instanceIndex now).mapState .dynamic := by
  cases overreaches : batcher.overreach? now with
  | some lost =>
      rw [attempt_of_overreach overreaches, DynamicBatcher.attempt, overreaches]
      rfl
  | none => rw [attempt_of_room overreaches, DynamicBatcher.attempt, overreaches]

end Attempt

/-- The batcher after an operation, whatever the operation answered. -/
def perform
    (batcher : Batcher) :
    Operation →
    Batcher
  | .enqueue request now => (batcher.enqueue request now).batcher
  | .form instanceIndex now => (batcher.attempt instanceIndex now).batcher
  | .complete instanceIndex records now =>
      (batcher.complete instanceIndex records now).batcher
  | .halt instanceIndex => (batcher.halt instanceIndex).batcher
  | .drain => batcher.drain.batcher

theorem perform_sequence
    (batcher : BacklogBatcher)
    (operation : Operation) :
    (Batcher.sequence batcher).perform operation = .sequence (batcher.perform operation) := by
  cases operation <;> rfl

theorem perform_dynamic_eq
    (batcher : DynamicBatcher)
    (operation : Operation) :
    (Batcher.dynamic batcher).perform operation = .dynamic (batcher.perform operation) := by
  cases operation with
  | form instanceIndex now => rw [perform, attempt_dynamic]; rfl
  | enqueue | complete | halt | drain => rfl

theorem perform_dynamic
    (batcher : DynamicBatcher)
    (operation : Operation) :
    ∃ last, (Batcher.dynamic batcher).perform operation = .dynamic last :=
  ⟨_, perform_dynamic_eq batcher operation⟩

/-- The batcher after a run of operations. -/
def after
    (batcher : Batcher)
    (operations : List Operation) :
    Batcher :=
  operations.foldl perform batcher

/-- A batcher stays of its grouping. -/
theorem after_sequence
    (batcher : BacklogBatcher)
    (operations : List Operation) :
    (Batcher.sequence batcher).after operations = .sequence (batcher.after operations) := by
  induction operations generalizing batcher with
  | nil => rfl
  | cons operation operations inductionHypothesis =>
      rw [after, List.foldl_cons, perform_sequence]
      exact inductionHypothesis (batcher.perform operation)

theorem after_dynamic
    (batcher : DynamicBatcher)
    (operations : List Operation) :
    (Batcher.dynamic batcher).after operations = .dynamic (batcher.after operations) := by
  induction operations generalizing batcher with
  | nil => rfl
  | cons operation operations inductionHypothesis =>
      rw [after, List.foldl_cons, perform_dynamic_eq]
      exact inductionHypothesis (batcher.perform operation)

end Batcher

end InferenceBatching
