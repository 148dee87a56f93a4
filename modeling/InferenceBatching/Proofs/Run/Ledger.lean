import InferenceBatching.Proofs.Backlog.Conservation
import InferenceBatching.Proofs.Dynamic.Conservation
import InferenceBatching.Proofs.Run.Operation

namespace InferenceBatching

/-!
# Ledgers

A ledger records the entries that a run has let into a batcher of either grouping
and those that its batches have dispatched. Every operation accounts for what it
moves, with one exception: an attempt to form a batch that is broken off for want
of room drops what it had found expired.
-/

namespace Batcher

/-- All waiting entries. -/
def pendingEntries :
    Batcher →
    List QueueEntry
  | .dynamic batcher => batcher.pendingEntries
  | .sequence batcher => batcher.pendingEntries

/-- The entry that a request makes when it is let in. -/
def entryFor
    (batcher : Batcher)
    (request : Request)
    (now : Nat) :
    QueueEntry :=
  match batcher with
  | .dynamic batcher => batcher.entryFor request now
  | .sequence batcher => batcher.entryFor request now

/-- A batcher of sequences is coherent; nothing is asked of a dynamic one. -/
def Coherent :
    Batcher →
    Prop
  | .dynamic _ => True
  | .sequence batcher => batcher.Coherent

theorem coherent_ofKind
    (config : ModelConfig)
    (start : Nat)
    (kind : BatchKind)
    (entryBytes : Nat) :
    (ofKind config start kind entryBytes).Coherent := by
  cases kind with
  | dynamic => trivial
  | sequence => exact BacklogBatcher.coherent_ofConfig config start

theorem pendingEntries_ofKind
    (config : ModelConfig)
    (start : Nat)
    (kind : BatchKind)
    (entryBytes : Nat) :
    (ofKind config start kind entryBytes).pendingEntries = [] := by
  cases kind with
  | dynamic => exact DynamicBatcher.pendingEntries_ofConfig config entryBytes
  | sequence => exact BacklogBatcher.pendingEntries_ofConfig config start

theorem pendingCount_eq
    (batcher : Batcher) :
    batcher.pendingCount = batcher.pendingEntries.length := by
  cases batcher with
  | dynamic batcher => exact batcher.pendingCount_eq
  | sequence batcher => exact batcher.pendingCount_eq

variable {batcher : Batcher}

theorem Coherent.perform
    (coherent : batcher.Coherent)
    (operation : Operation) :
    (batcher.perform operation).Coherent := by
  cases batcher with
  | sequence batcher =>
      rw [perform_sequence]
      exact BacklogBatcher.Coherent.perform coherent operation
  | dynamic batcher =>
      obtain ⟨last, isLast⟩ := perform_dynamic batcher operation
      rw [isLast]
      trivial

theorem Coherent.after
    (coherent : batcher.Coherent)
    (operations : List Operation) :
    (batcher.after operations).Coherent := by
  induction operations generalizing batcher with
  | nil => exact coherent
  | cons operation operations inductionHypothesis =>
      exact inductionHypothesis (coherent.perform operation)

theorem enqueue_accepted
    (coherent : batcher.Coherent)
    {request : Request}
    {now : Nat}
    (accepted : (batcher.enqueue request now).rejection? = none) :
    (batcher.enqueue request now).batcher.pendingEntries.Perm
      (batcher.pendingEntries ++ [batcher.entryFor request now]) := by
  cases batcher with
  | dynamic batcher => exact DynamicBatcher.enqueue_accepted accepted
  | sequence batcher => exact BacklogBatcher.Coherent.enqueue_accepted coherent accepted

theorem enqueue_rejected
    (coherent : batcher.Coherent)
    {request : Request}
    {now : Nat}
    {failure : Failure}
    (rejected : (batcher.enqueue request now).rejection? = some failure) :
    failure.request = request ∧
      (batcher.enqueue request now).batcher.pendingEntries.Perm batcher.pendingEntries := by
  cases batcher with
  | sequence batcher => exact BacklogBatcher.Coherent.enqueue_rejected coherent rejected
  | dynamic batcher =>
      obtain ⟨isRequest, unchanged⟩ := DynamicBatcher.enqueue_rejected rejected
      refine ⟨isRequest, ?_⟩
      change (batcher.enqueue request now).batcher.pendingEntries.Perm batcher.pendingEntries
      rw [unchanged]

/-- An attempt keeps, dispatches, fails, or loses what waits; it loses only by overreaching. -/
theorem attempt_perm
    (coherent : batcher.Coherent)
    (instanceIndex now : Nat) :
    let formation := batcher.attempt instanceIndex now
    ∃ failed lost,
      FailsWith formation.failed failed ∧
        requestsOf lost = ((batcher.overreach? now).map Handover.requests).getD [] ∧
        batcher.pendingEntries.Perm
          (formation.batcher.pendingEntries ++
            formation.batch?.toList.flatMap Batch.queueEntries ++ failed ++ lost) := by
  cases batcher with
  | sequence batcher =>
      obtain ⟨failed, isFailed, isSplit⟩ :=
        BacklogBatcher.Coherent.formBatch_perm coherent instanceIndex now
      refine ⟨failed, [], isFailed, rfl, ?_⟩
      rw [List.append_nil]
      exact isSplit
  | dynamic batcher =>
      cases overreaches : batcher.overreach? now with
      | some late =>
          obtain ⟨lost, isLost, isSplit⟩ := DynamicBatcher.overreach?_perm overreaches
          rw [attempt_of_overreach overreaches]
          refine ⟨[], lost, rfl, ?_, ?_⟩
          · simp [overreach?, overreaches, Handover.mapState, isLost]
          · simpa [Formation.idle, pendingEntries] using isSplit
      | none =>
          obtain ⟨failed, isFailed, isSplit⟩ := batcher.formBatch_perm instanceIndex now
          rw [attempt_of_room overreaches]
          refine ⟨failed, [], isFailed, ?_, ?_⟩
          · simp [overreach?, overreaches, requestsOf]
          · rw [List.append_nil]
            exact isSplit

/-- An attempt loses nothing exactly if it does not overreach with something expired. -/
theorem attempt_conserves_iff
    (coherent : batcher.Coherent)
    (instanceIndex now : Nat) :
    let formation := batcher.attempt instanceIndex now
    (∃ failed,
        FailsWith formation.failed failed ∧
          batcher.pendingEntries.Perm
            (formation.batcher.pendingEntries ++
              formation.batch?.toList.flatMap Batch.queueEntries ++ failed)) ↔
      ∀ lost ∈ batcher.overreach? now, lost.requests = [] := by
  obtain ⟨failed, lost, isFailed, isLost, isSplit⟩ := attempt_perm coherent instanceIndex now
  have lostNothing :
      lost = [] ↔ ∀ handover ∈ batcher.overreach? now, handover.requests = [] := by
    have sameLength := congrArg List.length isLost
    cases overreaches : batcher.overreach? now with
    | none => simpa [overreaches, requestsOf] using isLost
    | some handover =>
        rw [overreaches] at isLost
        have isRequests : requestsOf lost = handover.requests := isLost
        simp [← isRequests, requestsOf]
  rw [← lostNothing]
  constructor
  · -- Failures and entries are counted one for one, so a second account has no room for losses.
    rintro ⟨others, alsoFailed, conserves⟩
    have same := isSplit.length_eq
    have fewer := conserves.length_eq
    have sameFailed := isFailed.length_eq
    have sameOthers := alsoFailed.length_eq
    simp only [List.length_append] at same fewer
    exact List.length_eq_zero_iff.mp (by omega)
  · intro nothing
    refine ⟨failed, isFailed, ?_⟩
    rw [nothing, List.append_nil] at isSplit
    exact isSplit

theorem complete_perm
    (coherent : batcher.Coherent)
    (instanceIndex : Nat)
    (records : List DispatchRecord)
    (now : Nat) :
    let settlement := batcher.complete instanceIndex records now
    ∃ failed,
      batcher.pendingEntries.Perm (settlement.batcher.pendingEntries ++ failed) ∧
        ∀ failures, settlement.verdict = .settled failures → FailsWith failures failed := by
  cases batcher with
  | sequence batcher =>
      exact BacklogBatcher.Coherent.complete_perm coherent instanceIndex records now
  | dynamic batcher =>
      refine ⟨[], ?_, ?_⟩
      · rw [List.append_nil]
        exact List.Perm.refl _
      · intro failures isSettled
        rw [← Verdict.settled.inj isSettled]
        rfl

theorem halt_perm
    (coherent : batcher.Coherent)
    (instanceIndex : Nat) :
    let handover := batcher.halt instanceIndex
    ∃ returned,
      handover.requests = requestsOf returned ∧
        batcher.pendingEntries.Perm (handover.batcher.pendingEntries ++ returned) := by
  cases batcher with
  | sequence batcher => exact BacklogBatcher.Coherent.halt_perm coherent instanceIndex
  | dynamic batcher =>
      refine ⟨[], rfl, ?_⟩
      rw [List.append_nil]
      exact List.Perm.refl _

theorem drain_pending
    (coherent : batcher.Coherent) :
    batcher.drain.requests = requestsOf batcher.pendingEntries ∧
      batcher.drain.batcher.pendingEntries = [] := by
  cases batcher with
  | dynamic batcher => exact batcher.drain_pending
  | sequence batcher => exact BacklogBatcher.Coherent.drain_pending coherent

/-- The entry that an operation lets in. -/
def admittedBy
    (batcher : Batcher) :
    Operation →
    List QueueEntry
  | .enqueue request now =>
      if (batcher.enqueue request now).rejection?.isNone then
        [batcher.entryFor request now]
      else
        []
  | _ => []

/-- The entries that an operation dispatches. -/
def dispatchedBy
    (batcher : Batcher) :
    Operation →
    List QueueEntry
  | .form instanceIndex now =>
      (batcher.attempt instanceIndex now).batch?.toList.flatMap Batch.queueEntries
  | _ => []

/-- No operation makes up an entry, and none changes one. -/
theorem perform_perm
    (coherent : batcher.Coherent)
    (operation : Operation) :
    ∃ gone,
      (batcher.pendingEntries ++ batcher.admittedBy operation).Perm
        ((batcher.perform operation).pendingEntries ++ batcher.dispatchedBy operation ++
          gone) := by
  cases operation with
  | enqueue request now =>
      refine ⟨[], ?_⟩
      simp only [admittedBy, dispatchedBy, perform, List.append_nil]
      cases answered : (batcher.enqueue request now).rejection? with
      | none => exact (enqueue_accepted coherent answered).symm
      | some failure =>
          simpa using (enqueue_rejected coherent answered).2.symm
  | form instanceIndex now =>
      obtain ⟨failed, lost, _, _, isSplit⟩ := attempt_perm coherent instanceIndex now
      exact ⟨failed ++ lost, by simpa [admittedBy, dispatchedBy, perform] using isSplit⟩
  | complete instanceIndex records now =>
      obtain ⟨failed, isSplit, _⟩ := complete_perm coherent instanceIndex records now
      exact ⟨failed, by simpa [admittedBy, dispatchedBy, perform] using isSplit⟩
  | halt instanceIndex =>
      obtain ⟨returned, _, isSplit⟩ := halt_perm coherent instanceIndex
      exact ⟨returned, by simpa [admittedBy, dispatchedBy, perform] using isSplit⟩
  | drain =>
      refine ⟨batcher.pendingEntries, ?_⟩
      simp [admittedBy, dispatchedBy, perform, (drain_pending coherent).2]

end Batcher

/-- What a run has let in and dispatched so far, and the batcher it has reached. -/
structure Ledger where
  batcher : Batcher
  admitted : List QueueEntry := []
  dispatched : List QueueEntry := []

namespace Ledger

/-- The ledger of a new batcher. -/
def ofKind
    (config : ModelConfig)
    (start : Nat)
    (kind : BatchKind)
    (entryBytes : Nat := DynamicBatcher.usualEntryBytes) :
    Ledger where
  batcher := .ofKind config start kind entryBytes

/-- The ledger after one more operation. -/
def perform
    (ledger : Ledger)
    (operation : Operation) :
    Ledger where
  batcher := ledger.batcher.perform operation
  admitted := ledger.admitted ++ ledger.batcher.admittedBy operation
  dispatched := ledger.dispatched ++ ledger.batcher.dispatchedBy operation

/-- The ledger after a run of operations. -/
def after
    (ledger : Ledger)
    (operations : List Operation) :
    Ledger :=
  operations.foldl perform ledger

/-- Everything let in has been dispatched, still waits, or is gone; no entry counts twice. -/
structure Balanced
    (ledger : Ledger) :
    Prop where
  coherent : ledger.batcher.Coherent
  accounts :
    ∃ gone,
      ledger.admitted.Perm (ledger.dispatched ++ ledger.batcher.pendingEntries ++ gone)

namespace Balanced

variable {ledger : Ledger}

theorem perform
    (balanced : ledger.Balanced)
    (operation : Operation) :
    (ledger.perform operation).Balanced where
  coherent := balanced.coherent.perform operation
  accounts := by
    obtain ⟨gone, before⟩ := balanced.accounts
    obtain ⟨more, step⟩ := Batcher.perform_perm balanced.coherent operation
    refine ⟨gone ++ more, ?_⟩
    simp only [Ledger.perform, List.perm_iff_count, List.count_append] at before step ⊢
    intro entry
    have earlier := before entry
    have now := step entry
    omega

theorem after
    (balanced : ledger.Balanced)
    (operations : List Operation) :
    (ledger.after operations).Balanced := by
  induction operations generalizing ledger with
  | nil => exact balanced
  | cons operation operations inductionHypothesis =>
      exact inductionHypothesis (balanced.perform operation)

end Balanced

theorem balanced_ofKind
    (config : ModelConfig)
    (start : Nat)
    (kind : BatchKind)
    (entryBytes : Nat) :
    (ofKind config start kind entryBytes).Balanced where
  coherent := Batcher.coherent_ofKind config start kind entryBytes
  accounts := by
    refine ⟨[], ?_⟩
    simp [ofKind, Batcher.pendingEntries_ofKind]

/--
In every run, no operation at a batcher of either grouping loses, repeats or
changes a waiting entry, but for one case. An attempt to form a batch accounts for
all entries exactly if it does not overreach with something expired; then the
expired entries are lost, and only they. What waits or has been dispatched was let
in like that, each entry as often as it was let in at most.
-/
theorem requests_conserved
    (config : ModelConfig)
    (start : Nat)
    (kind : BatchKind)
    (entryBytes : Nat)
    (operations : List Operation) :
    let ledger := (ofKind config start kind entryBytes).after operations
    let batcher := ledger.batcher
    (∀ request now,
        let answer := batcher.enqueue request now
        (answer.rejection? = none →
          answer.batcher.pendingEntries.Perm
            (batcher.pendingEntries ++ [batcher.entryFor request now])) ∧
          ∀ failure,
            answer.rejection? = some failure →
              failure.request = request ∧
                answer.batcher.pendingEntries.Perm batcher.pendingEntries) ∧
      (∀ instanceIndex now,
        let formation := batcher.attempt instanceIndex now
        (∃ failed lost,
            FailsWith formation.failed failed ∧
              requestsOf lost = ((batcher.overreach? now).map Handover.requests).getD [] ∧
              batcher.pendingEntries.Perm
                (formation.batcher.pendingEntries ++
                  formation.batch?.toList.flatMap Batch.queueEntries ++ failed ++ lost)) ∧
          ((∃ failed,
              FailsWith formation.failed failed ∧
                batcher.pendingEntries.Perm
                  (formation.batcher.pendingEntries ++
                    formation.batch?.toList.flatMap Batch.queueEntries ++ failed)) ↔
            ∀ lost ∈ batcher.overreach? now, lost.requests = [])) ∧
      (∀ instanceIndex records now failures,
        let settlement := batcher.complete instanceIndex records now
        settlement.verdict = .settled failures →
          ∃ failed,
            FailsWith failures failed ∧
              batcher.pendingEntries.Perm (settlement.batcher.pendingEntries ++ failed)) ∧
      (∀ instanceIndex,
        let handover := batcher.halt instanceIndex
        ∃ returned,
          handover.requests = requestsOf returned ∧
            batcher.pendingEntries.Perm (handover.batcher.pendingEntries ++ returned)) ∧
      (batcher.drain.requests = requestsOf batcher.pendingEntries ∧
        batcher.drain.batcher.pendingEntries = [] ∧
        batcher.drain.batcher.pendingCount = 0) ∧
      ∃ gone,
        ledger.admitted.Perm (ledger.dispatched ++ batcher.pendingEntries ++ gone) := by
  intro ledger batcher
  have balanced : ledger.Balanced :=
    (balanced_ofKind config start kind entryBytes).after operations
  have coherent : batcher.Coherent := balanced.coherent
  obtain ⟨drained, nothingLeft⟩ := Batcher.drain_pending coherent
  refine ⟨?_, ?_, ?_, Batcher.halt_perm coherent, ⟨drained, nothingLeft, ?_⟩, balanced.accounts⟩
  · intro request now
    exact ⟨Batcher.enqueue_accepted coherent, fun _ => Batcher.enqueue_rejected coherent⟩
  · intro instanceIndex now
    exact ⟨Batcher.attempt_perm coherent instanceIndex now,
      Batcher.attempt_conserves_iff coherent instanceIndex now⟩
  · intro instanceIndex records now failures settlement isSettled
    obtain ⟨failed, isSplit, told⟩ := Batcher.complete_perm coherent instanceIndex records now
    exact ⟨failed, told failures isSettled, isSplit⟩
  · rw [Batcher.pendingCount_eq, nothingLeft]
    rfl

/-- Two requests are enough: one expires, the other forces a batch without any bound. -/
example :
    let batching : DynamicBatching :=
      { priorityLevels := 2
        defaultPriorityLevel := 1
        maxQueueDelay := 60
        defaultPolicy := { timeout := 1 }
        levelPolicies := Directory.empty.insert 2 { timeout := 1, timeoutAction := .delay } }
    let config : ModelConfig :=
      { name := "model", maxBatchSize := 2 ^ 63, dynamicBatching? := some batching }
    let ledger := (ofKind config 0 .dynamic).after
      [.enqueue { id := 1 } 0, .enqueue { id := 2, priority := 2 } 0]
    config.problem? = none ∧
      (ledger.batcher.overreach? 5).map (fun lost => lost.requests.map Request.id) =
        some [1] := by
  decide

end Ledger

end InferenceBatching
