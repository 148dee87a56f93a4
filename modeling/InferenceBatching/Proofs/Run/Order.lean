import InferenceBatching.Proofs.Dynamic.Order
import InferenceBatching.Proofs.Run.Ledger

namespace InferenceBatching

/-!
# Order of dispatch

The ledger of a dynamic batcher lists entries as they were let in and as they were
dispatched. Every operation keeps each level in order, so on each level the two
lists and what still waits agree on who came first.
-/

/-- The instants of a run are that of its first operation, if it has one, and those of the rest. -/
theorem Operation.instants_cons
    (operation : Operation)
    (operations : List Operation) :
    (operation :: operations).filterMap Operation.instant? =
      operation.instant?.toList ++ operations.filterMap Operation.instant? := by
  rw [List.filterMap_cons]
  cases operation.instant? <;> rfl

namespace Batcher

/-- An entry is let in at the instant of its operation. -/
theorem enqueuedAt_admittedBy
    (batcher : Batcher)
    (operation : Operation) :
    ((batcher.admittedBy operation).map QueueEntry.enqueuedAt).Sublist
      operation.instant?.toList := by
  cases operation with
  | enqueue request now =>
      simp only [admittedBy, Operation.instant?]
      split
      · cases batcher <;> exact List.Sublist.refl _
      · exact List.nil_sublist _
  | form | complete | halt | drain => exact List.nil_sublist _

end Batcher

namespace DynamicBatcher

/-- No operation lets anybody get ahead on a level. -/
theorem inOrder_perform
    {batcher : DynamicBatcher}
    (filed : batcher.queue.Filed)
    (operation : Operation) :
    PriorityQueue.InOrder batcher.queue (batcher.perform operation).queue
      ((Batcher.dynamic batcher).admittedBy operation)
      ((Batcher.dynamic batcher).dispatchedBy operation) := by
  cases operation with
  | enqueue request now =>
      simp only [perform, Batcher.admittedBy, Batcher.dispatchedBy]
      cases answered : ((Batcher.dynamic batcher).enqueue request now).rejection? with
      | none => exact inOrder_enqueue answered
      | some failure =>
          rw [(enqueue_rejected answered).2]
          exact .refl batcher.queue
  | form instanceIndex now =>
      simp only [perform, Batcher.admittedBy, Batcher.dispatchedBy, Batcher.attempt_dynamic]
      exact inOrder_attempt filed instanceIndex now
  | complete instanceIndex records now => exact .refl batcher.queue
  | halt instanceIndex => exact .refl batcher.queue
  | drain => exact batcher.queue.inOrder_drain

theorem entriesAt_ofConfig
    (config : ModelConfig)
    (entryBytes level : Nat) :
    (ofConfig config entryBytes).queue.entriesAt level = [] := by
  simp only [ofConfig]
  cases config.dynamicBatching? <;> exact PriorityQueue.entriesAt_ofLayout _ level

theorem filed_ofConfig
    (config : ModelConfig)
    (entryBytes : Nat) :
    (ofConfig config entryBytes).queue.Filed := by
  intro level entry member
  rw [entriesAt_ofConfig] at member
  contradiction

/-- Throughout a run every entry waits on the level that its priority stands for. -/
theorem filed_after
    {batcher : DynamicBatcher}
    (filed : batcher.queue.Filed)
    (operations : List Operation) :
    (batcher.after operations).queue.Filed := by
  induction operations generalizing batcher with
  | nil => exact filed
  | cons operation operations inductionHypothesis =>
      exact inductionHypothesis ((inOrder_perform filed operation).filed filed)

/-- Each level is sorted by time of arrival, and all of it came before what happens next. -/
def Sorted
    (batcher : DynamicBatcher)
    (instants : List Nat) :
    Prop :=
  ∀ level,
    ((batcher.queue.entriesAt level).map QueueEntry.enqueuedAt ++ instants).Pairwise (· ≤ ·)

theorem sorted_perform
    {batcher : DynamicBatcher}
    {operation : Operation}
    {instants : List Nat}
    (filed : batcher.queue.Filed)
    (sorted : batcher.Sorted (operation.instant?.toList ++ instants)) :
    (batcher.perform operation).Sorted instants := by
  intro level
  let admitted := batcher.queue.ofLevel level ((Batcher.dynamic batcher).admittedBy operation)
  have entered : (admitted.map QueueEntry.enqueuedAt).Sublist operation.instant?.toList :=
    (List.filter_sublist.map _).trans (Batcher.enqueuedAt_admittedBy _ operation)
  have waits :
      ((batcher.perform operation).queue.entriesAt level).Sublist
        (batcher.queue.entriesAt level ++ admitted) :=
    (List.sublist_append_right _ _).trans ((inOrder_perform filed operation).ordered level)
  have arrived := waits.map QueueEntry.enqueuedAt
  rw [List.map_append] at arrived
  refine (sorted level).sublist ?_
  rw [← List.append_assoc]
  exact (arrived.trans (entered.append_left _)).append_right instants

/-- If the clock never goes back, each level stays sorted by time of arrival. -/
theorem sorted_after
    {batcher : DynamicBatcher}
    (filed : batcher.queue.Filed)
    (operations : List Operation)
    (sorted : batcher.Sorted (operations.filterMap Operation.instant?)) :
    (batcher.after operations).Sorted [] := by
  induction operations generalizing batcher with
  | nil => exact sorted
  | cons operation operations inductionHypothesis =>
      rw [Operation.instants_cons] at sorted
      exact inductionHypothesis ((inOrder_perform filed operation).filed filed)
        (sorted_perform filed sorted)

theorem sorted_takeExpired
    {batcher : DynamicBatcher}
    {instants : List Nat}
    (sorted : batcher.Sorted instants)
    (now : Nat) :
    (batcher.takeExpired now).batcher.Sorted instants := by
  intro level
  have fewer :
      ((batcher.takeExpired now).batcher.queue.entriesAt level).Sublist
        (batcher.queue.entriesAt level) := by
    simp only [takeExpired, PriorityQueue.takeExpired, PriorityQueue.entriesAt_removeWhere]
    exact List.filter_sublist
  exact (sorted level).sublist ((fewer.map _).append_right instants)

end DynamicBatcher

namespace Ledger

/-- What a ledger lists and what waits in its dynamic batcher are in the order of a queue. -/
def InOrder
    (origin : PriorityQueue)
    (ledger : Ledger) :
    Prop :=
  ∃ batcher,
    ledger.batcher = .dynamic batcher ∧
      PriorityQueue.InOrder origin batcher.queue ledger.admitted ledger.dispatched

variable {origin : PriorityQueue}
variable {ledger : Ledger}

theorem InOrder.perform
    (filed : origin.Filed)
    (inOrder : ledger.InOrder origin)
    (operation : Operation) :
    (ledger.perform operation).InOrder origin := by
  obtain ⟨batcher, isBatcher, before⟩ := inOrder
  refine ⟨batcher.perform operation, ?_, ?_⟩
  · rw [Ledger.perform, isBatcher, Batcher.perform_dynamic_eq]
  · rw [Ledger.perform, isBatcher]
    exact before.trans (DynamicBatcher.inOrder_perform (before.filed filed) operation)

theorem InOrder.after
    (filed : origin.Filed)
    (inOrder : ledger.InOrder origin)
    (operations : List Operation) :
    (ledger.after operations).InOrder origin := by
  induction operations generalizing ledger with
  | nil => exact inOrder
  | cons operation operations inductionHypothesis =>
      exact inductionHypothesis (inOrder.perform filed operation)

/-- The entries of a run are let in at instants of its operations, in their order. -/
private theorem enqueuedAt_after
    (ledger : Ledger)
    (operations : List Operation) :
    ((ledger.after operations).admitted.map QueueEntry.enqueuedAt).Sublist
      (ledger.admitted.map QueueEntry.enqueuedAt ++
        operations.filterMap Operation.instant?) := by
  induction operations generalizing ledger with
  | nil => simp [after]
  | cons operation operations inductionHypothesis =>
      have step := Batcher.enqueuedAt_admittedBy ledger.batcher operation
      have later := inductionHypothesis (ledger.perform operation)
      rw [perform, List.map_append, List.append_assoc] at later
      rw [Operation.instants_cons]
      exact later.trans ((step.append_right _).append_left _)

/--
In every run of a dynamic batcher, each level is first in, first out. The entries of
a level that have been dispatched, batch by batch and within a batch by position,
and then those that still wait there, are in the order in which they were let in.
Each entry waits on the level that its priority stands for, which no operation
changes, and if the clock never goes back, each level is sorted by time of arrival.
-/
theorem levels_first_in_first_out
    (config : ModelConfig)
    (start : Nat)
    (operations : List Operation) :
    let ledger := (ofKind config start .dynamic).after operations
    ∃ batcher,
      ledger.batcher = .dynamic batcher ∧
        let queue := batcher.queue
        queue.resolveLevel = (DynamicBatcher.ofConfig config).queue.resolveLevel ∧
          (∀ level,
            (queue.ofLevel level ledger.dispatched ++ queue.entriesAt level).Sublist
              (queue.ofLevel level ledger.admitted)) ∧
          (∀ level held,
            queue.level? level = some held →
              ∀ entry ∈ held.entries,
                queue.resolveLevel entry.request.priority = level) ∧
          ((operations.filterMap Operation.instant?).Pairwise (· ≤ ·) →
            ∀ held ∈ queue.levels,
              (held.entries.map QueueEntry.enqueuedAt).Pairwise (· ≤ ·)) := by
  intro ledger
  let origin := (DynamicBatcher.ofConfig config).queue
  have empty : ∀ level, origin.entriesAt level = [] :=
    DynamicBatcher.entriesAt_ofConfig config _
  have originFiled : origin.Filed := by
    intro level entry member
    rw [empty level] at member
    contradiction
  have started : (ofKind config start .dynamic).InOrder origin := ⟨_, rfl, .refl origin⟩
  obtain ⟨batcher, isBatcher, inOrder⟩ := started.after originFiled operations
  have ordered : ∀ level,
      (batcher.queue.ofLevel level ledger.dispatched ++
        batcher.queue.entriesAt level).Sublist
          (batcher.queue.ofLevel level ledger.admitted) := by
    intro level
    have entered := inOrder.ordered level
    rwa [empty level, List.nil_append, ← PriorityQueue.ofLevel_congr inOrder.resolves,
      ← PriorityQueue.ofLevel_congr inOrder.resolves] at entered
  refine ⟨batcher, isBatcher, inOrder.resolves, ordered, ?_, ?_⟩
  · intro level held isHeld entry member
    refine inOrder.filed originFiled level entry ?_
    simpa [PriorityQueue.entriesAt, isHeld] using member
  · intro clock held member
    obtain ⟨index, inRange, isHeld⟩ := List.getElem_of_mem member
    have isEntries : batcher.queue.entriesAt (index + 1) = held.entries := by
      simp [PriorityQueue.entriesAt, PriorityQueue.level?_succ, inRange, isHeld]
    have waiting : held.entries.Sublist ledger.admitted := by
      rw [← isEntries]
      exact ((List.sublist_append_right _ _).trans (ordered (index + 1))).trans
        List.filter_sublist
    have arrivals := enqueuedAt_after (ofKind config start .dynamic) operations
    exact clock.sublist ((waiting.map _).trans arrivals)

end Ledger

end InferenceBatching
