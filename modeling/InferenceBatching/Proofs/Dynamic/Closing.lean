import InferenceBatching.Proofs.Dynamic.Greedy
import InferenceBatching.Proofs.Run.Settings

namespace InferenceBatching

/-!
# When a batch closes

Whether a batch closes is decided on the heads of the levels, before any request is
looked at. On sorted levels the oldest head is the oldest entry of all, so the
decision comes to a condition on what waits, and a batch that closes is formed
exactly if some request is valid. Without a batch the instance is left idle with an
empty queue, or it is told when to try again.
-/

namespace DynamicBatcher

variable {batcher : DynamicBatcher}
variable {now : Nat}

/-- As many requests wait as a batch should have. -/
def IsFull
    (batcher : DynamicBatcher) :
    Prop :=
  batcher.preferredBatchSize ≤ batcher.pendingEntries.length

/-- The entry that came first has waited for the whole window. -/
def HasElapsed
    (batcher : DynamicBatcher)
    (now : Nat) :
    Prop :=
  ∃ oldest ∈ (batcher.pendingEntries.map QueueEntry.enqueuedAt).min?,
    oldest + batcher.maxQueueDelay ≤ now

/--
An urgent entry waits on the first level that has entries, or on any level if urgent
entries of all levels count.
-/
def IsForced
    (batcher : DynamicBatcher)
    (now : Nat) :
    Prop :=
  ∃ level,
    (∃ entry ∈ batcher.queue.entriesAt level, entry.isUrgent now = true) ∧
      (batcher.delayClosesAcrossLevels = false →
        ∀ higher < level, batcher.queue.entriesAt higher = [])

/-- Urgent entries force a batch as the settings of the batcher say. -/
theorem delayForcesClose_iff :
    batcher.delayForcesClose now = true ↔ batcher.IsForced now := by
  unfold delayForcesClose IsForced
  cases across : batcher.delayClosesAcrossLevels with
  | true =>
      have somewhere :
          batcher.queue.hasUrgent now = true ↔
            ∃ entry ∈ batcher.queue.entries, entry.isUrgent now = true := by
        simp only [PriorityQueue.hasUrgent, List.any_eq_true, decide_eq_true_eq,
          LevelQueue.urgentCount_pos, PriorityQueue.entries, List.mem_flatMap]
        grind
      simp only [if_true, somewhere, PriorityQueue.mem_entries_iff]
      grind
  | false =>
      simp only [Bool.false_eq_true, if_false, forall_const]
      constructor
      · intro forced
        split at forced
        · contradiction
        · next held isFirst =>
            obtain ⟨level, isHighest, isHeld⟩ := Option.bind_eq_some_iff.mp isFirst
            refine ⟨level, ?_, (PriorityQueue.highestPendingLevel?_eq_some_iff.mp isHighest).2⟩
            simp only [decide_eq_true_eq, LevelQueue.urgentCount_pos] at forced
            simpa [PriorityQueue.entriesAt, isHeld] using forced
      · rintro ⟨level, ⟨entry, member, urgent⟩, noneBefore⟩
        have isHighest : batcher.queue.highestPendingLevel? = some level :=
          PriorityQueue.highestPendingLevel?_eq_some_iff.mpr
            ⟨List.ne_nil_of_mem member, noneBefore⟩
        cases isHeld : batcher.queue.level? level with
        | none => simp [PriorityQueue.entriesAt, isHeld] at member
        | some held =>
            have inLevel : entry ∈ held.entries := by
              simpa [PriorityQueue.entriesAt, isHeld] using member
            simp only [isHighest, Option.bind_some, isHeld, decide_eq_true_eq]
            exact LevelQueue.urgentCount_pos.mpr ⟨entry, inLevel, urgent⟩

/-- A batch may be filled to its maximum. -/
def FillsUp
    (batcher : DynamicBatcher)
    (now : Nat) :
    Prop :=
  batcher.HasElapsed now ∨ batcher.IsForced now

/-- The size up to which a batch is filled, if anything waits and a batch is due. -/
def closingLimit?
    (batcher : DynamicBatcher)
    (now : Nat) :
    Option Nat :=
  batcher.queue.oldestFront?.bind (fun oldest => batcher.dueLimit? oldest now)

/-- On sorted levels a batch is due as what waits asks for, and so is its size. -/
theorem closingLimit?_eq_some_iff
    (fillsSome : batcher.FillsSome)
    (sorted : batcher.Sorted [])
    {limit : Nat} :
    batcher.closingLimit? now = some limit ↔
      (batcher.FillsUp now ∧ limit = batcher.maxBatchSize) ∨
        (¬ batcher.FillsUp now ∧ batcher.IsFull ∧ limit = batcher.preferredBatchSize) := by
  have isMin :
      batcher.queue.oldestFront? = (batcher.pendingEntries.map QueueEntry.enqueuedAt).min? :=
    PriorityQueue.oldestFront?_eq_min (by simpa [Sorted] using sorted)
  cases isOldest : batcher.queue.oldestFront? with
  | none =>
      have nothing : batcher.pendingEntries = [] :=
        PriorityQueue.oldestFront?_eq_none.mp isOldest
      have notFull : ¬ batcher.IsFull := by
        have positive := fillsSome.1
        simp only [IsFull, nothing, List.length_nil]
        omega
      have notElapsed : ¬ batcher.HasElapsed now := by simp [HasElapsed, nothing]
      have notForced : ¬ batcher.IsForced now := by
        rintro ⟨level, ⟨entry, member, _⟩, _⟩
        have waits : entry ∈ batcher.pendingEntries :=
          PriorityQueue.mem_entries_iff.mpr ⟨level, member⟩
        rw [nothing] at waits
        contradiction
      simp [closingLimit?, isOldest, FillsUp, notFull, notElapsed, notForced]
  | some oldest =>
      have elapsed : oldest + batcher.maxQueueDelay ≤ now ↔ batcher.HasElapsed now := by
        simp [HasElapsed, ← isMin, isOldest]
      have full : batcher.preferredBatchSize ≤ batcher.queue.size ↔ batcher.IsFull := by
        rw [PriorityQueue.size_eq_length_entries]
        exact Iff.rfl
      have fills :
          oldest + batcher.maxQueueDelay ≤ now ∨ batcher.delayForcesClose now = true ↔
            batcher.FillsUp now :=
        or_congr elapsed delayForcesClose_iff
      simp only [closingLimit?, isOldest, Option.bind_some]
      by_cases fillsUp : batcher.FillsUp now
      · have isDue := dueLimit?_of_closes (Or.inr (fills.mpr fillsUp))
        rw [if_pos (fills.mpr fillsUp)] at isDue
        simp [isDue, fillsUp, eq_comm]
      · have notFilled := mt fills.mp fillsUp
        by_cases isFull : batcher.IsFull
        · have isDue : batcher.dueLimit? oldest now = _ :=
            dueLimit?_of_closes (Or.inl (full.mpr isFull))
          rw [if_neg notFilled] at isDue
          simp [isDue, fillsUp, isFull, eq_comm]
        · have notDue : batcher.dueLimit? oldest now = none := by
            have notFull := mt full.mp isFull
            simp only [not_or] at notFilled
            simp [dueLimit?, closing, Closing.holds, notFull, notFilled]
          simp [notDue, fillsUp, isFull]

/-- On sorted levels a batch is due if enough wait, or if it may be filled to its maximum. -/
theorem closingLimit?_isSome_iff
    (fillsSome : batcher.FillsSome)
    (sorted : batcher.Sorted []) :
    (batcher.closingLimit? now).isSome ↔ batcher.IsFull ∨ batcher.FillsUp now := by
  simp only [Option.isSome_iff_exists, closingLimit?_eq_some_iff fillsSome sorted]
  by_cases fillsUp : batcher.FillsUp now <;> simp [fillsUp]

/-- An attempt is broken off exactly if a batch is due for which room cannot be made. -/
theorem overreach?_isSome_iff
    (batcher : DynamicBatcher)
    (now : Nat) :
    (batcher.overreach? now).isSome ↔
      ∃ limit,
        (batcher.takeExpired now).batcher.closingLimit? now = some limit ∧
          addressableBytes < limit * batcher.entryBytes := by
  simp only [overreach?, closingLimit?]
  cases (batcher.takeExpired now).batcher.queue.oldestFront? with
  | none => simp
  | some oldest =>
      cases isDue : (batcher.takeExpired now).batcher.dueLimit? oldest now with
      | none => simp [isDue]
      | some limit =>
          by_cases tooLarge : addressableBytes < limit * batcher.entryBytes <;>
            simp [isDue, tooLarge]

/-- A formation closes a batch if one is due; else it leaves the instance idle or waiting. -/
theorem formBatch_eq
    (batcher : DynamicBatcher)
    (instanceIndex now : Nat) :
    let late := batcher.takeExpired now
    let waiting := late.batcher
    let expired := Failure.all late.requests .timeoutExpired
    batcher.formBatch instanceIndex now =
      match waiting.closingLimit? now with
      | some limit => waiting.close instanceIndex limit expired now
      | none =>
          match waiting.queue.oldestFront? with
          | none => .idle (waiting.enterPhase instanceIndex .idle) expired none
          | some oldest =>
              .idle (waiting.enterPhase instanceIndex .accumulating) expired
                (earlier? (waiting.queue.nextDeadline? now)
                  (some (oldest + waiting.maxQueueDelay))) := by
  intro late waiting expired
  simp only [formBatch, closingLimit?, waiting, late]
  cases (batcher.takeExpired now).batcher.queue.oldestFront? with
  | none => rfl
  | some oldest =>
      simp only [Option.bind_some]
      cases (batcher.takeExpired now).batcher.dueLimit? oldest now <;> rfl

theorem phase_enterPhase
    {instanceIndex : Nat}
    (inRange : instanceIndex < batcher.phases.length)
    (phase : InstancePhase) :
    (batcher.enterPhase instanceIndex phase).phase instanceIndex = phase := by
  simp [DynamicBatcher.phase, enterPhase, List.getD_eq_getElem?_getD, inRange]

theorem requestCount_ofEntries
    (instanceIndex : Nat)
    (entries : List QueueEntry)
    (now : Nat) :
    (Batch.ofEntries instanceIndex entries now).requestCount = entries.length := by
  have noPadding :
      ∀ entry ∈ entries.map BatchEntry.single, (!entry.isPadding) = true := by
    simp [BatchEntry.isPadding, BatchEntry.queued?]
  rw [Batch.requestCount, Batch.ofEntries, List.filter_eq_self.mpr noPadding, List.length_map]

/-- What a formation comes to for a batcher from which what has expired has been taken. -/
inductive Outcome
    (waiting : DynamicBatcher)
    (instanceIndex : Nat)
    (now : Nat)
    (formation : Formation DynamicBatcher) :
    Prop where
  | dispatched
      {limit : Nat}
      {batch : Batch}
      (isDue : waiting.closingLimit? now = some limit)
      (someValid : ∃ entry ∈ waiting.pendingEntries, entry.isValid waiting.inputs = true)
      (isBatch : formation.batch? = some batch)
      (notEmpty : 0 < batch.requestCount)
      (withinLimit : batch.requestCount ≤ limit)
      (isPhase : formation.batcher.phase instanceIndex = .dispatched)
  | idle
      (noneValid : ∀ entry ∈ waiting.pendingEntries, entry.isValid waiting.inputs = false)
      (noBatch : formation.batch? = none)
      (nothingLeft : formation.batcher.pendingEntries = [])
      (noWake : formation.wakeAt? = none)
      (isPhase : formation.batcher.phase instanceIndex = .idle)
  | accumulating
      {wakeAt : Nat}
      (notDue : waiting.closingLimit? now = none)
      (noBatch : formation.batch? = none)
      (isWake : formation.wakeAt? = some wakeAt)
      (toCome : now < wakeAt)
      (isPhase : formation.batcher.phase instanceIndex = .accumulating)

namespace Outcome

variable {waiting : DynamicBatcher}
variable {instanceIndex : Nat}
variable {formation : Formation DynamicBatcher}

/-- There is a batch exactly if one is due and something that waits is valid. -/
theorem isSome_iff
    (outcome : Outcome waiting instanceIndex now formation) :
    formation.batch?.isSome ↔
      (∃ entry ∈ waiting.pendingEntries, entry.isValid waiting.inputs = true) ∧
        (waiting.closingLimit? now).isSome := by
  cases outcome with
  | dispatched isDue someValid isBatch notEmpty withinLimit isPhase =>
      simp [isBatch, isDue, someValid]
  | idle noneValid noBatch nothingLeft noWake isPhase =>
      have noneThere :
          ¬ ∃ entry ∈ waiting.pendingEntries, entry.isValid waiting.inputs = true := by
        rintro ⟨entry, member, isValid⟩
        simp [noneValid entry member] at isValid
      simp [noBatch, noneThere]
  | accumulating notDue noBatch isWake toCome isPhase => simp [noBatch, notDue]

/-- A batch has a request, and no more of them than the batch that is due may have. -/
theorem requestCount_bounds
    (outcome : Outcome waiting instanceIndex now formation)
    {batch : Batch}
    (isBatch : formation.batch? = some batch) :
    1 ≤ batch.requestCount ∧
      ∃ limit, waiting.closingLimit? now = some limit ∧ batch.requestCount ≤ limit := by
  cases outcome with
  | dispatched isDue someValid isFormed notEmpty withinLimit isPhase =>
      rw [← Option.some.inj (isFormed.symm.trans isBatch)]
      exact ⟨notEmpty, _, isDue, withinLimit⟩
  | idle _ noBatch | accumulating _ noBatch =>
      rw [noBatch] at isBatch
      contradiction

/-- Without a batch nothing is left to do, or there is an instant at which to try again. -/
theorem of_noBatch
    (outcome : Outcome waiting instanceIndex now formation)
    (noBatch : formation.batch? = none) :
    (formation.batcher.pendingEntries = [] ∧
        formation.batcher.phase instanceIndex = .idle ∧ formation.wakeAt? = none) ∨
      (formation.batcher.phase instanceIndex = .accumulating ∧
        ∃ wakeAt, formation.wakeAt? = some wakeAt ∧ now < wakeAt) := by
  cases outcome with
  | dispatched isDue someValid isBatch notEmpty withinLimit isPhase =>
      rw [isBatch] at noBatch
      contradiction
  | idle noneValid _ nothingLeft noWake isPhase =>
      exact Or.inl ⟨nothingLeft, isPhase, noWake⟩
  | accumulating notDue _ isWake toCome isPhase =>
      exact Or.inr ⟨isPhase, _, isWake, toCome⟩

/-- An instance is dispatched exactly with a batch. -/
theorem dispatched_iff
    (outcome : Outcome waiting instanceIndex now formation) :
    formation.batcher.phase instanceIndex = .dispatched ↔ formation.batch?.isSome := by
  cases outcome with
  | dispatched isDue someValid isBatch notEmpty withinLimit isPhase => simp [isBatch, isPhase]
  | idle noneValid noBatch nothingLeft noWake isPhase => simp [noBatch, isPhase]
  | accumulating notDue noBatch isWake toCome isPhase => simp [noBatch, isPhase]

end Outcome

/-- A batch that is due is dispatched, unless nothing that waits is valid. -/
theorem outcome_close
    {instanceIndex limit : Nat}
    (filed : batcher.queue.Filed)
    (fillsSome : batcher.FillsSome)
    (inRange : instanceIndex < batcher.phases.length)
    (isDue : batcher.closingLimit? now = some limit)
    (expired : List Failure) :
    Outcome batcher instanceIndex now (batcher.close instanceIndex limit expired now) := by
  obtain ⟨oldest, _, fromOldest⟩ := Option.bind_eq_some_iff.mp isDue
  have mayTake : 0 < limit := mayTake_of_due fillsSome fromOldest
  let passed := walked batcher.inputs limit [] (batcher.queue.selectionOrder now)
  have isTaken :
      (batcher.select limit now).taken = passed.filter (·.isValid batcher.inputs) :=
    (walks_select filed limit now).passes.taken
  have noneTaken :
      (batcher.select limit now).taken = [] ↔
        ∀ entry ∈ batcher.pendingEntries, entry.isValid batcher.inputs = false := by
    rw [isTaken, taken_eq_nil_iff mayTake]
    simp only [(batcher.queue.selectionOrder_perm now).mem_iff, pendingEntries]
  have withinLimit : (batcher.select limit now).taken.length ≤ limit := by
    rw [isTaken]
    exact length_taken_le [] (Nat.zero_le limit) _
  unfold close
  dsimp only
  split
  · next nothing =>
      have isNone := List.isEmpty_iff.mp nothing
      exact .idle (noneTaken.mp isNone) rfl (emptied_select mayTake isNone) rfl
        (phase_enterPhase inRange _)
  · next something =>
      have isSome : (batcher.select limit now).taken ≠ [] := mt List.isEmpty_iff.mpr something
      refine .dispatched isDue ?_ rfl ?_ ?_ (phase_enterPhase inRange _)
      · simpa using mt noneTaken.mpr isSome
      · rw [requestCount_ofEntries]
        exact List.length_pos_of_ne_nil isSome
      · rw [requestCount_ofEntries]
        exact withinLimit

/-- A formation dispatches a batch, leaves the instance with nothing, or has it wait. -/
theorem outcome_formBatch
    {instanceIndex : Nat}
    (filed : batcher.queue.Filed)
    (fillsSome : batcher.FillsSome)
    (inRange : instanceIndex < batcher.phases.length) :
    Outcome (batcher.takeExpired now).batcher instanceIndex now
      (batcher.formBatch instanceIndex now) := by
  have inTime := batcher.inTime_takeExpired now
  have stillFiled : (batcher.takeExpired now).batcher.queue.Filed :=
    (batcher.queue.inOrder_removeWhere _).filed filed
  have stillFills : (batcher.takeExpired now).batcher.FillsSome := fillsSome
  have stillInRange : instanceIndex < (batcher.takeExpired now).batcher.phases.length := inRange
  rw [formBatch_eq]
  generalize batcher.takeExpired now = late at *
  cases isDue : late.batcher.closingLimit? now with
  | some limit => exact outcome_close stillFiled stillFills stillInRange isDue _
  | none =>
      cases isOldest : late.batcher.queue.oldestFront? with
      | none =>
          have nothing : late.batcher.pendingEntries = [] :=
            PriorityQueue.oldestFront?_eq_none.mp isOldest
          exact .idle (by simp [nothing]) rfl nothing rfl (phase_enterPhase stillInRange _)
      | some oldest =>
          have notDue : late.batcher.dueLimit? oldest now = none := by
            simpa [closingLimit?, isOldest] using isDue
          obtain ⟨toCome, _⟩ := resting_of_notDue inTime isOldest notDue
          obtain ⟨wakeAt, isWake, _⟩ :=
            earlier?_some (late.batcher.queue.nextDeadline? now)
              (oldest + late.batcher.maxQueueDelay)
          exact .accumulating isDue rfl isWake (toCome wakeAt isWake)
            (phase_enterPhase stillInRange _)

/--
Take any batcher that a run of an accepted configuration reaches while the clock
never goes back, and an attempt for an instance that exists. Let what has expired
leave the queue.

Unless room for the batch cannot be made, there is a batch exactly if some entry that
waits is valid and either enough entries wait, or the first of all to come has waited
for the whole window, or an urgent entry forces the batch. It has at least one request
and at most the maximum, which is one without a description of the grouping, and no
more than the preferred size if all that speaks for it is that enough wait. Without a
batch the instance is idle, nothing is left and it is told nothing, or it accumulates
and is told to try again at an instant to come. It is dispatched exactly if there is a
batch.

Room cannot be made exactly if a batch is due, whether or not any entry is valid, and
as many entries as it may have cannot be addressed. Then there is no batch, nobody is
told of a failure, and all that has changed in the queue is that what has expired has
left it. This is so however many bytes an entry takes.
-/
theorem closes_exactly
    (config : ModelConfig)
    (valid : config.validate = .ok ())
    (entryBytes : Nat)
    (operations : List Operation)
    (clock : (operations.filterMap Operation.instant?).Pairwise (· ≤ ·))
    (instanceIndex now : Nat)
    (isInstance : instanceIndex < config.instanceCount) :
    let batcher := (ofConfig config entryBytes).after operations
    let waiting := (batcher.takeExpired now).batcher
    let attempt := batcher.attempt instanceIndex now
    let phase := attempt.batcher.phase instanceIndex
    waiting.pendingEntries =
        batcher.pendingEntries.filter (fun entry => !entry.isRejectable now) ∧
      (ofConfig config entryBytes).SharesSettings waiting ∧
      (batcher.overreach? now = none →
        (attempt.batch?.isSome ↔
          (∃ entry ∈ waiting.pendingEntries, entry.isValid config.inputs = true) ∧
            (waiting.IsFull ∨ waiting.FillsUp now)) ∧
        (∀ batch ∈ attempt.batch?,
          1 ≤ batch.requestCount ∧
            batch.requestCount ≤
              (if config.dynamicBatching?.isSome then max config.maxBatchSize 1 else 1) ∧
            (¬ waiting.FillsUp now → batch.requestCount ≤ waiting.preferredBatchSize)) ∧
        (attempt.batch? = none →
          (attempt.batcher.pendingEntries = [] ∧ phase = .idle ∧ attempt.wakeAt? = none) ∨
            (phase = .accumulating ∧
              ∃ wakeAt, attempt.wakeAt? = some wakeAt ∧ now < wakeAt)) ∧
        (phase = .dispatched ↔ attempt.batch?.isSome)) ∧
      ((batcher.overreach? now).isSome →
        attempt.batch? = none ∧ attempt.failed = [] ∧
          attempt.batcher.queue = waiting.queue) ∧
      ((batcher.overreach? now).isSome ↔
        (waiting.FillsUp now ∧ addressableBytes < waiting.maxBatchSize * entryBytes) ∨
          (¬ waiting.FillsUp now ∧ waiting.IsFull ∧
            addressableBytes < waiting.preferredBatchSize * entryBytes)) := by
  intro batcher waiting attempt phase
  have filed : batcher.queue.Filed := filed_after (filed_ofConfig config entryBytes) operations
  have sorted : waiting.Sorted [] := by
    refine sorted_takeExpired (sorted_after (filed_ofConfig config entryBytes) operations ?_) now
    simpa [Sorted, entriesAt_ofConfig] using clock
  have shares : (ofConfig config entryBytes).SharesSettings batcher := .after _ operations
  have stillShares : (ofConfig config entryBytes).SharesSettings waiting :=
    shares.trans (.withQueue batcher _)
  have fillsSome : (ofConfig config entryBytes).FillsSome := fillsSome_ofConfig valid entryBytes
  have isDue :
      ∀ {limit : Nat},
        waiting.closingLimit? now = some limit ↔
          (waiting.FillsUp now ∧ limit = waiting.maxBatchSize) ∨
            (¬ waiting.FillsUp now ∧ waiting.IsFull ∧ limit = waiting.preferredBatchSize) :=
    closingLimit?_eq_some_iff (stillShares.fillsSome fillsSome) sorted
  have closes : (waiting.closingLimit? now).isSome ↔ waiting.IsFull ∨ waiting.FillsUp now :=
    closingLimit?_isSome_iff (stillShares.fillsSome fillsSome) sorted
  obtain ⟨sameInputs, instances, isLargest, isEntryBytes⟩ := settings_ofConfig config entryBytes
  refine ⟨(batcher.queue.entries_removeWhere _).2, stillShares, ?_, ?_, ?_⟩
  · intro room
    have isAttempt : attempt = batcher.formBatch instanceIndex now := by
      simp only [attempt, DynamicBatcher.attempt, room]
    have inRange : instanceIndex < batcher.phases.length := by
      rw [shares.instanceCount, instances]
      omega
    have preferredWithin : waiting.preferredBatchSize ≤ waiting.maxBatchSize := by
      rw [stillShares.preferredBatchSize, stillShares.maxBatchSize]
      exact preferredBatchSize_le_ofConfig config entryBytes
    have outcome : Outcome waiting instanceIndex now (batcher.formBatch instanceIndex now) :=
      outcome_formBatch filed (shares.fillsSome fillsSome) inRange
    rw [← isLargest, ← stillShares.maxBatchSize, ← sameInputs, ← stillShares.inputs]
    simp only [phase, isAttempt]
    refine ⟨?_, ?_, outcome.of_noBatch, outcome.dispatched_iff⟩
    · rw [← closes]
      exact outcome.isSome_iff
    · intro batch isBatch
      obtain ⟨notEmpty, limit, due, withinLimit⟩ := outcome.requestCount_bounds isBatch
      rcases isDue.mp due with ⟨fillsUp, rfl⟩ | ⟨notFilled, isFull, rfl⟩
      · exact ⟨notEmpty, withinLimit, fun notFilled => absurd fillsUp notFilled⟩
      · exact ⟨notEmpty, withinLimit.trans preferredWithin, fun _ => withinLimit⟩
  · intro overreaches
    obtain ⟨lost, isLost⟩ := Option.isSome_iff_exists.mp overreaches
    have isLate := takeExpired_of_overreach isLost
    have isAttempt : attempt = .idle waiting [] none := by
      simp only [attempt, DynamicBatcher.attempt, isLost, waiting, isLate]
    rw [isAttempt]
    exact ⟨rfl, rfl, rfl⟩
  · rw [overreach?_isSome_iff, shares.entryBytes, isEntryBytes]
    constructor
    · rintro ⟨limit, due, tooLarge⟩
      rcases isDue.mp due with ⟨fillsUp, rfl⟩ | ⟨notFilled, isFull, rfl⟩
      · exact Or.inl ⟨fillsUp, tooLarge⟩
      · exact Or.inr ⟨notFilled, isFull, tooLarge⟩
    · rintro (⟨fillsUp, tooLarge⟩ | ⟨notFilled, isFull, tooLarge⟩)
      · exact ⟨_, isDue.mpr (Or.inl ⟨fillsUp, rfl⟩), tooLarge⟩
      · exact ⟨_, isDue.mpr (Or.inr ⟨notFilled, isFull, rfl⟩), tooLarge⟩

/--
The first request waits on the second level. One instant before its window ends the
instance waits for it, and at the end there is a batch, although too few wait.
-/
theorem closes_exactly_of_two_levels :
    let config : ModelConfig :=
      { name := "model"
        maxBatchSize := 4
        dynamicBatching? := some
          { preferredSizes := [3]
            maxQueueDelay := 10
            priorityLevels := 2
            defaultPriorityLevel := 1 } }
    let operations : List Operation :=
      [.enqueue { id := 1, priority := 2 } 0, .enqueue { id := 2, priority := 1 } 5]
    let batcher := (ofConfig config).after operations
    ((batcher.attempt 0 9).batcher.phase 0 = .accumulating ∧
        ∃ wakeAt, (batcher.attempt 0 9).wakeAt? = some wakeAt ∧ 9 < wakeAt) ∧
      (batcher.attempt 0 10).batch?.isSome ∧
      ∀ batch ∈ (batcher.attempt 0 10).batch?, 1 ≤ batch.requestCount ∧ batch.requestCount ≤ 4 := by
  intro config operations batcher
  have before :=
    closes_exactly config (by decide) usualEntryBytes operations (by decide) 0 9 (by decide)
  have atEnd :=
    closes_exactly config (by decide) usualEntryBytes operations (by decide) 0 10 (by decide)
  obtain ⟨_, _, waits, _⟩ := before.2.2.1 (by decide)
  obtain ⟨isFormed, sizes, _, _⟩ := atEnd.2.2.1 (by decide)
  have stillThere : (batcher.attempt 0 9).batcher.pendingEntries ≠ [] := by decide
  refine ⟨(waits (by decide)).resolve_left (fun left => stillThere left.1), ?_, ?_⟩
  · refine isFormed.mpr ⟨by decide, Or.inr (Or.inl ⟨0, by decide, by decide⟩)⟩
  · intro batch isBatch
    exact ⟨(sizes batch isBatch).1, (sizes batch isBatch).2.1⟩

end DynamicBatcher

end InferenceBatching
