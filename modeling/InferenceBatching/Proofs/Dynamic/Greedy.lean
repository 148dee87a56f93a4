import InferenceBatching.Proofs.Dynamic.Rest
import InferenceBatching.Proofs.Dynamic.Walk
import InferenceBatching.Proofs.Run.Order
import InferenceBatching.Proofs.Run.Settings

namespace InferenceBatching

/-!
# Greedy selection

A selection pops entries in two loops, puts one back when the shapes part, and
leaves off in either loop. Each loop is a walk along a list of entries that is known
before it starts, and the second goes on where the first has come to its end. So the
whole selection is one walk along what must leave and then along the rest.
-/

namespace Selection

variable {inputs : List InputSpec}
variable {limit : Nat}
variable {passed more order first second : List QueueEntry}
variable {before between after : Selection}

/-- From one selection to another, some entries have left the heads of their levels. -/
structure Passes
    (inputs : List InputSpec)
    (passed : List QueueEntry)
    (before after : Selection) :
    Prop where
  taken : after.taken = before.taken ++ passed.filter (·.isValid inputs)
  failed : after.failed = before.failed ++ passed.filterMap (·.inputFailure? inputs)
  resolves : after.queue.resolveLevel = before.queue.resolveLevel
  leave :
    ∀ level,
      before.queue.entriesAt level =
        before.queue.ofLevel level passed ++ after.queue.entriesAt level

namespace Passes

theorem refl
    (selection : Selection) :
    Passes inputs [] selection selection where
  taken := (List.append_nil _).symm
  failed := (List.append_nil _).symm
  resolves := rfl
  leave _ := rfl

theorem trans
    (isFirst : Passes inputs passed before between)
    (isSecond : Passes inputs more between after) :
    Passes inputs (passed ++ more) before after where
  taken := by rw [isSecond.taken, isFirst.taken, List.filter_append, List.append_assoc]
  failed := by rw [isSecond.failed, isFirst.failed, List.filterMap_append, List.append_assoc]
  resolves := isSecond.resolves.trans isFirst.resolves
  leave level := by
    rw [isFirst.leave level, isSecond.leave level,
      PriorityQueue.ofLevel_congr isFirst.resolves, PriorityQueue.ofLevel_append,
      List.append_assoc]

theorem filed
    (passes : Passes inputs passed before after)
    (filed : before.queue.Filed) :
    after.queue.Filed := by
  intro level entry member
  rw [passes.resolves]
  refine filed level entry ?_
  rw [passes.leave level]
  exact List.mem_append_right _ member

/-- Entries that leave one level leave no other. -/
theorem elsewhere
    (passes : Passes inputs passed before after)
    (filed : before.queue.Filed)
    {level other : Nat}
    (within : passed ⊆ before.queue.entriesAt level)
    (differs : other ≠ level) :
    after.queue.entriesAt other = before.queue.entriesAt other := by
  have none : before.queue.ofLevel other passed = [] := by
    unfold PriorityQueue.ofLevel
    rw [List.filter_eq_nil_iff]
    intro entry member
    simpa [filed level entry (within member)] using differs.symm
  rw [passes.leave other, none, List.nil_append]

end Passes

/-- The queue is in order, and the ledger holds the shapes of what was taken. -/
structure Sound (selection : Selection) : Prop where
  filed : selection.queue.Filed
  reflects : selection.shapes.Reflects (requestsOf selection.taken)

/--
From one selection to another, entries have left as a walk comes past them. At its end
the selection has not closed; a walk that ends before has left nothing to pick.
-/
structure Walks
    (inputs : List InputSpec)
    (limit : Nat)
    (order : List QueueEntry)
    (before after : Selection) :
    Prop where
  passes : Passes inputs (walked inputs limit before.taken order) before after
  sound : after.Sound
  goesOn : walked inputs limit before.taken order = order → after.isClosed = false
  stops : walked inputs limit before.taken order ≠ order → after.isOpen limit = false

theorem walks_nil
    (sound : before.Sound)
    (notClosed : before.isClosed = false) :
    Walks inputs limit [] before before where
  passes := .refl before
  sound := sound
  goesOn _ := notClosed
  stops ended := absurd rfl ended

/-- Once enough are taken, a walk has ended. -/
theorem walks_of_notOpen
    (sound : before.Sound)
    (notClosed : before.isClosed = false)
    (notOpen : before.isOpen limit = false)
    (order : List QueueEntry) :
    Walks inputs limit order before before := by
  have enough : limit ≤ before.taken.length := by
    simpa [isOpen, notClosed] using notOpen
  have none : walked inputs limit before.taken order = [] := by
    cases order with
    | nil => rfl
    | cons entry order => rw [walked, if_pos enough]
  refine ⟨?_, sound, fun _ => notClosed, fun _ => notOpen⟩
  rw [none]
  exact .refl before

/-- A walk along a second list follows one along a first, unless that has ended. -/
theorem Walks.trans
    (isFirst : Walks inputs limit first before between)
    (isSecond :
      walked inputs limit before.taken first = first →
        Walks inputs limit second between after)
    (isIdle : between.isOpen limit = false → after = between) :
    Walks inputs limit (first ++ second) before after := by
  by_cases isWhole : walked inputs limit before.taken first = first
  · have further := isSecond isWhole
    have isTaken :
        between.taken = before.taken ++ first.filter (·.isValid inputs) := by
      rw [isFirst.passes.taken, isWhole]
    have isWalked :
        walked inputs limit before.taken (first ++ second) =
          first ++ walked inputs limit between.taken second := by
      rw [walked_append, if_pos isWhole, isTaken]
    refine ⟨?_, further.sound, ?_, ?_⟩
    · rw [isWalked]
      exact (isWhole ▸ isFirst.passes).trans further.passes
    · rw [isWalked, List.append_cancel_left_eq]
      exact further.goesOn
    · rw [isWalked, Ne, List.append_cancel_left_eq]
      exact further.stops
  · -- The first walk has ended early, so the second is not begun on either side.
    have isWalked :
        walked inputs limit before.taken (first ++ second) =
          walked inputs limit before.taken first := by
      rw [walked_append, if_neg isWhole]
    have ended := isFirst.stops isWhole
    have isLast := isIdle ended
    subst isLast
    refine ⟨isWalked ▸ isFirst.passes, isFirst.sound, ?_, fun _ => ended⟩
    intro wholeWalked
    have isPrefix := walked_isPrefix inputs limit before.taken first
    rw [isWalked] at wholeWalked
    rw [wholeWalked] at isPrefix
    have same : first ++ second = first := isPrefix.eq_of_length_le (by simp)
    exact absurd (wholeWalked.trans same) isWhole

section Consider

variable {queue : PriorityQueue}
variable {entry : QueueEntry}
variable {level : Nat}

/-- An entry that is popped and not put back has left the head of its level. -/
private theorem passes_popped
    (filed : before.queue.Filed)
    (popped : before.queue.popLevel? level = some (entry, queue))
    (isQueue : after.queue = queue)
    (taken : after.taken = before.taken ++ [entry].filter (·.isValid inputs))
    (failed : after.failed = before.failed ++ [entry].filterMap (·.inputFailure? inputs)) :
    Passes inputs [entry] before after := by
  subst isQueue
  exact
    { taken := taken
      failed := failed
      resolves := (PriorityQueue.entriesAt_of_popLevel? popped).1
      leave := PriorityQueue.entriesAt_of_popLevel?_filed filed popped }

/-- An entry that is popped and put back is again the head of its level. -/
private theorem passes_putBack
    (filed : before.queue.Filed)
    (popped : before.queue.popLevel? level = some (entry, queue)) :
    Passes inputs [] before
      { before with queue := queue.pushFront entry, isClosed := true } := by
  have resolves := (PriorityQueue.entriesAt_of_popLevel? popped).1
  exact
    { taken := (List.append_nil _).symm
      failed := (List.append_nil _).symm
      resolves := (queue.resolveLevel_pushFront entry).trans resolves
      leave := by
        intro other
        simp only [PriorityQueue.entriesAt_pushFront, PriorityQueue.ofLevel_congr resolves,
          PriorityQueue.ofLevel_nil, List.nil_append]
        exact PriorityQueue.entriesAt_of_popLevel?_filed filed popped other }

/-- A walk along one entry that may be looked at comes past it unless its shapes part. -/
private theorem walked_singleton
    (mayPick : before.isOpen limit = true) :
    walked inputs limit before.taken [entry] =
      if entry.isValid inputs && !agrees (requestsOf before.taken) entry.request then
        []
      else
        [entry] := by
  have below : before.taken.length < limit := by
    simp only [isOpen, Bool.and_eq_true, decide_eq_true_eq] at mayPick
    exact mayPick.2
  simp only [walked, Nat.not_le.mpr below, if_false]
  cases entry.isValid inputs <;>
    cases agrees (requestsOf before.taken) entry.request <;> rfl

/-- A walk along one entry that comes past it goes on. -/
private theorem walks_passed
    (filed : before.queue.Filed)
    (isWalk : walked inputs limit before.taken [entry] = [entry])
    (passes : Passes inputs [entry] before after)
    (reflects : after.shapes.Reflects (requestsOf after.taken))
    (notClosed : after.isClosed = false) :
    Walks inputs limit [entry] before after where
  passes := by rwa [isWalk]
  sound := ⟨passes.filed filed, reflects⟩
  goesOn _ := notClosed
  stops ended := absurd isWalk ended

/-- An entry that was the first of its level is walked past, or it closes the selection. -/
theorem walks_consider
    (sound : before.Sound)
    (mayPick : before.isOpen limit = true)
    (popped : before.queue.popLevel? level = some (entry, queue)) :
    Walks inputs limit [entry] before
      (consider inputs { before with queue := queue } entry) := by
  obtain ⟨filed, reflects⟩ := sound
  have isWalk : walked inputs limit before.taken [entry] = _ := walked_singleton mayPick
  have notClosed : before.isClosed = false := by
    simp only [isOpen, Bool.and_eq_true, Bool.not_eq_true'] at mayPick
    exact mayPick.1
  unfold consider
  split
  · next mismatch isMismatch =>
      have invalid : entry.isValid inputs = false := by simp [QueueEntry.isValid, isMismatch]
      rw [invalid, Bool.false_and, if_neg Bool.false_ne_true] at isWalk
      refine walks_passed filed isWalk (passes_popped filed popped rfl ?_ ?_) reflects notClosed
      · simp [invalid]
      · simp [QueueEntry.inputFailure?, isMismatch]
  · next noMismatch =>
      have valid : entry.isValid inputs = true := by simp [QueueEntry.isValid, noMismatch]
      rw [valid, Bool.true_and] at isWalk
      rw [reflects.fits]
      split
      · next agreed =>
          rw [agreed, Bool.not_true, if_neg Bool.false_ne_true] at isWalk
          have noted := reflects.note entry.request
          refine walks_passed filed isWalk (passes_popped filed popped rfl ?_ ?_) ?_ notClosed
          · simp [valid]
          · simp [QueueEntry.inputFailure?, noMismatch]
          · simpa [requestsOf] using noted
      · next parted =>
          rw [(Bool.not_eq_true _).mp parted, Bool.not_false, if_pos rfl] at isWalk
          have passes : Passes inputs [] before
              { before with queue := queue.pushFront entry, isClosed := true } :=
            passes_putBack filed popped
          refine ⟨?_, ⟨passes.filed filed, reflects⟩, ?_, fun _ => rfl⟩
          · rw [isWalk]
            exact passes
          · rw [isWalk]
            intro ended
            contradiction

end Consider

/-- An entry that is put back closes the selection; any other has left the queue. -/
theorem queue_consider
    {selection : Selection}
    {entry : QueueEntry}
    (notClosed : (consider inputs selection entry).isClosed = false) :
    (consider inputs selection entry).queue = selection.queue := by
  unfold consider at notClosed ⊢
  split
  · rfl
  · split
    · rfl
    · next noMismatch parted => simp [noMismatch, parted] at notClosed

theorem pickFromLevel_of_notOpen
    (notOpen : before.isOpen limit = false)
    (level count : Nat) :
    pickFromLevel inputs limit level count before = before := by
  cases count <;> simp [pickFromLevel, notOpen]

theorem pickUrgent_of_notOpen
    (notOpen : before.isOpen limit = false)
    (level : Nat)
    (counts : List Nat) :
    pickUrgent inputs limit level counts before = before := by
  induction counts generalizing level with
  | nil => rfl
  | cons count counts inductionHypothesis =>
      rw [pickUrgent, pickFromLevel_of_notOpen notOpen, inductionHypothesis]

theorem pickInOrder_of_notOpen
    (notOpen : before.isOpen limit = false)
    (count : Nat) :
    pickInOrder inputs limit count before = before := by
  cases count <;> simp [pickInOrder, notOpen]

/-- Picking from a level is a walk along its head. -/
theorem walks_pickFromLevel
    (sound : before.Sound)
    (notClosed : before.isClosed = false)
    (level count : Nat) :
    Walks inputs limit ((before.queue.entriesAt level).take count) before
      (pickFromLevel inputs limit level count before) := by
  induction count generalizing before with
  | zero => exact walks_nil sound notClosed
  | succ count inductionHypothesis =>
      simp only [pickFromLevel]
      split
      · next mayPick =>
          split
          · next nothing =>
              rw [PriorityQueue.entriesAt_of_popLevel?_none nothing]
              exact walks_nil sound notClosed
          · next entry queue popped =>
              have step : Walks inputs limit [entry] before _ :=
                walks_consider sound mayPick popped
              have isSplit := (PriorityQueue.entriesAt_of_popLevel? popped).2 level
              rw [if_pos rfl] at isSplit
              rw [isSplit]
              refine step.trans ?_ (fun ended => pickFromLevel_of_notOpen ended level count)
              intro isWhole
              have stillOpen := step.goesOn isWhole
              have further := inductionHypothesis step.sound stillOpen
              rw [queue_consider stillOpen] at further
              exact further
      · next mayNotPick =>
          exact walks_of_notOpen sound notClosed (Bool.not_eq_true _ ▸ mayNotPick) _

/-- Picking what must leave is a walk along the heads of the levels. -/
theorem walks_pickUrgent
    (sound : before.Sound)
    (notClosed : before.isClosed = false)
    (level : Nat)
    (counts : List Nat) :
    Walks inputs limit (before.queue.heads level counts) before
      (pickUrgent inputs limit level counts before) := by
  induction counts generalizing before level with
  | nil => exact walks_nil sound notClosed
  | cons count counts inductionHypothesis =>
      have step : Walks inputs limit _ before _ :=
        walks_pickFromLevel sound notClosed level count
      refine step.trans ?_ (fun ended => pickUrgent_of_notOpen ended (level + 1) counts)
      intro isWhole
      -- The heads of the later levels are still those of the queue at the start.
      have sameLater :
          (pickFromLevel inputs limit level count before).queue.heads (level + 1) counts =
            before.queue.heads (level + 1) counts := by
        refine PriorityQueue.heads_congr ?_ counts
        intro later after
        have differs : later ≠ level := by omega
        refine step.passes.elsewhere sound.filed ?_ differs
        exact ((walked_isPrefix _ _ _ _).sublist.trans (List.take_sublist _ _)).subset
      rw [← sameLater]
      exact inductionHypothesis step.sound (step.goesOn isWhole) (level + 1)

/-- Picking in the order of the queue is a walk along all its entries. -/
theorem walks_pickInOrder
    (sound : before.Sound)
    (notClosed : before.isClosed = false)
    {count : Nat}
    (enough : before.queue.entries.length ≤ count) :
    Walks inputs limit before.queue.entries before
      (pickInOrder inputs limit count before) := by
  induction count generalizing before with
  | zero =>
      rw [List.length_eq_zero_iff.mp (Nat.le_zero.mp enough)]
      exact walks_nil sound notClosed
  | succ count inductionHypothesis =>
      simp only [pickInOrder]
      split
      · next mayPick =>
          split
          · next nothing =>
              rw [PriorityQueue.entries_of_popFront? nothing]
              exact walks_nil sound notClosed
          · next entry queue popped =>
              obtain ⟨level, _, fromLevel⟩ := Option.bind_eq_some_iff.mp popped
              have step : Walks inputs limit [entry] before _ :=
                walks_consider sound mayPick fromLevel
              have isSplit := PriorityQueue.entries_of_popFront?_some popped
              rw [isSplit, List.length_cons] at enough
              rw [isSplit]
              refine step.trans ?_ (fun ended => pickInOrder_of_notOpen ended count)
              intro isWhole
              have stillOpen := step.goesOn isWhole
              have sameQueue := queue_consider stillOpen
              have further := inductionHypothesis step.sound stillOpen
              rw [sameQueue] at further
              exact further (by dsimp only; omega)
      · next mayNotPick =>
          exact walks_of_notOpen sound notClosed (Bool.not_eq_true _ ▸ mayNotPick) _

end Selection

namespace DynamicBatcher

variable {batcher : DynamicBatcher}

/-- A selection is a walk along what must leave and then along the rest. -/
theorem walks_select
    (filed : batcher.queue.Filed)
    (limit now : Nat) :
    Selection.Walks batcher.inputs limit (batcher.queue.selectionOrder now)
      (Selection.start batcher.queue) (batcher.select limit now) := by
  let start := Selection.start batcher.queue
  let parted := Selection.pickUrgent batcher.inputs limit 1 (batcher.queue.urgentCounts now) start
  have sound : start.Sound := ⟨filed, ShapeLedger.reflects_empty⟩
  have urgent :
      Selection.Walks batcher.inputs limit
        (batcher.queue.levels.flatMap (fun level => PriorityQueue.urgentPart level.entries now))
        start parted := by
    rw [← PriorityQueue.heads_urgentCounts]
    exact Selection.walks_pickUrgent sound rfl 1 (batcher.queue.urgentCounts now)
  refine urgent.trans ?_ (fun ended => Selection.pickInOrder_of_notOpen ended _)
  intro isWhole
  -- Only now is the queue in its order what was behind the urgent entries at the start.
  have passes := urgent.passes
  rw [isWhole] at passes
  have isLeft :
      parted.queue.entries =
        batcher.queue.levels.flatMap
          (fun level => PriorityQueue.patientPart level.entries now) :=
    PriorityQueue.entries_of_urgent_left filed passes.resolves passes.leave
  have enough : parted.queue.entries.length ≤ batcher.queue.size := by
    rw [isLeft, batcher.queue.size_eq_length_entries,
      ← (batcher.queue.selectionOrder_perm now).length_eq]
    exact (List.sublist_append_right _ _).length_le
  rw [← isLeft]
  exact Selection.walks_pickInOrder urgent.sound (urgent.goesOn isWhole) enough

/-- Closing a batch takes and fails what a walk comes past, and leaves the rest where it is. -/
theorem close_walked
    (filed : batcher.queue.Filed)
    (instanceIndex limit : Nat)
    (expired : List Failure)
    (now : Nat) :
    let passed := walked batcher.inputs limit [] (batcher.queue.selectionOrder now)
    let taken := passed.filter (·.isValid batcher.inputs)
    let formation := batcher.close instanceIndex limit expired now
    formation.batch? =
        (if taken = [] then none else some (.ofEntries instanceIndex taken now)) ∧
      formation.failed = expired ++ passed.filterMap (·.inputFailure? batcher.inputs) ∧
      ∀ level,
        batcher.queue.entriesAt level =
          batcher.queue.ofLevel level passed ++ formation.batcher.queue.entriesAt level := by
  intro passed taken formation
  have passes := (walks_select filed limit now).passes
  have isTaken : (batcher.select limit now).taken = taken := passes.taken
  have isFailed :
      (batcher.select limit now).failed =
        passed.filterMap (·.inputFailure? batcher.inputs) :=
    passes.failed
  have isLeft := passes.leave
  simp only [formation, close, isTaken, isFailed, List.isEmpty_iff]
  split
  · exact ⟨rfl, rfl, isLeft⟩
  · exact ⟨rfl, rfl, isLeft⟩

/-- A batch that is due is closed, unless room for it cannot be made. -/
theorem attempt_of_due
    {now oldest limit : Nat}
    (isOldest : (batcher.takeExpired now).batcher.queue.oldestFront? = some oldest)
    (isDue : (batcher.takeExpired now).batcher.dueLimit? oldest now = some limit)
    (instanceIndex : Nat) :
    let late := batcher.takeExpired now
    batcher.attempt instanceIndex now =
      if addressableBytes < limit * batcher.entryBytes then
        .idle late.batcher [] none
      else
        late.batcher.close instanceIndex limit (Failure.all late.requests .timeoutExpired) now := by
  intro late
  simp only [attempt, overreach?, formBatch, isOldest, isDue]
  by_cases tooLarge : addressableBytes < limit * batcher.entryBytes
  · simp only [if_pos tooLarge, late]
  · simp only [if_neg tooLarge, late]

/-- A batch is due up to the maximum if it need not be full, and else up to the preferred size. -/
theorem dueLimit?_of_closes
    {now oldest : Nat}
    (closes :
      batcher.preferredBatchSize ≤ batcher.queue.size ∨
        oldest + batcher.maxQueueDelay ≤ now ∨ batcher.delayForcesClose now = true) :
    batcher.dueLimit? oldest now =
      some (if oldest + batcher.maxQueueDelay ≤ now ∨ batcher.delayForcesClose now = true then
        batcher.maxBatchSize
      else
        batcher.preferredBatchSize) := by
  have holds : (batcher.closing (oldest + batcher.maxQueueDelay) now).holds = true := by
    simpa [closing, Closing.holds, or_assoc] using closes
  rw [dueLimit?, if_pos holds]
  simp [sizeLimit, closing, Closing.fillsUp]

/--
Take any batcher that a run reaches, and an instant at which it closes a batch for
an instance. Let what has expired leave the queue. If room for the batch can be
made, a walk along the entries that must leave and then along the others tells all
that happens: the batch has the entries that it takes, the failures are those of the
expired requests and then of the invalid ones that it comes past, and each level
keeps, in order, the entries that it does not come past. The walk takes no more than
the maximum size if the oldest head has waited for the whole window or an urgent
entry forces the batch, and else no more than the preferred size.

If room for that many entries cannot be made, the attempt is broken off: what has
expired has left the queue, there is no batch, and nobody is told of a failure. This
is so however many bytes an entry takes.
-/
theorem selection_is_greedy
    (config : ModelConfig)
    (entryBytes : Nat)
    (operations : List Operation)
    (instanceIndex now : Nat) :
    let batcher := (ofConfig config entryBytes).after operations
    let waiting := (batcher.takeExpired now).batcher
    let queue := waiting.queue
    (∀ level,
      queue.entriesAt level =
        (batcher.queue.entriesAt level).filter (fun entry => !entry.isRejectable now)) ∧
      ∀ oldest ∈ queue.oldestFront?,
        let hasElapsed := oldest + waiting.maxQueueDelay ≤ now
        let isForced := waiting.delayForcesClose now = true
        (waiting.preferredBatchSize ≤ queue.size ∨ hasElapsed ∨ isForced) →
          let limit :=
            if hasElapsed ∨ isForced then waiting.maxBatchSize else waiting.preferredBatchSize
          let passed := walked waiting.inputs limit [] (queue.selectionOrder now)
          let taken := passed.filter (·.isValid waiting.inputs)
          let late := batcher.queue.entries.filter (·.isRejectable now)
          let attempt := batcher.attempt instanceIndex now
          (addressableBytes < limit * entryBytes →
              attempt.batch? = none ∧ attempt.failed = [] ∧ attempt.batcher.queue = queue) ∧
            (limit * entryBytes ≤ addressableBytes →
              attempt.batch? =
                  (if taken = [] then none else some (.ofEntries instanceIndex taken now)) ∧
                attempt.failed =
                  Failure.all (requestsOf late) .timeoutExpired ++
                    passed.filterMap (·.inputFailure? waiting.inputs) ∧
                ∀ level,
                  queue.entriesAt level =
                    queue.ofLevel level passed ++ attempt.batcher.queue.entriesAt level) := by
  intro batcher waiting queue
  have filed : batcher.queue.Filed := filed_after (filed_ofConfig config entryBytes) operations
  have stillFiled : queue.Filed := (batcher.queue.inOrder_removeWhere _).filed filed
  refine ⟨fun level => batcher.queue.entriesAt_removeWhere _ level, ?_⟩
  intro oldest isOldest hasElapsed isForced closes limit passed taken late attempt
  have isLate : (batcher.takeExpired now).requests = requestsOf late :=
    congrArg requestsOf (batcher.queue.entries_removeWhere _).1
  have isAttempt :
      attempt =
        if addressableBytes < limit * entryBytes then
          .idle waiting [] none
        else
          waiting.close instanceIndex limit
            (Failure.all (batcher.takeExpired now).requests .timeoutExpired) now := by
    have isEntryBytes : batcher.entryBytes = entryBytes :=
      (SharesSettings.after _ operations).entryBytes.trans (settings_ofConfig config _).2.2.2
    rw [← isEntryBytes]
    exact attempt_of_due isOldest (dueLimit?_of_closes closes) instanceIndex
  rw [isLate] at isAttempt
  constructor
  · intro tooLarge
    rw [isAttempt, if_pos tooLarge]
    exact ⟨rfl, rfl, rfl⟩
  · intro fits
    rw [isAttempt, if_neg (Nat.not_lt.mpr fits)]
    exact close_walked stillFiled instanceIndex limit _ now

/--
A request of the second level that must leave goes first, and then the walk takes one
request of the first level, fails one without its input, and ends at another shape.
-/
theorem selection_is_greedy_of_four_requests :
    let config : ModelConfig :=
      { name := "model"
        maxBatchSize := 4
        inputs := [{ name := "x", dims := [-1] }]
        dynamicBatching? := some
          { maxQueueDelay := 100
            priorityLevels := 2
            defaultPriorityLevel := 1
            delayClosesAcrossLevels := true
            defaultPolicy := { timeoutAction := .delay, allowsOverride := true } } }
    let sends := fun (extent : Nat) => [⟨"x", .ofElements [extent] .int64 []⟩]
    let operations : List Operation :=
      [.enqueue { id := 1, inputs := sends 2, priority := 2, timeout? := some 10 } 0,
        .enqueue { id := 2, inputs := sends 2, priority := 1 } 0,
        .enqueue { id := 3, priority := 1 } 0,
        .enqueue { id := 4, inputs := sends 3, priority := 1 } 0]
    let attempt := ((ofConfig config).after operations).attempt 0 20
    let idsOf := fun (entries : List QueueEntry) => entries.map (fun entry => entry.request.id)
    idsOf (attempt.batch?.toList.flatMap Batch.queueEntries) = [1, 2] ∧
      attempt.failed.map (fun failure => failure.request.id) = [3] ∧
      idsOf (attempt.batcher.queue.entriesAt 1) = [4] ∧
      idsOf (attempt.batcher.queue.entriesAt 2) = [] := by
  intro config sends operations attempt idsOf
  obtain ⟨_, closes⟩ := selection_is_greedy config usualEntryBytes operations 0 20
  obtain ⟨isBatch, isFailed, leave⟩ := (closes 0 (by decide) (by decide)).2 (by decide)
  have isLeft := fun level => (congrArg (List.drop _) (leave level)).trans List.drop_left
  refine ⟨?_, ?_, ?_, ?_⟩
  · rw [isBatch]
    decide
  · rw [isFailed]
    decide
  · rw [← isLeft 1]
    decide
  · rw [← isLeft 2]
    decide

end DynamicBatcher

end InferenceBatching
