import InferenceBatching.Proofs.Dynamic.Conservation
import InferenceBatching.Proofs.Queue.Observation

namespace InferenceBatching

/-!
# Dynamic batchers at rest

A batcher that forms no batch has nothing to do before the wake time. Either its
queue is empty, since all that could be selected was invalid, or no batch is due,
and none becomes due before the window of the oldest head ends or a deadline comes.
-/

namespace Selection

variable {inputs : List InputSpec}
variable {limit : Nat}
variable {selection : Selection}

/-- Nothing has been taken, and nothing has closed the selection or narrowed it down. -/
structure Fresh (selection : Selection) : Prop where
  noneTaken : selection.taken = []
  noShapes : selection.shapes = .empty
  notClosed : selection.isClosed = false

/-- Considering an entry never gives back what was taken. -/
theorem taken_consider
    (inputs : List InputSpec)
    (selection : Selection)
    (entry : QueueEntry) :
    selection.taken <+: (consider inputs selection entry).taken := by
  unfold consider
  split
  · exact List.prefix_rfl
  · split
    · exact List.prefix_append _ _
    · exact List.prefix_rfl

/-- However a selection goes on, it never gives back what was taken. -/
theorem pickInOrder_prefix
    (inputs : List InputSpec)
    (limit count : Nat)
    (selection : Selection) :
    selection.taken <+: (pickInOrder inputs limit count selection).taken := by
  refine holds_pickInOrder (motive := fun later => selection.taken <+: later.taken) ?_
    List.prefix_rfl count
  intro later queue entry level _ _ grown
  exact grown.trans (taken_consider inputs { later with queue := queue } entry)

/-- An entry that is considered and not taken by a fresh selection is invalid, and is gone. -/
theorem fresh_consider
    {queue : PriorityQueue}
    {entry : QueueEntry}
    (fresh : selection.Fresh)
    (noneTaken : (consider inputs { selection with queue := queue } entry).taken = []) :
    (consider inputs { selection with queue := queue } entry).Fresh ∧
      (consider inputs { selection with queue := queue } entry).queue = queue := by
  have fits : ShapeLedger.fits .empty entry.request = true := by
    simp [ShapeLedger.fits, ShapeLedger.fitsTensor, Directory.find?_empty]
  unfold consider at noneTaken ⊢
  split
  · exact ⟨⟨fresh.noneTaken, fresh.noShapes, fresh.notClosed⟩, rfl⟩
  · next valid =>
      simp [valid, fresh.noShapes, fits] at noneTaken

/-- A selection in the order of the queue that takes nothing has emptied the queue. -/
theorem emptied_of_noneTaken
    (mayTake : 0 < limit)
    (fresh : selection.Fresh)
    {count : Nat}
    (enough : selection.queue.entries.length ≤ count)
    (noneTaken : (pickInOrder inputs limit count selection).taken = []) :
    (pickInOrder inputs limit count selection).queue.entries = [] := by
  induction count generalizing selection with
  | zero => exact List.length_eq_zero_iff.mp (Nat.le_zero.mp enough)
  | succ count inductionHypothesis =>
      have isOpen : selection.isOpen limit = true := by
        simp [Selection.isOpen, fresh.notClosed, fresh.noneTaken, mayTake]
      simp only [pickInOrder, isOpen, if_true] at noneTaken ⊢
      split
      · next nothing => exact PriorityQueue.entries_of_popFront? nothing
      · next entry queue popped =>
          simp only [popped] at noneTaken
          have further := pickInOrder_prefix inputs limit count
            (consider inputs { selection with queue := queue } entry)
          rw [noneTaken, List.prefix_nil] at further
          obtain ⟨stillFresh, sameQueue⟩ := fresh_consider fresh further
          refine inductionHypothesis stillFresh ?_ noneTaken
          have shorter := (PriorityQueue.popFront?_perm popped).length_eq
          rw [sameQueue]
          simp only [List.length_cons] at shorter
          omega

end Selection

namespace DynamicBatcher

variable {batcher : DynamicBatcher}
variable {now instant limit instanceIndex : Nat}

/-- A selection that takes nothing leaves nothing in the queue. -/
theorem emptied_select
    (mayTake : 0 < limit)
    (noneTaken : (batcher.select limit now).taken = []) :
    (batcher.select limit now).queue.entries = [] := by
  let urgent :=
    Selection.pickUrgent batcher.inputs limit 1 (batcher.queue.urgentCounts now)
      (Selection.start batcher.queue)
  have urgentTaken : urgent.taken = [] := by
    have further := Selection.pickInOrder_prefix batcher.inputs limit batcher.queue.size urgent
    change urgent.taken <+: (batcher.select limit now).taken at further
    rwa [noneTaken, List.prefix_nil] at further
  have stillFresh :
      urgent.taken = [] →
        urgent.Fresh ∧ urgent.queue.entries.length ≤ batcher.queue.entries.length := by
    refine Selection.holds_pickUrgent (motive := fun selection =>
      selection.taken = [] →
        selection.Fresh ∧ selection.queue.entries.length ≤ batcher.queue.entries.length)
      ?_ (fun _ => ⟨⟨rfl, rfl, rfl⟩, Nat.le_refl _⟩) 1 _
    intro selection queue entry level _ popped before none
    have wasNone : selection.taken = [] := by
      have grown := Selection.taken_consider batcher.inputs
        { selection with queue := queue } entry
      rwa [none, List.prefix_nil] at grown
    obtain ⟨fresh, fewer⟩ := before wasNone
    obtain ⟨still, sameQueue⟩ := Selection.fresh_consider fresh none
    have shorter := (PriorityQueue.popLevel?_perm popped).length_eq
    refine ⟨still, ?_⟩
    rw [sameQueue]
    simp only [List.length_cons] at shorter
    omega
  obtain ⟨fresh, fewer⟩ := stillFresh urgentTaken
  rw [← batcher.queue.size_eq_length_entries] at fewer
  exact Selection.emptied_of_noneTaken mayTake fresh fewer noneTaken

/-- Batches are filled up to a size that is not zero. -/
def FillsSome
    (batcher : DynamicBatcher) :
    Prop :=
  0 < batcher.preferredBatchSize ∧ 0 < batcher.maxBatchSize

/-- During a window nothing that waits is late, and no batch is due. -/
def Resting
    (batcher : DynamicBatcher)
    (window : Nat → Prop) :
    Prop :=
  ∀ instant, window instant →
    (∀ entry ∈ batcher.pendingEntries, entry.isRejectable instant = false) ∧
      ∀ oldest ∈ batcher.queue.oldestFront?, batcher.dueLimit? oldest instant = none

theorem resting_of_nothing
    (nothing : batcher.pendingEntries = [])
    (window : Nat → Prop) :
    batcher.Resting window := by
  intro instant _
  refine ⟨by simp [nothing], ?_⟩
  intro oldest isOldest
  rw [PriorityQueue.oldestFront?_eq_none.mpr nothing] at isOldest
  contradiction

/-- If an urgent entry forces a batch, so it does once no other entry has stopped being urgent. -/
theorem delayForcesClose_mono
    (stillUrgent :
      ∀ entry ∈ batcher.pendingEntries,
        entry.isUrgent instant = true → entry.isUrgent now = true)
    (forced : batcher.delayForcesClose instant = true) :
    batcher.delayForcesClose now = true := by
  have level :
      ∀ level ∈ batcher.queue.levels,
        0 < level.urgentCount instant → 0 < level.urgentCount now := by
    intro level isLevel counted
    obtain ⟨entry, inLevel, urgent⟩ := LevelQueue.urgentCount_pos.mp counted
    exact LevelQueue.urgentCount_pos.mpr
      ⟨entry, inLevel, stillUrgent entry (List.mem_flatMap.mpr ⟨level, isLevel, inLevel⟩) urgent⟩
  simp only [delayForcesClose] at forced ⊢
  split at forced
  · next across =>
      rw [if_pos across]
      simp only [PriorityQueue.hasUrgent, List.any_eq_true, decide_eq_true_eq] at forced ⊢
      obtain ⟨held, isLevel, counted⟩ := forced
      exact ⟨held, isLevel, level held isLevel counted⟩
  · next within =>
      rw [if_neg within]
      cases isHighest : batcher.queue.highestPendingLevel?.bind batcher.queue.level? with
      | none => simp [isHighest] at forced
      | some held =>
          simp only [isHighest, decide_eq_true_eq] at forced ⊢
          obtain ⟨number, _, isHeld⟩ := Option.bind_eq_some_iff.mp isHighest
          simp only [PriorityQueue.level?] at isHeld
          split at isHeld
          · contradiction
          · exact level held (List.mem_of_getElem? isHeld) forced

/-- No batch becomes due before the window of the oldest head ends or a deadline comes. -/
theorem resting_of_notDue
    {oldest : Nat}
    (inTime : ∀ entry ∈ batcher.pendingEntries, entry.isRejectable now = false)
    (isOldest : batcher.queue.oldestFront? = some oldest)
    (notDue : batcher.dueLimit? oldest now = none) :
    let wakeAt? :=
      earlier? (batcher.queue.nextDeadline? now) (some (oldest + batcher.maxQueueDelay))
    (∀ wakeAt ∈ wakeAt?, now < wakeAt) ∧
      batcher.Resting (fun instant => ∀ wakeAt ∈ wakeAt?, instant < wakeAt) := by
  intro wakeAt?
  obtain ⟨nextAfter, nextFirst⟩ := batcher.queue.nextDeadline?_bounds now
  obtain ⟨wakeAt, isWake, beforeEnd, beforeNext, oneOf⟩ :=
    earlier?_some (batcher.queue.nextDeadline? now) (oldest + batcher.maxQueueDelay)
  have notClosed : (batcher.closing (oldest + batcher.maxQueueDelay) now).holds = false := by
    by_contra closes
    simp [dueLimit?, (Bool.not_eq_false _).mp closes] at notDue
  simp only [closing, Closing.holds, Bool.or_eq_false_iff, decide_eq_false_iff_not,
    Nat.not_le] at notClosed
  obtain ⟨⟨notFull, notElapsed⟩, notForced⟩ := notClosed
  have isOnly : wakeAt? = some wakeAt := isWake
  simp only [isOnly, Option.mem_def, Option.some.injEq, forall_eq']
  constructor
  · rcases oneOf with isEnd | isNext
    · rw [isEnd]
      exact notElapsed
    · exact nextAfter wakeAt isNext
  · intro instant before
    have alreadyDue :
        ∀ entry ∈ batcher.pendingEntries, ∀ deadline ∈ entry.deadline?,
          deadline ≤ instant → deadline ≤ now := by
      intro entry member deadline isDeadline reached
      by_contra after
      obtain ⟨next, isNext, notLater⟩ :=
        nextFirst entry member deadline isDeadline (Nat.not_le.mp after)
      have notBefore := beforeNext next isNext
      omega
    constructor
    · intro entry member
      exact QueueEntry.isRejectable_of_noneReached (alreadyDue entry member) (inTime entry member)
    · intro front isFront
      have isSame : oldest = front := Option.some.inj (isOldest.symm.trans isFront)
      have stillOpen : batcher.delayForcesClose instant = false := by
        by_contra forced
        rw [delayForcesClose_mono _ ((Bool.not_eq_false _).mp forced)] at notForced
        · contradiction
        · intro entry member urgent
          simp only [QueueEntry.isUrgent, Bool.and_eq_true] at urgent ⊢
          exact ⟨urgent.1,
            QueueEntry.isExpired_of_noneReached (alreadyDue entry member) urgent.2⟩
      have notYet : ¬ oldest + batcher.maxQueueDelay ≤ instant := by omega
      simp [dueLimit?, closing, Closing.holds, ← isSame, stillOpen, notYet, notFull]

/-- At rest nothing is taken out, no batch is formed, and room is never short. -/
theorem Resting.formBatch_idle
    {window : Nat → Prop}
    (resting : batcher.Resting window)
    (instanceIndex : Nat)
    (inWindow : window now) :
    batcher.overreach? now = none ∧
      ∃ phase wakeAt?,
        batcher.formBatch instanceIndex now =
          .idle (batcher.enterPhase instanceIndex phase) [] wakeAt? := by
  obtain ⟨inTime, notDue⟩ := resting now inWindow
  have nothingLate : batcher.takeExpired now = { batcher := batcher, requests := [] } := by
    simp only [takeExpired, PriorityQueue.takeExpired,
      PriorityQueue.removeWhere_of_none inTime]
    rfl
  simp only [overreach?, formBatch, nothingLate]
  cases isOldest : batcher.queue.oldestFront? with
  | none => exact ⟨rfl, _, _, rfl⟩
  | some oldest =>
      simp only [notDue oldest isOldest]
      exact ⟨trivial, _, _, rfl⟩

/-- A formation at rest leaves a batcher at rest. -/
theorem Resting.form
    {window : Nat → Prop}
    (resting : batcher.Resting window)
    (instanceIndex : Nat)
    (inWindow : window now) :
    (batcher.formBatch instanceIndex now).batcher.Resting window := by
  obtain ⟨_, phase, wakeAt?, isIdle⟩ := resting.formBatch_idle instanceIndex inWindow
  rw [isIdle]
  exact resting

/-- A batch that is due has room for a request. -/
theorem mayTake_of_due
    (fillsSome : batcher.FillsSome)
    {oldest : Nat}
    (isDue : batcher.dueLimit? oldest now = some limit) :
    0 < limit := by
  simp only [dueLimit?] at isDue
  split at isDue
  · rw [← Option.some.inj isDue, sizeLimit]
    split
    · exact fillsSome.2
    · exact fillsSome.1
  · contradiction

/-- A batcher that forms no batch is at rest until the wake time, which is still to come. -/
theorem resting_formBatch
    (fillsSome : batcher.FillsSome)
    (noBatch : (batcher.formBatch instanceIndex now).batch? = none) :
    let formation := batcher.formBatch instanceIndex now
    (∀ wakeAt ∈ formation.wakeAt?, now < wakeAt) ∧
      formation.batcher.Resting (fun instant =>
        ∀ wakeAt ∈ formation.wakeAt?, instant < wakeAt) := by
  have inTime := batcher.inTime_takeExpired now
  cases isOldest : (batcher.takeExpired now).batcher.queue.oldestFront? with
  | none =>
      have nothing : (batcher.takeExpired now).batcher.pendingEntries = [] :=
        PriorityQueue.oldestFront?_eq_none.mp isOldest
      simp only [formBatch, isOldest]
      exact ⟨by simp [Formation.idle], resting_of_nothing nothing _⟩
  | some oldest =>
      cases isDue : (batcher.takeExpired now).batcher.dueLimit? oldest now with
      | none =>
          simp only [formBatch, isOldest, isDue]
          exact resting_of_notDue inTime isOldest isDue
      | some limit =>
          simp only [formBatch, isOldest, isDue, close] at noBatch ⊢
          split at noBatch
          · next noneTaken =>
              have stillFills : (batcher.takeExpired now).batcher.FillsSome := fillsSome
              have emptied :=
                emptied_select (mayTake_of_due stillFills isDue) (List.isEmpty_iff.mp noneTaken)
              rw [if_pos noneTaken]
              refine ⟨by simp [Formation.idle], resting_of_nothing ?_ _⟩
              exact emptied
          · contradiction

end DynamicBatcher

end InferenceBatching
