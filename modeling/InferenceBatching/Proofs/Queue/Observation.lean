import InferenceBatching.Proofs.Queue.Order
import Mathlib.Data.List.TakeWhile

namespace InferenceBatching

/-!
# What can be read off a queue

Everything that a priority queue tells about itself is something about its entries: the
first of them, how many there are, on which level the first waits, which deadline comes
next, and how many of each level must leave.
-/

/-- Some entry must leave exactly if there is an urgent one. -/
theorem LevelQueue.urgentCount_pos
    {queue : LevelQueue}
    {now : Nat} :
    0 < queue.urgentCount now ↔ ∃ entry ∈ queue.entries, entry.isUrgent now = true := by
  rw [urgentCount, List.length_pos_iff, Ne, List.dropWhile_eq_nil_iff]
  simp

/-- As many entries must leave as come up to the last urgent one, and no fewer will do. -/
theorem LevelQueue.urgentCount_least
    (queue : LevelQueue)
    (now : Nat) :
    (∀ entry ∈ queue.entries.drop (queue.urgentCount now), entry.isUrgent now = false) ∧
      ∀ fewer < queue.urgentCount now,
        ∃ entry ∈ queue.entries.drop fewer, entry.isUrgent now = true := by
  have isSplit :
      (queue.entries.reverse.dropWhile (fun entry => !entry.isUrgent now)).reverse ++
          (queue.entries.reverse.takeWhile (fun entry => !entry.isUrgent now)).reverse =
        queue.entries := by
    rw [← List.reverse_append, List.takeWhile_append_dropWhile, List.reverse_reverse]
  have calm :
      ∀ entry ∈ queue.entries.reverse.takeWhile (fun entry => !entry.isUrgent now),
        entry.isUrgent now = false := by
    intro entry member
    simpa using List.mem_takeWhile_imp member
  have urgent := List.head?_dropWhile_not (fun entry => !entry.isUrgent now) queue.entries.reverse
  unfold urgentCount
  generalize queue.entries.reverse.takeWhile (fun entry => !entry.isUrgent now) = calmOnes
    at isSplit calm
  generalize queue.entries.reverse.dropWhile (fun entry => !entry.isUrgent now) = leaving
    at isSplit urgent ⊢
  rw [← isSplit]
  refine ⟨?_, ?_⟩
  · intro entry member
    rw [← List.length_reverse, List.drop_left, List.mem_reverse] at member
    exact calm entry member
  · intro fewer fewerThan
    cases leaving with
    | nil => contradiction
    | cons last others =>
        refine ⟨last, ?_, by simpa using urgent⟩
        have within : fewer ≤ others.reverse.length := by
          rw [List.length_cons] at fewerThan
          rw [List.length_reverse]
          omega
        rw [List.reverse_cons, List.append_assoc, List.drop_append_of_le_length within]
        exact List.mem_append_right _ (List.mem_append_left _ List.mem_cons_self)

/-- The earliest of the earliest among several lists is the earliest of all. -/
theorem earliest?_flatMap
    {Item : Type}
    (items : List Item)
    (instants : Item → List Nat) :
    earliest? (items.filterMap (fun item => earliest? (instants item))) =
      earliest? (items.flatMap instants) := by
  unfold earliest?
  cases isFirst : (items.flatMap instants).min? with
  | none =>
      rw [List.min?_eq_none_iff, List.flatMap_eq_nil_iff] at isFirst
      rw [List.min?_eq_none_iff, List.filterMap_eq_nil_iff]
      intro item member
      rw [isFirst item member]
      rfl
  | some first =>
      rw [List.min?_eq_some_iff] at isFirst ⊢
      obtain ⟨isListed, notLater⟩ := isFirst
      obtain ⟨item, member, isInstant⟩ := List.mem_flatMap.mp isListed
      refine ⟨List.mem_filterMap.mpr ⟨item, member, ?_⟩, ?_⟩
      · rw [List.min?_eq_some_iff]
        exact ⟨isInstant, fun other isOther =>
          notLater other (List.mem_flatMap.mpr ⟨item, member, isOther⟩)⟩
      · intro other isOther
        obtain ⟨source, inItems, isSource⟩ := List.mem_filterMap.mp isOther
        exact notLater other (List.mem_flatMap.mpr ⟨source, inItems, List.min?_mem isSource⟩)

namespace PriorityQueue

variable {queue : PriorityQueue}

/-- The entry that leaves next is the first of all. -/
theorem peek?_eq_head?
    (queue : PriorityQueue) :
    queue.peek? = queue.entries.head? := by
  rw [entries, List.head?_flatMap]
  rfl

theorem isEmpty_eq
    (queue : PriorityQueue) :
    queue.isEmpty = queue.entries.isEmpty := by
  rw [Bool.eq_iff_iff]
  simp [isEmpty, entries, LevelQueue.isEmpty]

/-- There is an oldest head unless nothing waits. -/
theorem oldestFront?_eq_none :
    queue.oldestFront? = none ↔ queue.entries = [] := by
  simp only [oldestFront?, earliest?, List.min?_eq_none_iff, List.filterMap_eq_nil_iff,
    Option.map_eq_none_iff, LevelQueue.front?, List.head?_eq_none_iff, entries,
    List.flatMap_eq_nil_iff]

/-- The queue gives an entry unless nothing waits. -/
theorem entries_of_popFront?
    (nothing : queue.popFront? = none) :
    queue.entries = [] := by
  simp only [popFront?, highestPendingLevel?, Option.bind_eq_none_iff,
    Option.map_eq_some_iff] at nothing
  cases isLevel : queue.levels.findIdx? (fun level => !level.isEmpty) with
  | none =>
      simp only [List.findIdx?_eq_none_iff, Bool.not_eq_false', LevelQueue.isEmpty,
        List.isEmpty_iff] at isLevel
      exact List.flatMap_eq_nil_iff.mpr isLevel
  | some index =>
      have popped := nothing (index + 1) ⟨index, isLevel, rfl⟩
      obtain ⟨inRange, holds, _⟩ := List.findIdx?_eq_some_iff_getElem.mp isLevel
      cases isEntries : queue.levels[index].entries with
      | nil => simp [LevelQueue.isEmpty, isEntries] at holds
      | cons entry rest =>
          simp [popLevel?, level?, inRange, LevelQueue.popFront?, isEntries] at popped

/-- What waits in a queue waits on some level. -/
theorem mem_entries_iff
    {entry : QueueEntry} :
    entry ∈ queue.entries ↔ ∃ level, entry ∈ queue.entriesAt level := by
  have listed :
      queue.entries =
        (List.range queue.levelCount).flatMap (fun index => queue.entriesAt (index + 1)) :=
    queue.flatMap_levels id
  constructor
  · intro member
    rw [listed] at member
    obtain ⟨index, _, atLevel⟩ := List.mem_flatMap.mp member
    exact ⟨index + 1, atLevel⟩
  · rintro ⟨level, atLevel⟩
    by_cases absent : level = 0 ∨ queue.levelCount < level
    · rw [entriesAt_of_absent absent] at atLevel
      contradiction
    · refine listed ▸ List.mem_flatMap.mpr ⟨level - 1, List.mem_range.mpr (by omega), ?_⟩
      rwa [Nat.sub_add_cancel (by omega)]

/-- The first level with entries is the one that has some while those before it have none. -/
theorem highestPendingLevel?_eq_some_iff
    {level : Nat} :
    queue.highestPendingLevel? = some level ↔
      queue.entriesAt level ≠ [] ∧ ∀ higher < level, queue.entriesAt higher = [] := by
  have isPending :
      ∀ index (inRange : index < queue.levels.length),
        (!queue.levels[index].isEmpty) = true ↔ queue.entriesAt (index + 1) ≠ [] := by
    intro index inRange
    simp [entriesAt_succ, inRange, LevelQueue.isEmpty]
  cases level with
  | zero =>
      simp only [highestPendingLevel?, Option.map_eq_some_iff]
      constructor
      · rintro ⟨index, _, isZero⟩
        contradiction
      · rintro ⟨some, _⟩
        exact absurd rfl some
  | succ index =>
      have isFound :
          queue.highestPendingLevel? = some (index + 1) ↔
            queue.levels.findIdx? (fun level => !level.isEmpty) = some index := by
        simp [highestPendingLevel?]
      rw [isFound, List.findIdx?_eq_some_iff_getElem]
      constructor
      · rintro ⟨inRange, isFirst, noneBefore⟩
        refine ⟨(isPending index inRange).mp isFirst, ?_⟩
        intro higher before
        cases higher with
        | zero => rfl
        | succ other =>
            have inside : other < queue.levels.length := by omega
            by_contra some
            exact noneBefore other (by omega) ((isPending other inside).mpr some)
      · rintro ⟨some, noneBefore⟩
        have inRange : index < queue.levels.length := by
          by_contra beyond
          exact some (entriesAt_of_absent (Or.inr (by unfold levelCount; omega)))
        refine ⟨inRange, (isPending index inRange).mpr some, ?_⟩
        intro other before isFirst
        exact (isPending other (by omega)).mp isFirst (noneBefore (other + 1) (by omega))

/-- If each level is sorted by time of arrival, the oldest head is the oldest entry of all. -/
theorem oldestFront?_eq_min
    (sorted : ∀ level, ((queue.entriesAt level).map QueueEntry.enqueuedAt).Pairwise (· ≤ ·)) :
    queue.oldestFront? = (queue.entries.map QueueEntry.enqueuedAt).min? := by
  cases isOldest : queue.oldestFront? with
  | none =>
      rw [oldestFront?_eq_none.mp isOldest]
      rfl
  | some oldest =>
      symm
      obtain ⟨isFront, notLater⟩ := List.min?_eq_some_iff.mp isOldest
      refine List.min?_eq_some_iff.mpr ⟨?_, ?_⟩
      · obtain ⟨level, isLevel, front⟩ := List.mem_filterMap.mp isFront
        obtain ⟨entry, isHead, isArrival⟩ := Option.map_eq_some_iff.mp front
        refine List.mem_map.mpr ⟨entry, ?_, isArrival⟩
        exact List.mem_flatMap.mpr ⟨level, isLevel, List.mem_of_mem_head? isHead⟩
      · intro arrival member
        obtain ⟨entry, waits, isArrival⟩ := List.mem_map.mp member
        obtain ⟨level, isLevel, atLevel⟩ := List.mem_flatMap.mp waits
        obtain ⟨index, inRange, isHeld⟩ := List.getElem_of_mem isLevel
        have inOrder := sorted (index + 1)
        simp only [entriesAt_succ, inRange, getElem?_pos, isHeld, Option.map_some,
          Option.getD_some] at inOrder
        cases isEntries : level.entries with
        | nil => simp [isEntries] at atLevel
        | cons head others =>
            have listed : head.enqueuedAt ∈ queue.levels.filterMap
                (fun level => level.front?.map QueueEntry.enqueuedAt) := by
              refine List.mem_filterMap.mpr ⟨level, isLevel, ?_⟩
              simp [LevelQueue.front?, isEntries]
            have first : head.enqueuedAt ≤ arrival := by
              rw [isEntries, List.map_cons, List.pairwise_cons] at inOrder
              rw [isEntries] at atLevel
              rcases List.mem_cons.mp atLevel with isHead | behind
              · rw [← isArrival, isHead]
              · rw [← isArrival]
                exact inOrder.1 _ (List.mem_map_of_mem behind)
            exact Nat.le_trans (notLater _ listed) first

/-- The next deadline is the earliest of all that lie after `now`. -/
theorem nextDeadline?_eq
    (queue : PriorityQueue)
    (now : Nat) :
    queue.nextDeadline? now =
      earliestAfter? now (queue.entries.filterMap QueueEntry.deadline?) := by
  simp only [nextDeadline?, LevelQueue.nextDeadline?, InferenceBatching.nextDeadline?,
    earliestAfter?, earliest?_flatMap]
  rw [entries, List.filterMap_flatMap, List.filter_flatMap]

/-- The next deadline is after `now`, and no later than any deadline that is. -/
theorem nextDeadline?_bounds
    (queue : PriorityQueue)
    (now : Nat) :
    (∀ next ∈ queue.nextDeadline? now, now < next) ∧
      ∀ entry ∈ queue.entries, ∀ deadline ∈ entry.deadline?,
        now < deadline → ∃ next ∈ queue.nextDeadline? now, next ≤ deadline := by
  rw [nextDeadline?_eq]
  refine ⟨fun next isNext => (earliestAfter?_mem isNext).2, ?_⟩
  intro entry member deadline isDeadline after
  exact earliestAfter?_le (List.mem_filterMap.mpr ⟨entry, member, isDeadline⟩) after

end PriorityQueue

end InferenceBatching
