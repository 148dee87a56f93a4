import InferenceBatching.Proofs.Queue.Observation
import InferenceBatching.Proofs.Queue.Reference

namespace InferenceBatching

/-!
# Priority queues do what lists do

A queue that stands for some lists stands, after any operation, for the lists after that
operation, and both give back the same. So a queue is known by its lists at all times,
and what can be read off it can be read off them.
-/

/-- There is room unless there is a bound and it has been reached. -/
theorem QueuePolicy.hasRoom_eq
    (policy : QueuePolicy)
    (count : Nat) :
    policy.hasRoom count = !(0 < policy.capacity && policy.capacity ≤ count) := by
  rw [Bool.eq_iff_iff]
  simp only [hasRoom, Bool.or_eq_true, Bool.not_eq_true', Bool.and_eq_false_iff,
    decide_eq_true_eq, decide_eq_false_iff_not]
  omega

namespace LevelLists

variable {layout : QueueLayout}
variable {lists : LevelLists}

/-- Only levels that exist have entries. -/
theorem Filed.bounds
    (filed : lists.Filed layout)
    {level : Nat}
    (waits : lists.waiting level ≠ []) :
    1 ≤ level ∧ level ≤ layout.levelCount := by
  obtain ⟨entry, member⟩ := List.exists_mem_of_ne_nil _ waits
  have bounds := layout.levelOf_bounds entry.request.priority
  rw [filed level entry member] at bounds
  exact bounds

section AsQueue

variable (layout : QueueLayout)
variable (lists : LevelLists)

@[simp]
theorem levelCount_asQueue :
    (lists.asQueue layout).levelCount = layout.levelCount := by
  simp [PriorityQueue.levelCount, asQueue]

/-- A queue resolves priorities as its layout says. -/
@[simp]
theorem resolveLevel_asQueue
    (priority : Nat) :
    (lists.asQueue layout).resolveLevel priority = layout.levelOf priority := by
  unfold PriorityQueue.resolveLevel QueueLayout.levelOf
  rw [levelCount_asQueue]
  by_cases named : 1 ≤ priority ∧ priority ≤ layout.levelCount
  · have inside : ¬((decide (priority = 0) || decide (layout.levelCount < priority)) = true) := by
      simp only [Bool.or_eq_true, decide_eq_true_eq]
      omega
    rw [if_neg inside, if_pos named]
  · have outside : (decide (priority = 0) || decide (layout.levelCount < priority)) = true := by
      simp only [Bool.or_eq_true, decide_eq_true_eq]
      omega
    rw [if_pos outside, if_neg named]
    rfl

theorem getElem?_asQueue
    {index : Nat}
    (inRange : index < layout.levelCount) :
    (lists.asQueue layout).levels[index]? = some (lists.levelQueue layout (index + 1)) := by
  simp [asQueue, inRange]

/-- The queue at the place of a priority is the one of its level. -/
theorem getElem_asQueue
    (priority : Nat) :
    have inRange := (lists.asQueue layout).resolveLevel_index priority
    (lists.asQueue layout).levels[(lists.asQueue layout).resolveLevel priority - 1] =
      lists.levelQueue layout (layout.levelOf priority) := by
  have bounds := layout.levelOf_bounds priority
  have inRange := (lists.asQueue layout).resolveLevel_index priority
  have isPlace : layout.levelOf priority - 1 + 1 = layout.levelOf priority := by omega
  apply Option.some.inj
  rw [← List.getElem?_eq_getElem inRange, resolveLevel_asQueue,
    getElem?_asQueue layout lists (by omega), isPlace]

theorem level?_asQueue
    (level : Nat) :
    (lists.asQueue layout).level? level =
      if 1 ≤ level ∧ level ≤ layout.levelCount then
        some (lists.levelQueue layout level)
      else
        none := by
  cases level with
  | zero => rfl
  | succ index =>
      rw [PriorityQueue.level?_succ]
      split
      · exact getElem?_asQueue layout lists (by omega)
      · exact List.getElem?_eq_none (by simp [asQueue]; omega)

/-- Other entries for a level make the queue that stands for the lists with them. -/
theorem replace_asQueue
    {level : Nat}
    (isLevel : 1 ≤ level ∧ level ≤ layout.levelCount)
    (entries : List QueueEntry) :
    (lists.asQueue layout).replace (level - 1)
        { lists.levelQueue layout level with entries := entries } =
      (lists.withLevel level entries).asQueue layout := by
  simp only [PriorityQueue.replace, asQueue, PriorityQueue.mk.injEq, and_true]
  apply List.ext_getElem?
  intro index
  rw [List.getElem?_set]
  split
  · next same =>
      subst same
      have inRange : level - 1 < layout.levelCount := by omega
      have sameLevel : level - 1 + 1 = level := by omega
      simp [inRange, sameLevel, levelQueue, withLevel]
  · next differs =>
      have elsewhere : index + 1 ≠ level := by omega
      by_cases inRange : index < layout.levelCount
      · simp [inRange, levelQueue, withLevel, elsewhere]
      · simp [inRange]

/-- The same change of the entries on all levels changes all lists. -/
theorem mapLevels_asQueue
    (change : List QueueEntry → List QueueEntry) :
    (lists.asQueue layout).mapLevels (fun held => { held with entries := change held.entries }) =
      ({ waiting := fun level => change (lists.waiting level) } : LevelLists).asQueue layout := by
  simp only [PriorityQueue.mapLevels, asQueue, List.map_map, PriorityQueue.mk.injEq, and_true]
  rfl

theorem entries_asQueue :
    (lists.asQueue layout).entries = lists.listing layout := by
  simp only [PriorityQueue.entries, asQueue, List.flatMap_map]
  rfl

end AsQueue

/-- What is taken from a level was the first there, and only that level is without it then. -/
theorem take?_shape
    {level : Nat}
    {taken : QueueEntry × LevelLists}
    (isTaken : lists.take? level = some taken) :
    ∃ rest, lists.waiting level = taken.1 :: rest ∧ taken.2 = lists.withLevel level rest := by
  unfold take? at isTaken
  split at isTaken
  · contradiction
  · next first rest isWaiting =>
      cases isTaken
      exact ⟨rest, isWaiting, rfl⟩

/-- The first entry of all is taken from its level. -/
theorem take?_of_takeFirst?
    {taken : QueueEntry × LevelLists}
    (isTaken : lists.takeFirst? layout = some taken) :
    ∃ level, lists.take? level = some taken := by
  obtain ⟨entry, _, fromLevel⟩ := Option.bind_eq_some_iff.mp isTaken
  exact ⟨_, fromLevel⟩

section Steps

/-- Taking the head of a level takes the head of its list. -/
theorem popLevel?_asQueue
    (filed : lists.Filed layout)
    (level : Nat) :
    (lists.asQueue layout).popLevel? level =
      (lists.take? level).map (fun taken => (taken.1, taken.2.asQueue layout)) := by
  unfold PriorityQueue.popLevel? take?
  rw [level?_asQueue]
  by_cases isLevel : 1 ≤ level ∧ level ≤ layout.levelCount
  · rw [if_pos isLevel, Option.bind_some, LevelQueue.popFront?]
    cases isWaiting : lists.waiting level with
    | nil => simp [levelQueue, isWaiting]
    | cons entry rest =>
        simp only [levelQueue, isWaiting, Option.map_some]
        rw [← replace_asQueue layout lists isLevel rest]
        rfl
  · have nothing : lists.waiting level = [] := by
      by_contra waits
      exact isLevel (filed.bounds waits)
    rw [if_neg isLevel, nothing]
    rfl

/-- Taking what leaves next takes the first entry of the listing from its level. -/
theorem popFront?_asQueue
    (filed : lists.Filed layout) :
    (lists.asQueue layout).popFront? =
      (lists.takeFirst? layout).map (fun taken => (taken.1, taken.2.asQueue layout)) := by
  unfold takeFirst?
  cases popped : (lists.asQueue layout).popFront? with
  | none =>
      have nothing := PriorityQueue.entries_of_popFront? popped
      rw [entries_asQueue] at nothing
      rw [nothing]
      rfl
  | some result =>
      obtain ⟨entry, rest⟩ := result
      have isFirst := PriorityQueue.entries_of_popFront?_some popped
      rw [entries_asQueue] at isFirst
      obtain ⟨level, _, fromLevel⟩ := Option.bind_eq_some_iff.mp popped
      have taken := fromLevel
      rw [popLevel?_asQueue filed] at taken
      obtain ⟨⟨head, left⟩, isTaken, isResult⟩ := Option.map_eq_some_iff.mp taken
      have isEntry : head = entry := congrArg Prod.fst isResult
      have waited : entry ∈ lists.waiting level := by
        obtain ⟨others, isWaiting, _⟩ := take?_shape isTaken
        rw [isWaiting, isEntry]
        exact List.mem_cons_self
      rw [isFirst, List.head?_cons, Option.bind_some, filed level entry waited, isTaken,
        Option.map_some, ← isResult]

/-- A request is let in at the end of the list of its level, unless the level is full. -/
theorem enqueue_asQueue
    (request : Request)
    (now : Nat) :
    (lists.asQueue layout).enqueue request now =
      if lists.isFull layout (layout.levelOf request.priority) then
        .error { request := request, error := .queueFull }
      else
        .ok ((lists.letIn layout request now).asQueue layout) := by
  have isLevel := layout.levelOf_bounds request.priority
  have room :
      (lists.levelQueue layout (layout.levelOf request.priority)).policy.hasRoom
          (lists.levelQueue layout (layout.levelOf request.priority)).size =
        !lists.isFull layout (layout.levelOf request.priority) :=
    QueuePolicy.hasRoom_eq _ _
  unfold PriorityQueue.enqueue
  dsimp only
  rw [getElem_asQueue, resolveLevel_asQueue, LevelQueue.push, room, letIn,
    ← replace_asQueue layout lists isLevel]
  cases lists.isFull layout (layout.levelOf request.priority) <;> rfl

/-- An entry is put back at the head of the list of its level. -/
theorem pushFront_asQueue
    (entry : QueueEntry) :
    (lists.asQueue layout).pushFront entry = (lists.putBack layout entry).asQueue layout := by
  have isLevel := layout.levelOf_bounds entry.request.priority
  unfold PriorityQueue.pushFront
  dsimp only
  rw [getElem_asQueue, resolveLevel_asQueue, putBack, ← replace_asQueue layout lists isLevel]
  rfl

/-- Removing entries from a queue removes them from its lists. -/
theorem removeWhere_asQueue
    (test : QueueEntry → Bool) :
    (lists.asQueue layout).removeWhere test =
      ((lists.remove layout test).1, (lists.remove layout test).2.asQueue layout) := by
  have isRemoved := ((lists.asQueue layout).entries_removeWhere test).1
  rw [entries_asQueue] at isRemoved
  refine Prod.ext isRemoved ?_
  exact mapLevels_asQueue layout lists (fun entries => entries.filter (fun entry => !test entry))

theorem drain_asQueue :
    (lists.asQueue layout).drain = (lists.listing layout, asQueue {} layout) := by
  refine Prod.ext (entries_asQueue layout lists) ?_
  exact mapLevels_asQueue layout lists (fun _ => [])

end Steps

/-- An operation does to a queue what it does to its lists, and gives back the same. -/
theorem perform_asQueue
    (filed : lists.Filed layout)
    (operation : QueueOperation) :
    (lists.asQueue layout).perform operation =
      ((lists.perform layout operation).1,
        (lists.perform layout operation).2.asQueue layout) := by
  cases operation with
  | enqueue request now =>
      simp only [PriorityQueue.perform, perform, enqueue_asQueue]
      cases lists.isFull layout (layout.levelOf request.priority) <;> rfl
  | popFront =>
      simp only [PriorityQueue.perform, perform, popFront?_asQueue filed]
      cases lists.takeFirst? layout <;> rfl
  | popLevel level =>
      simp only [PriorityQueue.perform, perform, popLevel?_asQueue filed]
      cases lists.take? level <;> rfl
  | pushFront entry =>
      simp only [PriorityQueue.perform, perform, pushFront_asQueue]
  | takeExpired now =>
      simp only [PriorityQueue.perform, perform, PriorityQueue.takeExpired, removeWhere_asQueue]
      rfl
  | removeWhere test =>
      simp only [PriorityQueue.perform, perform, removeWhere_asQueue]
      rfl
  | drain =>
      simp only [PriorityQueue.perform, perform, drain_asQueue]
      rfl

/-- When one entry is taken, it waited before, and so did those that are left. -/
theorem mem_ofPop
    {taken? : Option (QueueEntry × LevelLists)}
    (fromLevel : ∀ taken ∈ taken?, ∃ level, lists.take? level = some taken) :
    (∀ level, ∀ entry ∈ (QueueReply.ofPop lists taken?).2.waiting level,
        entry ∈ lists.waiting level) ∧
      ∀ entry ∈ (QueueReply.ofPop lists taken?).1.entries,
        ∃ level, entry ∈ lists.waiting level := by
  cases taken? with
  | none => exact ⟨fun _ _ waits => waits, fun _ leaves => absurd leaves List.not_mem_nil⟩
  | some taken =>
      obtain ⟨level, isTaken⟩ := fromLevel taken rfl
      obtain ⟨rest, isWaiting, isLeft⟩ := take?_shape isTaken
      refine ⟨?_, ?_⟩
      · intro other entry stays
        change entry ∈ taken.2.waiting other at stays
        simp only [isLeft, withLevel] at stays
        split at stays
        · next same =>
            rw [same, isWaiting]
            exact List.mem_cons_of_mem taken.1 stays
        · exact stays
      · intro entry leaves
        have isEntry : entry = taken.1 := List.mem_singleton.mp leaves
        exact ⟨level, by rw [isWaiting, isEntry]; exact List.mem_cons_self⟩

/-- Who waits after an operation waited before, has been let in, or has been put back. -/
theorem mem_perform
    {operation : QueueOperation}
    {level : Nat}
    {entry : QueueEntry}
    (waits : entry ∈ (lists.perform layout operation).2.waiting level) :
    entry ∈ lists.waiting level ∨
      (∃ request now,
        layout.levelOf request.priority = level ∧
          entry = .enter request (layout.policyFor level) now) ∨
      (layout.levelOf entry.request.priority = level ∧ operation = .pushFront entry) := by
  cases operation with
  | enqueue request now =>
      simp only [perform] at waits
      split at waits
      · exact .inl waits
      · simp only [letIn, withLevel] at waits
        split at waits
        · next same =>
            rcases List.mem_append.mp waits with before | isNew
            · exact .inl (same ▸ before)
            · exact .inr (.inl ⟨request, now, same.symm,
                same ▸ List.mem_singleton.mp isNew⟩)
        · exact .inl waits
  | popFront => exact .inl ((mem_ofPop fun _ => take?_of_takeFirst?).1 level entry waits)
  | popLevel other =>
      exact .inl ((mem_ofPop fun _ isTaken => ⟨other, isTaken⟩).1 level entry waits)
  | pushFront returned =>
      simp only [perform, putBack, withLevel] at waits
      split at waits
      · next same =>
          rcases List.mem_cons.mp waits with isReturned | before
          · subst isReturned
            exact .inr (.inr ⟨same.symm, rfl⟩)
          · exact .inl (same ▸ before)
      · exact .inl waits
  | takeExpired now => exact .inl (List.mem_filter.mp waits).1
  | removeWhere test => exact .inl (List.mem_filter.mp waits).1
  | drain => contradiction

/-- Who leaves with an operation waited on some level. -/
theorem mem_reply
    {operation : QueueOperation}
    {entry : QueueEntry}
    (leaves : entry ∈ (lists.perform layout operation).1.entries) :
    ∃ level, entry ∈ lists.waiting level := by
  have ofListing : entry ∈ lists.listing layout → ∃ level, entry ∈ lists.waiting level := by
    intro listed
    obtain ⟨index, _, waits⟩ := List.mem_flatMap.mp listed
    exact ⟨index + 1, waits⟩
  cases operation with
  | enqueue request now =>
      simp only [perform] at leaves
      split at leaves <;> contradiction
  | popFront => exact (mem_ofPop fun _ => take?_of_takeFirst?).2 entry leaves
  | popLevel other => exact (mem_ofPop fun _ isTaken => ⟨other, isTaken⟩).2 entry leaves
  | pushFront returned => contradiction
  | takeExpired now => exact ofListing (List.mem_filter.mp leaves).1
  | removeWhere test => exact ofListing (List.mem_filter.mp leaves).1
  | drain => exact ofListing leaves

theorem Filed.perform
    (filed : lists.Filed layout)
    (operation : QueueOperation) :
    (lists.perform layout operation).2.Filed layout := by
  intro level entry waits
  rcases mem_perform waits with before | ⟨request, now, isLevel, isEntry⟩ | ⟨isLevel, _⟩
  · exact filed level entry before
  · subst isEntry
    exact isLevel
  · exact isLevel

/-- A run does to a queue what it does to its lists, and gives back the same. -/
theorem run_asQueue
    (filed : lists.Filed layout)
    (operations : List QueueOperation) :
    (lists.asQueue layout).run operations =
        ((lists.run layout operations).1, (lists.run layout operations).2.asQueue layout) ∧
      (lists.run layout operations).2.Filed layout := by
  induction operations generalizing lists with
  | nil => exact ⟨rfl, filed⟩
  | cons operation operations inductionHypothesis =>
      obtain ⟨same, stillFiled⟩ := inductionHypothesis (filed.perform operation)
      refine ⟨?_, stillFiled⟩
      simp only [PriorityQueue.run, run, perform_asQueue filed, same]

theorem entriesAt_asQueue
    (filed : lists.Filed layout)
    (level : Nat) :
    (lists.asQueue layout).entriesAt level = lists.waiting level := by
  rw [PriorityQueue.entriesAt, level?_asQueue]
  by_cases isLevel : 1 ≤ level ∧ level ≤ layout.levelCount
  · rw [if_pos isLevel]
    rfl
  · rw [if_neg isLevel]
    by_contra waits
    exact isLevel (filed.bounds (Ne.symm waits))

end LevelLists

/-- What can be read off a priority queue is what its lists say. -/
structure PriorityQueue.Shows
    (queue : PriorityQueue)
    (layout : QueueLayout)
    (lists : LevelLists) :
    Prop where
  levelCount : queue.levelCount = max layout.levels 1
  resolveLevel :
    ∀ priority,
      queue.resolveLevel priority = layout.levelOf priority ∧
        1 ≤ queue.resolveLevel priority ∧
        queue.resolveLevel priority ≤ queue.levelCount ∧
        queue.resolveLevel priority - 1 < queue.levels.length
  level? :
    ∀ level,
      queue.level? level =
        if 1 ≤ level ∧ level ≤ queue.levelCount then
          some {
            level := level
            policy := layout.policyFor level
            entries := lists.waiting level }
        else
          none
  filed :
    ∀ level, ∀ entry ∈ lists.waiting level,
      1 ≤ level ∧
        level ≤ queue.levelCount ∧
        queue.resolveLevel entry.request.priority = level
  entries : queue.entries = lists.listing layout
  peek? : queue.peek? = (lists.listing layout).head?
  size : queue.size = (lists.listing layout).length
  isEmpty : queue.isEmpty = (lists.listing layout).isEmpty
  highestPendingLevel? :
    ∀ level,
      queue.highestPendingLevel? = some level ↔
        lists.waiting level ≠ [] ∧ ∀ higher < level, lists.waiting higher = []
  nextDeadline? :
    ∀ now,
      queue.nextDeadline? now =
        (((lists.listing layout).filterMap QueueEntry.deadline?).filter
          (fun deadline => now < deadline)).min?
  urgentCounts :
    ∀ now,
      (queue.urgentCounts now).length = queue.levelCount ∧
        ∀ index count,
          (queue.urgentCounts now)[index]? = some count →
            (∀ entry ∈ (lists.waiting (index + 1)).drop count, entry.isUrgent now = false) ∧
              ∀ fewer < count,
                ∃ entry ∈ (lists.waiting (index + 1)).drop fewer, entry.isUrgent now = true

namespace LevelLists

variable {layout : QueueLayout}
variable {lists : LevelLists}

theorem shows_asQueue
    (filed : lists.Filed layout) :
    (lists.asQueue layout).Shows layout lists where
  levelCount := levelCount_asQueue layout lists
  resolveLevel priority := by
    have inRange := (lists.asQueue layout).resolveLevel_index priority
    obtain ⟨positive, within⟩ := (lists.asQueue layout).resolveLevel_bounds priority
    exact ⟨resolveLevel_asQueue layout lists priority, positive, within, inRange⟩
  level? level := by
    rw [level?_asQueue, levelCount_asQueue]
    rfl
  filed level entry waits := by
    rw [levelCount_asQueue, resolveLevel_asQueue]
    obtain ⟨positive, within⟩ := filed.bounds (List.ne_nil_of_mem waits)
    exact ⟨positive, within, filed level entry waits⟩
  entries := entries_asQueue layout lists
  peek? := by rw [PriorityQueue.peek?_eq_head?, entries_asQueue]
  size := by rw [PriorityQueue.size_eq_length_entries, entries_asQueue]
  isEmpty := by rw [PriorityQueue.isEmpty_eq, entries_asQueue]
  highestPendingLevel? level := by
    simp only [PriorityQueue.highestPendingLevel?_eq_some_iff, entriesAt_asQueue filed]
  nextDeadline? now := by
    rw [PriorityQueue.nextDeadline?_eq, entries_asQueue]
    rfl
  urgentCounts now := by
    refine ⟨List.length_map _, ?_⟩
    intro index count isCount
    obtain ⟨held, isHeld, counts⟩ := Option.map_eq_some_iff.mp
      ((List.getElem?_map ..).symm.trans isCount)
    have inRange : index < (lists.asQueue layout).levelCount :=
      (List.getElem?_eq_some_iff.mp isHeld).1
    rw [levelCount_asQueue] at inRange
    have isLevel := getElem?_asQueue layout lists inRange
    have isQueue := Option.some.inj (isHeld.symm.trans isLevel)
    have least := held.urgentCount_least now
    rw [counts, isQueue] at least
    exact least

/-- An entry has no deadline, or one that is as far away as the policy of its level allows. -/
def Timely
    (layout : QueueLayout)
    (entry : QueueEntry) :
    Prop :=
  ∀ deadline ∈ entry.deadline?,
    ∃ limit,
      deadline = entry.enqueuedAt + limit ∧
        0 < limit ∧
        (0 < (layout.policyFor (layout.levelOf entry.request.priority)).timeout →
          limit ≤ (layout.policyFor (layout.levelOf entry.request.priority)).timeout)

/-- Who is let in is let in on the terms of its level. -/
theorem timely_enter
    {request : Request}
    {level : Nat}
    (isLevel : layout.levelOf request.priority = level)
    (now : Nat) :
    Timely layout (.enter request (layout.policyFor level) now) := by
  intro deadline isDeadline
  obtain ⟨limit, isLimit, isSum⟩ := Option.map_eq_some_iff.mp isDeadline
  obtain ⟨positive, bounded⟩ := QueuePolicy.effectiveTimeout?_bounds isLimit
  have sameLevel :
      layout.levelOf (QueueEntry.enter request (layout.policyFor level) now).request.priority =
        level :=
    isLevel
  rw [sameLevel]
  exact ⟨limit, isSum.symm, positive, bounded⟩

/-- If only what was handed out is put back, everybody keeps the terms of their level. -/
theorem timely_run
    (filed : lists.Filed layout)
    {handedOut : List QueueEntry}
    (timely : ∀ level, ∀ entry ∈ lists.waiting level, Timely layout entry)
    (timelyOutside : ∀ entry ∈ handedOut, Timely layout entry)
    {operations : List QueueOperation}
    (putsBack : (lists.asQueue layout).PutsBack handedOut operations) :
    ∀ level, ∀ entry ∈ (lists.run layout operations).2.waiting level, Timely layout entry := by
  induction operations generalizing lists handedOut with
  | nil => exact timely
  | cons operation operations inductionHypothesis =>
      obtain ⟨isReturn, later⟩ := putsBack
      rw [perform_asQueue filed] at later
      refine inductionHypothesis (filed.perform operation) ?_ ?_ later
      · intro level entry waits
        rcases mem_perform waits with before | ⟨request, now, isLevel, isEntry⟩ | ⟨_, isPut⟩
        · exact timely level entry before
        · exact isEntry ▸ timely_enter isLevel now
        · exact timelyOutside entry (isReturn entry (by rw [isPut]; rfl))
      · intro entry member
        rcases List.mem_append.mp member with before | leaves
        · exact timelyOutside entry before
        · obtain ⟨level, waited⟩ := mem_reply leaves
          exact timely level entry waited

end LevelLists

/--
A priority queue of any layout does what a list for each level does. After any operations
it has given back the same, and everything that can be read off it is what the lists say:
levels are never out of range, and each entry waits on the level of its priority. If only
entries were put back that had been handed out, then an entry that waits has no deadline,
or one that is a positive time after it came, within the timeout of its level if there is one.
-/
theorem PriorityQueue.simulates_lists
    (layout : QueueLayout)
    (operations : List QueueOperation) :
    let queue := ((ofLayout layout).run operations).2
    let lists := (LevelLists.run {} layout operations).2
    ((ofLayout layout).run operations).1 = (LevelLists.run {} layout operations).1 ∧
      queue.Shows layout lists ∧
      ((ofLayout layout).PutsBack [] operations →
        ∀ level, ∀ entry ∈ lists.waiting level, ∀ deadline ∈ entry.deadline?,
          ∃ limit,
            deadline = entry.enqueuedAt + limit ∧
              0 < limit ∧
              (0 < (layout.policyFor level).timeout →
                limit ≤ (layout.policyFor level).timeout)) := by
  intro queue lists
  have empty : LevelLists.Filed {} layout := fun _ _ waits => absurd waits List.not_mem_nil
  obtain ⟨same, filed⟩ := LevelLists.run_asQueue empty operations
  rw [← LevelLists.asQueue_empty] at same
  have isQueue : queue = lists.asQueue layout := congrArg Prod.snd same
  refine ⟨congrArg Prod.fst same, isQueue ▸ LevelLists.shows_asQueue filed, ?_⟩
  intro putsBack level entry waits
  have timely := LevelLists.timely_run empty (fun _ _ waits => absurd waits List.not_mem_nil)
    (fun _ member => absurd member List.not_mem_nil) putsBack level entry waits
  rw [LevelLists.Timely, filed level entry waits] at timely
  exact timely

/--
There are three levels, and priorities that name none of them stand for the last. The head
of the first is taken and put back, and keeps the deadline that it asked for.
-/
theorem PriorityQueue.simulates_lists_of_put_back :
    let layout : QueueLayout :=
      { levels := 3
        defaultLevel := 9
        defaultPolicy := { timeout := 100, allowsOverride := true } }
    let entry : QueueEntry :=
      .enter { id := 2, priority := 1, timeout? := some 20 } layout.defaultPolicy 5
    let operations : List QueueOperation :=
      [.enqueue { id := 1 } 0, .enqueue { id := 2, priority := 1, timeout? := some 20 } 5,
        .enqueue { id := 3, priority := 7 } 6, .popFront, .popLevel 3, .pushFront entry]
    let queue := ((ofLayout layout).run operations).2
    queue.entries.map (fun entry => entry.request.id) = [2, 3] ∧
      queue.highestPendingLevel? = some 1 ∧
      queue.nextDeadline? 10 = some 25 ∧
      ∃ limit, 25 = entry.enqueuedAt + limit ∧ 0 < limit ∧ (0 < 100 → limit ≤ 100) := by
  intro layout entry operations queue
  obtain ⟨_, shows, timely⟩ := simulates_lists layout operations
  have putsBack : (ofLayout layout).PutsBack [] operations := by decide
  have isListing :
      (((LevelLists.run {} layout operations).2.listing layout).map fun entry =>
        entry.request.id) = [2, 3] := by
    decide
  refine ⟨?_, ?_, ?_, ?_⟩
  · rw [shows.entries]
    exact isListing
  · exact (shows.highestPendingLevel? 1).mpr ⟨by decide, by decide⟩
  · rw [shows.nextDeadline?]
    decide
  · exact timely putsBack 1 entry (by decide) 25 rfl

end InferenceBatching
