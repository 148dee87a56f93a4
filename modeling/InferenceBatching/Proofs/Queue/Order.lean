import InferenceBatching.Proofs.Queue.Conservation

namespace InferenceBatching

/-!
# Order within a level

Entries stay on the level that their priority stands for. A level lets entries in
behind all others and gives them out from its head, so an entry that is put back is
again where it was. Nothing done to one level shows on another. So however a queue
changes, each level dispatches entries in the order in which it let them in.
-/

namespace PriorityQueue

/-- The entries that wait on a level, in order; a level that does not exist has none. -/
def entriesAt
    (queue : PriorityQueue)
    (level : Nat) :
    List QueueEntry :=
  ((queue.level? level).map LevelQueue.entries).getD []

/-- The entries among others whose priority stands for a level, in order. -/
def ofLevel
    (queue : PriorityQueue)
    (level : Nat)
    (entries : List QueueEntry) :
    List QueueEntry :=
  entries.filter (fun entry => queue.resolveLevel entry.request.priority = level)

/-- Every entry waits on the level that its priority stands for. -/
def Filed
    (queue : PriorityQueue) :
    Prop :=
  ∀ level, ∀ entry ∈ queue.entriesAt level, queue.resolveLevel entry.request.priority = level

section OfLevel

variable {queue : PriorityQueue}
variable {level : Nat}
variable {entries : List QueueEntry}

@[simp]
theorem ofLevel_nil :
    queue.ofLevel level [] = [] :=
  rfl

@[simp]
theorem ofLevel_append
    (others : List QueueEntry) :
    queue.ofLevel level (entries ++ others) =
      queue.ofLevel level entries ++ queue.ofLevel level others :=
  List.filter_append _ _

theorem ofLevel_singleton
    (entry : QueueEntry) :
    queue.ofLevel level [entry] =
      if level = queue.resolveLevel entry.request.priority then [entry] else [] := by
  simp [ofLevel, List.filter_cons, eq_comm]

theorem ofLevel_congr
    {other : PriorityQueue}
    (resolves : other.resolveLevel = queue.resolveLevel) :
    other.ofLevel level entries = queue.ofLevel level entries := by
  simp only [ofLevel, resolves]

end OfLevel

section Changes

variable {queue rest : PriorityQueue}

/-- The levels of a queue are where they are found by their number. -/
theorem level?_succ
    (queue : PriorityQueue)
    (index : Nat) :
    queue.level? (index + 1) = queue.levels[index]? := by
  simp [level?]

/-- The level that a priority stands for is there. -/
theorem level?_resolveLevel
    (queue : PriorityQueue)
    (priority : Nat) :
    have inRange := queue.resolveLevel_index priority
    queue.level? (queue.resolveLevel priority) =
      some queue.levels[queue.resolveLevel priority - 1] := by
  have positive := (queue.resolveLevel_bounds priority).1
  have inRange := queue.resolveLevel_index priority
  simp [level?, Nat.ne_of_gt positive, inRange]

/-- Other entries on one level are other entries there and nowhere else. -/
theorem entriesAt_replace
    {index : Nat}
    (inRange : index < queue.levels.length)
    (new : LevelQueue)
    (level : Nat) :
    (queue.replace index new).entriesAt level =
      if level = index + 1 then new.entries else queue.entriesAt level := by
  cases level with
  | zero => simp [entriesAt, level?]
  | succ other =>
      rw [entriesAt, level?_succ, replace, List.getElem?_set]
      by_cases same : index = other
      · subst same
        simp [inRange]
      · simp [same, Ne.symm same, entriesAt, level?_succ]

@[simp]
theorem resolveLevel_replace
    (index : Nat)
    (new : LevelQueue) :
    (queue.replace index new).resolveLevel = queue.resolveLevel := by
  funext priority
  have sameCount : (queue.replace index new).levelCount = queue.levelCount := List.length_set
  rw [resolveLevel, sameCount]
  rfl

@[simp]
theorem resolveLevel_mapLevels
    (change : LevelQueue → LevelQueue) :
    (queue.mapLevels change).resolveLevel = queue.resolveLevel := by
  funext priority
  have sameCount : (queue.mapLevels change).levelCount = queue.levelCount := List.length_map _
  rw [resolveLevel, sameCount]
  rfl

theorem level?_mapLevels
    (change : LevelQueue → LevelQueue)
    (level : Nat) :
    (queue.mapLevels change).level? level = (queue.level? level).map change := by
  cases level with
  | zero => rfl
  | succ index => simp [level?_succ, mapLevels]

/-- The entry that is taken from a level was the first to wait there. -/
theorem entriesAt_of_popLevel?
    {level : Nat}
    {entry : QueueEntry}
    (popped : queue.popLevel? level = some (entry, rest)) :
    rest.resolveLevel = queue.resolveLevel ∧
      ∀ other,
        queue.entriesAt other =
          (if other = level then [entry] else []) ++ rest.entriesAt other := by
  obtain ⟨index, held, tail, isLevel, isHeld, isSplit, isRest⟩ := popLevel?_shape popped
  subst isLevel isRest
  have inRange := (List.getElem?_eq_some_iff.mp isHeld).1
  refine ⟨resolveLevel_replace index tail, ?_⟩
  intro other
  rw [entriesAt_replace inRange]
  split
  · next same => simp [same, entriesAt, level?_succ, isHeld, isSplit]
  · rfl

/-- A level gives an entry unless nothing waits there. -/
theorem entriesAt_of_popLevel?_none
    {level : Nat}
    (nothing : queue.popLevel? level = none) :
    queue.entriesAt level = [] := by
  unfold popLevel? at nothing
  unfold entriesAt
  cases isHeld : queue.level? level with
  | none => rfl
  | some held =>
      cases isEntries : held.entries with
      | nil => simpa using isEntries
      | cons entry others => simp [isHeld, LevelQueue.popFront?, isEntries] at nothing

/-- An entry that is put back is the first to wait on the level it is meant for. -/
theorem entriesAt_pushFront
    (queue : PriorityQueue)
    (entry : QueueEntry)
    (level : Nat) :
    (queue.pushFront entry).entriesAt level =
      queue.ofLevel level [entry] ++ queue.entriesAt level := by
  have inRange := queue.resolveLevel_index entry.request.priority
  have positive := (queue.resolveLevel_bounds entry.request.priority).1
  rw [pushFront, entriesAt_replace inRange, Nat.sub_add_cancel positive, ofLevel_singleton]
  split
  · next same =>
      have isLevel := queue.level?_resolveLevel entry.request.priority
      simp [LevelQueue.pushFront, entriesAt, same, isLevel]
  · rfl

@[simp]
theorem resolveLevel_pushFront
    (queue : PriorityQueue)
    (entry : QueueEntry) :
    (queue.pushFront entry).resolveLevel = queue.resolveLevel :=
  resolveLevel_replace _ _

/-- A request that is let in is the last to wait on the level it is meant for. -/
theorem entriesAt_of_enqueue
    {request : Request}
    {now : Nat}
    (accepted : queue.enqueue request now = .ok rest) :
    rest.resolveLevel = queue.resolveLevel ∧
      ∀ level,
        rest.entriesAt level =
          queue.entriesAt level ++
            queue.ofLevel level
              [QueueEntry.enter request (queue.policyFor request.priority) now] := by
  have inRange := queue.resolveLevel_index request.priority
  have positive := (queue.resolveLevel_bounds request.priority).1
  obtain ⟨grown, isGrown, isRest⟩ := enqueue_shape accepted
  subst isRest
  refine ⟨resolveLevel_replace _ _, ?_⟩
  intro level
  have samePriority :
      (QueueEntry.enter request (queue.policyFor request.priority) now).request.priority =
        request.priority :=
    rfl
  rw [entriesAt_replace inRange, Nat.sub_add_cancel positive, ofLevel_singleton, samePriority]
  split
  · next same =>
      have isLevel := queue.level?_resolveLevel request.priority
      simp [entriesAt, same, isLevel, isGrown]
  · exact (List.append_nil _).symm

/-- Removing entries leaves the others on their levels, in order. -/
theorem entriesAt_removeWhere
    (queue : PriorityQueue)
    (test : QueueEntry → Bool)
    (level : Nat) :
    (queue.removeWhere test).2.entriesAt level =
      (queue.entriesAt level).filter (fun entry => !test entry) := by
  rw [removeWhere, entriesAt, level?_mapLevels, entriesAt]
  cases queue.level? level <;> rfl

theorem entriesAt_drain
    (queue : PriorityQueue)
    (level : Nat) :
    queue.drain.2.entriesAt level = [] := by
  rw [drain, entriesAt, level?_mapLevels]
  cases queue.level? level <;> rfl

theorem entriesAt_ofLayout
    (layout : QueueLayout)
    (level : Nat) :
    (ofLayout layout).entriesAt level = [] := by
  cases level with
  | zero => rfl
  | succ index =>
      rw [entriesAt, level?_succ, ofLayout, List.getElem?_map]
      cases (List.range (max layout.levels 1))[index]? <;> rfl

end Changes

section Whole

variable {queue rest : PriorityQueue}

/-- The entries of a level are those of the queue at its place, if there is one. -/
theorem entriesAt_succ
    (queue : PriorityQueue)
    (index : Nat) :
    queue.entriesAt (index + 1) = (queue.levels[index]?.map LevelQueue.entries).getD [] := by
  rw [entriesAt, level?_succ]

/-- A list for each level, made from its entries, can be made level by level. -/
theorem flatMap_levels
    (queue : PriorityQueue)
    (part : List QueueEntry → List QueueEntry) :
    queue.levels.flatMap (fun level => part level.entries) =
      (List.range queue.levelCount).flatMap (fun index => part (queue.entriesAt (index + 1))) := by
  have listed :
      queue.levels.map LevelQueue.entries =
        (List.range queue.levelCount).map (fun index => queue.entriesAt (index + 1)) := by
    apply List.ext_getElem
    · simp [levelCount]
    · intro index inLevels _
      rw [List.length_map] at inLevels
      simp [entriesAt_succ, inLevels]
  calc
    queue.levels.flatMap (fun level => part level.entries)
    _ = (queue.levels.map LevelQueue.entries).flatMap part := by rw [List.flatMap_map]
    _ = _ := by rw [listed, List.flatMap_map]

/-- The last level is the one that its own number stands for. -/
theorem resolveLevel_levelCount
    (queue : PriorityQueue) :
    queue.resolveLevel queue.levelCount = queue.levelCount := by
  have bounds := queue.resolveLevel_bounds 0
  have someLevel : queue.levelCount ≠ 0 := by omega
  simp [resolveLevel, someLevel]

/-- Queues in which priorities stand for the same levels have equally many. -/
theorem levelCount_congr
    {other : PriorityQueue}
    (resolves : other.resolveLevel = queue.resolveLevel) :
    other.levelCount = queue.levelCount := by
  have within := (queue.resolveLevel_bounds other.levelCount).2
  have conversely := (other.resolveLevel_bounds queue.levelCount).2
  rw [← resolves, resolveLevel_levelCount] at within
  rw [resolves, resolveLevel_levelCount] at conversely
  exact Nat.le_antisymm within conversely

/-- A level that does not exist has no entries. -/
theorem entriesAt_of_absent
    {level : Nat}
    (absent : level = 0 ∨ queue.levelCount < level) :
    queue.entriesAt level = [] := by
  cases level with
  | zero => rfl
  | succ index =>
      have beyond : queue.levels.length ≤ index := by
        unfold levelCount at absent
        omega
      rw [entriesAt_succ, List.getElem?_eq_none beyond]
      rfl

/-- Of lists made for each level from its own entries, a level has the one made for it. -/
theorem ofLevel_flatMap
    (filed : queue.Filed)
    {part : Nat → List QueueEntry}
    (within : ∀ level, part level ⊆ queue.entriesAt level)
    (level : Nat) :
    queue.ofLevel level
        ((List.range queue.levelCount).flatMap (fun index => part (index + 1))) =
      part level := by
  have apart :
      ∀ other, queue.ofLevel level (part other) = if other = level then part other else [] := by
    intro other
    unfold ofLevel
    split
    · next same =>
        rw [List.filter_eq_self]
        intro entry member
        simpa [← same] using filed other entry (within other member)
    · next differs =>
        rw [List.filter_eq_nil_iff]
        intro entry member
        simpa [filed other entry (within other member)] using differs
  have upTo :
      ∀ count,
        queue.ofLevel level ((List.range count).flatMap (fun index => part (index + 1))) =
          if 0 < level ∧ level ≤ count then part level else [] := by
    intro count
    induction count with
    | zero =>
        have none : ¬ (0 < level ∧ level ≤ 0) := by omega
        rw [if_neg none]
        rfl
    | succ count inductionHypothesis =>
        rw [List.range_succ, List.flatMap_append, ofLevel_append, inductionHypothesis,
          List.flatMap_singleton, apart]
        grind
  rw [upTo]
  split
  · rfl
  · next absent =>
      have nothing : queue.entriesAt level = [] := entriesAt_of_absent (by omega)
      exact (List.subset_nil.mp (nothing ▸ within level)).symm

/-- The entry that leaves next is the first in the order of the queue. -/
theorem entries_of_popFront?_some
    {entry : QueueEntry}
    (popped : queue.popFront? = some (entry, rest)) :
    queue.entries = entry :: rest.entries := by
  obtain ⟨number, isHighest, fromLevel⟩ := Option.bind_eq_some_iff.mp popped
  obtain ⟨index, held, tail, isNumber, isHeld, isSplit, isRest⟩ := popLevel?_shape fromLevel
  obtain ⟨found, isFound, isNext⟩ := Option.map_eq_some_iff.mp isHighest
  have isIndex : found = index := by omega
  subst isIndex isRest
  obtain ⟨inRange, _, noneBefore⟩ := List.findIdx?_eq_some_iff_getElem.mp isFound
  have atIndex : queue.levels[found] = held := by simpa [inRange] using isHeld
  have frontEmpty : (queue.levels.take found).flatMap LevelQueue.entries = [] := by
    rw [List.flatMap_eq_nil_iff]
    intro level member
    obtain ⟨before, isBefore, isLevel⟩ := List.getElem_of_mem member
    have earlier : before < found := by
      simp only [List.length_take] at isBefore
      omega
    rw [List.getElem_take] at isLevel
    have empty := noneBefore before earlier
    simpa [← isLevel, LevelQueue.isEmpty] using empty
  have isWhole :
      queue.levels = queue.levels.take found ++ held :: queue.levels.drop (found + 1) := by
    rw [← atIndex, ← List.drop_eq_getElem_cons inRange, List.take_append_drop]
  calc
    queue.entries
    _ = held.entries ++ (queue.levels.drop (found + 1)).flatMap LevelQueue.entries := by
      rw [entries, isWhole, List.flatMap_append, ← isWhole, frontEmpty]
      rfl
    _ = entry :: (tail :: queue.levels.drop (found + 1)).flatMap LevelQueue.entries := by
      rw [isSplit]
      rfl
    _ = entry :: (queue.replace found tail).entries := by
      simp only [entries, replace]
      rw [List.set_eq_take_append_cons_drop, if_pos inRange, List.flatMap_append, frontEmpty]
      rfl

end Whole

/--
From one queue to another, some entries are let in and some dispatched; others may
have left. On each level, nobody has got ahead of anybody.
-/
structure InOrder
    (before after : PriorityQueue)
    (admitted dispatched : List QueueEntry) :
    Prop where
  resolves : after.resolveLevel = before.resolveLevel
  ordered :
    ∀ level,
      (before.ofLevel level dispatched ++ after.entriesAt level).Sublist
        (before.entriesAt level ++ before.ofLevel level admitted)

namespace InOrder

variable {before between after : PriorityQueue}
variable {admitted moreAdmitted dispatched moreDispatched : List QueueEntry}

theorem refl
    (queue : PriorityQueue) :
    InOrder queue queue [] [] where
  resolves := rfl
  ordered level := by simp

/-- What is dispatched later was behind all that was dispatched before. -/
theorem trans
    (first : InOrder before between admitted dispatched)
    (second : InOrder between after moreAdmitted moreDispatched) :
    InOrder before after (admitted ++ moreAdmitted) (dispatched ++ moreDispatched) where
  resolves := second.resolves.trans first.resolves
  ordered level := by
    have front := (second.ordered level).append_left (before.ofLevel level dispatched)
    have back := (first.ordered level).append_right (before.ofLevel level moreAdmitted)
    simp only [ofLevel_congr first.resolves, ofLevel_append, List.append_assoc] at front back ⊢
    exact front.trans back

/-- Entries that were not dispatched after all have just left. -/
theorem sublist
    (inOrder : InOrder before after admitted dispatched)
    {fewer : List QueueEntry}
    (isFewer : fewer.Sublist dispatched) :
    InOrder before after admitted fewer where
  resolves := inOrder.resolves
  ordered level :=
    ((isFewer.filter _).append_right _).trans (inOrder.ordered level)

/-- Entries that wait on the levels that they are meant for do so after any change. -/
theorem filed
    (inOrder : InOrder before after admitted dispatched)
    (filed : before.Filed) :
    after.Filed := by
  intro level entry member
  have known := (inOrder.ordered level).subset (List.mem_append_right _ member)
  rw [inOrder.resolves]
  rcases List.mem_append.mp known with waited | entered
  · exact filed level entry waited
  · simpa using (List.mem_filter.mp entered).2

end InOrder

section Steps

variable {queue rest : PriorityQueue}
variable {level : Nat}
variable {entry : QueueEntry}

/-- An entry that is taken from a level was the first on the level that it is meant for. -/
theorem entriesAt_of_popLevel?_filed
    (filed : queue.Filed)
    (popped : queue.popLevel? level = some (entry, rest))
    (other : Nat) :
    queue.entriesAt other = queue.ofLevel other [entry] ++ rest.entriesAt other := by
  have isSplit := (entriesAt_of_popLevel? popped).2
  have waited : entry ∈ queue.entriesAt level := by simp [isSplit level]
  rw [ofLevel_singleton, filed level entry waited]
  exact isSplit other

theorem inOrder_popLevel?
    (filed : queue.Filed)
    (popped : queue.popLevel? level = some (entry, rest)) :
    InOrder queue rest [] [entry] where
  resolves := (entriesAt_of_popLevel? popped).1
  ordered other := by
    simp only [entriesAt_of_popLevel?_filed filed popped other, ofLevel_nil, List.append_nil,
      List.Sublist.refl]

/-- An entry that is put back is where it was. -/
theorem inOrder_putBack
    (filed : queue.Filed)
    (popped : queue.popLevel? level = some (entry, rest)) :
    InOrder queue (rest.pushFront entry) [] [] := by
  have leaves := inOrder_popLevel? filed popped
  refine ⟨(rest.resolveLevel_pushFront entry).trans leaves.resolves, ?_⟩
  intro other
  rw [entriesAt_pushFront, ofLevel_congr leaves.resolves]
  exact leaves.ordered other

theorem inOrder_enqueue
    {request : Request}
    {now : Nat}
    (accepted : queue.enqueue request now = .ok rest) :
    InOrder queue rest
      [QueueEntry.enter request (queue.policyFor request.priority) now] [] := by
  obtain ⟨resolves, isLast⟩ := entriesAt_of_enqueue accepted
  refine ⟨resolves, ?_⟩
  intro level
  simp [isLast level, ofLevel_nil]

theorem inOrder_removeWhere
    (queue : PriorityQueue)
    (test : QueueEntry → Bool) :
    InOrder queue (queue.removeWhere test).2 [] [] where
  resolves := resolveLevel_mapLevels _
  ordered level := by
    rw [entriesAt_removeWhere, ofLevel_nil, List.append_nil]
    exact List.filter_sublist

theorem inOrder_drain
    (queue : PriorityQueue) :
    InOrder queue queue.drain.2 [] [] where
  resolves := resolveLevel_mapLevels _
  ordered level := by
    rw [entriesAt_drain]
    exact List.nil_sublist _

end Steps

end PriorityQueue

end InferenceBatching
