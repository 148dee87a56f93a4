import InferenceBatching.Queue.Priority

namespace InferenceBatching

/-!
# What the queues hold

Every operation on a priority queue accounts for the entries that it moves: what
it takes out is what is missing afterwards, and an entry that is put back is the
one that was taken.
-/

section Exchange

variable {Item Held : Type}
variable [DecidableEq Held]
variable {items : List Item}
variable {index : Nat}
variable {old : Item}

/-- Replacing an item exchanges what the old one holds for what the new one holds. -/
theorem count_flatMap_set
    (found : items[index]? = some old)
    (new : Item)
    (held : Item → List Held)
    (entry : Held) :
    ((items.set index new).flatMap held).count entry + (held old).count entry =
      (items.flatMap held).count entry + (held new).count entry := by
  induction items generalizing index with
  | nil => contradiction
  | cons item items inductionHypothesis =>
      cases index with
      | zero =>
          have same : item = old := Option.some.inj found
          simp only [List.set_cons_zero, List.flatMap_cons, List.count_append, same]
          omega
      | succ index =>
          have later := inductionHypothesis found
          simp only [List.set_cons_succ, List.flatMap_cons, List.count_append]
          omega

theorem count_flatMap_modify
    (found : items[index]? = some old)
    (change : Item → Item)
    (held : Item → List Held)
    (entry : Held) :
    ((items.modify index change).flatMap held).count entry + (held old).count entry =
      (items.flatMap held).count entry + (held (change old)).count entry := by
  have isSet : items.modify index change = items.set index (change old) := by
    apply List.ext_getElem?
    intro other
    rw [List.getElem?_modify, List.getElem?_set]
    by_cases same : index = other
    · subst same
      obtain ⟨inRange, isOld⟩ := List.getElem?_eq_some_iff.mp found
      simp [inRange, isOld]
    · simp [same]
  rw [isSet]
  exact count_flatMap_set found (change old) held entry

theorem perm_flatMap_modify
    (found : items[index]? = some old)
    (change : Item → Item)
    (held : Item → List Held) :
    ((items.modify index change).flatMap held ++ held old).Perm
      (items.flatMap held ++ held (change old)) := by
  rw [List.perm_iff_count]
  intro entry
  simp only [List.count_append]
  exact count_flatMap_modify found change held entry

end Exchange

/-- The requests that fail are those of some entries. -/
def FailsWith
    (failed : List Failure)
    (entries : List QueueEntry) :
    Prop :=
  failed.map Failure.request = requestsOf entries

theorem failsWith_all
    (entries : List QueueEntry)
    (error : RequestError) :
    FailsWith (Failure.all (requestsOf entries) error) entries := by
  simp [FailsWith, Failure.all, requestsOf]

theorem FailsWith.length_eq
    {failed : List Failure}
    {entries : List QueueEntry}
    (fails : FailsWith failed entries) :
    failed.length = entries.length := by
  simpa [requestsOf] using congrArg List.length fails

theorem FailsWith.append
    {failed more : List Failure}
    {entries others : List QueueEntry}
    (first : FailsWith failed entries)
    (second : FailsWith more others) :
    FailsWith (failed ++ more) (entries ++ others) := by
  unfold FailsWith requestsOf at *
  rw [List.map_append, List.map_append, first, second]

namespace PriorityQueue

theorem entries_ofLayout
    (layout : QueueLayout) :
    (ofLayout layout).entries = [] := by
  simp only [entries, ofLayout, List.flatMap_map, List.flatMap_eq_nil_iff, implies_true]

variable {queue rest : PriorityQueue}

theorem count_replace
    {index : Nat}
    {old : LevelQueue}
    (found : queue.levels[index]? = some old)
    (new : LevelQueue)
    (entry : QueueEntry) :
    (queue.replace index new).entries.count entry + old.entries.count entry =
      queue.entries.count entry + new.entries.count entry :=
  count_flatMap_set found new LevelQueue.entries entry

/-- Taking the head of a level replaces the queue there by one without its first entry. -/
theorem popLevel?_shape
    {level : Nat}
    {entry : QueueEntry}
    (popped : queue.popLevel? level = some (entry, rest)) :
    ∃ index held tail,
      level = index + 1 ∧
        queue.levels[index]? = some held ∧
        held.entries = entry :: tail.entries ∧
        rest = queue.replace index tail := by
  simp only [popLevel?] at popped
  split at popped
  · next head tail isHead =>
      obtain ⟨held, isLevel, isPopped⟩ := Option.bind_eq_some_iff.mp isHead
      simp only [Option.some.injEq, Prod.mk.injEq] at popped
      obtain ⟨rfl, rfl⟩ := popped
      have isSplit : held.entries = head :: tail.entries := by
        simp only [LevelQueue.popFront?] at isPopped
        split at isPopped
        · contradiction
        · next first others isEntries =>
            simp only [Option.some.injEq, Prod.mk.injEq] at isPopped
            rw [isEntries, ← isPopped.1, ← isPopped.2]
      cases level with
      | zero => contradiction
      | succ index => exact ⟨index, held, tail, rfl, isLevel, isSplit, rfl⟩
  · contradiction

/-- The head of a level leaves, and nothing else. -/
theorem popLevel?_perm
    {level : Nat}
    {entry : QueueEntry}
    (popped : queue.popLevel? level = some (entry, rest)) :
    queue.entries.Perm (entry :: rest.entries) := by
  obtain ⟨index, held, tail, _, found, isSplit, isRest⟩ := popLevel?_shape popped
  apply List.perm_iff_count.mpr
  intro other
  have exchanged := count_replace found tail other
  rw [isSplit, ← isRest] at exchanged
  simp only [List.count_cons] at exchanged ⊢
  omega

theorem popFront?_perm
    {entry : QueueEntry}
    (popped : queue.popFront? = some (entry, rest)) :
    queue.entries.Perm (entry :: rest.entries) := by
  obtain ⟨level, _, fromLevel⟩ := Option.bind_eq_some_iff.mp popped
  exact popLevel?_perm fromLevel

theorem size_of_popFront?
    {entry : QueueEntry}
    (popped : queue.popFront? = some (entry, rest)) :
    queue.size = rest.size + 1 := by
  rw [size_eq_length_entries, size_eq_length_entries]
  exact (popFront?_perm popped).length_eq

/-- An entry that is put back is there again. -/
theorem pushFront_perm
    (queue : PriorityQueue)
    (entry : QueueEntry) :
    (queue.pushFront entry).entries.Perm (entry :: queue.entries) := by
  have inRange := queue.resolveLevel_index entry.request.priority
  have found := List.getElem?_eq_getElem inRange
  apply List.perm_iff_count.mpr
  intro other
  have exchanged := count_replace found
    ((queue.levels[queue.resolveLevel entry.request.priority - 1]).pushFront entry) other
  simp only [LevelQueue.pushFront, List.count_cons] at exchanged ⊢
  simp only [pushFront]
  dsimp only [LevelQueue.pushFront]
  omega

/-- Removing takes out what passes the test and leaves the rest, in order. -/
theorem entries_removeWhere
    (queue : PriorityQueue)
    (test : QueueEntry → Bool) :
    (queue.removeWhere test).1 = queue.entries.filter test ∧
      (queue.removeWhere test).2.entries = queue.entries.filter (fun entry => !test entry) := by
  simp only [removeWhere, entries, mapLevels, List.filter_flatMap, List.flatMap_map]
  exact ⟨rfl, rfl⟩

/-- Removing nothing changes nothing. -/
theorem removeWhere_of_none
    {test : QueueEntry → Bool}
    (none : ∀ entry ∈ queue.entries, test entry = false) :
    queue.removeWhere test = ([], queue) := by
  have allStay : ∀ level ∈ queue.levels, level.without test = level := by
    intro level member
    have sameEntries : level.entries.filter (fun entry => !test entry) = level.entries := by
      rw [List.filter_eq_self]
      intro entry inLevel
      simp [none entry (List.mem_flatMap.mpr ⟨level, member, inLevel⟩)]
    simp [LevelQueue.without, sameEntries]
  have sameLevels : queue.levels.map (fun level => level.without test) = queue.levels := by
    rw [List.map_congr_left allStay, List.map_id']
  apply Prod.ext
  · rw [(queue.entries_removeWhere test).1, List.filter_eq_nil_iff]
    intro entry member
    simp [none entry member]
  · simp only [removeWhere, mapLevels, sameLevels]

/-- What is removed and what stays are what there was. -/
theorem removeWhere_perm
    (queue : PriorityQueue)
    (test : QueueEntry → Bool) :
    queue.entries.Perm
      ((queue.removeWhere test).1 ++ (queue.removeWhere test).2.entries) := by
  obtain ⟨removed, kept⟩ := queue.entries_removeWhere test
  rw [removed, kept]
  exact (List.filter_append_perm test queue.entries).symm

/-- The policy under which requests of a priority are let in: that of their level. -/
def policyFor
    (queue : PriorityQueue)
    (priority : Nat) :
    QueuePolicy :=
  have inRange := queue.resolveLevel_index priority
  queue.levels[queue.resolveLevel priority - 1].policy

/-- Letting a request in replaces the queue of its level by one with its entry at the end. -/
theorem enqueue_shape
    {request : Request}
    {now : Nat}
    (accepted : queue.enqueue request now = .ok rest) :
    have inRange := queue.resolveLevel_index request.priority
    ∃ grown,
      grown.entries =
          queue.levels[queue.resolveLevel request.priority - 1].entries ++
            [QueueEntry.enter request (queue.policyFor request.priority) now] ∧
        rest = queue.replace (queue.resolveLevel request.priority - 1) grown := by
  unfold enqueue at accepted
  dsimp only at accepted
  split at accepted
  · next pushed isPushed =>
      refine ⟨pushed, ?_, (Except.ok.inj accepted).symm⟩
      rw [(LevelQueue.push_eq_ok_iff.mp isPushed).2]
      rfl
  · contradiction

/-- A request that is let in joins the queue under the policy of its level. -/
theorem enqueue_perm
    {request : Request}
    {now : Nat}
    (accepted : queue.enqueue request now = .ok rest) :
    rest.entries.Perm
      (queue.entries ++ [QueueEntry.enter request (queue.policyFor request.priority) now]) := by
  obtain ⟨grown, isGrown, isRest⟩ := enqueue_shape accepted
  have found := List.getElem?_eq_getElem (queue.resolveLevel_index request.priority)
  apply List.perm_iff_count.mpr
  intro other
  have exchanged := count_replace found grown other
  rw [← isRest, isGrown] at exchanged
  simp only [List.count_append] at exchanged ⊢
  omega

/-- A request is turned away only because its level is full, and is handed back. -/
theorem enqueue_error
    {request : Request}
    {now : Nat}
    {failure : Failure}
    (refused : queue.enqueue request now = .error failure) :
    failure = { request := request, error := .queueFull } := by
  unfold enqueue at refused
  dsimp only at refused
  split at refused
  · contradiction
  · next isRefused =>
      simp only [LevelQueue.push] at isRefused
      split at isRefused
      · contradiction
      · rw [← Except.error.inj refused, ← Except.error.inj isRefused]

end PriorityQueue

end InferenceBatching
