import InferenceBatching.Queue.Priority

namespace InferenceBatching

/-!
# Queues of one level

A priority queue of one level is a list of entries under one policy: entries come in
behind, leave in front, and go back in front.
-/

namespace PriorityQueue

/-- The queue of one level that holds some entries. -/
def single
    (policy : QueuePolicy)
    (entries : List QueueEntry) :
    PriorityQueue where
  levels := [{ level := 1, policy := policy, entries := entries }]
  defaultLevel := 1
  defaultLevel_pos := Nat.one_pos
  defaultLevel_le := Nat.le_refl 1

variable {policy : QueuePolicy}
variable {entries : List QueueEntry}

theorem ofLayout_single
    (policy : QueuePolicy) :
    ofLayout (.single policy) = single policy [] :=
  rfl

@[simp]
theorem entries_single :
    (single policy entries).entries = entries := by
  simp [PriorityQueue.entries, single]

@[simp]
theorem size_single :
    (single policy entries).size = entries.length := by
  rw [size_eq_length_entries, entries_single]

/-- Every priority stands for the one level that there is. -/
theorem resolveLevel_single
    (priority : Nat) :
    (single policy entries).resolveLevel priority = 1 := by
  have bounds := (single policy entries).resolveLevel_bounds priority
  have oneLevel : (single policy entries).levelCount = 1 := rfl
  omega

theorem enqueue_single
    (request : Request)
    (now : Nat) :
    (single policy entries).enqueue request now =
      if policy.hasRoom entries.length then
        .ok (single policy (entries ++ [QueueEntry.enter request policy now]))
      else
        .error { request := request, error := .queueFull } := by
  have inRange : 0 < (single policy entries).levels.length := Nat.one_pos
  have isLevel :
      (single policy entries).levels[0] = { level := 1, policy := policy, entries := entries } :=
    rfl
  unfold enqueue
  simp only [resolveLevel_single, Nat.sub_self]
  rw [isLevel, LevelQueue.push, LevelQueue.size]
  cases policy.hasRoom entries.length <;> rfl

theorem pushFront_single
    (entry : QueueEntry) :
    (single policy entries).pushFront entry = single policy (entry :: entries) := by
  unfold pushFront
  simp only [resolveLevel_single]
  rfl

@[simp]
theorem popFront?_single_nil :
    (single policy []).popFront? = none :=
  rfl

@[simp]
theorem popFront?_single_cons
    (entry : QueueEntry) :
    (single policy (entry :: entries)).popFront? = some (entry, single policy entries) :=
  rfl

@[simp]
theorem removeWhere_single
    (test : QueueEntry → Bool) :
    (single policy entries).removeWhere test =
      (entries.filter test, single policy (entries.filter (fun entry => !test entry))) := by
  simp only [removeWhere, single, List.flatMap_singleton, mapLevels, LevelQueue.matching,
    LevelQueue.without, List.map_cons, List.map_nil]

@[simp]
theorem drain_single :
    (single policy entries).drain = (entries, single policy []) := by
  simp only [drain, entries_single]
  rfl

/-- What goes back one by one, the last one first, stands in front in its order. -/
theorem foldl_pushFront_single
    (skipped : List QueueEntry) :
    skipped.reverse.foldl pushFront (single policy entries) =
      single policy (skipped ++ entries) := by
  induction skipped with
  | nil => rfl
  | cons entry skipped inductionHypothesis =>
      rw [List.reverse_cons, List.foldl_append, inductionHypothesis, List.foldl_cons,
        List.foldl_nil, pushFront_single]
      rfl

end PriorityQueue

end InferenceBatching
