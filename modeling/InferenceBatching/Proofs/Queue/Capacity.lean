import InferenceBatching.Proofs.Queue.Simulation

namespace InferenceBatching

/-!
# The capacity of levels

Operations change which entries wait in a queue, but never its levels or their policies.
A level with a capacity lets requests in until it holds that many entries. An entry that
is put back asks for no room, so the bound is not kept by that alone: it is kept because
the entry had left the same level before.
-/

namespace PriorityQueue

/-- A queue has the levels of a layout, and entries wait on the level of their priority. -/
def HasLayout
    (queue : PriorityQueue)
    (layout : QueueLayout) :
    Prop :=
  ∃ lists : LevelLists, lists.Filed layout ∧ queue = lists.asQueue layout

/-- No level with a capacity holds more entries than that. -/
def WithinCapacity
    (queue : PriorityQueue)
    (layout : QueueLayout) :
    Prop :=
  ∀ level,
    0 < (layout.policyFor level).capacity →
      (queue.entriesAt level).length ≤ (layout.policyFor level).capacity

/-- A level has a capacity and holds exactly that many entries. -/
def IsFull
    (queue : PriorityQueue)
    (level : Nat) :
    Prop :=
  ∃ held,
    queue.level? level = some held ∧
      0 < held.policy.capacity ∧ held.entries.length = held.policy.capacity

variable {queue : PriorityQueue}
variable {layout : QueueLayout}

theorem hasLayout_ofLayout
    (layout : QueueLayout) :
    (ofLayout layout).HasLayout layout :=
  ⟨{}, fun _ _ waits => absurd waits List.not_mem_nil, LevelLists.asQueue_empty layout⟩

theorem withinCapacity_ofLayout
    (layout : QueueLayout) :
    (ofLayout layout).WithinCapacity layout := by
  intro level _
  rw [entriesAt_ofLayout]
  exact Nat.zero_le _

/-- What shortens the levels keeps them within their capacity. -/
theorem WithinCapacity.of_inOrder
    {after : PriorityQueue}
    {dispatched : List QueueEntry}
    (within : queue.WithinCapacity layout)
    (inOrder : InOrder queue after [] dispatched) :
    after.WithinCapacity layout := by
  intro level bounded
  have shorter :=
    ((List.sublist_append_right _ _).trans (inOrder.ordered level)).length_le
  rw [ofLevel_nil, List.append_nil] at shorter
  exact shorter.trans (within level bounded)

namespace HasLayout

variable (hasLayout : queue.HasLayout layout)

include hasLayout

/-- No operation on a queue changes its layout. -/
theorem perform
    (operation : QueueOperation) :
    (queue.perform operation).2.HasLayout layout := by
  obtain ⟨lists, filed, isQueue⟩ := hasLayout
  subst isQueue
  rw [LevelLists.perform_asQueue filed]
  exact ⟨(lists.perform layout operation).2, filed.perform operation, rfl⟩

theorem popLevel?
    {level : Nat}
    {entry : QueueEntry}
    {rest : PriorityQueue}
    (popped : queue.popLevel? level = some (entry, rest)) :
    rest.HasLayout layout := by
  have performed := hasLayout.perform (.popLevel level)
  rwa [PriorityQueue.perform, popped] at performed

theorem filed :
    queue.Filed := by
  obtain ⟨lists, filed, isQueue⟩ := hasLayout
  subst isQueue
  intro level entry waits
  rw [LevelLists.entriesAt_asQueue filed] at waits
  rw [LevelLists.resolveLevel_asQueue]
  exact filed level entry waits

/-- The policy of a level is the one that the layout has for it. -/
theorem policy_of_level?
    {level : Nat}
    {held : LevelQueue}
    (isHeld : queue.level? level = some held) :
    held.policy = layout.policyFor level := by
  obtain ⟨lists, _, isQueue⟩ := hasLayout
  subst isQueue
  rw [LevelLists.level?_asQueue] at isHeld
  split at isHeld
  · rw [← Option.some.inj isHeld]
    rfl
  · contradiction

/-- A level with a capacity holds no more entries than that. -/
theorem length_le_capacity
    (within : queue.WithinCapacity layout)
    {level : Nat}
    {held : LevelQueue}
    (isHeld : queue.level? level = some held)
    (bounded : 0 < held.policy.capacity) :
    held.entries.length ≤ held.policy.capacity := by
  have isPolicy := hasLayout.policy_of_level? isHeld
  have isBound := within level (isPolicy ▸ bounded)
  rwa [entriesAt, isHeld, ← isPolicy] at isBound

/-- The level of a priority is full as soon as there is no room on it. -/
theorem isFull_iff
    (within : queue.WithinCapacity layout)
    (priority : Nat) :
    queue.IsFull (queue.resolveLevel priority) ↔
      0 < (layout.policyFor (queue.resolveLevel priority)).capacity ∧
        (layout.policyFor (queue.resolveLevel priority)).capacity ≤
          (queue.entriesAt (queue.resolveLevel priority)).length := by
  have isHeld := queue.level?_resolveLevel priority
  have isPolicy := hasLayout.policy_of_level? isHeld
  constructor
  · rintro ⟨held, isSame, bounded, isLength⟩
    rw [entriesAt, isSame, ← hasLayout.policy_of_level? isSame]
    exact ⟨bounded, isLength.ge⟩
  · rintro ⟨bounded, reached⟩
    rw [entriesAt, isHeld, ← isPolicy] at reached
    rw [← isPolicy] at bounded
    exact ⟨_, isHeld, bounded,
      (hasLayout.length_le_capacity within isHeld bounded).antisymm reached⟩

/-- A request is let in if and only if its level is not full, and is handed back otherwise. -/
theorem enqueue_eq
    (within : queue.WithinCapacity layout)
    (request : Request)
    (now : Nat) :
    (queue.IsFull (queue.resolveLevel request.priority) ∧
        queue.enqueue request now = .error { request := request, error := .queueFull }) ∨
      (¬queue.IsFull (queue.resolveLevel request.priority) ∧
        ∃ grown, queue.enqueue request now = .ok grown) := by
  rw [hasLayout.isFull_iff within]
  obtain ⟨lists, filed, isQueue⟩ := hasLayout
  subst isQueue
  rw [LevelLists.enqueue_asQueue, LevelLists.resolveLevel_asQueue,
    LevelLists.entriesAt_asQueue filed]
  cases isFull : lists.isFull layout (layout.levelOf request.priority) with
  | true => exact .inl ⟨by simpa [LevelLists.isFull] using isFull, rfl⟩
  | false =>
      refine .inr ⟨?_, _, rfl⟩
      intro full
      have alsoFull : lists.isFull layout (layout.levelOf request.priority) = true := by
        simpa [LevelLists.isFull] using full
      rw [isFull] at alsoFull
      contradiction

/-- Who is let in found room on the level, so it is within its capacity then as well. -/
theorem withinCapacity_enqueue
    (within : queue.WithinCapacity layout)
    {request : Request}
    {now : Nat}
    {grown : PriorityQueue}
    (accepted : queue.enqueue request now = .ok grown) :
    grown.WithinCapacity layout := by
  intro level bounded
  have before := within level bounded
  rw [(entriesAt_of_enqueue accepted).2 level, ofLevel_singleton]
  split
  · next isLevel =>
      have isLevel : level = queue.resolveLevel request.priority := isLevel
      rcases hasLayout.enqueue_eq within request now with ⟨_, refused⟩ | ⟨notFull, _⟩
      · rw [refused] at accepted
        contradiction
      · rw [hasLayout.isFull_iff within, ← isLevel] at notFull
        rw [List.length_append, List.length_singleton]
        omega
  · rwa [List.append_nil]

end HasLayout

end PriorityQueue

end InferenceBatching
