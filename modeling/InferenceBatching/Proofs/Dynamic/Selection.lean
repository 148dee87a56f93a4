import InferenceBatching.Dynamic.Formation

namespace InferenceBatching

/-!
# Selections step by step

However a selection is made, urgent entries first or in the order of the queue, it
considers one popped entry after the other while it is open. So what holds at its
start and is kept by considering an entry holds at its end.
-/

namespace Selection

variable {inputs : List InputSpec}
variable {limit : Nat}
variable {motive : Selection → Prop}
variable {selection : Selection}

section Steps

variable
  (step :
    ∀ {selection : Selection} {queue : PriorityQueue} {entry : QueueEntry} {level : Nat},
      selection.isOpen limit = true →
      selection.queue.popLevel? level = some (entry, queue) →
      motive selection →
        motive (consider inputs { selection with queue := queue } entry))

include step

private theorem holds_pickFromLevel
    (holds : motive selection)
    (level count : Nat) :
    motive (pickFromLevel inputs limit level count selection) := by
  induction count generalizing selection with
  | zero => exact holds
  | succ count inductionHypothesis =>
      simp only [pickFromLevel]
      split
      · next mayPick =>
          split
          · exact holds
          · next entry queue popped => exact inductionHypothesis (step mayPick popped holds)
      · exact holds

theorem holds_pickUrgent
    (holds : motive selection)
    (level : Nat)
    (counts : List Nat) :
    motive (pickUrgent inputs limit level counts selection) := by
  induction counts generalizing selection level with
  | nil => exact holds
  | cons count counts inductionHypothesis =>
      exact inductionHypothesis (holds_pickFromLevel step holds level count) (level + 1)

theorem holds_pickInOrder
    (holds : motive selection)
    (count : Nat) :
    motive (pickInOrder inputs limit count selection) := by
  induction count generalizing selection with
  | zero => exact holds
  | succ count inductionHypothesis =>
      simp only [pickInOrder]
      split
      · next mayPick =>
          split
          · exact holds
          · next entry queue popped =>
              obtain ⟨level, _, fromLevel⟩ := Option.bind_eq_some_iff.mp popped
              exact inductionHypothesis (step mayPick fromLevel holds)
      · exact holds

end Steps

end Selection

/-- What holds at the start of a selection and is kept by considering entries holds at its end. -/
theorem DynamicBatcher.select_induction
    {batcher : DynamicBatcher}
    {limit : Nat}
    {motive : Selection → Prop}
    (start : motive (Selection.start batcher.queue))
    (step :
      ∀ {selection : Selection} {queue : PriorityQueue} {entry : QueueEntry} {level : Nat},
        selection.isOpen limit = true →
        selection.queue.popLevel? level = some (entry, queue) →
        motive selection →
          motive (Selection.consider batcher.inputs { selection with queue := queue } entry))
    (now : Nat) :
    motive (batcher.select limit now) :=
  Selection.holds_pickInOrder step (Selection.holds_pickUrgent step start 1 _) _

end InferenceBatching
