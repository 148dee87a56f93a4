import InferenceBatching.Backlog.Filling
import InferenceBatching.Proofs.Backlog.Expiry
import InferenceBatching.Proofs.Queue.Conservation
import InferenceBatching.Proofs.Slot.Indexing
import InferenceBatching.Sequence.Seating

namespace InferenceBatching

/-!
# The loop over the queue of the backlog

While an instance is filled, its lanes fall in three: those seated so far, those set
aside, and those still queued. `Filling.Holds` says so of the last two, and every turn of
the loop keeps it. So the loop seats the lanes that the recursion over lanes seats, and
what it puts back stands in front of what it has not reached, in the order of arrival.
-/

namespace SlotTable

/-- The indices of the free list are indices of slots. -/
def InRange
    (table : SlotTable) :
    Prop :=
  ∀ index ∈ table.freeSlots, index < table.slots.length

theorem Indexed.inRange
    {table : SlotTable}
    (indexed : table.Indexed) :
    table.InRange := by
  intro index listed
  obtain ⟨slot, found, _⟩ := (indexed.freeIff index).mp listed
  exact (List.getElem?_eq_some_iff.mp found).1

theorem pushAll_eq
    (table : SlotTable)
    (index : Nat)
    (entries : List QueueEntry)
    (now : Nat) :
    (table.pushAll index entries now).freeSlots = table.freeSlots ∧
      (table.pushAll index entries now).slots.length = table.slots.length := by
  induction entries generalizing table with
  | nil => exact ⟨rfl, rfl⟩
  | cons entry entries inductionHypothesis =>
      obtain ⟨sameFree, sameLength⟩ := inductionHypothesis (table.push index entry now)
      refine ⟨sameFree, sameLength.trans ?_⟩
      simp [push, modify]

/-- A table with a free slot gives it away, and its other free slots stay in range. -/
theorem InRange.bind?_eq
    {table : SlotTable}
    (inRange : table.InRange)
    (free : table.hasFree = true)
    (sequence : CorrelationId)
    (now : Nat) :
    ∃ index bound,
      table.bind? sequence now = some (index, bound) ∧
        (bound.slot? index).isSome = true ∧
        ∀ entries, (bound.pushAll index entries now).InRange := by
  obtain ⟨index, rest, isFree⟩ : ∃ index rest, table.freeSlots = index :: rest := by
    cases isFree : table.freeSlots with
    | nil => simp [hasFree, isFree] at free
    | cons index rest => exact ⟨index, rest, rfl⟩
  refine ⟨index, _, by rw [bind?, isFree], ?_, ?_⟩
  · have within := inRange index (isFree ▸ List.mem_cons_self)
    simp [slot?, modify, within]
  · intro entries other listed
    rw [(pushAll_eq _ _ _ _).1] at listed
    rw [(pushAll_eq _ _ _ _).2]
    have within := inRange other (isFree ▸ List.mem_cons_of_mem index listed)
    simpa [modify] using within

end SlotTable

/-- Without a free slot, every lane stays where it is. -/
theorem Seating.ofLanes_of_full
    {table : SlotTable}
    (full : table.freeSlots = [])
    (instanceIndex now : Nat)
    (lanes : List Lane)
    (bindings : Directory CorrelationId Seat) :
    ofLanes instanceIndex now lanes table bindings =
      { table := table, bindings := bindings, remaining := lanes } := by
  induction lanes with
  | nil => rfl
  | cons lane lanes inductionHypothesis =>
      simp only [ofLanes, inductionHypothesis, SlotTable.bind?, full]
      split <;> rfl

/-- A lane that leaves a backlog takes its first request and what came behind it along. -/
theorem Backlog.Holds.remove
    {backlog : Backlog}
    {policy : QueuePolicy}
    {before after : List Lane}
    {lane : Lane}
    (holds : backlog.Holds policy (before ++ lane :: after)) :
    Holds
      { starts := .single policy ((before ++ after).map Lane.first)
        followers := backlog.followers.erase lane.sequence }
      policy (before ++ after) := by
  have isPerm : (before ++ lane :: after).Perm (lane :: (before ++ after)) := List.perm_middle
  have distinct := (isPerm.map Lane.sequence).nodup_iff.mp holds.distinct
  rw [List.map_cons, List.nodup_cons] at distinct
  refine ⟨rfl, ?_, ?_, distinct.2⟩
  · intro sequence
    dsimp only
    rw [Directory.find?_erase, holds.followers, List.find?_append, List.find?_append,
      List.find?_cons]
    split
    · next isSame =>
        have absent :
            (before ++ after).find? (fun other => other.sequence = sequence) = none := by
          rw [List.find?_eq_none]
          intro other member same
          rw [decide_eq_true_eq] at same
          exact distinct.1 (List.mem_map.mpr ⟨other, member, same.trans isSame⟩)
        rw [← List.find?_append, absent, Option.map_none]
    · next differs =>
        rw [decide_eq_false (Ne.symm differs)]
  · intro other member
    exact holds.named other (isPerm.mem_iff.mpr (List.mem_cons_of_mem lane member))

namespace Filling

variable {filling : Filling}
variable {policy : QueuePolicy}
variable {aside todo : List Lane}
variable {lane : Lane}

/-- What becomes of an entry that has left the queue does not touch the queue. -/
@[simp]
theorem starts_consider
    (instanceIndex now : Nat)
    (filling : Filling)
    (entry : QueueEntry) :
    (consider instanceIndex now filling entry).backlog.starts = filling.backlog.starts := by
  unfold consider skip occupy
  split
  · rfl
  · split
    · rfl
    · split
      · rfl
      · dsimp only
        split <;> rfl

theorem fill_of_empty
    (instanceIndex now count : Nat)
    (isEmpty : filling.backlog.starts.size = 0) :
    fill instanceIndex now count filling = filling := by
  have nothing : filling.backlog.starts.popFront? = none := by
    cases popped : filling.backlog.starts.popFront? with
    | none => rfl
    | some taken =>
        rw [PriorityQueue.size_of_popFront? popped] at isEmpty
        contradiction
  cases count <;> simp [fill, nothing]

/-- The number of turns bounds nothing: once the queue is empty, the loop has ended by itself. -/
theorem fill_congr
    (instanceIndex now : Nat)
    {first second : Nat}
    (enough : filling.backlog.starts.size ≤ first)
    (alsoEnough : filling.backlog.starts.size ≤ second) :
    fill instanceIndex now first filling = fill instanceIndex now second filling := by
  induction first generalizing filling second with
  | zero =>
      have isEmpty := Nat.le_zero.mp enough
      rw [fill_of_empty _ _ _ isEmpty, fill_of_empty _ _ _ isEmpty]
  | succ first inductionHypothesis =>
      cases second with
      | zero =>
          have isEmpty := Nat.le_zero.mp alsoEnough
          rw [fill_of_empty _ _ _ isEmpty, fill_of_empty _ _ _ isEmpty]
      | succ second =>
          rw [fill, fill]
          split
          · cases popped : filling.backlog.starts.popFront? with
            | none => rfl
            | some taken =>
                have smaller := PriorityQueue.size_of_popFront? popped
                rw [smaller] at enough alsoEnough
                apply inductionHypothesis <;> rw [starts_consider]
                · exact Nat.le_of_succ_le_succ enough
                · exact Nat.le_of_succ_le_succ alsoEnough
          · rfl

/-- Some lanes have been set aside, others are still queued, and the directory has both. -/
structure Holds
    (filling : Filling)
    (policy : QueuePolicy)
    (aside todo : List Lane) :
    Prop where
  starts : filling.backlog.starts = .single policy (todo.map Lane.first)
  skipped : filling.skipped = aside.map Lane.first
  together :
    Backlog.Holds
      { filling.backlog with starts := .single policy ((aside ++ todo).map Lane.first) }
      policy (aside ++ todo)

/-- What was set aside goes back before what is still queued. -/
theorem Holds.putBack
    (holds : filling.Holds policy aside todo) :
    filling.putBack.Holds policy (aside ++ todo) := by
  rw [Filling.putBack, holds.starts, holds.skipped, PriorityQueue.foldl_pushFront_single,
    ← List.map_append]
  exact holds.together

/-- An entry leaves the queue and is set aside. -/
theorem Holds.skip
    (holds : filling.Holds policy aside (lane :: todo)) :
    Holds
      { filling with
        backlog := {
          filling.backlog with starts := .single policy (todo.map Lane.first) }
        skipped := filling.skipped ++ [lane.first] }
      policy (aside ++ [lane]) todo where
  starts := rfl
  skipped := by simp [holds.skipped]
  together := by simpa using holds.together

/-- An entry leaves the queue and is seated, with what came behind it. -/
theorem Holds.occupy
    (holds : filling.Holds policy aside (lane :: todo))
    (table : SlotTable)
    (bindings : Directory CorrelationId Seat) :
    Holds
      { filling with
        backlog := {
          starts := .single policy (todo.map Lane.first)
          followers := filling.backlog.followers.erase lane.sequence }
        table := table
        bindings := bindings }
      policy aside todo where
  starts := rfl
  skipped := holds.skipped
  together := holds.together.remove

/-- What the loop reaches with some lanes queued is what the recursion over them reaches. -/
structure Reaches
    (policy : QueuePolicy)
    (aside : List Lane)
    (before after : Filling)
    (seating : Seating) :
    Prop where
  table : after.table = seating.table
  bindings : after.bindings = seating.bindings
  failed : after.failed = before.failed
  backlog : after.putBack.Holds policy (aside ++ seating.remaining)

/-- The loop over the queue does what the recursion over the lanes does, and fails nobody. -/
theorem reaches_fill
    (instanceIndex now : Nat)
    {count : Nat}
    (enough : todo.length ≤ count)
    (holds : filling.Holds policy aside todo)
    (inRange : filling.table.InRange)
    (running : filling.isClosed = false) :
    Reaches policy aside filling (fill instanceIndex now count filling)
      (Seating.ofLanes instanceIndex now todo filling.table filling.bindings) := by
  induction count generalizing filling aside todo with
  | zero =>
      rw [List.eq_nil_of_length_eq_zero (Nat.le_zero.mp enough)] at holds ⊢
      exact ⟨rfl, rfl, rfl, holds.putBack⟩
  | succ count inductionHypothesis =>
      cases free : filling.table.hasFree with
      | false =>
          have full : filling.table.freeSlots = [] := by simpa [SlotTable.hasFree] using free
          rw [Seating.ofLanes_of_full full]
          simp only [fill, isOpen, free, Bool.and_false, Bool.false_eq_true, if_false]
          exact ⟨rfl, rfl, rfl, holds.putBack⟩
      | true =>
          have isOpen : filling.isOpen = true := by simp [isOpen, free, running]
          rw [fill, if_pos isOpen, holds.starts]
          cases todo with
          | nil => exact ⟨rfl, rfl, rfl, holds.putBack⟩
          | cons lane todo =>
              have isNamed : lane.first.request.sequence? = some lane.sequence :=
                holds.together.named lane (by simp)
              have isHeld :
                  filling.backlog.followers.find? lane.sequence = some lane.followers :=
                holds.together.find?_followers (by simp)
              have enoughLeft : todo.length ≤ count := Nat.le_of_succ_le_succ enough
              simp only [List.map_cons, PriorityQueue.popFront?_single_cons, consider, isNamed,
                Seating.ofLanes]
              split
              · have later := inductionHypothesis enoughLeft holds.skip inRange running
                refine ⟨later.table, later.bindings, later.failed, ?_⟩
                have stillHolds := later.backlog
                rwa [List.append_assoc] at stillHolds
              · obtain ⟨index, bound, isBound, isSlot, stillInRange⟩ :=
                  inRange.bind?_eq free lane.sequence now
                obtain ⟨slot, found⟩ := Option.isSome_iff_exists.mp isSlot
                simp only [isBound, Filling.occupy, found, Backlog.takeFollowers, isHeld,
                  Option.getD_some]
                have later := inductionHypothesis enoughLeft
                  (holds.occupy (bound.pushAll index lane.entries now)
                    (filling.bindings.insert lane.sequence
                      { instanceIndex := instanceIndex, slot := index }))
                  (stillInRange lane.entries) running
                exact ⟨later.table, later.bindings, later.failed, later.backlog⟩

end Filling

namespace BacklogBatcher

/-- With as many turns as the queue has entries, the loop reaches what the recursion reaches. -/
theorem reaches_filling
    {batcher : BacklogBatcher}
    {policy : QueuePolicy}
    {lanes : List Lane}
    (holds : batcher.backlog.Holds policy lanes)
    {table : SlotTable}
    (indexed : table.Indexed)
    (instanceIndex now : Nat) :
    Filling.Reaches policy []
      { backlog := batcher.backlog, table := table, bindings := batcher.bindings }
      (batcher.filling instanceIndex table now)
      (Seating.ofLanes instanceIndex now lanes table batcher.bindings) := by
  have together : Backlog.Holds
      { batcher.backlog with starts := .single policy (([] ++ lanes).map Lane.first) }
      policy ([] ++ lanes) := by
    rw [List.nil_append, ← holds.starts]
    exact holds
  exact Filling.reaches_fill instanceIndex now (Nat.le_of_eq holds.size_starts.symm)
    ⟨holds.starts, rfl, together⟩ indexed.inRange rfl

/-- Filling the free slots from the backlog seats the lanes. -/
theorem fillFreeSlots_mirrors
    {sweep : Sweep Backlog}
    {other : Sweep}
    (mirrors : sweep.Mirrors other)
    (instanceIndex now : Nat)
    (indexed :
      ∀ table, other.batcher.table? instanceIndex = some table → table.Indexed) :
    (fillFreeSlots sweep instanceIndex now).Mirrors
      { other with batcher := other.batcher.seatLanes instanceIndex now } := by
  obtain ⟨⟨sameBatcher, holds⟩, sameFailed, sameRefusals⟩ := mirrors
  have sameTable :
      sweep.batcher.table? instanceIndex = other.batcher.table? instanceIndex := by
    rw [← sameBatcher]
    rfl
  have sameBindings : other.batcher.bindings = sweep.batcher.bindings := by
    rw [← sameBatcher]
    rfl
  unfold fillFreeSlots SequenceBatcher.seatLanes
  rw [sameTable]
  cases isTable : other.batcher.table? instanceIndex with
  | none => exact ⟨⟨sameBatcher, holds⟩, sameFailed, sameRefusals⟩
  | some table =>
      have reaches := reaches_filling holds (indexed table isTable) instanceIndex now
      dsimp only
      rw [sameBindings]
      refine ⟨⟨?_, reaches.backlog⟩, ?_, sameRefusals⟩
      · rw [← reaches.table, ← reaches.bindings, ← sameBatcher]
        rfl
      · rw [reaches.failed, List.append_nil]
        exact sameFailed

/-- Filling the free slots from the backlog fails nobody. -/
theorem failed_fillFreeSlots
    {sweep : Sweep Backlog}
    {lanes : List Lane}
    (holds : sweep.batcher.backlog.Holds sweep.batcher.policy lanes)
    (instanceIndex now : Nat)
    (indexed :
      ∀ table, sweep.batcher.table? instanceIndex = some table → table.Indexed) :
    (fillFreeSlots sweep instanceIndex now).failed = sweep.failed := by
  unfold fillFreeSlots
  cases isTable : sweep.batcher.table? instanceIndex with
  | none => rfl
  | some table =>
      have reaches := reaches_filling holds (indexed table isTable) instanceIndex now
      dsimp only
      rw [reaches.failed, List.append_nil]

end BacklogBatcher

end InferenceBatching
