import InferenceBatching.Proofs.Slot.Indexing

namespace InferenceBatching

/-!
# Bookkeeping under any use

A table may be misused: entries are queued on free slots, slots are torn down with
nothing in flight, released twice, or completed for requests they never ran. Whatever is
done to it, in any order, its free list stays the set of its free slots, and a fault
leaves it as it was. `completeInPlace` and `releaseInPlace` say what has been written to
the table when a fault is found.
-/

/--
The stage of a slot says whether it has a sequence, and nothing flies on a free one. Unlike
on a sound slot, anything may be pending.
-/
structure Slot.Staged
    (slot : Slot) :
    Prop where
  sequenceIff : slot.sequence?.isSome = true ↔ slot.state ≠ .free
  grounded : slot.state = .free → slot.inFlight? = none

namespace Slot.Staged

variable {slot : Slot}

theorem used_of_sequence
    (staged : slot.Staged)
    {sequence : CorrelationId}
    (carries : slot.sequence? = some sequence) :
    slot.state ≠ .free :=
  staged.sequenceIff.mp (by rw [carries]; rfl)

theorem tearDown
    (staged : slot.Staged) :
    slot.tearDown.Staged where
  sequenceIff := by
    rw [tearDown_sequence, ne_eq, tearDown_state]
    exact staged.sequenceIff
  grounded isFree := by
    rw [tearDown_inFlight]
    exact staged.grounded ((tearDown_state slot).mp isFree)

theorem dispatch
    (staged : slot.Staged)
    {now : Nat}
    {entry : QueueEntry}
    {after : Slot}
    (dispatched : slot.dispatch? now = some (entry, after)) :
    after.Staged := by
  obtain ⟨used, stillUsed⟩ := used_of_dispatch? dispatched
  obtain ⟨_, _, _, _, isAfter⟩ := dispatch?_shape dispatched
  have sameSequence : after.sequence? = slot.sequence? := by rw [isAfter]
  exact {
    sequenceIff := by
      rw [sameSequence]
      exact iff_of_true (staged.sequenceIff.mpr used) stillUsed
    grounded := fun isFree => absurd isFree stillUsed }

end Slot.Staged

namespace SlotTable

/-- Release a slot: the answer, and the table as it is left with either answer. -/
def releaseInPlace
    (table : SlotTable)
    (index : Nat)
    (now : Nat) :
    Except SlotFault (List QueueEntry) × SlotTable :=
  match table.slot? index with
  | none => (.error (.noSlot index), table)
  | some slot =>
      if slot.state = .free then
        (.error (.releasedTwice index), table)
      else
        match slot.inFlight? with
        | some request => (.error (.releasedInFlight index request), table)
        | none =>
            (.ok slot.pending,
              { table.modify index (fun held => held.vacate now) with
                freeSlots := insertIndex index table.freeSlots })

/--
Note that a request came back: the answer, and the table as it is left. Should the release
of a slot at its end fail, the slot would be left without its request.
-/
def completeInPlace
    (table : SlotTable)
    (index : Nat)
    (sequence : CorrelationId)
    (request : RequestId)
    (now : Nat) :
    Except SlotFault (Option (List QueueEntry)) × SlotTable :=
  match table.slot? index with
  | none => (.error (.noSlot index), table)
  | some slot =>
      if slot.sequence? ≠ some sequence then
        (.error (.boundToOther index slot.sequence? sequence), table)
      else if slot.inFlight? ≠ some request then
        (.error (.notInFlight index slot.inFlight? request), table)
      else
        let landed := table.modify index (fun held => held.land now)
        if slot.state = .ending then
          let released := landed.releaseInPlace index now
          (released.1.map some, released.2)
        else
          (.ok none, landed)

/-- What can be done to a table. -/
inductive Operation where
  | bind (sequence : CorrelationId) (now : Nat)
  | push (index : Nat) (entry : QueueEntry) (now : Nat)
  | dispatch (index : Nat) (now : Nat)
  | complete (index : Nat) (sequence : CorrelationId) (request : RequestId) (now : Nat)
  | release (index : Nat) (now : Nat)
  | tearDown (index : Nat)
  | remove (index : Nat) (test : QueueEntry → Bool)

/-- The table after an operation, also after one that was not possible. -/
def perform
    (table : SlotTable) :
    Operation →
    SlotTable
  | .bind sequence now => ((table.bind? sequence now).map Prod.snd).getD table
  | .push index entry now => table.push index entry now
  | .dispatch index now => ((table.dispatch? index now).map Prod.snd).getD table
  | .complete index sequence request now =>
      (table.completeInPlace index sequence request now).2
  | .release index now => (table.releaseInPlace index now).2
  | .tearDown index => (table.beginTeardown index).2
  | .remove index test => ((table.removePending? index test).map Prod.snd).getD table

/-- The table after several operations. -/
def after
    (table : SlotTable)
    (operations : List Operation) :
    SlotTable :=
  operations.foldl perform table

section InPlace

variable (table : SlotTable)
variable (index now : Nat)

/-- A slot is released in place as it is released, and a fault leaves the table as it was. -/
theorem releaseInPlace_eq :
    table.releaseInPlace index now =
      match table.release index now with
      | .ok (leftovers, released) => (.ok leftovers, released)
      | .error fault => (.error fault, table) := by
  unfold releaseInPlace release
  cases table.slot? index with
  | none => rfl
  | some slot =>
      by_cases free : slot.state = .free
      · simp [free]
      · cases inFlight : slot.inFlight? <;> simp [free, inFlight]

/-- A slot is not released if there is none, if it is free, or if a request flies on it. -/
theorem release_error_iff :
    (∃ fault, table.release index now = .error fault) ↔
      ∀ slot,
        table.slot? index = some slot → slot.state = .free ∨ slot.inFlight? ≠ none := by
  constructor
  · rintro ⟨fault, failed⟩ slot found
    apply Decidable.or_iff_not_not_and_not.mpr
    rintro ⟨used, flying⟩
    rw [release_eq found used (Decidable.not_not.mp flying)] at failed
    contradiction
  · intro holds
    cases released : table.release index now with
    | error fault => exact ⟨fault, rfl⟩
    | ok answer =>
        obtain ⟨held, found, used, grounded⟩ := held_of_release released
        rcases holds held found with free | flying
        · exact absurd free used
        · exact absurd grounded flying

variable {table index}

/-- Once its request is back, a slot in use can be released. -/
theorem release_landed
    {held : Slot}
    (found : table.slot? index = some held)
    (used : held.state ≠ .free) :
    ∃ released,
      (table.modify index (fun other => other.land now)).release index now =
        .ok (held.pending, released) := by
  have landedFound :
      (table.modify index (fun other => other.land now)).slot? index =
        some (held.land now) := by
    simp only [slot?, modify] at found ⊢
    simp [found]
  exact ⟨_, release_eq landedFound used rfl now⟩

variable (table index)
variable (sequence : CorrelationId)
variable (request : RequestId)

/-- A request is taken back in place as it is taken back, and a fault leaves the table as it was. -/
theorem completeInPlace_eq :
    table.completeInPlace index sequence request now =
      match table.complete index sequence request now with
      | .ok (leftovers?, landed) => (.ok leftovers?, landed)
      | .error fault => (.error fault, table) := by
  unfold completeInPlace complete
  cases found : table.slot? index with
  | none => rfl
  | some slot =>
      by_cases carries : slot.sequence? = some sequence
      · by_cases inFlight : slot.inFlight? = some request
        · by_cases ending : slot.state = .ending
          · -- The fault that would strike after the first write cannot occur.
            obtain ⟨released, isReleased⟩ := release_landed now found (by simp [ending])
            simp only [carries, inFlight, ending, ne_eq, not_true_eq_false, if_false, if_true,
              releaseInPlace_eq, isReleased]
            rfl
          · simp [carries, inFlight, ending]
        · simp [carries, inFlight]
      · simp [carries]

/-- A request is not taken back if the slot is missing, another's, or not running it. -/
theorem complete_error_iff :
    (∃ fault, table.complete index sequence request now = .error fault) ↔
      ∀ slot,
        table.slot? index = some slot →
          slot.sequence? ≠ some sequence ∨ slot.inFlight? ≠ some request := by
  constructor
  · rintro ⟨fault, failed⟩ slot found
    apply Decidable.not_and_iff_not_or_not.mp
    rintro ⟨carries, inFlight⟩
    obtain ⟨landed, completed⟩ := complete_of_held found carries inFlight now
    rw [failed] at completed
    contradiction
  · intro differs
    cases completed : table.complete index sequence request now with
    | error fault => exact ⟨fault, rfl⟩
    | ok landed =>
        obtain ⟨held, found, carries, inFlight⟩ := held_of_complete completed
        rcases differs held found with isOther | isOther
        · exact absurd carries isOther
        · exact absurd inFlight isOther

end InPlace

/--
A table of so many slots: the free list is that of the free ones, and each agrees with its
stage.
-/
structure Consistent
    (table : SlotTable)
    (count : Nat) :
    Prop where
  sized : table.size = count
  indexed : table.Indexed
  staged : ∀ slot ∈ table.slots, slot.Staged

theorem consistent_unused
    (instanceIndex count now : Nat) :
    (unused instanceIndex count now).Consistent count where
  sized := List.length_replicate
  indexed := indexed_unused instanceIndex count now
  staged slot member := by
    rw [List.eq_of_mem_replicate member]
    exact ⟨by simp [Slot.unused], fun _ => rfl⟩

namespace Consistent

variable {table : SlotTable}
variable {count : Nat}

theorem staged_at
    (consistent : table.Consistent count)
    {index : Nat}
    {held : Slot}
    (found : table.slot? index = some held) :
    held.Staged :=
  consistent.staged held (List.mem_of_getElem? found)

theorem put
    (consistent : table.Consistent count)
    {index : Nat}
    {held slot : Slot}
    (found : table.slot? index = some held)
    (staged : slot.Staged) :
    (table.put index slot).Consistent count where
  sized := (List.length_set).trans consistent.sized
  indexed := consistent.indexed.put found slot
  staged other member := by
    rcases List.mem_or_eq_of_mem_set member with before | isNew
    · exact consistent.staged other before
    · exact isNew ▸ staged

/-- A change that leaves every slot in agreement with its stage, and its stage free or not. -/
theorem modify
    (consistent : table.Consistent count)
    (index : Nat)
    {change : Slot → Slot}
    (sameStage : ∀ slot, (change slot).state = .free ↔ slot.state = .free)
    (staged : ∀ slot, slot.Staged → (change slot).Staged) :
    (table.modify index change).Consistent count where
  sized := (List.length_modify change table.slots index).trans consistent.sized
  indexed := consistent.indexed.modify index sameStage
  staged slot member := by
    obtain ⟨other, isSlot⟩ := List.mem_iff_getElem?.mp member
    simp only [SlotTable.modify, List.getElem?_modify, Option.map_eq_map,
      Option.map_eq_some_iff] at isSlot
    obtain ⟨held, found, isChanged⟩ := isSlot
    have heldStaged := consistent.staged_at found
    rw [← isChanged]
    split
    · exact staged held heldStaged
    · exact heldStaged

theorem bind
    (consistent : table.Consistent count)
    (sequence : CorrelationId)
    (now : Nat) :
    (table.perform (.bind sequence now)).Consistent count := by
  simp only [perform]
  cases bound : table.bind? sequence now with
  | none => exact consistent
  | some answer =>
      obtain ⟨slot, found, _, isPut⟩ := consistent.indexed.bind?_shape bound
      simp only [Option.map_some, Option.getD_some]
      rw [isPut]
      exact consistent.put found ⟨by simp [Slot.bind], by simp [Slot.bind]⟩

theorem dispatch
    (consistent : table.Consistent count)
    (index now : Nat) :
    (table.perform (.dispatch index now)).Consistent count := by
  simp only [perform]
  cases dispatched : table.dispatch? index now with
  | none => exact consistent
  | some answer =>
      obtain ⟨held, slot, found, isDispatched, isPut⟩ :=
        consistent.indexed.dispatch?_shape dispatched
      simp only [Option.map_some, Option.getD_some]
      rw [isPut]
      exact consistent.put found ((consistent.staged_at found).dispatch isDispatched)

theorem release
    (consistent : table.Consistent count)
    (index now : Nat) :
    (table.perform (.release index now)).Consistent count := by
  simp only [perform, releaseInPlace_eq]
  split
  · next leftovers released isReleased =>
      obtain ⟨held, found, used, grounded⟩ := held_of_release isReleased
      rw [release_eq found used grounded] at isReleased
      cases isReleased
      exact consistent.put found ⟨by simp [Slot.vacate], fun _ => grounded⟩
  · exact consistent

theorem complete
    (consistent : table.Consistent count)
    (index : Nat)
    (sequence : CorrelationId)
    (request : RequestId)
    (now : Nat) :
    (table.perform (.complete index sequence request now)).Consistent count := by
  simp only [perform, completeInPlace_eq]
  split
  · next leftovers? landed completed =>
      obtain ⟨held, found, carries, inFlight⟩ := held_of_complete completed
      have staged := consistent.staged_at found
      have used := staged.used_of_sequence carries
      rw [consistent.indexed.complete_eq found used carries inFlight] at completed
      split at completed
      · cases completed
        exact consistent.put found ⟨by simp [Slot.vacate], fun _ => rfl⟩
      · cases completed
        exact consistent.put found ⟨staged.sequenceIff, fun _ => rfl⟩
  · exact consistent

theorem remove
    (consistent : table.Consistent count)
    (index : Nat)
    (test : QueueEntry → Bool) :
    (table.perform (.remove index test)).Consistent count := by
  simp only [perform, removePending?]
  cases table.slot? index with
  | none => exact consistent
  | some slot =>
      exact consistent.modify index (fun _ => Iff.rfl)
        (fun _ staged => ⟨staged.sequenceIff, staged.grounded⟩)

/-- Whatever is done to it, a table stays consistent. -/
theorem perform
    (consistent : table.Consistent count)
    (operation : Operation) :
    (table.perform operation).Consistent count := by
  cases operation with
  | bind sequence now => exact consistent.bind sequence now
  | push index entry now =>
      exact consistent.modify index (fun _ => Iff.rfl)
        (fun _ staged => ⟨staged.sequenceIff, staged.grounded⟩)
  | dispatch index now => exact consistent.dispatch index now
  | complete index sequence request now =>
      exact consistent.complete index sequence request now
  | release index now => exact consistent.release index now
  | tearDown index =>
      exact consistent.modify index Slot.tearDown_state (fun _ staged => staged.tearDown)
  | remove index test => exact consistent.remove index test

theorem after
    (consistent : table.Consistent count)
    (operations : List Operation) :
    (table.after operations).Consistent count := by
  induction operations generalizing table with
  | nil => exact consistent
  | cons operation operations inductionHypothesis =>
      exact inductionHypothesis (consistent.perform operation)

end Consistent

section Bind

variable {table : SlotTable}
variable {sequence : CorrelationId}
variable {now : Nat}

theorem bind?_eq_none_iff
    (indexed : table.Indexed) :
    table.bind? sequence now = none ↔ ∀ slot ∈ table.slots, slot.state ≠ .free := by
  constructor
  · intro full slot member free
    obtain ⟨index, found⟩ := List.mem_iff_getElem?.mp member
    have listed := (indexed.freeIff index).mpr ⟨slot, found, free⟩
    rw [freeSlots_of_not_bound full] at listed
    contradiction
  · intro used
    cases bound : table.bind? sequence now with
    | none => rfl
    | some answer =>
        obtain ⟨slot, found, free, _⟩ := indexed.bind?_shape bound
        exact absurd free (used slot (List.mem_of_getElem? found))

/-- No slot before the one that is bound is free. -/
theorem used_before_bound
    (indexed : table.Indexed)
    {index : Nat}
    {after : SlotTable}
    (bound : table.bind? sequence now = some (index, after))
    {smaller : Nat}
    (before : smaller < index)
    {slot : Slot}
    (found : table.slot? smaller = some slot) :
    slot.state ≠ .free := by
  intro free
  have listed := (indexed.freeIff smaller).mpr ⟨slot, found, free⟩
  simp only [bind?] at bound
  split at bound
  · contradiction
  · next first rest isFree =>
      have isIndex : first = index := (Prod.mk.inj (Option.some.inj bound)).1
      have ascending := indexed.ascending
      rw [isFree] at ascending listed
      rcases List.mem_cons.mp listed with isFirst | inRest
      · omega
      · have after := (List.pairwise_cons.mp ascending).1 smaller inRest
        omega

end Bind

/--
Whatever has been done to a table, its free list is the set of its free slots, a slot has a
sequence exactly if it is not free, nothing flies on a free slot, and free slots and others
make up all. The lowest free slot is bound, and none only if none is free. Releasing and
completing either succeed or leave the table as it was: releasing fails exactly if there is
no such slot, it is free or a request flies on it, completing exactly if there is no such
slot, it is another sequence's or another request's, and never because the slot at its end
could not be released.
-/
theorem bookkeeping_under_any_use
    (instanceIndex count start : Nat)
    (operations : List Operation) :
    let table := (unused instanceIndex count start).after operations
    (table.freeSlots.Pairwise (· < ·) ∧
      ∀ index,
        index ∈ table.freeSlots ↔ ∃ slot, table.slot? index = some slot ∧ slot.state = .free) ∧
      (∀ slot ∈ table.slots,
        (slot.sequence?.isSome = true ↔ slot.state ≠ .free) ∧
          (slot.state = .free → slot.inFlight? = none)) ∧
      (table.size = count ∧
        table.freeCount + table.activeCount = count ∧
        table.freeCount = table.slots.countP (fun slot => slot.state = .free)) ∧
      (∀ sequence now,
        (table.bind? sequence now = none ↔ ∀ slot ∈ table.slots, slot.state ≠ .free) ∧
          ∀ index bound,
            table.bind? sequence now = some (index, bound) →
              (∃ slot,
                table.slot? index = some slot ∧
                  slot.state = .free ∧
                  bound = table.put index (slot.bind sequence now)) ∧
                ∀ smaller < index, ∀ slot,
                  table.slot? smaller = some slot → slot.state ≠ .free) ∧
      (∀ index now,
        let answer := table.releaseInPlace index now
        (∀ fault, answer.1 = .error fault → answer.2 = table) ∧
          ((∃ fault, answer.1 = .error fault) ↔
            ∀ slot,
              table.slot? index = some slot → slot.state = .free ∨ slot.inFlight? ≠ none)) ∧
      (∀ index sequence request now,
        let answer := table.completeInPlace index sequence request now
        (∀ fault, answer.1 = .error fault → answer.2 = table) ∧
          ((∃ fault, answer.1 = .error fault) ↔
            ∀ slot,
              table.slot? index = some slot →
                slot.sequence? ≠ some sequence ∨ slot.inFlight? ≠ some request) ∧
          ∀ slot,
            table.slot? index = some slot →
              slot.state = .ending →
                ∃ released,
                  (table.modify index (fun held => held.land now)).release index now =
                    .ok (slot.pending, released)) := by
  intro table
  have consistent : table.Consistent count :=
    (consistent_unused instanceIndex count start).after operations
  have indexed := consistent.indexed
  have isCount := consistent.sized
  have isFree := indexed.freeCount_eq
  refine ⟨⟨indexed.ascending, indexed.freeIff⟩, ?_, ⟨isCount, ?_, isFree⟩, ?_, ?_, ?_⟩
  · intro slot member
    exact ⟨(consistent.staged slot member).sequenceIff, (consistent.staged slot member).grounded⟩
  · have within : table.freeCount ≤ table.size := by
      rw [isFree]
      exact List.countP_le_length
    rw [activeCount, ← isCount]
    omega
  · intro sequence now
    refine ⟨bind?_eq_none_iff indexed, ?_⟩
    intro index bound isBound
    exact ⟨indexed.bind?_shape isBound,
      fun smaller before slot found => used_before_bound indexed isBound before found⟩
  · intro index now
    dsimp only
    rw [← release_error_iff, releaseInPlace_eq]
    cases table.release index now <;> simp
  · intro index sequence request now
    dsimp only
    rw [← complete_error_iff table index now, completeInPlace_eq]
    refine ⟨?_, ?_, fun slot found ending => release_landed now found (by simp [ending])⟩
    · cases table.complete index sequence request now <;> simp
    · cases table.complete index sequence request now <;> simp

/-- What is queued on a free slot stays there, and a slot torn down idle is released once. -/
example :
    let entry : QueueEntry := .enter { id := 5 } {} 0
    let table :=
      (unused 0 2 0).after [.push 1 entry 0, .bind 7 0, .tearDown 0, .release 0 1, .release 1 1]
    table.releaseInPlace 0 2 = (.error (.releasedTwice 0), table) ∧
      table.freeSlots = [0, 1] ∧
      table.pending = [entry] :=
  ⟨rfl, rfl, rfl⟩

end SlotTable

end InferenceBatching
