import InferenceBatching.Proofs.Slot.Soundness

namespace InferenceBatching

/-!
# Free lists

A table is indexed when its free list holds exactly the indices of its free
slots, in ascending order. Every operation on an indexed table puts one changed
slot at its index and lists the index as free exactly when the slot is: `put` is
that one change, and the operations are shown to be it.
-/

namespace SlotTable

/-- The free list holds the indices of the free slots, each once. -/
structure Indexed (table : SlotTable) : Prop where
  ascending : table.freeSlots.Pairwise (· < ·)
  freeIff :
    ∀ index,
      index ∈ table.freeSlots ↔
        ∃ slot, table.slot? index = some slot ∧ slot.state = .free

/-- Put a slot at an index, listing the index as free exactly when the slot is. -/
def put
    (table : SlotTable)
    (index : Nat)
    (slot : Slot) :
    SlotTable :=
  { table with
    slots := table.slots.set index slot
    freeSlots :=
      if slot.state = .free then
        insertIndex index table.freeSlots
      else
        table.freeSlots.erase index }

private theorem mem_insertIndex
    {index other : Nat}
    {indices : List Nat} :
    other ∈ insertIndex index indices ↔ other = index ∨ other ∈ indices := by
  induction indices with
  | nil => simp [insertIndex]
  | cons first rest inductionHypothesis =>
      simp only [insertIndex]
      split
      · simp
      · split
        · simp only [List.mem_cons, inductionHypothesis]
          grind
        · have same : first = index := by omega
          simp [same]

private theorem insertIndex_ascending
    {indices : List Nat}
    (ascending : indices.Pairwise (· < ·))
    (index : Nat) :
    (insertIndex index indices).Pairwise (· < ·) := by
  induction indices with
  | nil => simp [insertIndex]
  | cons first rest inductionHypothesis =>
      simp only [List.pairwise_cons] at ascending
      simp only [insertIndex]
      split
      · next before =>
          simp only [List.pairwise_cons, List.mem_cons]
          refine ⟨?_, ascending⟩
          rintro other (isFirst | inRest)
          · exact isFirst ▸ before
          · exact Nat.lt_trans before (ascending.1 other inRest)
      · split
        · next after =>
            simp only [List.pairwise_cons]
            refine ⟨?_, inductionHypothesis ascending.2⟩
            intro other member
            rcases mem_insertIndex.mp member with isIndex | inRest
            · exact isIndex ▸ after
            · exact ascending.1 other inRest
        · simpa only [List.pairwise_cons] using ascending

theorem indexed_unused
    (instanceIndex count now : Nat) :
    (unused instanceIndex count now).Indexed where
  ascending := List.pairwise_lt_range
  freeIff := by
    intro index
    simp only [unused, slot?, List.mem_range, List.getElem?_replicate]
    constructor
    · intro inRange
      exact ⟨Slot.unused now, by simp [inRange], rfl⟩
    · rintro ⟨slot, found, _⟩
      by_cases inRange : index < count
      · exact inRange
      · simp [inRange] at found

section Put

variable {table : SlotTable}

theorem slot?_put
    {index : Nat}
    {held : Slot}
    (found : table.slot? index = some held)
    (slot : Slot)
    (other : Nat) :
    (table.put index slot).slot? other =
      if other = index then some slot else table.slot? other := by
  have inRange : index < table.slots.length := (List.getElem?_eq_some_iff.mp found).1
  simp only [put, slot?, List.getElem?_set, inRange]
  grind

theorem Indexed.put
    (indexed : table.Indexed)
    {index : Nat}
    {held : Slot}
    (found : table.slot? index = some held)
    (slot : Slot) :
    (table.put index slot).Indexed where
  ascending := by
    rw [SlotTable.put]
    dsimp only
    split
    · exact insertIndex_ascending indexed.ascending index
    · exact indexed.ascending.sublist List.erase_sublist
  freeIff := by
    intro other
    have distinct : table.freeSlots.Nodup :=
      indexed.ascending.imp fun before => Nat.ne_of_lt before
    rw [slot?_put found]
    rw [SlotTable.put]
    dsimp only
    split
    · next free =>
        rw [mem_insertIndex, indexed.freeIff]
        by_cases same : other = index
        · simp [same, free]
        · simp [same]
    · next used =>
        rw [distinct.mem_erase_iff, indexed.freeIff]
        by_cases same : other = index
        · simp [same, used]
        · simp [same]

/-- The index of a slot in use is not listed as free. -/
theorem Indexed.not_mem_freeSlots
    (indexed : table.Indexed)
    {index : Nat}
    {held : Slot}
    (found : table.slot? index = some held)
    (used : held.state ≠ .free) :
    index ∉ table.freeSlots := by
  intro listed
  obtain ⟨slot, alsoFound, free⟩ := (indexed.freeIff index).mp listed
  have same : held = slot := Option.some.inj (found.symm.trans alsoFound)
  exact used (same ▸ free)

theorem modify_slots
    {index : Nat}
    {held : Slot}
    (found : table.slot? index = some held)
    (change : Slot → Slot) :
    table.slots.modify index change = table.slots.set index (change held) := by
  have isHeld : table.slots[index]? = some held := found
  apply List.ext_getElem?
  intro other
  rw [List.getElem?_modify, List.getElem?_set]
  by_cases same : index = other
  · subst same
    obtain ⟨inRange, isElement⟩ := List.getElem?_eq_some_iff.mp isHeld
    simp [inRange, isElement]
  · simp [same]

/-- A change that leaves a slot in use is one put. -/
theorem Indexed.modify_eq_put
    (indexed : table.Indexed)
    {index : Nat}
    {held : Slot}
    (found : table.slot? index = some held)
    (used : held.state ≠ .free)
    {change : Slot → Slot}
    (stillUsed : (change held).state ≠ .free) :
    table.modify index change = table.put index (change held) := by
  unfold modify SlotTable.put
  rw [modify_slots found, if_neg stillUsed,
    List.erase_of_not_mem (indexed.not_mem_freeSlots found used)]

/-- The free list of an indexed table is read off its slots. -/
theorem Indexed.freeSlots_eq
    (indexed : table.Indexed) :
    table.freeSlots =
      (List.range table.size).filter (fun index =>
        (table.slot? index).any (fun slot => slot.state = .free)) := by
  have listed : table.freeSlots.Nodup := indexed.ascending.imp Nat.ne_of_lt
  have sameMembers :
      table.freeSlots.Perm
        ((List.range table.size).filter (fun index =>
          (table.slot? index).any (fun slot => slot.state = .free))) := by
    apply (List.perm_ext_iff_of_nodup listed (List.nodup_range.filter _)).mpr
    intro index
    rw [indexed.freeIff]
    simp only [List.mem_filter, List.mem_range, Option.any_eq_true, decide_eq_true_eq]
    constructor
    · rintro ⟨slot, found, free⟩
      exact ⟨(List.getElem?_eq_some_iff.mp found).1, slot, found, free⟩
    · exact And.right
  exact List.Perm.eq_of_pairwise
    (fun _ _ _ _ before after => absurd before (Nat.lt_asymm after))
    indexed.ascending (List.pairwise_lt_range.filter _) sameMembers

/-- As many slots are listed as are free. -/
theorem Indexed.freeCount_eq
    (indexed : table.Indexed) :
    table.freeCount = table.slots.countP (fun slot => slot.state = .free) := by
  have looked :
      (List.range table.size).map (fun index => table.slot? index) = table.slots.map some := by
    apply List.ext_getElem?
    intro index
    by_cases inRange : index < table.slots.length <;> simp [size, slot?, inRange]
  have counted := congrArg (List.countP (Option.any fun slot => slot.state = .free)) looked
  rw [List.countP_map, List.countP_map] at counted
  rw [freeCount, indexed.freeSlots_eq, ← List.countP_eq_length_filter]
  exact counted

/-- Indexed tables with the same slots are the same: the slots determine the free list. -/
theorem Indexed.eq_of_slots_eq
    {other : SlotTable}
    (indexed : table.Indexed)
    (otherIndexed : other.Indexed)
    (sameInstance : table.instanceIndex = other.instanceIndex)
    (sameSlots : table.slots = other.slots) :
    table = other := by
  have distinct : table.freeSlots.Nodup :=
    indexed.ascending.imp fun before => Nat.ne_of_lt before
  have otherDistinct : other.freeSlots.Nodup :=
    otherIndexed.ascending.imp fun before => Nat.ne_of_lt before
  have sameMembers : table.freeSlots.Perm other.freeSlots := by
    apply (List.perm_ext_iff_of_nodup distinct otherDistinct).mpr
    intro index
    rw [indexed.freeIff, otherIndexed.freeIff, slot?, slot?, sameSlots]
  have sameFree : table.freeSlots = other.freeSlots :=
    List.Perm.eq_of_pairwise
      (fun _ _ _ _ before after => absurd before (Nat.lt_asymm after))
      indexed.ascending otherIndexed.ascending sameMembers
  cases table
  cases other
  simp_all

/-- Of two slots put at one index only the second stays. -/
theorem Indexed.put_put
    (indexed : table.Indexed)
    {index : Nat}
    {held : Slot}
    (found : table.slot? index = some held)
    (first second : Slot) :
    (table.put index first).put index second = table.put index second := by
  have firstFound : (table.put index first).slot? index = some first := by
    simp [slot?_put found]
  apply ((indexed.put found first).put firstFound second).eq_of_slots_eq
    (indexed.put found second) rfl
  simp [SlotTable.put]

theorem Indexed.put_self
    (indexed : table.Indexed)
    {index : Nat}
    {held : Slot}
    (found : table.slot? index = some held) :
    table.put index held = table := by
  apply (indexed.put found held).eq_of_slots_eq indexed rfl
  obtain ⟨inRange, isHeld⟩ := List.getElem?_eq_some_iff.mp found
  rw [SlotTable.put, ← isHeld, List.set_getElem_self]

/-- Binding puts a sequence on the slot that is first on the free list. -/
theorem Indexed.bind?_shape
    (indexed : table.Indexed)
    {sequence : CorrelationId}
    {now index : Nat}
    {bound : SlotTable}
    (isBound : table.bind? sequence now = some (index, bound)) :
    ∃ slot,
      table.slot? index = some slot ∧
        slot.state = .free ∧
          bound = table.put index (slot.bind sequence now) := by
  simp only [bind?] at isBound
  split at isBound
  · contradiction
  · next first rest isFree =>
      simp only [Option.some.injEq, Prod.mk.injEq] at isBound
      obtain ⟨isIndex, isTable⟩ := isBound
      subst isIndex isTable
      obtain ⟨slot, found, free⟩ :=
        (indexed.freeIff first).mp (by simp [isFree])
      refine ⟨slot, found, free, ?_⟩
      have used : (slot.bind sequence now).state ≠ .free := by simp [Slot.bind]
      simp only [modify, SlotTable.put, modify_slots found, isFree, if_neg used,
        List.erase_cons_head]

/-- Binding fails only when no slot is free. -/
theorem freeSlots_of_not_bound
    {sequence : CorrelationId}
    {now : Nat}
    (full : table.bind? sequence now = none) :
    table.freeSlots = [] := by
  simp only [bind?] at full
  split at full
  · next noneFree => exact noneFree
  · contradiction

/-- Queueing entries behind a slot just put is putting it with all of them queued. -/
theorem Indexed.pushAll_put
    (indexed : table.Indexed)
    {index : Nat}
    {held : Slot}
    (found : table.slot? index = some held)
    {slot : Slot}
    (used : slot.state ≠ .free)
    (entries : List QueueEntry)
    (now : Nat) :
    (table.put index slot).pushAll index entries now =
      table.put index (slot.pushAll entries now) := by
  induction entries generalizing slot with
  | nil => rfl
  | cons entry entries inductionHypothesis =>
      have putFound : (table.put index slot).slot? index = some slot := by
        simp [slot?_put found]
      have stillUsed : (slot.push entry now).state ≠ .free := used
      have pushed :
          (table.put index slot).push index entry now =
            table.put index (slot.push entry now) :=
        ((indexed.put found slot).modify_eq_put putFound used stillUsed).trans
          (indexed.put_put found slot (slot.push entry now))
      simp only [pushAll, Slot.pushAll, List.foldl_cons] at inductionHypothesis ⊢
      rw [pushed]
      exact inductionHypothesis stillUsed

/-- Tearing a slot in use down puts it at its end and hands over what was pending. -/
theorem Indexed.beginTeardown_eq
    (indexed : table.Indexed)
    {index : Nat}
    {held : Slot}
    (found : table.slot? index = some held)
    (used : held.state ≠ .free) :
    table.beginTeardown index = (held.pending, table.put index held.tearDown) := by
  have stillUsed := mt (Slot.tearDown_state held).mp used
  simp only [beginTeardown]
  rw [indexed.modify_eq_put found used stillUsed, found]
  simp [(Slot.tearDown_of_used used).1]

/-- Releasing a slot in use with nothing in flight frees it and hands over what was pending. -/
theorem release_eq
    {index : Nat}
    {held : Slot}
    (found : table.slot? index = some held)
    (used : held.state ≠ .free)
    (grounded : held.inFlight? = none)
    (now : Nat) :
    table.release index now = .ok (held.pending, table.put index (held.vacate now)) := by
  have vacated : (held.vacate now).state = .free := rfl
  simp [release, found, used, grounded, modify, modify_slots found, SlotTable.put, vacated]

/-- Only a slot in use with nothing in flight is released. -/
theorem held_of_release
    {index now : Nat}
    {released : List QueueEntry × SlotTable}
    (isReleased : table.release index now = .ok released) :
    ∃ held,
      table.slot? index = some held ∧ held.state ≠ .free ∧ held.inFlight? = none := by
  simp only [release] at isReleased
  split at isReleased
  · contradiction
  · next held found =>
      split at isReleased
      · contradiction
      · next used =>
          split at isReleased
          · contradiction
          · next grounded => exact ⟨held, found, used, grounded⟩

/-- A request that the slot of its sequence has in flight is taken back. -/
theorem complete_of_held
    {index : Nat}
    {held : Slot}
    (found : table.slot? index = some held)
    {sequence : CorrelationId}
    (carries : held.sequence? = some sequence)
    {request : RequestId}
    (inFlight : held.inFlight? = some request)
    (now : Nat) :
    ∃ landed, table.complete index sequence request now = .ok landed := by
  have landedFound :
      (table.modify index (fun other => other.land now)).slot? index =
        some (held.land now) := by
    simp only [slot?, modify] at found ⊢
    simp [found]
  simp only [complete, found, carries, inFlight, ne_eq, not_true_eq_false, if_false]
  split
  · next ending =>
      have used : (held.land now).state ≠ .free := by simp [Slot.land, ending]
      simp only [release_eq landedFound used rfl]
      exact ⟨_, rfl⟩
  · exact ⟨_, rfl⟩

/-- Only a request that the slot of its sequence has in flight is taken back. -/
theorem held_of_complete
    {index : Nat}
    {sequence : CorrelationId}
    {request : RequestId}
    {now : Nat}
    {landed : Option (List QueueEntry) × SlotTable}
    (completed : table.complete index sequence request now = .ok landed) :
    ∃ held,
      table.slot? index = some held ∧
        held.sequence? = some sequence ∧
        held.inFlight? = some request := by
  simp only [complete] at completed
  split at completed
  · contradiction
  · next held found =>
      split at completed
      · contradiction
      · next carries =>
          split at completed
          · contradiction
          · next inFlight =>
              exact ⟨held, found, Decidable.not_not.mp carries, Decidable.not_not.mp inFlight⟩

/-- A slot in use takes its request back, and is freed with what was pending if it is at its end. -/
theorem Indexed.complete_eq
    (indexed : table.Indexed)
    {index : Nat}
    {held : Slot}
    (found : table.slot? index = some held)
    (used : held.state ≠ .free)
    {sequence : CorrelationId}
    (carries : held.sequence? = some sequence)
    {request : RequestId}
    (inFlight : held.inFlight? = some request)
    (now : Nat) :
    table.complete index sequence request now =
      .ok (if held.state = .ending then
        (some held.pending, table.put index ((held.land now).vacate now))
      else
        (none, table.put index (held.land now))) := by
  have landed :
      table.modify index (fun other => other.land now) = table.put index (held.land now) :=
    indexed.modify_eq_put found used used
  have landedFound :
      (table.put index (held.land now)).slot? index = some (held.land now) := by
    simp [slot?_put found]
  simp only [complete, found, carries, inFlight, ne_eq, not_true_eq_false, if_false, landed,
    release_eq landedFound used rfl, indexed.put_put found]
  split <;> rfl

/-- What completing comes to: the slot takes its request back, and is freed at its end. -/
theorem Indexed.complete_shape
    (indexed : table.Indexed)
    {index : Nat}
    {sequence : CorrelationId}
    {request : RequestId}
    {now : Nat}
    {leftovers? : Option (List QueueEntry)}
    {after : SlotTable}
    (sound : ∀ slot ∈ table.slots, slot.Sound)
    (completed : table.complete index sequence request now = .ok (leftovers?, after)) :
    ∃ held,
      table.slot? index = some held ∧
        held.sequence? = some sequence ∧
        held.inFlight? = some request ∧
        (held.state = .active ∧
            leftovers? = none ∧
            after = table.put index (held.land now) ∨
          held.state = .ending ∧
            leftovers? = some held.pending ∧
            after = table.put index ((held.land now).vacate now)) := by
  obtain ⟨held, found, carries, inFlight⟩ := held_of_complete completed
  have used := (sound held (List.mem_of_getElem? found)).used_of_sequence carries
  rw [indexed.complete_eq found used carries inFlight, Except.ok.injEq] at completed
  refine ⟨held, found, carries, inFlight, ?_⟩
  split at completed
  · next ending =>
      simp only [Prod.mk.injEq] at completed
      exact Or.inr ⟨ending, completed.1.symm, completed.2.symm⟩
  · next notEnding =>
      simp only [Prod.mk.injEq] at completed
      refine Or.inl ⟨?_, completed.1.symm, completed.2.symm⟩
      cases isState : held.state <;> simp_all

/-- Dispatching puts the slot, in use before and after, with its head in flight. -/
theorem Indexed.dispatch?_shape
    (indexed : table.Indexed)
    {index now : Nat}
    {entry : QueueEntry}
    {after : SlotTable}
    (dispatched : table.dispatch? index now = some (entry, after)) :
    ∃ held slot,
      table.slot? index = some held ∧
        held.dispatch? now = some (entry, slot) ∧
        after = table.put index slot := by
  simp only [dispatch?] at dispatched
  split at dispatched
  · next first slot isDispatched =>
      simp only [Option.some.injEq, Prod.mk.injEq] at dispatched
      obtain ⟨isEntry, isAfter⟩ := dispatched
      subst isEntry isAfter
      obtain ⟨held, found, taken⟩ := Option.bind_eq_some_iff.mp isDispatched
      obtain ⟨used, stillUsed⟩ := Slot.used_of_dispatch? taken
      refine ⟨held, slot, found, taken, ?_⟩
      rw [SlotTable.put, if_neg stillUsed,
        List.erase_of_not_mem (indexed.not_mem_freeSlots found used)]
  · contradiction

end Put

section TearingDown

variable {table : SlotTable}

/-- A table with the same free list is indexed when the same slots are free. -/
private theorem Indexed.of_sameFree
    {other : SlotTable}
    (indexed : table.Indexed)
    (sameFree : other.freeSlots = table.freeSlots)
    (stages :
      ∀ index,
        (other.slot? index).any (fun slot => slot.state = .free) =
          (table.slot? index).any (fun slot => slot.state = .free)) :
    other.Indexed where
  ascending := sameFree ▸ indexed.ascending
  freeIff := by
    intro index
    have sameStage := stages index
    rw [Bool.eq_iff_iff] at sameStage
    simp only [Option.any_eq_true, decide_eq_true_eq] at sameStage
    rw [sameFree, indexed.freeIff, sameStage]

/-- A change to a slot that neither frees it nor takes it leaves the free list right. -/
theorem Indexed.modify
    (indexed : table.Indexed)
    (index : Nat)
    {change : Slot → Slot}
    (sameStage : ∀ slot, (change slot).state = .free ↔ slot.state = .free) :
    (table.modify index change).Indexed := by
  have sameFree : (table.modify index change).freeSlots = table.freeSlots := rfl
  apply indexed.of_sameFree sameFree
  intro other
  simp only [SlotTable.modify, slot?, List.getElem?_modify]
  cases table.slots[other]? with
  | none => rfl
  | some slot =>
      by_cases same : index = other
      · simp [same, sameStage]
      · simp [same]

theorem Indexed.beginTeardown
    (indexed : table.Indexed)
    (index : Nat) :
    (table.beginTeardown index).2.Indexed :=
  indexed.modify index Slot.tearDown_state

theorem Indexed.tearDownAll
    (indexed : table.Indexed) :
    table.tearDownAll.2.Indexed := by
  have sameFree : table.tearDownAll.2.freeSlots = table.freeSlots := rfl
  apply indexed.of_sameFree sameFree
  intro other
  simp only [SlotTable.tearDownAll, slot?, List.getElem?_map]
  cases table.slots[other]? with
  | none => rfl
  | some slot => simp [Slot.tearDown_state]

/-- Tear down several slots, one after the other. -/
def tearDownEach
    (table : SlotTable) :
    List Nat →
    List QueueEntry × SlotTable
  | [] => ([], table)
  | index :: indices =>
      let (dropped, ending) := table.beginTeardown index
      let (others, last) := ending.tearDownEach indices
      (dropped ++ others, last)

@[simp]
theorem size_tearDownEach
    (table : SlotTable)
    (indices : List Nat) :
    (table.tearDownEach indices).2.size = table.size := by
  induction indices generalizing table with
  | nil => rfl
  | cons index indices inductionHypothesis =>
      exact (inductionHypothesis (table.beginTeardown index).2).trans
        (List.length_modify Slot.tearDown table.slots index)

theorem Indexed.tearDownEach
    (indexed : table.Indexed)
    (indices : List Nat) :
    (table.tearDownEach indices).2.Indexed := by
  induction indices generalizing table with
  | nil => exact indexed
  | cons index indices inductionHypothesis =>
      exact inductionHypothesis (indexed.beginTeardown index)

theorem sound_tearDownEach
    (sound : ∀ slot ∈ table.slots, slot.Sound)
    (indices : List Nat) :
    ∀ slot ∈ (table.tearDownEach indices).2.slots, slot.Sound := by
  induction indices generalizing table with
  | nil => exact sound
  | cons index indices inductionHypothesis =>
      apply inductionHypothesis
      intro slot member
      obtain ⟨other, isSlot⟩ := List.mem_iff_getElem?.mp member
      simp only [modify, List.getElem?_modify] at isSlot
      cases found : table.slots[other]? with
      | none => simp [found] at isSlot
      | some held =>
          have heldSound := sound held (List.mem_of_getElem? found)
          simp only [found, Option.map_eq_map, Option.map_some, Option.some.injEq] at isSlot
          rw [← isSlot]
          split
          · exact heldSound.tearDown
          · exact heldSound

end TearingDown

end SlotTable

end InferenceBatching
