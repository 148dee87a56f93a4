import InferenceBatching.Proofs.Slot.Indexing
import InferenceBatching.Sequence.Basic

namespace InferenceBatching

/-!
# Slots of live instances

Everything that happens to a slot happens at a seat of a live instance, and
changes that slot alone. `putSlot` is the change, and the lemmas say what it does
to every look-up.
-/

namespace SequenceBatcher

/-- The slot at a seat, unless its instance is halted. -/
def liveSlot?
    {Waiting : Type}
    (batcher : SequenceBatcher Waiting)
    (seat : Seat) :
    Option Slot :=
  (batcher.live? seat.instanceIndex).bind (fun held => held.table.slot? seat.slot)

/-- The batcher with another slot at a seat. -/
def putSlot
    (batcher : SequenceBatcher)
    (seat : Seat)
    (slot : Slot) :
    SequenceBatcher :=
  { batcher with
    instances := batcher.instances.modify seat.instanceIndex (fun held =>
      { held with table := held.table.put seat.slot slot }) }

/-- The number of slots of each instance. -/
def tableSizes
    (batcher : SequenceBatcher) :
    List Nat :=
  batcher.instances.map (fun held => held.table.size)

/-- The batcher with a sequence bound to a seat, at which there is another slot. -/
def occupy
    (batcher : SequenceBatcher)
    (sequence : CorrelationId)
    (seat : Seat)
    (slot : Slot) :
    SequenceBatcher :=
  { batcher.putSlot seat slot with bindings := batcher.bindings.insert sequence seat }

/-- The batcher with a sequence unbound from a seat, at which there is another slot. -/
def unoccupy
    (batcher : SequenceBatcher)
    (sequence : CorrelationId)
    (seat : Seat)
    (slot : Slot) :
    SequenceBatcher :=
  { batcher.putSlot seat slot with bindings := batcher.bindings.erase sequence }

theorem live?_eq_some
    {batcher : SequenceBatcher}
    {instanceIndex : Nat}
    {held : Instance} :
    batcher.live? instanceIndex = some held ↔
      batcher.instances[instanceIndex]? = some held ∧ held.isHalted = false := by
  simp [live?, Option.filter_eq_some_iff]

theorem liveSlot?_eq_some
    {batcher : SequenceBatcher}
    {seat : Seat}
    {slot : Slot} :
    batcher.liveSlot? seat = some slot ↔
      ∃ held,
        batcher.live? seat.instanceIndex = some held ∧
          held.table.slot? seat.slot = some slot := by
  simp [liveSlot?, Option.bind_eq_some_iff]

theorem table?_of_live
    {batcher : SequenceBatcher}
    {instanceIndex : Nat}
    {held : Instance}
    (live : batcher.live? instanceIndex = some held) :
    batcher.table? instanceIndex = some held.table := by
  rw [table?, (live?_eq_some.mp live).1]
  rfl

theorem slotAt?_of_liveSlot
    {batcher : SequenceBatcher}
    {seat : Seat}
    {slot : Slot}
    (found : batcher.liveSlot? seat = some slot) :
    batcher.slotAt? seat = some slot := by
  obtain ⟨held, live, isSlot⟩ := liveSlot?_eq_some.mp found
  simp [slotAt?, table?_of_live live, isSlot]

/-- On a live instance every slot is a live one. -/
theorem slotAt?_of_live
    {batcher : SequenceBatcher}
    {seat : Seat}
    (live : (batcher.live? seat.instanceIndex).isSome = true) :
    batcher.slotAt? seat = batcher.liveSlot? seat := by
  obtain ⟨held, isHeld⟩ := Option.isSome_iff_exists.mp live
  simp only [slotAt?, liveSlot?, table?_of_live isHeld, isHeld, Option.bind_some]

/-- A live slot is among the slots of its instance, which is among the instances. -/
theorem mem_of_liveSlot
    {batcher : SequenceBatcher}
    {seat : Seat}
    {slot : Slot}
    (found : batcher.liveSlot? seat = some slot) :
    ∃ held ∈ batcher.instances, slot ∈ held.table.slots := by
  obtain ⟨held, live, isSlot⟩ := liveSlot?_eq_some.mp found
  exact ⟨held, List.mem_of_getElem? (live?_eq_some.mp live).1, List.mem_of_getElem? isSlot⟩

/-- Putting a slot into the table of an instance is putting it at its seat. -/
theorem withTable_put
    {batcher : SequenceBatcher}
    {seat : Seat}
    {table : SlotTable}
    (isTable : batcher.table? seat.instanceIndex = some table)
    (slot : Slot) :
    batcher.withTable seat.instanceIndex (table.put seat.slot slot) =
      batcher.putSlot seat slot := by
  unfold withTable putSlot
  congr 1
  apply List.ext_getElem?
  intro index
  rw [List.getElem?_modify, List.getElem?_modify]
  by_cases same : seat.instanceIndex = index
  · subst same
    simp only [table?, Option.map_eq_some_iff] at isTable
    obtain ⟨held, isHeld, hasTable⟩ := isTable
    simp [isHeld, hasTable]
  · simp [same]

/-- A change of one instance that keeps its number of slots keeps all of them. -/
theorem map_size_modify
    {change : Instance → Instance}
    (sameSize : ∀ held, (change held).table.size = held.table.size)
    (instances : List Instance)
    (instanceIndex : Nat) :
    (instances.modify instanceIndex change).map (fun held => held.table.size) =
      instances.map (fun held => held.table.size) := by
  apply List.ext_getElem?
  intro index
  simp only [List.getElem?_map, List.getElem?_modify]
  split <;> simp [Function.comp_def, sameSize]

section PutSlot

variable (batcher : SequenceBatcher)
variable (seat : Seat)
variable (slot : Slot)
variable (sequence : CorrelationId)

@[simp]
theorem seat?_putSlot :
    (batcher.putSlot seat slot).seat? = batcher.seat? :=
  rfl

@[simp]
theorem tableSizes_putSlot :
    (batcher.putSlot seat slot).tableSizes = batcher.tableSizes := by
  apply map_size_modify
  intro held
  exact List.length_set

@[simp]
theorem liveSlot?_occupy :
    (batcher.occupy sequence seat slot).liveSlot? = (batcher.putSlot seat slot).liveSlot? :=
  rfl

@[simp]
theorem liveSlot?_unoccupy :
    (batcher.unoccupy sequence seat slot).liveSlot? = (batcher.putSlot seat slot).liveSlot? :=
  rfl

/-- Occupying a seat binds its sequence and no other. -/
theorem seat?_occupy
    (other : CorrelationId) :
    (batcher.occupy sequence seat slot).seat? other =
      if other = sequence then some seat else batcher.seat? other :=
  batcher.bindings.find?_insert sequence other seat

/-- Giving up a seat unbinds its sequence and no other. -/
theorem seat?_unoccupy
    (other : CorrelationId) :
    (batcher.unoccupy sequence seat slot).seat? other =
      if other = sequence then none else batcher.seat? other :=
  batcher.bindings.find?_erase other sequence

/-- Putting a slot halts and revives no instance. -/
theorem live?_putSlot
    (instanceIndex : Nat) :
    (batcher.putSlot seat slot).live? instanceIndex =
      if instanceIndex = seat.instanceIndex then
        (batcher.live? instanceIndex).map (fun held =>
          { held with table := held.table.put seat.slot slot })
      else
        batcher.live? instanceIndex := by
  simp only [live?, putSlot, List.getElem?_modify]
  by_cases same : seat.instanceIndex = instanceIndex
  · subst same
    cases isHeld : batcher.instances[seat.instanceIndex]? with
    | none => simp
    | some held => cases isHalted : held.isHalted <;> simp [Option.filter, isHalted]
  · simp [same, Ne.symm same]

theorem live?_isSome_putSlot
    (instanceIndex : Nat) :
    ((batcher.putSlot seat slot).live? instanceIndex).isSome =
      (batcher.live? instanceIndex).isSome := by
  rw [live?_putSlot]
  split <;> simp

variable {batcher seat}

/-- Putting a slot at a live seat changes the slot there and no other. -/
theorem liveSlot?_putSlot
    {held : Slot}
    (found : batcher.liveSlot? seat = some held)
    (other : Seat) :
    (batcher.putSlot seat slot).liveSlot? other =
      if other = seat then some slot else batcher.liveSlot? other := by
  obtain ⟨owner, live, isSlot⟩ := liveSlot?_eq_some.mp found
  unfold liveSlot?
  rw [live?_putSlot]
  by_cases sameInstance : other.instanceIndex = seat.instanceIndex
  · simp only [sameInstance, live, SlotTable.slot?_put isSlot, if_true, Option.map_some,
      Option.bind_some]
    by_cases sameSlot : other.slot = seat.slot
    · have same : other = seat := by
        cases other
        cases seat
        simp_all
      simp [same]
    · have distinct : other ≠ seat := fun same => sameSlot (same ▸ rfl)
      simp [sameSlot, distinct]
  · have distinct : other ≠ seat := fun same => sameInstance (same ▸ rfl)
    simp [sameInstance, distinct]

end PutSlot

end SequenceBatcher

end InferenceBatching
