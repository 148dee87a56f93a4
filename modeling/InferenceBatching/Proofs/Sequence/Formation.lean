import InferenceBatching.Proofs.Sequence.Expiry
import InferenceBatching.Sequence.Formation
import Mathlib.Data.List.Basic

namespace InferenceBatching

/-!
# Formation by moves

Forming a batch is a sweep, then the seating of waiting sequences, then the
dispatch of one slot after the other. The events of the dispatch can be read off
the batch: one for each of its requests, at the seat that the request has in it.
-/

/-- The event that is seen of a position of a sequence batch, unless it is padding. -/
def BatchEntry.event?
    (instanceIndex : Nat) :
    BatchEntry →
    Option Event
  | .seated slot entry =>
      some (.dispatched { instanceIndex := instanceIndex, slot := slot } entry)
  | _ => none

/-- The events that are seen of a batch. -/
def Batch.events
    (batch : Batch) :
    List Event :=
  batch.entries.filterMap (BatchEntry.event? batch.instanceIndex)

/-- The events that are seen of the batch that may have been formed. -/
def Formation.dispatches
    {State : Type}
    (formation : Formation State) :
    List Event :=
  (formation.batch?.map Batch.events).getD []

theorem Formation.dispatches_eq
    {State : Type}
    (formation : Formation State) :
    formation.dispatches = formation.batch?.toList.flatMap Batch.events := by
  simp only [Formation.dispatches]
  cases formation.batch? <;> simp

section Events

variable (batch : Batch)

/-- A batch lets nothing in. -/
theorem Batch.filterMap_admitted_events :
    batch.events.filterMap Event.admitted? = [] := by
  simp only [events, List.filterMap_filterMap, List.filterMap_eq_nil_iff]
  intro entry _
  cases entry <;> rfl

/-- A batch fails nothing. -/
theorem Batch.filterMap_failed_events :
    batch.events.filterMap Event.failed? = [] := by
  simp only [events, List.filterMap_filterMap, List.filterMap_eq_nil_iff]
  intro entry _
  cases entry <;> rfl

variable {batch}

/-- A batch sends off its requests, in the order of its positions. -/
theorem Batch.filterMap_dispatched_events
    (placed : batch.entries.map BatchEntry.slot? = (List.range batch.size).map some) :
    (batch.events.filterMap Event.dispatched?).map Prod.snd = batch.queueEntries := by
  simp only [events, queueEntries, List.filterMap_filterMap, List.map_filterMap]
  apply List.filterMap_congr
  intro entry member
  cases entry with
  | single queued =>
      have inSlots : none ∈ (List.range batch.size).map some := by
        rw [← placed]
        exact List.mem_map_of_mem (f := BatchEntry.slot?) member
      simp at inSlots
  | seated slot queued => rfl
  | padding slot sequence? => rfl

end Events

/-- In a batch whose positions are its slots, a request sits at its slot. -/
theorem Batch.getElem?_of_queued
    {batch : Batch}
    (placed : batch.entries.map BatchEntry.slot? = (List.range batch.size).map some)
    {index : Nat}
    {queued : QueueEntry}
    (atIndex : batch.entries[index]?.bind BatchEntry.queued? = some queued) :
    batch.entries[index]? = some (.seated index queued) := by
  obtain ⟨entry, isEntry, isQueued⟩ := Option.bind_eq_some_iff.mp atIndex
  have isSlot : entry.slot? = some index := by
    have sameSlot := congrArg (fun slots => slots[index]?) placed
    have inRange : index < batch.size := (List.getElem?_eq_some_iff.mp isEntry).1
    simpa [isEntry, inRange] using sameSlot
  cases entry with
  | single other => contradiction
  | padding slot sequence? => contradiction
  | seated slot other =>
      have sameIndex : slot = index := Option.some.inj isSlot
      have sameEntry : other = queued := Option.some.inj isQueued
      rw [isEntry, sameIndex, sameEntry]

theorem Dispatch.dispatch?_of_ofSlot?
    {shapes : ShapeLedger}
    {slot after : Slot}
    {now : Nat}
    {entry : QueueEntry}
    (isDispatched : ofSlot? shapes slot now = some (entry, after)) :
    slot.dispatch? now = some (entry, after) := by
  simp only [ofSlot?] at isDispatched
  split at isDispatched
  · contradiction
  · split at isDispatched
    · exact isDispatched
    · contradiction

namespace SequenceBatcher

section Tables

variable {batcher : SequenceBatcher}
variable {instanceIndex : Nat}
variable {owner : Instance}

private theorem withTable_self
    (live : batcher.live? instanceIndex = some owner) :
    batcher.withTable instanceIndex owner.table = batcher := by
  have isOwner := (live?_eq_some.mp live).1
  have same :
      batcher.instances.modify instanceIndex (fun held =>
        { held with table := owner.table }) = batcher.instances := by
    apply List.ext_getElem?
    intro index
    rw [List.getElem?_modify]
    by_cases same : instanceIndex = index
    · subst same
      simp [isOwner]
    · simp [same]
  rw [withTable, same]

/-- The table of an instance replaces whatever was put into the one before. -/
private theorem withTable_putSlot
    (batcher : SequenceBatcher)
    (seat : Seat)
    (slot : Slot)
    (table : SlotTable) :
    (batcher.putSlot seat slot).withTable seat.instanceIndex table =
      batcher.withTable seat.instanceIndex table := by
  simp only [withTable, putSlot, List.modify_modify_eq]
  rfl

private theorem live_putSlot
    (live : batcher.live? instanceIndex = some owner)
    (index : Nat)
    (slot : Slot) :
    (batcher.putSlot { instanceIndex := instanceIndex, slot := index } slot).live?
        instanceIndex =
      some { owner with table := owner.table.put index slot } := by
  simp [live?_putSlot, live]

end Tables

section Seating

variable {now instanceIndex : Nat}

/-- The lanes that can be seated are seated by moves; those passed over stay in front. -/
private theorem ofLanes_moves
    {batcher : SequenceBatcher}
    (coherent : batcher.Coherent)
    {owner : Instance}
    (live : batcher.live? instanceIndex = some owner)
    {passed lanes : List Lane}
    (isBacklog : batcher.backlog = passed ++ lanes)
    (bound : ∀ lane ∈ passed, (batcher.seat? lane.sequence).isSome = true) :
    let seating :=
      Seating.ofLanes instanceIndex now lanes owner.table batcher.bindings
    Moves now batcher .filling []
      { batcher.withTable instanceIndex seating.table with
        bindings := seating.bindings
        backlog := passed ++ seating.remaining } := by
  -- The lanes passed over are kept as bound ones: that is what makes a later lane the first.
  induction lanes generalizing batcher owner passed with
  | nil =>
      have unchanged : { batcher with backlog := passed ++ [] } = batcher := by
        rw [← isBacklog]
      simp only [Seating.ofLanes, withTable_self live, unchanged]
      exact .nil
  | cons lane lanes inductionHypothesis =>
      simp only [Seating.ofLanes]
      split
      · next alsoBound =>
          have isLonger : batcher.backlog = (passed ++ [lane]) ++ lanes := by
            simp [isBacklog]
          have allBound :
              ∀ other ∈ passed ++ [lane], (batcher.seat? other.sequence).isSome = true := by
            intro other member
            rcases List.mem_append.mp member with before | isLane
            · exact bound other before
            · rw [List.mem_singleton.mp isLane]
              exact alsoBound
          have moves := inductionHypothesis coherent live isLonger allBound
          simpa using moves
      · next unbound =>
          have isUnbound : batcher.seat? lane.sequence = none := by
            simpa [Directory.contains, seat?] using unbound
          split
          · have unchanged : { batcher with backlog := passed ++ lane :: lanes } = batcher := by
              rw [← isBacklog]
            simp only [withTable_self live, unchanged]
            exact .nil
          · next slot table isBound =>
              have indexed := coherent.indexed_of_live live
              obtain ⟨held, isSlot, free, isTable⟩ := indexed.bind?_shape isBound
              have found :
                  batcher.liveSlot? { instanceIndex := instanceIndex, slot := slot } =
                    some held :=
                liveSlot?_eq_some.mpr ⟨owner, live, isSlot⟩
              have used : (held.bind lane.sequence now).state ≠ .free := by
                simp [Slot.bind]
              have seated : Move now batcher .filling [] _ :=
                .seatLane isBacklog bound isUnbound found free
              have stillLive := live_putSlot live slot
                ((held.bind lane.sequence now).pushAll lane.entries now)
              have stillBound :
                  ∀ other ∈ passed,
                    ((batcher.occupy lane.sequence { instanceIndex := instanceIndex, slot := slot }
                      ((held.bind lane.sequence now).pushAll lane.entries now)).seat?
                        other.sequence).isSome = true := by
                intro other member
                rw [seat?_occupy]
                split
                · rfl
                · exact bound other member
              have later := inductionHypothesis (seated.coherent coherent) stillLive rfl stillBound
              have moves := (Moves.single seated).append later
              rw [isTable, indexed.pushAll_put isSlot used]
              simpa only [withTable, occupy, putSlot, List.modify_modify_eq, Function.comp_def,
                List.nil_append] using moves

/-- Waiting sequences are seated by moves of which nothing is seen. -/
theorem seatLanes_moves
    {batcher : SequenceBatcher}
    (coherent : batcher.Coherent)
    {owner : Instance}
    (live : batcher.live? instanceIndex = some owner)
    (now : Nat) :
    Moves now batcher .filling [] (batcher.seatLanes instanceIndex now) := by
  simp only [seatLanes]
  rw [table?_of_live live]
  exact ofLanes_moves coherent live (List.nil_append _).symm (by simp)

end Seating

section Dispatching

variable {now instanceIndex : Nat}

/-- The positions of a dispatch are those of its slots, in order. -/
theorem ofSlots_slots
    (now index : Nat)
    (shapes : ShapeLedger)
    (slots : List Slot) :
    (Dispatch.ofSlots now index shapes slots).entries.map BatchEntry.slot? =
      (List.range' index slots.length).map some := by
  induction slots generalizing index shapes with
  | nil => rfl
  | cons slot slots inductionHypothesis =>
      simp only [Dispatch.ofSlots]
      split <;> simp [Dispatch.prepend, BatchEntry.slot?, inductionHypothesis, List.range'_succ]

/-- Slots are dispatched by moves, one for each request that the dispatch has. -/
private theorem ofSlots_moves
    {batcher : SequenceBatcher}
    (coherent : batcher.Coherent)
    {owner : Instance}
    (live : batcher.live? instanceIndex = some owner)
    {passed slots : List Slot}
    (isSlots : owner.table.slots = passed ++ slots)
    (shapes : ShapeLedger) :
    let dispatch := Dispatch.ofSlots now passed.length shapes slots
    Moves now batcher .filling
      (dispatch.entries.filterMap (BatchEntry.event? instanceIndex))
      (batcher.withTable instanceIndex
        { owner.table with slots := passed ++ dispatch.slots }) := by
  induction slots generalizing batcher owner passed shapes with
  | nil =>
      have unchanged : { owner.table with slots := passed ++ [] } = owner.table := by
        rw [← isSlots]
      simp only [Dispatch.ofSlots, unchanged, withTable_self live]
      exact .nil
  | cons slot slots inductionHypothesis =>
      have isSlot : owner.table.slot? passed.length = some slot := by
        simp [SlotTable.slot?, isSlots]
      have found :
          batcher.liveSlot? { instanceIndex := instanceIndex, slot := passed.length } =
            some slot :=
        liveSlot?_eq_some.mpr ⟨owner, live, isSlot⟩
      simp only [Dispatch.ofSlots]
      split
      · next entry after isDispatched =>
          have dispatched := Dispatch.dispatch?_of_ofSlot? isDispatched
          have move : Move now batcher .filling _ _ := .dispatch found dispatched
          have stillLive := live_putSlot live passed.length after
          have isLonger :
              (owner.table.put passed.length after).slots = (passed ++ [after]) ++ slots := by
            simp [SlotTable.put, isSlots]
          have sameFree :
              (owner.table.put passed.length after).freeSlots = owner.table.freeSlots := by
            have used := Slot.used_of_dispatch? dispatched
            simp only [SlotTable.put, if_neg used.2]
            exact List.erase_of_not_mem
              ((coherent.indexed_of_live live).not_mem_freeSlots isSlot used.1)
          have later := inductionHypothesis (move.coherent coherent) stillLive isLonger
            (shapes.note entry.request)
          have moves := (Moves.single move).append later
          rw [withTable_putSlot] at moves
          simp only [sameFree] at moves
          simpa [Dispatch.prepend, BatchEntry.event?, List.filterMap_cons, SlotTable.put]
            using moves
      · have isLonger : owner.table.slots = (passed ++ [slot]) ++ slots := by
          simp [isSlots]
        have moves := inductionHypothesis coherent live isLonger shapes
        simpa [Dispatch.prepend, BatchEntry.event?, List.filterMap_cons] using moves

end Dispatching

/-- What forming a batch comes to: nothing on a halted instance, otherwise its two phases. -/
inductive Phases
    (now : Nat)
    (batcher : SequenceBatcher)
    (instanceIndex : Nat) :
    Formation SequenceBatcher → Prop where
  | halted
      (halted : batcher.live? instanceIndex = none) :
      Phases now batcher instanceIndex (.idle batcher [] none)
  | live
      {formation : Formation SequenceBatcher}
      {failures : List Event}
      (live : (batcher.live? instanceIndex).isSome = true)
      (expires : Moves now batcher .expiring failures (batcher.expire now).batcher)
      (onlyFailures : ∀ event ∈ failures, event.IsFailure)
      (isFailed : failures.filterMap Event.failure? = formation.failed)
      (dispatches :
        Moves now (batcher.expire now).batcher .filling formation.dispatches formation.batcher)
      (placed :
        ∀ batch ∈ formation.batch?,
          batch.instanceIndex = instanceIndex ∧
            batch.entries.map BatchEntry.slot? = (List.range batch.size).map some) :
      Phases now batcher instanceIndex formation

/-- Dispatching the slots of an instance is a move for each request of the batch. -/
private theorem dispatchBatch_moves
    {batcher : SequenceBatcher}
    (coherent : batcher.Coherent)
    {instanceIndex : Nat}
    {owner : Instance}
    (live : batcher.live? instanceIndex = some owner)
    (failed : List Failure)
    (now : Nat) :
    let formation := batcher.dispatchBatch instanceIndex owner.table failed now
    Moves now batcher .filling formation.dispatches formation.batcher ∧
      ∀ batch ∈ formation.batch?,
        batch.instanceIndex = instanceIndex ∧
          batch.entries.map BatchEntry.slot? = (List.range batch.size).map some := by
  constructor
  · exact ofSlots_moves coherent live (List.nil_append _).symm .empty
  · intro batch isBatch
    simp only [dispatchBatch, Formation.formed, Option.mem_def, Option.some.injEq] at isBatch
    subst isBatch
    have isSlots := ofSlots_slots now 0 .empty owner.table.slots
    have sameLength := congrArg List.length isSlots
    simp only [List.length_map, List.length_range'] at sameLength
    rw [isSlots, Batch.size, sameLength, List.range_eq_range']
    exact ⟨rfl, rfl⟩

/-- A batch is formed in phases, each of them made of moves. -/
theorem formBatch_phases
    {batcher : SequenceBatcher}
    (coherent : batcher.Coherent)
    (instanceIndex now : Nat) :
    Phases now batcher instanceIndex (batcher.formBatch instanceIndex now) := by
  simp only [formBatch]
  split
  · next halted => exact .halted halted
  · next owner isOwner =>
      have isLive : (batcher.live? instanceIndex).isSome = true := by simp [isOwner]
      obtain ⟨failures, expires, onlyFailures, isFailed⟩ := expire_moves coherent now
      have swept := expires.coherent coherent
      have stillLive : ((batcher.expire now).batcher.live? instanceIndex).isSome = true := by
        rw [expires.live?_isSome, isLive]
      obtain ⟨sweptOwner, isSweptOwner⟩ := Option.isSome_iff_exists.mp stillLive
      have seats := seatLanes_moves swept isSweptOwner now
      have seated := seats.coherent swept
      have seatedLive :
          (((batcher.expire now).batcher.seatLanes instanceIndex now).live?
            instanceIndex).isSome = true := by
        rw [seats.live?_isSome, stillLive]
      obtain ⟨seatedOwner, isSeatedOwner⟩ := Option.isSome_iff_exists.mp seatedLive
      simp only [table?_of_live isSeatedOwner]
      split
      · next ready =>
          obtain ⟨dispatches, placed⟩ :=
            dispatchBatch_moves seated isSeatedOwner (batcher.expire now).failed now
          exact .live isLive expires onlyFailures isFailed (seats.append dispatches) placed
      · exact .live isLive expires onlyFailures isFailed seats (by simp [Formation.idle])

/-- A batch is for the instance for which it was formed, and its positions are the slots. -/
theorem formBatch_placed
    {batcher : SequenceBatcher}
    (coherent : batcher.Coherent)
    {instanceIndex now : Nat}
    {batch : Batch}
    (formed : batch ∈ (batcher.formBatch instanceIndex now).batch?) :
    batch.instanceIndex = instanceIndex ∧
      batch.entries.map BatchEntry.slot? = (List.range batch.size).map some := by
  have phases := formBatch_phases coherent instanceIndex now
  generalize batcher.formBatch instanceIndex now = formation at phases formed
  cases phases with
  | halted halted => contradiction
  | live live expires onlyFailures isFailed dispatches placed => exact placed batch formed

end SequenceBatcher

end InferenceBatching
