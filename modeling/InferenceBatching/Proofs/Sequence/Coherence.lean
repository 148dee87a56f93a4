import InferenceBatching.Proofs.Sequence.Seats

namespace InferenceBatching

/-!
# Coherent batchers

A sequence batcher says the same thing in several places. Bindings and the slots
of live instances name each other, free lists name the free slots, and lanes
carry the sequence of their first request. `Coherent` is that agreement, and the
theorems of this module say which changes keep it: a change of one slot in use,
a sequence taking a free slot, a sequence giving up its slot, and a change of
the backlog.
-/

/-- A lane is opened by the first request of its sequence, and all its entries belong to it. -/
structure Lane.Sound (lane : Lane) : Prop where
  starts : lane.first.request.starts = true
  carried : ∀ entry ∈ lane.entries, entry.request.sequence? = some lane.sequence

namespace SequenceBatcher

/-- The slot at a seat is on a live instance, in use, and carries a sequence. -/
def Carries
    (batcher : SequenceBatcher)
    (seat : Seat)
    (sequence : CorrelationId) :
    Prop :=
  ∃ slot,
    batcher.liveSlot? seat = some slot ∧
      slot.state ≠ .free ∧
        slot.sequence? = some sequence

/-- Bindings, slots, free lists and backlog agree with each other. -/
structure Coherent (batcher : SequenceBatcher) : Prop where
  boundIff :
    ∀ sequence seat,
      batcher.seat? sequence = some seat ↔ batcher.Carries seat sequence
  indexed : ∀ held ∈ batcher.instances, held.table.Indexed
  slots : ∀ held ∈ batcher.instances, ∀ slot ∈ held.table.slots, slot.Sound
  lanes : ∀ lane ∈ batcher.backlog, lane.Sound
  distinct : (batcher.backlog.map Lane.sequence).Nodup

namespace Coherent

variable {batcher : SequenceBatcher}
variable {seat : Seat}
variable {held : Slot}

theorem sound_of_liveSlot
    (coherent : batcher.Coherent)
    (found : batcher.liveSlot? seat = some held) :
    held.Sound := by
  obtain ⟨owner, isInstance, isSlot⟩ := mem_of_liveSlot found
  exact coherent.slots owner isInstance held isSlot

theorem indexed_of_live
    (coherent : batcher.Coherent)
    {instanceIndex : Nat}
    {owner : Instance}
    (live : batcher.live? instanceIndex = some owner) :
    owner.table.Indexed :=
  coherent.indexed owner (List.mem_of_getElem? (live?_eq_some.mp live).1)

theorem indexed_of_table
    (coherent : batcher.Coherent)
    {instanceIndex : Nat}
    {table : SlotTable}
    (isTable : batcher.table? instanceIndex = some table) :
    table.Indexed := by
  obtain ⟨held, isHeld, sameTable⟩ := Option.map_eq_some_iff.mp isTable
  exact sameTable ▸ coherent.indexed held (List.mem_of_getElem? isHeld)

/-- A bound sequence has a live slot in use that carries it. -/
theorem liveSlot_of_seat
    (coherent : batcher.Coherent)
    {sequence : CorrelationId}
    (bound : batcher.seat? sequence = some seat) :
    ∃ slot,
      batcher.liveSlot? seat = some slot ∧
        slot.state ≠ .free ∧
          slot.sequence? = some sequence :=
  (coherent.boundIff sequence seat).mp bound

/-- The sequence that a live slot carries is bound to that slot. -/
theorem seat_of_liveSlot
    (coherent : batcher.Coherent)
    (found : batcher.liveSlot? seat = some held)
    {sequence : CorrelationId}
    (carries : held.sequence? = some sequence) :
    batcher.seat? sequence = some seat :=
  (coherent.boundIff sequence seat).mpr
    ⟨held, found, (coherent.sound_of_liveSlot found).used_of_sequence carries, carries⟩

/-- A sequence is bound to a seat if the slot there runs, is in use, and carries it. -/
theorem seat?_eq_some_iff
    (coherent : batcher.Coherent)
    (sequence : CorrelationId)
    (seat : Seat) :
    batcher.seat? sequence = some seat ↔
      ∃ owner slot,
        batcher.instances[seat.instanceIndex]? = some owner ∧
          owner.isHalted = false ∧
          owner.table.slots[seat.slot]? = some slot ∧
          slot.state ≠ .free ∧
          slot.sequence? = some sequence := by
  rw [coherent.boundIff, Carries]
  simp only [liveSlot?_eq_some, live?_eq_some, SlotTable.slot?]
  constructor
  · rintro ⟨slot, ⟨owner, ⟨isOwner, running⟩, isSlot⟩, used, carries⟩
    exact ⟨owner, slot, isOwner, running, isSlot, used, carries⟩
  · rintro ⟨owner, slot, isOwner, running, isSlot, used, carries⟩
    exact ⟨slot, ⟨owner, ⟨isOwner, running⟩, isSlot⟩, used, carries⟩

/-- No sequence is bound to a free slot. -/
theorem not_bound_of_free
    (coherent : batcher.Coherent)
    (found : batcher.liveSlot? seat = some held)
    (free : held.state = .free)
    (sequence : CorrelationId) :
    batcher.seat? sequence ≠ some seat := by
  intro bound
  obtain ⟨slot, alsoFound, used, _⟩ := coherent.liveSlot_of_seat bound
  have same : held = slot := Option.some.inj (found.symm.trans alsoFound)
  exact used (same ▸ free)

private theorem instances_putSlot
    (property : SlotTable → Prop)
    (holds : ∀ owner ∈ batcher.instances, property owner.table)
    (found : batcher.liveSlot? seat = some held)
    {slot : Slot}
    (put :
      ∀ owner ∈ batcher.instances,
        owner.table.slot? seat.slot = some held →
        property (owner.table.put seat.slot slot)) :
    ∀ owner ∈ (batcher.putSlot seat slot).instances, property owner.table := by
  obtain ⟨live, isLive, isHeld⟩ := liveSlot?_eq_some.mp found
  intro owner member
  obtain ⟨index, isOwner⟩ := List.mem_iff_getElem?.mp member
  rw [putSlot, List.getElem?_modify] at isOwner
  by_cases same : seat.instanceIndex = index
  · rw [← same, (live?_eq_some.mp isLive).1] at isOwner
    simp only [if_true, Option.map_eq_map, Option.map_some, Option.some.injEq] at isOwner
    subst isOwner
    exact put live (List.mem_of_getElem? (live?_eq_some.mp isLive).1) isHeld
  · simp only [same, if_false, Option.map_eq_map, Option.map_id'] at isOwner
    exact holds owner (List.mem_of_getElem? isOwner)

theorem indexed_putSlot
    (coherent : batcher.Coherent)
    (found : batcher.liveSlot? seat = some held)
    (slot : Slot) :
    ∀ owner ∈ (batcher.putSlot seat slot).instances, owner.table.Indexed :=
  instances_putSlot SlotTable.Indexed coherent.indexed found fun owner member isHeld =>
    (coherent.indexed owner member).put isHeld slot

theorem slots_putSlot
    (coherent : batcher.Coherent)
    (found : batcher.liveSlot? seat = some held)
    {slot : Slot}
    (sound : slot.Sound) :
    ∀ owner ∈ (batcher.putSlot seat slot).instances,
      ∀ other ∈ owner.table.slots, other.Sound := by
  apply instances_putSlot (fun table => ∀ other ∈ table.slots, other.Sound)
    coherent.slots found
  intro owner member _ other inPut
  rcases List.mem_or_eq_of_mem_set inPut with inOld | isNew
  · exact coherent.slots owner member other inOld
  · exact isNew ▸ sound

/-- What a live seat carries after a slot was put. -/
theorem carries_putSlot
    (found : batcher.liveSlot? seat = some held)
    (slot : Slot)
    (other : Seat)
    (sequence : CorrelationId) :
    (batcher.putSlot seat slot).Carries other sequence ↔
      if other = seat then
        slot.state ≠ .free ∧ slot.sequence? = some sequence
      else
        batcher.Carries other sequence := by
  unfold Carries
  rw [liveSlot?_putSlot slot found]
  split <;> simp

/-- A slot in use may change while it keeps its sequence. -/
theorem putSlot
    (coherent : batcher.Coherent)
    (found : batcher.liveSlot? seat = some held)
    (used : held.state ≠ .free)
    {slot : Slot}
    (sound : slot.Sound)
    (stillUsed : slot.state ≠ .free)
    (sameSequence : slot.sequence? = held.sequence?) :
    (batcher.putSlot seat slot).Coherent where
  boundIff := by
    intro sequence other
    rw [seat?_putSlot, carries_putSlot found, coherent.boundIff sequence other]
    split
    · next same =>
        subst same
        simp [Carries, found, used, stillUsed, sameSequence]
    · rfl
  indexed := coherent.indexed_putSlot found slot
  slots := coherent.slots_putSlot found sound
  lanes := coherent.lanes
  distinct := coherent.distinct

/-- A sequence that is not bound may take a free slot. -/
theorem occupy
    (coherent : batcher.Coherent)
    (found : batcher.liveSlot? seat = some held)
    (free : held.state = .free)
    {sequence : CorrelationId}
    (unbound : batcher.seat? sequence = none)
    {slot : Slot}
    (sound : slot.Sound)
    (carries : slot.sequence? = some sequence) :
    (batcher.occupy sequence seat slot).Coherent where
  boundIff := by
    intro other place
    have used := sound.used_of_sequence carries
    have unoccupied := coherent.not_bound_of_free found free
    change _ ↔ (batcher.putSlot seat slot).Carries place other
    rw [seat?_occupy, carries_putSlot found, ← coherent.boundIff other place]
    by_cases sameSequence : other = sequence
    · subst sameSequence
      simp [used, carries, unbound, eq_comm]
    · by_cases sameSeat : place = seat
      · subst sameSeat
        simp [sameSequence, used, carries, unoccupied other, Ne.symm sameSequence]
      · simp [sameSequence, sameSeat]
  indexed := coherent.indexed_putSlot found slot
  slots := coherent.slots_putSlot found sound
  lanes := coherent.lanes
  distinct := coherent.distinct

/-- A bound sequence may give up its slot. -/
theorem unoccupy
    (coherent : batcher.Coherent)
    (found : batcher.liveSlot? seat = some held)
    {sequence : CorrelationId}
    (carries : held.sequence? = some sequence)
    {slot : Slot}
    (sound : slot.Sound)
    (free : slot.state = .free) :
    (batcher.unoccupy sequence seat slot).Coherent where
  boundIff := by
    intro other place
    have bound := coherent.seat_of_liveSlot found carries
    change _ ↔ (batcher.putSlot seat slot).Carries place other
    rw [seat?_unoccupy, carries_putSlot found, ← coherent.boundIff other place]
    by_cases sameSequence : other = sequence
    · subst sameSequence
      rw [bound]
      simp [free, eq_comm]
    · by_cases sameSeat : place = seat
      · subst sameSeat
        have onlySequence : batcher.seat? other ≠ some place := by
          intro alsoBound
          obtain ⟨slot', alsoFound, _, alsoCarries⟩ := coherent.liveSlot_of_seat alsoBound
          have same : held = slot' := Option.some.inj (found.symm.trans alsoFound)
          subst same
          exact sameSequence (Option.some.inj (alsoCarries.symm.trans carries))
        simp [sameSequence, free, onlySequence]
      · simp [sameSequence, sameSeat]
  indexed := coherent.indexed_putSlot found slot
  slots := coherent.slots_putSlot found sound
  lanes := coherent.lanes
  distinct := coherent.distinct

/-- Of two slots put at a live seat only the second stays. -/
theorem putSlot_putSlot
    (coherent : batcher.Coherent)
    (found : batcher.liveSlot? seat = some held)
    (first second : Slot) :
    (batcher.putSlot seat first).putSlot seat second = batcher.putSlot seat second := by
  obtain ⟨owner, live, isSlot⟩ := liveSlot?_eq_some.mp found
  have isOwner := (live?_eq_some.mp live).1
  have onlySecond := (coherent.indexed_of_live live).put_put isSlot first second
  unfold SequenceBatcher.putSlot
  congr 1
  apply List.ext_getElem?
  intro index
  simp only [List.getElem?_modify]
  by_cases same : seat.instanceIndex = index
  · subst same
    simp [isOwner, onlySecond]
  · simp [same]

/-- A slot put at a seat just occupied is the one with which the seat is occupied. -/
theorem putSlot_occupy
    (coherent : batcher.Coherent)
    (found : batcher.liveSlot? seat = some held)
    (first second : Slot)
    (sequence : CorrelationId) :
    (batcher.occupy sequence seat first).putSlot seat second =
      batcher.occupy sequence seat second := by
  have onlySecond := coherent.putSlot_putSlot found first second
  unfold SequenceBatcher.occupy
  rw [← onlySecond]
  rfl

/-- The backlog may change as long as its lanes are sound and of distinct sequences. -/
theorem withBacklog
    (coherent : batcher.Coherent)
    {backlog : List Lane}
    (lanes : ∀ lane ∈ backlog, lane.Sound)
    (distinct : (backlog.map Lane.sequence).Nodup) :
    ({ batcher with backlog := backlog } : SequenceBatcher).Coherent where
  boundIff := coherent.boundIff
  indexed := coherent.indexed
  slots := coherent.slots
  lanes := lanes
  distinct := distinct

theorem withFewerLanes
    (coherent : batcher.Coherent)
    {backlog : List Lane}
    (fewer : backlog.Sublist batcher.backlog) :
    ({ batcher with backlog := backlog } : SequenceBatcher).Coherent :=
  coherent.withBacklog
    (fun lane member => coherent.lanes lane (fewer.subset member))
    ((fewer.map Lane.sequence).nodup coherent.distinct)

theorem withMarks
    (coherent : batcher.Coherent)
    (marks : Directory CorrelationId Nat) :
    ({ batcher with timedOut := marks } : SequenceBatcher).Coherent where
  boundIff := coherent.boundIff
  indexed := coherent.indexed
  slots := coherent.slots
  lanes := coherent.lanes
  distinct := coherent.distinct

end Coherent

/-- The lane found for a sequence is in the backlog and is of that sequence. -/
theorem lane?_eq_some
    {batcher : SequenceBatcher}
    {sequence : CorrelationId}
    {lane : Lane}
    (waits : batcher.lane? sequence = some lane) :
    lane ∈ batcher.backlog ∧ lane.sequence = sequence := by
  have found := List.find?_some waits
  exact ⟨List.mem_of_find?_eq_some waits, by simpa using found⟩

theorem lane?_eq_none
    {batcher : SequenceBatcher}
    {sequence : CorrelationId} :
    batcher.lane? sequence = none ↔ sequence ∉ batcher.backlog.map Lane.sequence := by
  simp [lane?]

theorem lane?_isSome
    {batcher : SequenceBatcher}
    {sequence : CorrelationId} :
    (batcher.lane? sequence).isSome = true ↔
      ∃ lane ∈ batcher.backlog, lane.sequence = sequence := by
  simp [lane?]

theorem find?_of_distinct
    {lanes : List Lane}
    (distinct : (lanes.map Lane.sequence).Nodup)
    {lane : Lane}
    (member : lane ∈ lanes) :
    lanes.find? (fun other => other.sequence = lane.sequence) = some lane := by
  induction lanes with
  | nil => contradiction
  | cons first rest inductionHypothesis =>
      rw [List.map_cons, List.nodup_cons] at distinct
      rcases List.mem_cons.mp member with isFirst | inRest
      · simp [isFirst]
      · have notFirst : first.sequence ≠ lane.sequence := by
          intro same
          exact distinct.1 (same ▸ List.mem_map_of_mem inRest)
        rw [List.find?_cons_of_neg (by simpa using notFirst)]
        exact inductionHypothesis distinct.2 inRest

/-- A lane in the backlog is the one found for its sequence. -/
theorem Coherent.lane?_of_mem
    {batcher : SequenceBatcher}
    (coherent : batcher.Coherent)
    {lane : Lane}
    (member : lane ∈ batcher.backlog) :
    batcher.lane? lane.sequence = some lane :=
  find?_of_distinct coherent.distinct member

theorem coherent_ofConfig
    (config : ModelConfig)
    (now : Nat) :
    (ofConfig config now).Coherent := by
  have unusedSlot :
      ∀ held ∈ (ofConfig config now).instances,
        ∀ slot ∈ held.table.slots, slot = Slot.unused now := by
    intro held isInstance slot isSlot
    simp only [ofConfig, ofConfigWith, List.mem_map] at isInstance
    obtain ⟨index, _, isHeld⟩ := isInstance
    subst isHeld
    exact List.eq_of_mem_replicate isSlot
  refine ⟨?_, ?_, ?_, ?_, ?_⟩
  · intro sequence seat
    constructor
    · intro bound
      contradiction
    · rintro ⟨slot, found, used, _⟩
      obtain ⟨held, isInstance, isSlot⟩ := mem_of_liveSlot found
      rw [unusedSlot held isInstance slot isSlot] at used
      exact absurd rfl used
  · intro held isInstance
    simp only [ofConfig, ofConfigWith, List.mem_map] at isInstance
    obtain ⟨index, _, isHeld⟩ := isInstance
    subst isHeld
    exact SlotTable.indexed_unused _ _ _
  · intro held isInstance slot isSlot
    rw [unusedSlot held isInstance slot isSlot]
    exact Slot.sound_unused now
  · intro lane member
    contradiction
  · exact List.nodup_nil

end SequenceBatcher

end InferenceBatching
