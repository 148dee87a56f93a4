import InferenceBatching.Proofs.Sequence.Conservation
import InferenceBatching.Proofs.Sequence.Rest

namespace InferenceBatching

/-!
# Which lanes are seated, and where

Lanes are seated one after the other, while bindings are made and free slots are used
up. The outcome can be said at once: of the lanes whose sequences are unbound, the first
gets the first free slot, the second the second, until one of the two runs out. All other
lanes stay, in their order.
-/

/-- A slot that a lane has just been given. -/
def Lane.seated
    (lane : Lane)
    (now : Nat) :
    Slot where
  sequence? := some lane.sequence
  state := .active
  lastActivity := now
  pending := lane.entries

/-- Queueing entries on a slot used at the same instant changes only what is pending. -/
theorem Slot.pushAll_of_recent
    {slot : Slot}
    {now : Nat}
    (recent : slot.lastActivity = now)
    (entries : List QueueEntry) :
    slot.pushAll entries now = { slot with pending := slot.pending ++ entries } := by
  induction entries generalizing slot with
  | nil => simp [pushAll]
  | cons entry entries inductionHypothesis =>
      have stillRecent : (slot.push entry now).lastActivity = now := rfl
      have pushed := inductionHypothesis stillRecent
      simpa [pushAll, push, ← recent] using pushed

/-- A blank slot given to a lane. -/
theorem Slot.pushAll_bind
    {slot : Slot}
    (nothing : slot.pending = [])
    (grounded : slot.inFlight? = none)
    (lane : Lane)
    (now : Nat) :
    (slot.bind lane.sequence now).pushAll lane.entries now = lane.seated now := by
  have recent : (slot.bind lane.sequence now).lastActivity = now := rfl
  rw [pushAll_of_recent recent]
  simp [bind, Lane.seated, nothing, grounded]

namespace SlotTable

/-- The free slots of a table hold nothing. -/
def Blank
    (table : SlotTable) :
    Prop :=
  ∀ index held,
    table.slot? index = some held →
    held.state = .free →
      held.pending = [] ∧ held.inFlight? = none

variable {table : SlotTable}

theorem blank_of_sound
    (sound : ∀ slot ∈ table.slots, slot.Sound) :
    table.Blank := by
  intro index held found free
  have heldSound := sound held (List.mem_of_getElem? found)
  exact ⟨heldSound.freePending free, heldSound.freeInFlight free⟩

theorem Blank.put
    (blank : table.Blank)
    {index : Nat}
    {held slot : Slot}
    (found : table.slot? index = some held)
    (used : slot.state ≠ .free) :
    (table.put index slot).Blank := by
  intro other place isPlace free
  rw [slot?_put found] at isPlace
  split at isPlace
  · rw [← Option.some.inj isPlace] at free
    contradiction
  · exact blank other place isPlace free

/-- A lane takes the slot that is first on the free list, and only that. -/
theorem Indexed.seat_shape
    (indexed : table.Indexed)
    (blank : table.Blank)
    {lane : Lane}
    {now index : Nat}
    {bound : SlotTable}
    (isBound : table.bind? lane.sequence now = some (index, bound)) :
    ∃ held rest,
      table.slot? index = some held ∧
        table.freeSlots = index :: rest ∧
        index ∉ rest ∧
        bound.pushAll index lane.entries now = table.put index (lane.seated now) ∧
        (table.put index (lane.seated now)).freeSlots = rest := by
  obtain ⟨held, found, free, isTable⟩ := indexed.bind?_shape isBound
  obtain ⟨nothing, grounded⟩ := blank index held found free
  have used : (held.bind lane.sequence now).state ≠ .free := by simp [Slot.bind]
  obtain ⟨rest, isFree⟩ : ∃ rest, table.freeSlots = index :: rest := by
    simp only [bind?] at isBound
    split at isBound
    · contradiction
    · next first rest isFree =>
        have isFirst : first = index := congrArg Prod.fst (Option.some.inj isBound)
        exact ⟨rest, isFirst ▸ isFree⟩
  refine ⟨held, rest, found, isFree, ?_, ?_, ?_⟩
  · have ascending := indexed.ascending
    rw [isFree, List.pairwise_cons] at ascending
    exact fun member => Nat.lt_irrefl index (ascending.1 index member)
  · rw [isTable, indexed.pushAll_put found used, Slot.pushAll_bind nothing grounded]
  · simp [SlotTable.put, Lane.seated, isFree]

end SlotTable

namespace Seating

/-- The lanes that get a slot, with the indices of the slots that they get. -/
def pairs
    (lanes : List Lane)
    (table : SlotTable)
    (bindings : Directory CorrelationId Seat) :
    List (Lane × Nat) :=
  (lanes.filter (fun lane => !bindings.contains lane.sequence)).zip table.freeSlots

/-- Some lanes get some slots, and everything else stays as it is. -/
structure Seats
    (instanceIndex now : Nat)
    (pairs : List (Lane × Nat))
    (lanes : List Lane)
    (table : SlotTable)
    (bindings : Directory CorrelationId Seat)
    (seating : Seating) :
    Prop where
  remaining : seating.remaining = lanes.filter (fun lane => lane ∉ pairs.map Prod.fst)
  bound :
    ∀ pair ∈ pairs,
      seating.bindings.find? pair.1.sequence =
        some { instanceIndex := instanceIndex, slot := pair.2 }
  seated : ∀ pair ∈ pairs, seating.table.slot? pair.2 = some (pair.1.seated now)
  otherSequences :
    ∀ sequence,
      (∀ pair ∈ pairs, pair.1.sequence ≠ sequence) →
        seating.bindings.find? sequence = bindings.find? sequence
  otherSlots :
    ∀ index,
      (∀ pair ∈ pairs, pair.2 ≠ index) →
        seating.table.slot? index = table.slot? index

section Seats

variable {instanceIndex now : Nat}
variable {lanes : List Lane}
variable {lane : Lane}
variable {table : SlotTable}
variable {bindings : Directory CorrelationId Seat}
variable {seating : Seating}

/-- Where nobody gets a slot, nothing changes. -/
theorem seats_nil :
    Seats instanceIndex now [] lanes table bindings
      { table := table, bindings := bindings, remaining := lanes } where
  remaining := by simp
  bound := by simp
  seated := by simp
  otherSequences _ _ := rfl
  otherSlots _ _ := rfl

/-- A lane in front that gets no slot stays in front. -/
theorem Seats.pass
    {pairs : List (Lane × Nat)}
    (seats : Seats instanceIndex now pairs lanes table bindings seating)
    (notSeated : lane ∉ pairs.map Prod.fst) :
    Seats instanceIndex now pairs (lane :: lanes) table bindings
      { seating with remaining := lane :: seating.remaining } where
  remaining := by
    rw [List.filter_cons_of_pos (by simpa using notSeated), ← seats.remaining]
  bound := seats.bound
  seated := seats.seated
  otherSequences := seats.otherSequences
  otherSlots := seats.otherSlots

/-- A lane in front that gets a slot leaves; what the others get does not touch its slot. -/
theorem Seats.take
    {pairs : List (Lane × Nat)}
    {index : Nat}
    {held : Slot}
    (found : table.slot? index = some held)
    (seats :
      Seats instanceIndex now pairs lanes (table.put index (lane.seated now))
        (bindings.insert lane.sequence { instanceIndex := instanceIndex, slot := index })
        seating)
    (otherLanes : ∀ other ∈ lanes, other.sequence ≠ lane.sequence)
    (fromLanes : ∀ pair ∈ pairs, pair.1 ∈ lanes)
    (otherIndices : ∀ pair ∈ pairs, pair.2 ≠ index) :
    Seats instanceIndex now ((lane, index) :: pairs) (lane :: lanes) table bindings seating where
  remaining := by
    rw [List.filter_cons_of_neg (by simp), seats.remaining]
    apply List.filter_congr
    intro other member
    have distinct : other ≠ lane := fun same => otherLanes other member (same ▸ rfl)
    simp [distinct]
  bound := by
    intro pair member
    rcases List.mem_cons.mp member with isFirst | later
    · rw [isFirst, seats.otherSequences lane.sequence (fun other isPair =>
        otherLanes other.1 (fromLanes other isPair)), Directory.find?_insert, if_pos rfl]
    · exact seats.bound pair later
  seated := by
    intro pair member
    rcases List.mem_cons.mp member with isFirst | later
    · rw [isFirst, seats.otherSlots index otherIndices, SlotTable.slot?_put found, if_pos rfl]
    · exact seats.seated pair later
  otherSequences := by
    intro sequence others
    have distinct := others (lane, index) List.mem_cons_self
    rw [seats.otherSequences sequence (fun pair isPair =>
      others pair (List.mem_cons_of_mem _ isPair)), Directory.find?_insert,
      if_neg (Ne.symm distinct)]
  otherSlots := by
    intro other others
    have distinct := others (lane, index) List.mem_cons_self
    rw [seats.otherSlots other (fun pair isPair =>
      others pair (List.mem_cons_of_mem _ isPair)), SlotTable.slot?_put found,
      if_neg (Ne.symm distinct)]

/-- A pair is made of a lane that is not bound and an index from the free list. -/
theorem mem_pairs
    {pair : Lane × Nat}
    (member : pair ∈ pairs lanes table bindings) :
    pair.1 ∈ lanes ∧ bindings.contains pair.1.sequence = false ∧ pair.2 ∈ table.freeSlots := by
  obtain ⟨inLanes, isFree⟩ := List.of_mem_zip (a := pair.1) (b := pair.2) member
  have unbound := List.mem_filter.mp inLanes
  exact ⟨unbound.1, by simpa using unbound.2, isFree⟩

theorem pairs_of_bound
    (bound : bindings.contains lane.sequence = true) :
    pairs (lane :: lanes) table bindings = pairs lanes table bindings := by
  simp [pairs, bound]

theorem pairs_of_full
    (full : table.freeSlots = []) :
    pairs lanes table bindings = [] := by
  rw [pairs, full, List.zip_nil_right]

/-- The first unbound lane meets the first free slot, and the others meet what is left. -/
theorem pairs_of_free
    (unbound : bindings.contains lane.sequence = false)
    {changed : SlotTable}
    {index : Nat}
    (isFree : table.freeSlots = index :: changed.freeSlots)
    (otherLanes : ∀ other ∈ lanes, other.sequence ≠ lane.sequence)
    (seat : Seat) :
    pairs (lane :: lanes) table bindings =
      (lane, index) :: pairs lanes changed (bindings.insert lane.sequence seat) := by
  have sameLanes :
      lanes.filter (fun other => !bindings.contains other.sequence) =
        lanes.filter (fun other =>
          !(bindings.insert lane.sequence seat).contains other.sequence) := by
    apply List.filter_congr
    intro other member
    rw [Directory.contains, Directory.contains, Directory.find?_insert,
      if_neg (otherLanes other member)]
  rw [pairs, pairs, isFree, ← sameLanes, List.filter_cons_of_pos (by simp [unbound]),
    List.zip_cons_cons]

/-- Seating gives the free slots, in order, to the lanes that are not bound, in order. -/
theorem seats_ofLanes
    (indexed : table.Indexed)
    (blank : table.Blank)
    (distinct : (lanes.map Lane.sequence).Nodup) :
    Seats instanceIndex now (pairs lanes table bindings) lanes table bindings
      (ofLanes instanceIndex now lanes table bindings) := by
  induction lanes generalizing table bindings with
  | nil => exact seats_nil
  | cons lane lanes inductionHypothesis =>
      rw [List.map_cons, List.nodup_cons] at distinct
      have otherLanes : ∀ other ∈ lanes, other.sequence ≠ lane.sequence := by
        intro other member same
        exact distinct.1 (same ▸ List.mem_map_of_mem member)
      simp only [ofLanes]
      split
      · next bound =>
          rw [pairs_of_bound bound]
          apply (inductionHypothesis indexed blank distinct.2).pass
          intro seated
          obtain ⟨pair, member, isLane⟩ := List.mem_map.mp seated
          have unbound := (mem_pairs member).2.1
          rw [isLane, bound] at unbound
          contradiction
      · next unbound =>
          rw [Bool.not_eq_true] at unbound
          split
          · next full =>
              rw [pairs_of_full (SlotTable.freeSlots_of_not_bound full)]
              exact seats_nil
          · next index bound isBound =>
              obtain ⟨held, rest, found, isFree, notInRest, isSeated, isRest⟩ :=
                indexed.seat_shape blank isBound
              have used : (lane.seated now).state ≠ .free := by simp [Lane.seated]
              rw [← isRest] at isFree
              rw [isSeated, pairs_of_free unbound isFree otherLanes]
              refine Seats.take found (inductionHypothesis
                (indexed.put found (lane.seated now)) (blank.put found used) distinct.2)
                otherLanes ?_ ?_
              · exact fun pair member => (mem_pairs member).1
              · intro pair member same
                have inRest := (mem_pairs member).2.2
                rw [isRest, same] at inRest
                exact notInRest inRest

end Seats

end Seating

namespace SequenceBatcher

/-- Some lanes get some slots of an instance, and everything else stays as it is. -/
structure Seats
    (now instanceIndex : Nat)
    (pairs : List (Lane × Nat))
    (batcher filled : SequenceBatcher) :
    Prop where
  backlog : filled.backlog = batcher.backlog.filter (fun lane => lane ∉ pairs.map Prod.fst)
  bound :
    ∀ pair ∈ pairs,
      filled.seat? pair.1.sequence = some { instanceIndex := instanceIndex, slot := pair.2 }
  seated :
    ∀ pair ∈ pairs,
      filled.liveSlot? { instanceIndex := instanceIndex, slot := pair.2 } =
        some (pair.1.seated now)
  otherSequences :
    ∀ sequence,
      (∀ pair ∈ pairs, pair.1.sequence ≠ sequence) →
        filled.seat? sequence = batcher.seat? sequence
  otherSlots :
    ∀ seat,
      (∀ pair ∈ pairs, { instanceIndex := instanceIndex, slot := pair.2 } ≠ seat) →
        filled.liveSlot? seat = batcher.liveSlot? seat
  otherTables : ∀ other, other ≠ instanceIndex → filled.table? other = batcher.table? other

section Seats

variable {batcher : SequenceBatcher}
variable {instanceIndex : Nat}
variable {owner : Instance}

/-- The lanes that an instance has a slot for, with the indices of the slots. -/
def seatings
    (batcher : SequenceBatcher)
    (owner : Instance) :
    List (Lane × Nat) :=
  Seating.pairs batcher.backlog owner.table batcher.bindings

theorem seats_seatLanes
    (coherent : batcher.Coherent)
    (live : batcher.live? instanceIndex = some owner)
    (now : Nat) :
    Seats now instanceIndex (batcher.seatings owner) batcher
      (batcher.seatLanes instanceIndex now) := by
  have isInstance := List.mem_of_getElem? (live?_eq_some.mp live).1
  have seats : Seating.Seats instanceIndex now (batcher.seatings owner) batcher.backlog
      owner.table batcher.bindings _ :=
    Seating.seats_ofLanes (coherent.indexed_of_live live)
      (SlotTable.blank_of_sound (coherent.slots owner isInstance)) coherent.distinct
  have liveHere : (batcher.seatLanes instanceIndex now).live? instanceIndex = some _ :=
    live?_seatLanes_self live
  refine ⟨?_, ?_, ?_, ?_, ?_, ?_⟩
  · simp only [seatLanes, table?_of_live live]
    exact seats.remaining
  · simp only [seatLanes, table?_of_live live]
    exact seats.bound
  · intro pair member
    exact liveSlot?_eq_some.mpr ⟨_, liveHere, seats.seated pair member⟩
  · simp only [seatLanes, table?_of_live live]
    exact seats.otherSequences
  · intro seat others
    by_cases here : seat.instanceIndex = instanceIndex
    · subst here
      simp only [liveSlot?, liveHere, live, Option.bind_some]
      apply seats.otherSlots
      intro pair member same
      exact others pair member (by rw [same])
    · rw [liveSlot?, live?_seatLanes_of_ne here, liveSlot?]
  · intro other elsewhere
    simp only [seatLanes, table?_of_live live]
    exact (batcher.table?_withTable instanceIndex _ other).trans (if_neg elsewhere)

/-- The unbound lanes of the backlog, in order, meet the free slots, in order. -/
theorem seatings_eq
    (coherent : batcher.Coherent)
    (live : batcher.live? instanceIndex = some owner) :
    batcher.seatings owner =
      (batcher.backlog.filter (fun lane => (batcher.seat? lane.sequence).isNone)).zip
        ((List.range owner.table.size).filter (fun index =>
          (owner.table.slot? index).any (fun slot => slot.state = .free))) := by
  simp only [seatings, Seating.pairs, (coherent.indexed_of_live live).freeSlots_eq,
    Directory.contains, seat?, Option.not_isSome]

/--
How waiting sequences get the free slots of a live instance. The lanes whose sequences are
unbound, in the order of the backlog, meet the free slots, in ascending order. Each of these
lanes is bound to its slot with its START and its followers pending in order, and is a lane
no more. The others stay, in order and unchanged, and stop only because no slot is left or
all of them are bound. Nothing else changes, and no request is lost.
-/
theorem lanes_seated
    (coherent : batcher.Coherent)
    (live : batcher.live? instanceIndex = some owner)
    (now : Nat) :
    let filled := batcher.seatLanes instanceIndex now
    let pairs :=
      (batcher.backlog.filter (fun lane => (batcher.seat? lane.sequence).isNone)).zip
        ((List.range owner.table.size).filter (fun index =>
          (owner.table.slot? index).any (fun slot => slot.state = .free)))
    (∀ pair ∈ pairs,
        filled.seat? pair.1.sequence =
            some { instanceIndex := instanceIndex, slot := pair.2 } ∧
          filled.slotAt? { instanceIndex := instanceIndex, slot := pair.2 } =
            some {
              sequence? := some pair.1.sequence
              state := .active
              lastActivity := now
              pending := pair.1.first :: pair.1.followers
              inFlight? := none } ∧
          filled.lane? pair.1.sequence = none) ∧
      filled.backlog = batcher.backlog.filter (fun lane => lane ∉ pairs.map Prod.fst) ∧
      ((∀ index slot,
          filled.slotAt? { instanceIndex := instanceIndex, slot := index } = some slot →
            slot.state ≠ .free) ∨
        ∀ lane ∈ filled.backlog, (filled.seat? lane.sequence).isSome = true) ∧
      (∀ sequence,
        (∀ pair ∈ pairs, pair.1.sequence ≠ sequence) →
          filled.seat? sequence = batcher.seat? sequence) ∧
      (∀ index,
        (∀ pair ∈ pairs, pair.2 ≠ index) →
          filled.slotAt? { instanceIndex := instanceIndex, slot := index } =
            batcher.slotAt? { instanceIndex := instanceIndex, slot := index }) ∧
      (∀ other, other ≠ instanceIndex → filled.table? other = batcher.table? other) ∧
      filled.pendingEntries.Perm batcher.pendingEntries := by
  intro filled pairs
  have batcherLive : (batcher.live? instanceIndex).isSome = true := by simp [live]
  have moves : Moves now batcher .filling [] filled := seatLanes_moves coherent live now
  have filledLive : (filled.live? instanceIndex).isSome = true :=
    (moves.live?_isSome instanceIndex).trans batcherLive
  obtain ⟨table, isFilled, stops⟩ := batcher.seated_seatLanes now live
  have seats : Seats now instanceIndex pairs batcher filled := by
    have seats := seats_seatLanes coherent live now
    rwa [seatings_eq coherent live] at seats
  have fromBacklog : ∀ pair ∈ pairs, pair.1 ∈ batcher.backlog := by
    intro pair member
    exact (List.mem_filter.mp (List.of_mem_zip (a := pair.1) (b := pair.2) member).1).1
  refine ⟨?_, seats.backlog, ?_, seats.otherSequences, ?_, seats.otherTables, ?_⟩
  · intro pair member
    refine ⟨seats.bound pair member, slotAt?_of_liveSlot (seats.seated pair member), ?_⟩
    rw [lane?_eq_none, seats.backlog]
    intro stillWaits
    obtain ⟨lane, isLeft, sameSequence⟩ := List.mem_map.mp stillWaits
    obtain ⟨inBacklog, notSeated⟩ := List.mem_filter.mp isLeft
    have isLane := coherent.lane?_of_mem inBacklog
    rw [sameSequence, coherent.lane?_of_mem (fromBacklog pair member)] at isLane
    have isSeated : lane ∈ pairs.map Prod.fst :=
      Option.some.inj isLane ▸ List.mem_map_of_mem member
    simp [isSeated] at notSeated
  · refine stops.imp ?_ id
    intro noneFree index slot isSlot free
    have isIndexed := (moves.coherent coherent).indexed_of_live isFilled
    rw [slotAt?_of_live filledLive] at isSlot
    obtain ⟨_, isOwner, found⟩ := liveSlot?_eq_some.mp isSlot
    rw [← Option.some.inj (isFilled.symm.trans isOwner)] at found
    have listed : index ∈ table.freeSlots := (isIndexed.freeIff index).mpr ⟨slot, found, free⟩
    rw [noneFree] at listed
    contradiction
  · intro index others
    rw [slotAt?_of_live filledLive, slotAt?_of_live batcherLive]
    apply seats.otherSlots
    intro pair member same
    exact others pair member (congrArg Seat.slot same)
  · simpa [Conserves] using (moves.conserves coherent).symm

end Seats

end SequenceBatcher

end InferenceBatching
