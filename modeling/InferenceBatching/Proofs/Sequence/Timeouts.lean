import InferenceBatching.Proofs.Sequence.Dispatch
import InferenceBatching.Proofs.Sequence.Marks
import InferenceBatching.Proofs.Sequence.Seating

namespace InferenceBatching

/-!
# Timeouts fail whole sequences

What waits together fails together: a lane, or what is pending on one slot of a live
instance. One late request in it is enough, and nothing outside of it is touched. This
follows what becomes of each lane and of each slot through the timeouts, the seating and
the dispatch of one formation.
-/

namespace SequenceBatcher

section Failures

variable {batcher : SequenceBatcher}

private theorem flatMap_filter
    {α β : Type}
    (keep : α → Bool)
    (spread : α → List β)
    (items : List α) :
    (items.filter keep).flatMap spread =
      items.flatMap (fun item => if keep item then spread item else []) := by
  induction items with
  | nil => rfl
  | cons item items inductionHypothesis =>
      cases kept : keep item <;> simp [kept, inductionHypothesis]

private theorem failures_eq
    (entries : List QueueEntry)
    (error : RequestError) :
    Failure.all (requestsOf entries) error =
      entries.map (fun entry => { request := entry.request, error := error }) := by
  simp [Failure.all, requestsOf]

private theorem slotFailures_eq
    (slot : Slot)
    (now : Nat) :
    slot.failures now =
      if slot.isExpired now then
        slot.sequence?.toList.flatMap (fun sequence =>
          slot.pending.map (fun entry =>
            { request := entry.request, error := .sequenceTimeout sequence }))
      else
        [] := by
  cases expired : slot.isExpired now <;>
    simp [Slot.failures, Slot.lapsed?, expired, failures_eq]

private theorem filterMap_getElem?_range
    (slots : List Slot) :
    (List.range slots.length).filterMap (fun index => slots[index]?) = slots := by
  induction slots with
  | nil => rfl
  | cons slot slots inductionHypothesis =>
      simpa [List.range_succ_eq_map, List.filterMap_map, Function.comp_def] using
        inductionHypothesis

/-- The seats of the live slots, in order, lead to the live slots, in order. -/
theorem liveSlots_eq
    (batcher : SequenceBatcher) :
    batcher.liveSlots = batcher.seats.filterMap batcher.liveSlot? := by
  have perInstance :
      (batcher.instances.mapIdx liveSeats).map (List.filterMap batcher.liveSlot?) =
        batcher.instances.map (fun held =>
          if !held.isHalted then held.table.slots else []) := by
    apply List.ext_getElem?
    intro index
    simp only [List.getElem?_map, List.getElem?_mapIdx]
    cases isHeld : batcher.instances[index]? with
    | none => rfl
    | some held =>
        cases isHalted : held.isHalted with
        | true => simp [liveSeats, isHalted]
        | false =>
            have live : batcher.live? index = some held := live?_eq_some.mpr ⟨isHeld, isHalted⟩
            simp [liveSeats, isHalted, List.filterMap_map, Function.comp_def, liveSlot?, live,
              SlotTable.slot?, SlotTable.size, filterMap_getElem?_range]
  rw [liveSlots, flatMap_filter, seats, List.filterMap_flatten, perInstance]
  rfl

/-- Each expired lane and each expired slot fails, in order, and the others do not. -/
theorem failed_expire_eq
    (coherent : batcher.Coherent)
    (now : Nat) :
    (batcher.expire now).failed =
      batcher.backlog.flatMap (fun lane =>
          if lane.isExpired now then lane.failures now else []) ++
        batcher.liveSlots.flatMap (fun slot => slot.failures now) := by
  rw [failed_expire coherent, liveSlots_eq, flatMap_filter, List.filterMap_eq_flatMap_toList,
    List.flatMap_assoc]

end Failures

section Outcomes

variable {batcher : SequenceBatcher}
variable {instanceIndex now : Nat}
variable {seat : Seat}
variable {slot : Slot}
variable {sequence : CorrelationId}

/-- A formation seats lanes that the timeouts leave, unbound ones, on slots that are free. -/
theorem seats_formBatch
    (coherent : batcher.Coherent)
    (now : Nat)
    (live : (batcher.live? instanceIndex).isSome = true) :
    let swept := (batcher.expire now).batcher
    ∃ pairs,
      Seats now instanceIndex pairs swept (swept.seatLanes instanceIndex now) ∧
        ∀ pair ∈ pairs,
          pair.1 ∈ swept.backlog ∧
            swept.seat? pair.1.sequence = none ∧
            ∃ held,
              swept.liveSlot? { instanceIndex := instanceIndex, slot := pair.2 } = some held ∧
                held.state = .free := by
  intro swept
  obtain ⟨_, expires, _⟩ := expire_moves coherent now
  have sweptCoherent := expires.coherent coherent
  have sweptLive : (swept.live? instanceIndex).isSome = true :=
    (expires.live?_isSome instanceIndex).trans live
  obtain ⟨owner, isOwner⟩ := Option.isSome_iff_exists.mp sweptLive
  refine ⟨swept.seatings owner, seats_seatLanes sweptCoherent isOwner now, ?_⟩
  intro pair member
  obtain ⟨inBacklog, unbound, listed⟩ := Seating.mem_pairs member
  obtain ⟨held, found, free⟩ :=
    ((sweptCoherent.indexed_of_live isOwner).freeIff pair.2).mp listed
  exact ⟨inBacklog, Option.not_isSome_iff_eq_none.mp (Bool.eq_false_iff.mp unbound), held,
    liveSlot?_eq_some.mpr ⟨owner, isOwner, found⟩, free⟩

/-- A sequence that is bound after the timeouts stays bound to its seat. -/
theorem seat?_formBatch
    (coherent : batcher.Coherent)
    (live : (batcher.live? instanceIndex).isSome = true)
    (bound : (batcher.expire now).batcher.seat? sequence = some seat) :
    (batcher.formBatch instanceIndex now).batcher.seat? sequence = some seat := by
  obtain ⟨pairs, seats, unbound⟩ := seats_formBatch coherent now live
  rw [(lanes_formBatch coherent now live).2, seats.otherSequences sequence, bound]
  intro pair member same
  have notBound := (unbound pair member).2.1
  rw [same, bound] at notBound
  contradiction

/-- A slot in use after the timeouts keeps its sequence, and loses at most its head to the batch. -/
theorem slot_kept
    (coherent : batcher.Coherent)
    (live : (batcher.live? instanceIndex).isSome = true)
    (found : (batcher.expire now).batcher.liveSlot? seat = some slot)
    (used : slot.state ≠ .free) :
    let formation := batcher.formBatch instanceIndex now
    ∃ after,
      formation.batcher.slotAt? seat = some after ∧
        (formation.sentFrom? seat).toList ++ after.pending = slot.pending ∧
        after.sequence? = slot.sequence? ∧
        (slot.state ≠ .active → after = slot) := by
  obtain ⟨pairs, seats, onFree⟩ := seats_formBatch coherent now live
  apply slot_formBatch coherent live
  rw [seats.otherSlots seat, found]
  intro pair member same
  obtain ⟨_, _, held, isHeld, free⟩ := onFree pair member
  rw [same, found] at isHeld
  exact used (Option.some.inj isHeld ▸ free)

/-- An expired sequence with a request in flight stays bound, with that request and no other. -/
theorem ending_of_expired
    (coherent : batcher.Coherent)
    (live : (batcher.live? instanceIndex).isSome = true)
    (found : batcher.liveSlot? seat = some slot)
    (carries : slot.sequence? = some sequence)
    (expired : slot.isExpired now = true)
    {request : RequestId}
    (flying : slot.inFlight? = some request) :
    let last := (batcher.formBatch instanceIndex now).batcher
    last.seat? sequence = some seat ∧
      last.slotAt? seat = some { slot with state := .ending, pending := [] } := by
  obtain ⟨_, expires, _⟩ := expire_moves coherent now
  have used := (coherent.sound_of_liveSlot found).used_of_sequence carries
  have swept :
      (batcher.expire now).batcher.liveSlot? seat =
        some { slot with state := .ending, pending := [] } := by
    simp [liveSlot?_expire coherent, found, Slot.swept, expired, flying,
      (Slot.tearDown_of_used used).2]
  have bound := (expires.coherent coherent).seat_of_liveSlot swept carries
  obtain ⟨after, isAfter, _, _, unchanged⟩ := slot_kept coherent live swept (by simp)
  rw [unchanged (by simp)] at isAfter
  exact ⟨seat?_formBatch coherent live bound, isAfter⟩

/-- An expired sequence with nothing in flight is unbound, and its slot is free, until seating. -/
theorem freed_of_expired
    (coherent : batcher.Coherent)
    (live : (batcher.live? instanceIndex).isSome = true)
    (found : batcher.liveSlot? seat = some slot)
    (carries : slot.sequence? = some sequence)
    (expired : slot.isExpired now = true)
    (grounded : slot.inFlight? = none) :
    let swept := (batcher.expire now).batcher
    let last := (batcher.formBatch instanceIndex now).batcher
    swept.seat? sequence = none ∧
      swept.slotAt? seat = some (Slot.unused now) ∧
      (last.seat? sequence = none ∨
        ∃ lane ∈ swept.backlog,
          lane.sequence = sequence ∧
            ∃ index,
              last.seat? sequence = some { instanceIndex := instanceIndex, slot := index }) ∧
      (last.slotAt? seat = some (Slot.unused now) ∨
        ∃ lane ∈ swept.backlog, last.seat? lane.sequence = some seat) := by
  intro swept last
  obtain ⟨_, expires, _⟩ := expire_moves coherent now
  have sweptCoherent : swept.Coherent := expires.coherent coherent
  have isFreed : swept.liveSlot? seat = some (Slot.unused now) := by
    simp [swept, liveSlot?_expire coherent, found, Slot.swept, expired, grounded, Slot.vacate,
      Slot.unused]
  have unbound : swept.seat? sequence = none := by
    by_contra stillBound
    obtain ⟨place, isPlace⟩ := Option.ne_none_iff_exists'.mp stillBound
    have before := expires.seat?_before (Or.inl rfl) isPlace
    rw [coherent.seat_of_liveSlot found carries, Option.some.injEq] at before
    exact sweptCoherent.not_bound_of_free isFreed rfl sequence (before ▸ isPlace)
  obtain ⟨pairs, seats, fromLanes⟩ := seats_formBatch coherent now live
  have sameSeats := (lanes_formBatch coherent now live).2
  refine ⟨unbound, slotAt?_of_liveSlot isFreed, ?_, ?_⟩
  · by_cases rebound : ∃ pair ∈ pairs, pair.1.sequence = sequence
    · obtain ⟨pair, member, isSequence⟩ := rebound
      refine Or.inr ⟨pair.1, (fromLanes pair member).1, isSequence, pair.2, ?_⟩
      rw [sameSeats, ← isSequence]
      exact seats.bound pair member
    · refine Or.inl ?_
      rw [sameSeats, seats.otherSequences sequence, unbound]
      exact fun pair member same => rebound ⟨pair, member, same⟩
  · by_cases retaken :
        ∃ pair ∈ pairs, { instanceIndex := instanceIndex, slot := pair.2 } = seat
    · obtain ⟨pair, member, isSeat⟩ := retaken
      refine Or.inr ⟨pair.1, (fromLanes pair member).1, ?_⟩
      rw [sameSeats, ← isSeat]
      exact seats.bound pair member
    · refine Or.inl ?_
      have stillFree : (swept.seatLanes instanceIndex now).liveSlot? seat =
          some (Slot.unused now) := by
        rw [seats.otherSlots seat, isFreed]
        exact fun pair member same => retaken ⟨pair, member, same⟩
      obtain ⟨after, isAfter, _, _, unchanged⟩ := slot_formBatch coherent live stillFree
      rw [unchanged (by simp [Slot.unused])] at isAfter
      exact isAfter

/-- A lane in time stays in the backlog, or goes to a slot with all that is not sent off at once. -/
theorem lane_kept
    (coherent : batcher.Coherent)
    (live : (batcher.live? instanceIndex).isSome = true)
    {lane : Lane}
    (member : lane ∈ batcher.backlog)
    (inTime : lane.isExpired now = false) :
    let formation := batcher.formBatch instanceIndex now
    lane ∈ formation.batcher.backlog ∨
      ∃ index after,
        formation.batcher.seat? lane.sequence =
            some { instanceIndex := instanceIndex, slot := index } ∧
          formation.batcher.slotAt? { instanceIndex := instanceIndex, slot := index } =
            some after ∧
          after.sequence? = some lane.sequence ∧
          (formation.sentFrom? { instanceIndex := instanceIndex, slot := index }).toList ++
              after.pending =
            lane.entries := by
  intro formation
  obtain ⟨pairs, seats, _⟩ := seats_formBatch coherent now live
  obtain ⟨sameBacklog, sameSeats⟩ := lanes_formBatch coherent now live
  have survives : lane ∈ (batcher.expire now).batcher.backlog := by
    simp [backlog_expire coherent, member, inTime]
  by_cases seated : lane ∈ pairs.map Prod.fst
  · obtain ⟨pair, isPair, isLane⟩ := List.mem_map.mp seated
    subst isLane
    obtain ⟨after, isAfter, isSplit, sameSequence, _⟩ :=
      slot_formBatch coherent live (seats.seated pair isPair)
    refine Or.inr ⟨pair.2, after, ?_, isAfter, sameSequence, isSplit⟩
    exact (congrFun sameSeats pair.1.sequence).trans (seats.bound pair isPair)
  · refine Or.inl ?_
    have stays : lane ∈ ((batcher.expire now).batcher.seatLanes instanceIndex now).backlog := by
      rw [seats.backlog]
      exact List.mem_filter.mpr ⟨survives, by simpa using seated⟩
    exact sameBacklog ▸ stays

/-- An expired lane is gone, and there is no other of its sequence. -/
theorem lane_gone
    (coherent : batcher.Coherent)
    (live : (batcher.live? instanceIndex).isSome = true)
    {lane : Lane}
    (member : lane ∈ batcher.backlog)
    (expired : lane.isExpired now = true) :
    (batcher.formBatch instanceIndex now).batcher.lane? lane.sequence = none := by
  obtain ⟨pairs, seats, _⟩ := seats_formBatch coherent now live
  rw [lane?_eq_none, (lanes_formBatch coherent now live).1, seats.backlog,
    backlog_expire coherent]
  intro stillWaits
  obtain ⟨other, isLeft, sameSequence⟩ := List.mem_map.mp stillWaits
  obtain ⟨inBacklog, inTime⟩ := List.mem_filter.mp (List.mem_filter.mp isLeft).1
  have isLane := coherent.lane?_of_mem inBacklog
  rw [sameSequence, coherent.lane?_of_mem member] at isLane
  rw [← Option.some.inj isLane, expired] at inTime
  contradiction

/-- What is in time on a slot stays there in order, up to a head that the batch takes. -/
theorem pending_kept
    (coherent : batcher.Coherent)
    (live : (batcher.live? instanceIndex).isSome = true)
    (found : batcher.liveSlot? seat = some slot)
    (waits : slot.pending ≠ [])
    (inTime : slot.isExpired now = false) :
    let formation := batcher.formBatch instanceIndex now
    ∃ after,
      formation.batcher.slotAt? seat = some after ∧
        after.sequence? = slot.sequence? ∧
        (formation.sentFrom? seat).toList ++ after.pending = slot.pending := by
  have busy := not_idle_of_work (Or.inl waits) batcher.idleLimit? now
  have still : (batcher.expire now).batcher.liveSlot? seat = some slot := by
    simp [liveSlot?_expire coherent, found, Slot.swept, inTime, busy]
  have used : slot.state ≠ .free :=
    fun free => waits ((coherent.sound_of_liveSlot found).freePending free)
  obtain ⟨after, isAfter, isSplit, sameSequence, _⟩ := slot_kept coherent live still used
  exact ⟨after, isAfter, sameSequence, isSplit⟩

end Outcomes

/--
What the timeouts of a formation do, lane by lane and slot by slot. Exactly the lanes and
the slots of live instances in which a request is late fail, each with all its requests
and with the error that its sequence timed out, except that a START that is late itself in
its lane is told that it expired. Their sequences, and no others, are marked. A slot that
fails is freed and its sequence unbound, or waits at its end for its request in flight,
which stays as it is. What does not fail keeps its requests in order, up to being given a
slot and being sent off.
-/
theorem timeouts_of_lanes
    {batcher : SequenceBatcher}
    (coherent : batcher.Coherent)
    {instanceIndex : Nat}
    (live : (batcher.live? instanceIndex).isSome = true)
    (now : Nat) :
    let swept := (batcher.expire now).batcher
    let formation := batcher.formBatch instanceIndex now
    let last := formation.batcher
    let isLate := fun (entries : List QueueEntry) =>
      entries.any (fun entry => entry.isRejectable now)
    let timedOut := fun (sequence : CorrelationId) (entry : QueueEntry) =>
      ({ request := entry.request, error := .sequenceTimeout sequence } : Failure)
    let timesOut := fun (sequence : CorrelationId) =>
      (∃ lane ∈ batcher.backlog, lane.sequence = sequence ∧ isLate lane.entries = true) ∨
        ∃ slot ∈ batcher.liveSlots, slot.sequence? = some sequence ∧ isLate slot.pending = true
    formation.failed.Perm
        (batcher.backlog.flatMap (fun lane =>
            if isLate lane.entries then
              { request := lane.first.request
                error :=
                  if lane.first.isRejectable now then
                    .timeoutExpired
                  else
                    .sequenceTimeout lane.sequence } ::
                lane.followers.map (timedOut lane.sequence)
            else
              []) ++
          batcher.liveSlots.flatMap (fun slot =>
            if isLate slot.pending then
              slot.sequence?.toList.flatMap (fun sequence =>
                slot.pending.map (timedOut sequence))
            else
              [])) ∧
      (∀ sequence, timesOut sequence → last.timedOut.find? sequence = some now) ∧
      (∀ sequence,
        ¬ timesOut sequence →
          last.timedOut.find? sequence =
            (batcher.timedOut.find? sequence).filter (fun instant =>
              elapsed instant now < batcher.timedOutRetention)) ∧
      (∀ lane ∈ batcher.backlog,
        isLate lane.entries = true → last.lane? lane.sequence = none) ∧
      (∀ seat slot sequence,
        batcher.liveSlot? seat = some slot →
        slot.sequence? = some sequence →
        isLate slot.pending = true →
          (∀ request,
            slot.inFlight? = some request →
              last.seat? sequence = some seat ∧
                last.slotAt? seat = some { slot with state := .ending, pending := [] }) ∧
            (slot.inFlight? = none →
              swept.seat? sequence = none ∧
                swept.slotAt? seat = some (Slot.unused now) ∧
                (last.seat? sequence = none ∨
                  ∃ lane ∈ swept.backlog,
                    lane.sequence = sequence ∧
                      ∃ index,
                        last.seat? sequence =
                          some { instanceIndex := instanceIndex, slot := index }) ∧
                (last.slotAt? seat = some (Slot.unused now) ∨
                  ∃ lane ∈ swept.backlog, last.seat? lane.sequence = some seat))) ∧
      (∀ lane ∈ batcher.backlog,
        isLate lane.entries = false →
          lane ∈ last.backlog ∨
            ∃ index after,
              last.seat? lane.sequence =
                  some { instanceIndex := instanceIndex, slot := index } ∧
                last.slotAt? { instanceIndex := instanceIndex, slot := index } = some after ∧
                after.sequence? = some lane.sequence ∧
                (formation.sentFrom?
                      { instanceIndex := instanceIndex, slot := index }).toList ++
                    after.pending =
                  lane.entries) ∧
      ∀ seat slot,
        batcher.liveSlot? seat = some slot →
        slot.pending ≠ [] →
        isLate slot.pending = false →
          ∃ after,
            last.slotAt? seat = some after ∧
              after.sequence? = slot.sequence? ∧
              (formation.sentFrom? seat).toList ++ after.pending = slot.pending := by
  intro swept formation last isLate timedOut timesOut
  have lapses : ∀ sequence, sequence ∈ batcher.lapsed now ↔ timesOut sequence := by
    intro sequence
    rw [mem_lapsed]
    refine or_congr Iff.rfl ?_
    constructor
    · rintro ⟨seat, slot, found, carries, late⟩
      exact ⟨slot, mem_liveSlots.mpr ⟨seat, found⟩, carries, late⟩
    · rintro ⟨slot, isLive, carries, late⟩
      obtain ⟨seat, found⟩ := mem_liveSlots.mp isLive
      exact ⟨seat, slot, found, carries, late⟩
  have marks : ∀ sequence, last.timedOut.find? sequence = swept.timedOut.find? sequence := by
    intro sequence
    rw [timedOut_formBatch coherent live]
  refine ⟨?_, ?_, ?_, ?_, ?_, ?_, ?_⟩
  · have isFailed : formation.failed = _ :=
      (failed_formBatch live).trans (failed_expire_eq coherent now)
    rw [isFailed]
    apply List.Perm.of_eq
    simp only [Lane.failures, slotFailures_eq, failures_eq]
    rfl
  · intro sequence isTimedOut
    rw [marks, timedOut_expire coherent, if_pos ((lapses sequence).mpr isTimedOut)]
  · intro sequence notTimedOut
    rw [marks, timedOut_expire coherent, if_neg (mt (lapses sequence).mp notTimedOut)]
    exact batcher.timedOut.find?_filter _ sequence
  · intro lane member late
    exact lane_gone coherent live member late
  · intro seat slot sequence found carries late
    constructor
    · intro request flying
      exact ending_of_expired coherent live found carries late flying
    · exact freed_of_expired coherent live found carries late
  · intro lane member inTime
    exact lane_kept coherent live member inTime
  · intro seat slot found waits inTime
    exact pending_kept coherent live found waits inTime

end SequenceBatcher

end InferenceBatching
