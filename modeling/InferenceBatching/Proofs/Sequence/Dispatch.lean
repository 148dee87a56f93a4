import InferenceBatching.Proofs.Batch.Shapes
import InferenceBatching.Proofs.Run.Settings
import InferenceBatching.Proofs.Sequence.Rest

namespace InferenceBatching

/-!
# What each slot gives to a batch

Slots are dispatched one after the other, and the shapes taken so far go along. What
a slot gives can be said without them: its head, if it is ready and its head agrees
with the requests that the batch has below it. So a batch can be checked slot by slot
against the table from which it was formed.
-/

namespace Slot

/-- What a slot gives to a batch that has some requests below it. -/
def given?
    (slot : Slot)
    (below : List Request) :
    Option QueueEntry :=
  if slot.isReady then
    slot.pending.head?.filter (fun head => agrees below head.request)
  else
    none

/-- A slot whose head has gone into flight. -/
def sent
    (slot : Slot)
    (head : QueueEntry)
    (now : Nat) :
    Slot :=
  { slot with
    inFlight? := some head.request.id
    lastActivity := now
    pending := slot.pending.tail
    state := if head.request.ends then .ending else .active }

/-- The position of a slot in a batch that has some requests below it. -/
def position
    (slot : Slot)
    (index : Nat)
    (below : List Request) :
    BatchEntry :=
  match slot.given? below with
  | some head => .seated index head
  | none => .padding index slot.sequence?

/-- A slot after a batch that has some requests below it. -/
def passed
    (slot : Slot)
    (below : List Request)
    (now : Nat) :
    Slot :=
  match slot.given? below with
  | some head => slot.sent head now
  | none => slot

section Given

variable {slot : Slot}
variable {below : List Request}
variable {head : QueueEntry}

theorem isReady_iff :
    slot.isReady = true ↔
      slot.state = .active ∧ slot.inFlight? = none ∧ slot.pending ≠ [] := by
  simp [isReady, and_assoc]

/-- A slot gives its head exactly if it is ready and its head agrees with those below. -/
theorem given?_eq_some :
    slot.given? below = some head ↔
      slot.state = .active ∧
        slot.inFlight? = none ∧
        slot.pending.head? = some head ∧
        agrees below head.request = true := by
  simp only [given?, Option.ite_none_right_eq_some, Option.filter_eq_some_iff, isReady_iff]
  constructor
  · rintro ⟨⟨active, grounded, _⟩, isHead, fits⟩
    exact ⟨active, grounded, isHead, fits⟩
  · rintro ⟨active, grounded, isHead, fits⟩
    refine ⟨⟨active, grounded, ?_⟩, isHead, fits⟩
    intro nothing
    rw [nothing] at isHead
    contradiction

/-- A ready slot gives its head when the batch has nothing below it. -/
theorem given?_of_ready
    (ready : slot.isReady = true) :
    slot.given? [] = slot.pending.head? := by
  simp only [given?, ready, if_true, agrees_nil]
  cases slot.pending.head? <;> rfl

end Given

section Position

variable (slot : Slot)
variable (index : Nat)
variable (below : List Request)

@[simp]
theorem slot?_position :
    (slot.position index below).slot? = some index := by
  simp only [position]
  cases slot.given? below <;> rfl

/-- The position of a slot carries what the slot gives. -/
@[simp]
theorem queued?_position :
    (slot.position index below).queued? = slot.given? below := by
  simp only [position]
  cases slot.given? below <;> rfl

/-- The backend is told of the sequence on the slot, and of the ends of what the slot gives. -/
theorem Sound.control?_position
    {slot : Slot}
    (sound : slot.Sound) :
    (slot.position index below).control? =
      some (match slot.given? below with
        | some head => {
            start := head.request.starts
            ending := head.request.ends
            ready := true
            sequence? := slot.sequence? }
        | none => { sequence? := slot.sequence? }) := by
  simp only [position]
  cases given : slot.given? below with
  | none => rfl
  | some head =>
      have carried := sound.carried head (List.mem_of_mem_head? (given?_eq_some.mp given).2.2.1)
      simp only [BatchEntry.control?, carried]

end Position

end Slot

namespace Dispatch

variable {shapes : ShapeLedger}
variable {taken : List Request}

/-- What the dispatch of a slot comes to when the ledger stands for the requests below. -/
theorem ofSlot?_eq
    (reflects : shapes.Reflects taken)
    (slot : Slot)
    (now : Nat) :
    ofSlot? shapes slot now =
      (slot.given? taken).map (fun head => (head, slot.sent head now)) := by
  cases isPending : slot.pending with
  | nil => simp [ofSlot?, Slot.given?, isPending]
  | cons head rest =>
      simp only [ofSlot?, Slot.given?, Slot.dispatch?, Slot.isReady, isPending,
        reflects.fits head.request]
      by_cases ready : slot.state = .active ∧ slot.inFlight? = none
      · cases fits : agrees taken head.request <;>
          simp [Slot.sent, ready, isPending, Option.filter, fits]
      · rw [not_and] at ready
        by_cases active : slot.state = .active
        · simp [active, ready active]
        · simp [active]

/-- A dispatch treats its first slot by what is taken, and the others with what that gives. -/
theorem ofSlots_cons
    (reflects : shapes.Reflects taken)
    (now index : Nat)
    (slot : Slot)
    (slots : List Slot) :
    ∃ noted,
      noted.Reflects (taken ++ (slot.given? taken).toList.map QueueEntry.request) ∧
        ofSlots now index shapes (slot :: slots) =
          (ofSlots now (index + 1) noted slots).prepend
            (slot.position index taken) (slot.passed taken now) := by
  simp only [ofSlots, ofSlot?_eq reflects, Slot.position, Slot.passed]
  cases slot.given? taken with
  | none => exact ⟨shapes, by simpa using reflects, rfl⟩
  | some head => exact ⟨shapes.note head.request, reflects.note head.request, rfl⟩

/-- Each slot of a dispatch is treated by the requests that the batch has below it. -/
theorem getElem?_ofSlots
    (reflects : shapes.Reflects taken)
    (now index : Nat)
    {slots : List Slot}
    {offset : Nat}
    {slot : Slot}
    (isSlot : slots[offset]? = some slot) :
    let dispatch := ofSlots now index shapes slots
    let below := taken ++ (dispatch.entries.take offset).filterMap BatchEntry.request?
    dispatch.entries[offset]? = some (slot.position (index + offset) below) ∧
      dispatch.slots[offset]? = some (slot.passed below now) := by
  induction slots generalizing index shapes taken offset with
  | nil => contradiction
  | cons first slots inductionHypothesis =>
      obtain ⟨noted, further, isDispatch⟩ := ofSlots_cons reflects now index first slots
      rw [isDispatch]
      cases offset with
      | zero =>
          rw [List.getElem?_cons_zero, Option.some.injEq] at isSlot
          subst isSlot
          simp [prepend]
      | succ offset =>
          have later := inductionHypothesis further (index + 1) isSlot
          have shifted : index + 1 + offset = index + (offset + 1) := by omega
          dsimp only at later ⊢
          rw [shifted, List.append_assoc] at later
          cases given : first.given? taken <;>
            simpa [prepend, List.filterMap_cons, BatchEntry.request?, given] using later

/-- The slots of a dispatch are as many as before, and so are its positions. -/
theorem length_ofSlots
    (now index : Nat)
    (shapes : ShapeLedger)
    (slots : List Slot) :
    (ofSlots now index shapes slots).entries.length = slots.length ∧
      (ofSlots now index shapes slots).slots.length = slots.length := by
  induction slots generalizing index shapes with
  | nil => exact ⟨rfl, rfl⟩
  | cons slot slots inductionHypothesis =>
      simp only [ofSlots]
      split <;> simp [prepend, inductionHypothesis]

/-- If any slot is ready, some position carries a request: nothing keeps the first one back. -/
theorem request_of_ready
    (now : Nat)
    {slots : List Slot}
    (ready : slots.any Slot.isReady = true) :
    ∃ entry ∈ (ofSlots now 0 .empty slots).entries, entry.request?.isSome = true := by
  obtain ⟨slot, isMember, isReady⟩ := List.any_eq_true.mp ready
  obtain ⟨index, isSlot⟩ := List.mem_iff_getElem?.mp isMember
  by_contra noneCarries
  simp only [not_exists, not_and, Option.not_isSome_iff_eq_none] at noneCarries
  -- If nobody carried a request, nothing would be below any slot, and every ready slot would give.
  have nothingBelow :
      ((ofSlots now 0 .empty slots).entries.take index).filterMap BatchEntry.request? = [] := by
    rw [List.filterMap_eq_nil_iff]
    intro entry below
    exact noneCarries entry (List.mem_of_mem_take below)
  have isPosition := (getElem?_ofSlots ShapeLedger.reflects_empty now 0 isSlot).1
  rw [nothingBelow] at isPosition
  have padded := noneCarries _ (List.mem_of_getElem? isPosition)
  obtain ⟨_, _, waits⟩ := Slot.isReady_iff.mp isReady
  obtain ⟨head, rest, isPending⟩ := List.exists_cons_of_ne_nil waits
  have given : slot.given? [] = some head := by
    rw [Slot.given?_of_ready isReady, isPending, List.head?_cons]
  simp [BatchEntry.request?, given] at padded

end Dispatch

/-- The request that a formation sends off from a seat, if any. -/
def Formation.sentFrom?
    {State : Type}
    (formation : Formation State)
    (seat : Seat) :
    Option QueueEntry :=
  formation.batch?.bind (fun batch =>
    if batch.instanceIndex = seat.instanceIndex then
      batch.entries[seat.slot]?.bind BatchEntry.queued?
    else
      none)

/-- What a slot gives to a batch was its head, and only an active slot gives anything. -/
theorem Slot.given?_append_passed
    (slot : Slot)
    (below : List Request)
    (now : Nat) :
    (slot.given? below).toList ++ (slot.passed below now).pending = slot.pending ∧
      (slot.passed below now).sequence? = slot.sequence? ∧
      (slot.state ≠ .active → slot.passed below now = slot) := by
  simp only [passed]
  cases given : slot.given? below with
  | none => exact ⟨rfl, rfl, fun _ => rfl⟩
  | some head =>
      obtain ⟨active, _, isHead, _⟩ := given?_eq_some.mp given
      obtain ⟨rest, isPending⟩ := List.head?_eq_some_iff.mp isHead
      exact ⟨by simp [sent, isPending], rfl, fun notActive => absurd active notActive⟩

namespace SequenceBatcher

section Formation

variable {batcher : SequenceBatcher}
variable {instanceIndex now : Nat}

/-- The timeouts and the seating leave a live instance live, all coherent, and every slot there. -/
theorem filled_of_live
    (coherent : batcher.Coherent)
    (now : Nat)
    (live : (batcher.live? instanceIndex).isSome = true) :
    let filled := (batcher.expire now).batcher.seatLanes instanceIndex now
    filled.Coherent ∧
      filled.tableSizes = batcher.tableSizes ∧
      ∃ owner, filled.live? instanceIndex = some owner := by
  obtain ⟨_, expires, _⟩ := expire_moves coherent now
  have stillLive : ((batcher.expire now).batcher.live? instanceIndex).isSome = true := by
    rw [expires.live?_isSome, live]
  obtain ⟨owner, isOwner⟩ := Option.isSome_iff_exists.mp stillLive
  have seats := seatLanes_moves (expires.coherent coherent) isOwner now
  refine ⟨seats.coherent (expires.coherent coherent),
    seats.tableSizes.trans expires.tableSizes, ?_⟩
  rw [← Option.isSome_iff_exists, seats.live?_isSome, stillLive]

/-- Dispatching puts the dispatched slots in their places and leaves those of other instances. -/
theorem slotAt?_dispatchBatch
    {table : SlotTable}
    (isTable : batcher.table? instanceIndex = some table)
    (failed : List Failure)
    (now : Nat)
    (seat : Seat) :
    (batcher.dispatchBatch instanceIndex table failed now).batcher.slotAt? seat =
      if seat.instanceIndex = instanceIndex then
        (Dispatch.ofSlots now 0 .empty table.slots).slots[seat.slot]?
      else
        batcher.slotAt? seat := by
  simp only [slotAt?, dispatchBatch, Formation.formed, table?_withTable]
  split
  · next same =>
      rw [same, isTable]
      rfl
  · rfl

/-- The dispatch changes neither lanes nor bindings. -/
theorem lanes_formBatch
    (coherent : batcher.Coherent)
    (now : Nat)
    (live : (batcher.live? instanceIndex).isSome = true) :
    let filled := (batcher.expire now).batcher.seatLanes instanceIndex now
    (batcher.formBatch instanceIndex now).batcher.backlog = filled.backlog ∧
      (batcher.formBatch instanceIndex now).batcher.seat? = filled.seat? := by
  obtain ⟨_, _, owner, isOwner⟩ := filled_of_live coherent now live
  rw [formBatch_of_seated live isOwner]
  split <;> exact ⟨rfl, rfl⟩

/-- The dispatch sends off at most the head of a slot, and leaves the slot unless it is active. -/
theorem slot_formBatch
    (coherent : batcher.Coherent)
    (live : (batcher.live? instanceIndex).isSome = true)
    {seat : Seat}
    {slot : Slot}
    (found :
      ((batcher.expire now).batcher.seatLanes instanceIndex now).liveSlot? seat = some slot) :
    let formation := batcher.formBatch instanceIndex now
    ∃ after,
      formation.batcher.slotAt? seat = some after ∧
        (formation.sentFrom? seat).toList ++ after.pending = slot.pending ∧
        after.sequence? = slot.sequence? ∧
        (slot.state ≠ .active → after = slot) := by
  obtain ⟨_, _, owner, isOwner⟩ := filled_of_live coherent now live
  have unchanged := slotAt?_of_liveSlot found
  rw [formBatch_of_seated live isOwner]
  split
  · by_cases here : seat.instanceIndex = instanceIndex
    · subst here
      have isSlot : owner.table.slots[seat.slot]? = some slot := by
        simpa [liveSlot?, isOwner, SlotTable.slot?] using found
      obtain ⟨isPosition, isPassed⟩ :=
        Dispatch.getElem?_ofSlots ShapeLedger.reflects_empty now 0 isSlot
      generalize [] ++ _ = below at isPosition isPassed
      refine ⟨slot.passed below now, ?_, ?_⟩
      · rw [slotAt?_dispatchBatch (table?_of_live isOwner), if_pos rfl]
        exact isPassed
      · simpa [Formation.sentFrom?, dispatchBatch, Formation.formed, isPosition] using
          slot.given?_append_passed below now
    · refine ⟨slot, ?_, ?_, rfl, fun _ => rfl⟩
      · rw [slotAt?_dispatchBatch (table?_of_live isOwner), if_neg here]
        exact unchanged
      · simp [Formation.sentFrom?, dispatchBatch, Formation.formed, Ne.symm here]
  · exact ⟨slot, unchanged, by simp [Formation.sentFrom?, Formation.idle], rfl, fun _ => rfl⟩

/-- On every instance that a run reaches there are as many slots as the grouping asks for. -/
theorem tableSizes_reached
    (config : ModelConfig)
    (start : Nat)
    (operations : List Operation) :
    ∀ size ∈ ((ofConfig config start).after operations).tableSizes,
      size = max (config.sequenceBatching?.getD .standard).maxSequences 1 := by
  rw [tableSizes_after (coherent_ofConfig config start)]
  intro size listed
  obtain ⟨held, isNew, isSize⟩ := List.mem_map.mp listed
  obtain ⟨index, _, isHeld⟩ := List.mem_map.mp isNew
  rw [← isSize, ← isHeld]
  exact List.length_replicate

/-- With a grouping that was accepted, no table has more slots than a batch has room. -/
theorem tableSizes_le
    {config : ModelConfig}
    (accepted : config.problem? = none)
    (described : config.sequenceBatching?.isSome = true)
    (start : Nat)
    (operations : List Operation) :
    ∀ size ∈ ((ofConfig config start).after operations).tableSizes,
      size ≤ max config.maxBatchSize 1 := by
  intro size listed
  obtain ⟨batching, isBatching⟩ := Option.isSome_iff_exists.mp described
  have asked := tableSizes_reached config start operations size listed
  rw [isBatching, Option.getD_some] at asked
  exact (Nat.le_of_eq asked).trans (ModelConfig.maxSequences_le accepted isBatching)

/--
A batch of sequences, checked slot by slot against the table of its instance as it is
after the timeouts and the seating. There is a batch exactly if some slot is active with
nothing in flight and something pending. It has one position for each slot, and carries at
least one request. The position of a slot carries the head of the slot exactly if the slot
is ready and the head has the shapes first seen among the requests at the positions below;
only such a slot changes, by its head going into flight. All other positions are padding.
-/
theorem batch_by_slots
    (config : ModelConfig)
    (start : Nat)
    (operations : List Operation)
    (instanceIndex now : Nat)
    (live : (((ofConfig config start).after operations).live? instanceIndex).isSome = true) :
    let batcher := (ofConfig config start).after operations
    let filled := (batcher.expire now).batcher.seatLanes instanceIndex now
    let formation := batcher.formBatch instanceIndex now
    ∃ table,
      filled.table? instanceIndex = some table ∧
        (formation.batch?.isSome = true ↔
          ∃ slot ∈ table.slots,
            slot.state = .active ∧ slot.inFlight? = none ∧ slot.pending ≠ []) ∧
        (formation.batch? = none → formation.batcher = filled) ∧
        (∀ seat,
          seat.instanceIndex ≠ instanceIndex →
            formation.batcher.slotAt? seat = filled.slotAt? seat) ∧
        ∀ batch ∈ formation.batch?,
          batch.instanceIndex = instanceIndex ∧
            batch.size = table.slots.length ∧
            (config.problem? = none →
              config.sequenceBatching?.isSome = true →
                batch.size ≤ max config.maxBatchSize 1) ∧
            (∃ entry ∈ batch.entries, entry.request?.isSome = true) ∧
            ∀ index slot,
              table.slots[index]? = some slot →
                (slot.state = .free → slot.sequence? = none) ∧
                  ∃ entry,
                    batch.entries[index]? = some entry ∧
                      entry.slot? = some index ∧
                      (∀ head,
                        entry.queued? = some head ↔
                          slot.state = .active ∧
                            slot.inFlight? = none ∧
                            slot.pending.head? = some head ∧
                            agrees
                              ((batch.entries.take index).filterMap BatchEntry.request?)
                              head.request = true) ∧
                      (∀ head,
                        entry.queued? = some head →
                          entry.control? =
                              some {
                                start := head.request.starts
                                ending := head.request.ends
                                ready := true
                                sequence? := slot.sequence? } ∧
                            formation.batcher.slotAt?
                                { instanceIndex := instanceIndex, slot := index } =
                              some {
                                slot with
                                inFlight? := some head.request.id
                                lastActivity := now
                                pending := slot.pending.tail
                                state := if head.request.ends then .ending else .active }) ∧
                      (entry.queued? = none →
                        entry.control? =
                            some {
                              start := false
                              ending := false
                              ready := false
                              sequence? := slot.sequence? } ∧
                          formation.batcher.slotAt?
                              { instanceIndex := instanceIndex, slot := index } =
                            some slot) := by
  intro batcher filled formation
  have coherent : batcher.Coherent := (coherent_ofConfig config start).after operations
  obtain ⟨reached, sameSizes, owner, isOwner⟩ := filled_of_live coherent now live
  have isTable := table?_of_live isOwner
  have isFormation : formation = _ := formBatch_of_seated live isOwner
  refine ⟨owner.table, isTable, ?_⟩
  by_cases ready : owner.table.slots.any Slot.isReady = true
  · rw [if_pos ready] at isFormation
    rw [isFormation]
    refine ⟨?_, ?_, ?_, ?_⟩
    · simpa [dispatchBatch, Formation.formed, Slot.isReady_iff] using ready
    · intro noBatch
      contradiction
    · intro seat elsewhere
      rw [slotAt?_dispatchBatch isTable, if_neg elsewhere]
    · intro batch formed
      have isBatch := (Option.some.inj formed).symm
      have entries : batch.entries = (Dispatch.ofSlots now 0 .empty owner.table.slots).entries := by
        rw [isBatch]
      have sameSize : batch.size = owner.table.slots.length := by
        rw [Batch.size, entries]
        exact (Dispatch.length_ofSlots now 0 .empty owner.table.slots).1
      refine ⟨by rw [isBatch], sameSize, ?_, ?_, ?_⟩
      · intro accepted described
        have listed : owner.table.size ∈ batcher.tableSizes :=
          sameSizes ▸ List.mem_map_of_mem (List.mem_of_getElem? (live?_eq_some.mp isOwner).1)
        rw [sameSize]
        exact tableSizes_le accepted described start operations owner.table.size listed
      · rw [entries]
        exact Dispatch.request_of_ready now ready
      · intro index slot isSlot
        have found :
            filled.liveSlot? { instanceIndex := instanceIndex, slot := index } = some slot :=
          liveSlot?_eq_some.mpr ⟨owner, isOwner, isSlot⟩
        have sound := reached.sound_of_liveSlot found
        have treated := Dispatch.getElem?_ofSlots ShapeLedger.reflects_empty now 0 isSlot
        dsimp only at treated
        rw [← entries, Nat.zero_add, List.nil_append] at treated
        generalize (batch.entries.take index).filterMap BatchEntry.request? = below at treated ⊢
        refine ⟨sound.freeSequence, slot.position index below, treated.1,
          slot.slot?_position index below, ?_, ?_, ?_⟩
        · intro head
          rw [Slot.queued?_position, Slot.given?_eq_some]
        · intro head carries
          rw [Slot.queued?_position] at carries
          rw [sound.control?_position, slotAt?_dispatchBatch isTable, if_pos rfl, treated.2,
            Slot.passed, carries]
          exact ⟨rfl, rfl⟩
        · intro carriesNone
          rw [Slot.queued?_position] at carriesNone
          rw [sound.control?_position, slotAt?_dispatchBatch isTable, if_pos rfl, treated.2,
            Slot.passed, carriesNone]
          exact ⟨rfl, rfl⟩
  · rw [if_neg ready] at isFormation
    rw [isFormation]
    refine ⟨?_, fun _ => rfl, fun _ _ => rfl, ?_⟩
    · simpa [Formation.idle, Slot.isReady_iff] using ready
    · intro batch formed
      contradiction

/-- Of three sequences the second has another shape: it waits, and the third goes along. -/
theorem batch_by_slots_of_misfit :
    let config : ModelConfig :=
      { name := "model"
        maxBatchSize := 4
        inputs := [{ name := "x", dims := [-1] }]
        sequenceBatching? := some { maxSequences := 4 } }
    let sends := fun (extent : Nat) => [⟨"x", .ofElements [extent] .int64 []⟩]
    let operations : List Operation :=
      [.enqueue { id := 1, sequence? := some 7, starts := true, inputs := sends 2 } 0,
        .enqueue { id := 2, sequence? := some 8, starts := true, inputs := sends 3 } 0,
        .enqueue
          { id := 3, sequence? := some 9, starts := true, ends := true, inputs := sends 2 } 0]
    let batcher := (ofConfig config 0).after operations
    (batcher.live? 0).isSome = true ∧
      ∃ batch,
        (batcher.formBatch 0 1).batch? = some batch ∧
          batch.size ≤ 4 ∧
          batch.requestIds = [1, 3] ∧
          batch.entries[1]?.bind BatchEntry.control? = some { sequence? := some 8 } := by
  intro config sends operations batcher
  have live : (batcher.live? 0).isSome = true := by decide
  obtain ⟨_, _, _, _, _, bySlots⟩ := batch_by_slots config 0 operations 0 1 live
  have isFormed : (batcher.formBatch 0 1).batch?.isSome = true := by decide
  obtain ⟨batch, formed⟩ := Option.isSome_iff_exists.mp isFormed
  obtain ⟨_, _, within, _⟩ := bySlots batch formed
  have carries : (batcher.formBatch 0 1).batch?.map Batch.requestIds = some [1, 3] := by decide
  have pads :
      (batcher.formBatch 0 1).batch?.bind (fun formed =>
        formed.entries[1]?.bind BatchEntry.control?) = some { sequence? := some 8 } := by
    decide
  rw [formed] at carries pads
  exact ⟨live, batch, formed, within (by decide) rfl, Option.some.inj carries, pads⟩

/--
A configuration without a grouping is accepted for any batch size, and a batcher made of
it has four slots all the same, so that its batches are larger than the limit.
-/
theorem batch_over_limit_of_standard_grouping :
    let config : ModelConfig := { name := "model", maxBatchSize := 1 }
    let batcher := (ofConfig config 0).after
      [.enqueue { id := 1, sequence? := some 7, starts := true } 0]
    config.problem? = none ∧
      (batcher.live? 0).isSome = true ∧
      ((batcher.formBatch 0 0).batch?.map Batch.size) = some 4 ∧
      max config.maxBatchSize 1 < 4 := by
  decide

end Formation

end SequenceBatcher

end InferenceBatching
