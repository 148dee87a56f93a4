import InferenceBatching.Proofs.Sequence.Pinning
import InferenceBatching.Proofs.Sequence.Waiting

namespace InferenceBatching

/-!
# Instances at rest

An instance that gets no batch has nothing to do before the wake time: until then
nothing times out, it has no ready slot, and no lane could take one of its slots.
Formations for other instances leave it so. They touch only their own slots, and
they bind sequences but never unbind one while nothing times out.
-/

namespace SequenceBatcher

/-- Nothing that waits is late at an instant, and no slot has been idle for too long. -/
structure Quiet
    (batcher : SequenceBatcher)
    (instant : Nat) :
    Prop where
  inTime : batcher.AllWaiting (fun entry => entry.isRejectable instant = false)
  busy :
    ∀ seat slot,
      batcher.liveSlot? seat = some slot →
        slot.isIdle batcher.idleLimit? instant = false

/-- During a window nothing times out, and an instance has nothing to seat or to dispatch. -/
structure Resting
    (batcher : SequenceBatcher)
    (instanceIndex : Nat)
    (window : Nat → Prop) :
    Prop where
  quiet : ∀ instant, window instant → batcher.Quiet instant
  seated :
    ∀ owner,
      batcher.live? instanceIndex = some owner →
        owner.table.freeSlots = [] ∨
          ∀ lane ∈ batcher.backlog, batcher.bindings.contains lane.sequence = true
  unready :
    ∀ owner,
      batcher.live? instanceIndex = some owner →
        owner.table.slots.any Slot.isReady = false

section Quiet

variable {batcher last : SequenceBatcher}
variable {now instant : Nat}
variable {events : List Event}

/-- Once the timeouts have been applied, nothing more times out at that instant. -/
theorem quiet_expire
    (coherent : batcher.Coherent)
    (now : Nat) :
    (batcher.expire now).batcher.Quiet now where
  inTime := allWaiting_expire coherent now
  busy := by
    intro seat slot found
    rw [liveSlot?_expire coherent] at found
    obtain ⟨held, _, isSwept⟩ := Option.map_eq_some_iff.mp found
    rw [← isSwept, idleLimit?_expire coherent]
    exact held.swept_not_idle batcher.idleLimit? now

/-- A slot with something to do is not idle. -/
theorem not_idle_of_work
    {slot : Slot}
    (work : slot.pending ≠ [] ∨ slot.inFlight? ≠ none)
    (idleLimit? : Option Nat)
    (instant : Nat) :
    slot.isIdle idleLimit? instant = false := by
  by_contra idle
  obtain ⟨_, grounded, nothing⟩ := Slot.idle_shape ((Bool.not_eq_false _).mp idle)
  rcases work with waits | flies
  · exact waits nothing
  · exact flies grounded

/-- Filling slots makes nothing late or idle. -/
theorem Move.quiet_of_filling
    (quiet : batcher.Quiet instant)
    (move : Move now batcher .filling events last) :
    last.Quiet instant := by
  refine ⟨(move.allWaiting quiet.inTime (by simp)).1, ?_⟩
  have changed :
      ∀ {place held slot},
        batcher.liveSlot? place = some held →
        last.liveSlot? = (batcher.putSlot place slot).liveSlot? →
        last.idleLimit? = batcher.idleLimit? →
        (slot.pending ≠ [] ∨ slot.inFlight? ≠ none) →
          ∀ seat other,
            last.liveSlot? seat = some other →
              other.isIdle last.idleLimit? instant = false := by
    intro place held slot found sameSlots sameLimit work seat other isOther
    rw [sameSlots, liveSlot?_putSlot slot found] at isOther
    rw [sameLimit]
    split at isOther
    · rw [← Option.some.inj isOther]
      exact not_idle_of_work work _ _
    · exact quiet.busy seat other isOther
  cases move with
  | @seatLane passed later lane seat held isBacklog bound unbound found free =>
      refine changed found rfl rfl (Or.inl ?_)
      rw [((held.bind lane.sequence now).pushAll_fields lane.entries now).2.2.2]
      simp [Lane.entries]
  | dispatch found dispatched =>
      obtain ⟨_, _, flies⟩ := Slot.dispatch?_eq_some dispatched
      exact changed found rfl rfl (Or.inr (by simp [flies]))

theorem Moves.quiet_of_filling
    (quiet : batcher.Quiet instant)
    (moves : Moves now batcher .filling events last) :
    last.Quiet instant := by
  induction moves with
  | nil => exact quiet
  | snoc _ move inductionHypothesis => exact move.quiet_of_filling inductionHypothesis

/-- Filling slots only takes lanes out of the backlog. -/
theorem Move.backlog_of_filling
    (move : Move now batcher .filling events last) :
    last.backlog.Sublist batcher.backlog := by
  cases move with
  | dispatch => exact List.Sublist.refl _
  | @seatLane passed later seated seat held isBacklog bound unbound found free =>
      rw [isBacklog]
      exact (List.sublist_cons_self seated later).append_left passed

theorem Moves.backlog_of_filling
    (moves : Moves now batcher .filling events last) :
    last.backlog.Sublist batcher.backlog := by
  induction moves with
  | nil => exact List.Sublist.refl _
  | snoc _ move inductionHypothesis => exact move.backlog_of_filling.trans inductionHypothesis

private theorem sweepSeat_of_quiet
    {sweep : Sweep}
    (quiet : sweep.batcher.Quiet now)
    {seat : Seat}
    (present : (sweep.batcher.liveSlot? seat).isSome = true) :
    Sweep.sweepSeat now sweep seat = sweep := by
  obtain ⟨slot, found⟩ := Option.isSome_iff_exists.mp present
  obtain ⟨owner, live, isSlot⟩ := liveSlot?_eq_some.mp found
  have inTime : slot.isExpired now = false := by
    simpa [Slot.isExpired] using quiet.inTime.slots seat slot found
  simp only [Sweep.sweepSeat, table?_of_live live, isSlot, inTime, quiet.busy seat slot found,
    Bool.false_eq_true, if_false]
  split <;> rfl

private theorem foldl_sweepSeat_of_quiet
    {sweep : Sweep}
    (quiet : sweep.batcher.Quiet now)
    {seats : List Seat}
    (present : ∀ seat ∈ seats, (sweep.batcher.liveSlot? seat).isSome = true) :
    seats.foldl (Sweep.sweepSeat now) sweep = sweep := by
  induction seats with
  | nil => rfl
  | cons seat seats inductionHypothesis =>
      rw [List.foldl_cons, sweepSeat_of_quiet quiet (present seat List.mem_cons_self)]
      exact inductionHypothesis (fun other member =>
        present other (List.mem_cons_of_mem seat member))

/-- While nothing times out, applying the timeouts only drops old marks. -/
theorem Quiet.expire_eq
    (quiet : batcher.Quiet now) :
    batcher.expire now = { batcher := batcher.forgetTimedOut now, failed := [] } := by
  have inTime : ∀ lane ∈ batcher.backlog, lane.isExpired now = false := by
    intro lane member
    simpa [Lane.isExpired] using quiet.inTime.lanes lane member
  have noneExpired : batcher.backlog.filter (fun lane => lane.isExpired now) = [] := by
    rw [List.filter_eq_nil_iff]
    intro lane member
    simp [inTime lane member]
  have allLeft : batcher.backlog.filter (fun lane => !lane.isExpired now) = batcher.backlog := by
    rw [List.filter_eq_self]
    intro lane member
    simp [inTime lane member]
  have untouched :
      (batcher.forgetTimedOut now).expireBacklog now =
        { batcher := batcher.forgetTimedOut now, failed := [] } := by
    simp only [expireBacklog, forgetTimedOut, noneExpired, allLeft]
    rfl
  have still : (batcher.forgetTimedOut now).Quiet now :=
    ⟨⟨quiet.inTime.lanes, quiet.inTime.slots⟩, quiet.busy⟩
  rw [expire, untouched, expireSlots]
  exact foldl_sweepSeat_of_quiet still (fun seat member => mem_seats.mp member)

end Quiet

section Seating

variable {instanceIndex now : Nat}

/-- Seating lanes keeps every binding. -/
private theorem contains_ofLanes
    {sequence : CorrelationId}
    (lanes : List Lane)
    (table : SlotTable)
    {bindings : Directory CorrelationId Seat}
    (bound : bindings.contains sequence = true) :
    (Seating.ofLanes instanceIndex now lanes table bindings).bindings.contains sequence =
      true := by
  induction lanes generalizing table bindings with
  | nil => exact bound
  | cons lane lanes inductionHypothesis =>
      simp only [Seating.ofLanes]
      split
      · exact inductionHypothesis table bound
      · split
        · exact bound
        · apply inductionHypothesis
          rw [Directory.contains, Directory.find?_insert]
          split
          · rfl
          · exact bound

/-- When seating stops, no slot is free or every lane left waits for its own slot. -/
theorem seated_ofLanes
    (lanes : List Lane)
    (table : SlotTable)
    (bindings : Directory CorrelationId Seat) :
    let seating := Seating.ofLanes instanceIndex now lanes table bindings
    seating.table.freeSlots = [] ∨
      ∀ lane ∈ seating.remaining, seating.bindings.contains lane.sequence = true := by
  induction lanes generalizing table bindings with
  | nil => exact Or.inr (by simp [Seating.ofLanes])
  | cons lane lanes inductionHypothesis =>
      simp only [Seating.ofLanes]
      split
      · next bound =>
          rcases inductionHypothesis table bindings with full | allBound
          · exact Or.inl full
          · refine Or.inr ?_
            intro other member
            rcases List.mem_cons.mp member with isLane | inRest
            · rw [isLane]
              exact contains_ofLanes lanes table bound
            · exact allBound other inRest
      · split
        · next full =>
            refine Or.inl ?_
            unfold SlotTable.bind? at full
            split at full
            · next none => exact none
            · contradiction
        · exact inductionHypothesis _ _

/-- Seating changes nothing when no slot is free or every lane waits for its own slot. -/
theorem ofLanes_of_seated
    {lanes : List Lane}
    {table : SlotTable}
    {bindings : Directory CorrelationId Seat}
    (seated :
      table.freeSlots = [] ∨ ∀ lane ∈ lanes, bindings.contains lane.sequence = true) :
    (Seating.ofLanes instanceIndex now lanes table bindings).table = table := by
  induction lanes with
  | nil => rfl
  | cons lane lanes inductionHypothesis =>
      have later := seated.imp id (fun bound other member =>
        bound other (List.mem_cons_of_mem lane member))
      simp only [Seating.ofLanes]
      split
      · exact inductionHypothesis later
      · next unbound =>
          rcases seated with full | allBound
          · simp [SlotTable.bind?, full]
          · exact absurd (allBound lane List.mem_cons_self) unbound

end Seating

section Formation

variable {batcher : SequenceBatcher}
variable {instanceIndex other now : Nat}
variable {owner : Instance}

theorem live?_withTable
    (batcher : SequenceBatcher)
    (instanceIndex : Nat)
    (table : SlotTable)
    (other : Nat) :
    (batcher.withTable instanceIndex table).live? other =
      if other = instanceIndex then
        (batcher.live? other).map (fun held => { held with table := table })
      else
        batcher.live? other := by
  simp only [live?, withTable, List.getElem?_modify]
  by_cases same : instanceIndex = other
  · subst same
    cases batcher.instances[instanceIndex]? with
    | none => simp
    | some held => cases isHalted : held.isHalted <;> simp [Option.filter, isHalted]
  · simp [same, Ne.symm same]

theorem table?_withTable
    (batcher : SequenceBatcher)
    (instanceIndex : Nat)
    (table : SlotTable)
    (other : Nat) :
    (batcher.withTable instanceIndex table).table? other =
      if other = instanceIndex then
        (batcher.table? other).map (fun _ => table)
      else
        batcher.table? other := by
  simp only [table?, withTable, List.getElem?_modify]
  by_cases same : instanceIndex = other
  · simp [same, Function.comp_def]
  · simp [same, Ne.symm same]

/-- Seating on one instance leaves the slots of the others alone. -/
theorem live?_seatLanes_of_ne
    (distinct : other ≠ instanceIndex) :
    (batcher.seatLanes instanceIndex now).live? other = batcher.live? other := by
  simp only [seatLanes]
  split
  · rfl
  · next table _ =>
      have elsewhere := batcher.live?_withTable instanceIndex
        (Seating.ofLanes instanceIndex now batcher.backlog table batcher.bindings).table other
      rw [if_neg distinct] at elsewhere
      exact elsewhere

theorem live?_seatLanes_self
    (live : batcher.live? instanceIndex = some owner) :
    (batcher.seatLanes instanceIndex now).live? instanceIndex =
      some { owner with
        table := (Seating.ofLanes instanceIndex now batcher.backlog owner.table
          batcher.bindings).table } := by
  have atIndex := batcher.live?_withTable instanceIndex
    (Seating.ofLanes instanceIndex now batcher.backlog owner.table batcher.bindings).table
    instanceIndex
  rw [if_pos rfl, live] at atIndex
  simp only [seatLanes, table?_of_live live]
  exact atIndex

/-- After seating, no slot is free or every lane left waits for its own slot. -/
theorem seated_seatLanes
    (batcher : SequenceBatcher)
    (now : Nat)
    (live : batcher.live? instanceIndex = some owner) :
    ∃ table,
      (batcher.seatLanes instanceIndex now).live? instanceIndex =
          some { owner with table := table } ∧
        (table.freeSlots = [] ∨
          ∀ lane ∈ (batcher.seatLanes instanceIndex now).backlog,
            (batcher.seatLanes instanceIndex now).bindings.contains lane.sequence = true) := by
  refine ⟨_, live?_seatLanes_self live, ?_⟩
  simp only [seatLanes, table?_of_live live]
  exact seated_ofLanes batcher.backlog owner.table batcher.bindings

/-- On a live instance a batch is formed from its slots as they are after expiry and seating. -/
theorem formBatch_of_seated
    (live : (batcher.live? instanceIndex).isSome = true)
    (isOwner :
      ((batcher.expire now).batcher.seatLanes instanceIndex now).live? instanceIndex =
        some owner) :
    batcher.formBatch instanceIndex now =
      if owner.table.slots.any Slot.isReady then
        ((batcher.expire now).batcher.seatLanes instanceIndex now).dispatchBatch instanceIndex
          owner.table (batcher.expire now).failed now
      else
        .idle ((batcher.expire now).batcher.seatLanes instanceIndex now)
          (batcher.expire now).failed
          (((batcher.expire now).batcher.seatLanes instanceIndex now).nextWake? now) := by
  obtain ⟨held, isHeld⟩ := Option.isSome_iff_exists.mp live
  simp only [formBatch, isHeld, table?_of_live isOwner]

/-- After a formation for an instance, no slot of it is free or every lane waits for its own. -/
theorem seated_formBatch
    (coherent : batcher.Coherent)
    (live : (batcher.live? instanceIndex).isSome = true)
    (isOwner : (batcher.formBatch instanceIndex now).batcher.live? instanceIndex = some owner) :
    owner.table.freeSlots = [] ∨
      ∀ lane ∈ (batcher.formBatch instanceIndex now).batcher.backlog,
        (batcher.formBatch instanceIndex now).batcher.bindings.contains lane.sequence = true := by
  obtain ⟨_, expires, _⟩ := expire_moves coherent now
  have stillLive : ((batcher.expire now).batcher.live? instanceIndex).isSome = true := by
    rw [expires.live?_isSome, live]
  obtain ⟨sweptOwner, isSweptOwner⟩ := Option.isSome_iff_exists.mp stillLive
  obtain ⟨table, isSeated, seated⟩ :=
    (batcher.expire now).batcher.seated_seatLanes now isSweptOwner
  rw [formBatch_of_seated live isSeated] at isOwner ⊢
  split at isOwner
  · next ready =>
      -- Dispatching changes slots, but neither the free list nor lanes and bindings.
      rw [if_pos ready]
      simp only [dispatchBatch, Formation.formed, live?_withTable, if_true, isSeated,
        Option.map_some, Option.some.injEq] at isOwner
      rw [← isOwner]
      exact seated
  · next unready =>
      rw [if_neg unready]
      rw [← Option.some.inj (isSeated.symm.trans isOwner)]
      exact seated

/-- A formation for one instance does to the slots of the others what the timeouts do. -/
theorem live?_formBatch_of_ne
    (live : (batcher.live? instanceIndex).isSome = true)
    (distinct : other ≠ instanceIndex) :
    (batcher.formBatch instanceIndex now).batcher.live? other =
      (batcher.expire now).batcher.live? other := by
  obtain ⟨owner, isOwner⟩ := Option.isSome_iff_exists.mp live
  simp only [formBatch, isOwner]
  split
  · exact live?_seatLanes_of_ne distinct
  · split
    · simp only [dispatchBatch, Formation.formed]
      rw [live?_withTable, if_neg distinct]
      exact live?_seatLanes_of_ne distinct
    · exact live?_seatLanes_of_ne distinct

/-- Nothing times out before the next wake time. -/
theorem quiet_until_wake
    {instant : Nat}
    (quiet : batcher.Quiet now)
    (before : ∀ wakeAt ∈ batcher.nextWake? now, instant < wakeAt) :
    batcher.Quiet instant := by
  have laterOnly :
      ∀ due ∈ batcher.deadlines ++ batcher.liveSlots.filterMap batcher.idleDeadline?,
        now < due → instant < due := by
    intro due member after
    obtain ⟨wakeAt, isWake, notLater⟩ := earliestAfter?_le member after
    exact Nat.lt_of_lt_of_le (before wakeAt isWake) notLater
  have inTime :
      ∀ entry : QueueEntry,
        (∀ deadline ∈ entry.deadline?, deadline ∈ batcher.deadlines) →
        entry.isRejectable now = false →
          entry.isRejectable instant = false := by
    intro entry listed notLate
    refine QueueEntry.isRejectable_of_noneReached ?_ notLate
    intro deadline isDeadline reached
    have onlyLater := laterOnly deadline (List.mem_append_left _ (listed deadline isDeadline))
    omega
  refine ⟨⟨?_, ?_⟩, ?_⟩
  · intro lane member entry inLane
    apply inTime entry _ (quiet.inTime.lanes lane member entry inLane)
    intro deadline isDeadline
    exact List.mem_append_right _ (List.mem_filterMap.mpr
      ⟨entry, List.mem_flatMap.mpr ⟨lane, member, inLane⟩, isDeadline⟩)
  · intro seat slot found entry isPending
    apply inTime entry _ (quiet.inTime.slots seat slot found entry isPending)
    intro deadline isDeadline
    exact List.mem_append_left _ (List.mem_filterMap.mpr
      ⟨entry, List.mem_flatMap.mpr ⟨slot, mem_liveSlots.mpr ⟨seat, found⟩, isPending⟩,
        isDeadline⟩)
  · intro seat slot found
    have notIdle := quiet.busy seat slot found
    simp only [Slot.isIdle] at notIdle ⊢
    cases isLimit : batcher.idleLimit? with
    | none => rfl
    | some limit =>
        simp only [isLimit, Bool.and_eq_false_iff, decide_eq_false_iff_not] at notIdle ⊢
        rcases notIdle with inactive | recent
        · exact Or.inl inactive
        · by_cases resting : slot.state = .active ∧ slot.isQuiescent = true
          · have isDue : batcher.idleDeadline? slot = some (slot.lastActivity + limit) := by
              simp [idleDeadline?, resting, isLimit]
            have onlyLater := laterOnly (slot.lastActivity + limit)
              (List.mem_append_right _ (List.mem_filterMap.mpr
                ⟨slot, mem_liveSlots.mpr ⟨seat, found⟩, isDue⟩))
            unfold elapsed at recent ⊢
            exact Or.inr (by omega)
          · refine Or.inl ?_
            rw [not_and_or] at resting
            simpa using resting

/-- An instance that gets no batch is at rest until the wake time, which is still to come. -/
theorem resting_formBatch
    (coherent : batcher.Coherent)
    (live : (batcher.live? instanceIndex).isSome = true)
    (noBatch : (batcher.formBatch instanceIndex now).batch? = none) :
    let formation := batcher.formBatch instanceIndex now
    (∀ wakeAt ∈ formation.wakeAt?, now < wakeAt) ∧
      formation.batcher.Resting instanceIndex (fun instant =>
        ∀ wakeAt ∈ formation.wakeAt?, instant < wakeAt) := by
  obtain ⟨_, expires, _⟩ := expire_moves coherent now
  have stillLive : ((batcher.expire now).batcher.live? instanceIndex).isSome = true := by
    rw [expires.live?_isSome, live]
  obtain ⟨sweptOwner, isSweptOwner⟩ := Option.isSome_iff_exists.mp stillLive
  have seats := seatLanes_moves (expires.coherent coherent) isSweptOwner now
  have quiet := seats.quiet_of_filling (quiet_expire coherent now)
  obtain ⟨table, isSeated, seated⟩ :=
    (batcher.expire now).batcher.seated_seatLanes now isSweptOwner
  rw [formBatch_of_seated live isSeated] at noBatch ⊢
  generalize (batcher.expire now).batcher.seatLanes instanceIndex now = rest at *
  split at noBatch
  · contradiction
  · next unready =>
      rw [if_neg unready]
      refine ⟨fun wakeAt isWake => (earliestAfter?_mem isWake).2, ?_, ?_, ?_⟩
      · exact fun instant before => quiet_until_wake quiet before
      · intro held isHeld
        rw [← Option.some.inj (isSeated.symm.trans isHeld)]
        exact seated
      · intro held isHeld
        rw [← Option.some.inj (isSeated.symm.trans isHeld)]
        exact Bool.eq_false_iff.mpr unready

section Window

variable {window : Nat → Prop}

/-- A formation for another instance, within the window, leaves an instance at rest. -/
theorem Resting.form
    (resting : batcher.Resting instanceIndex window)
    (coherent : batcher.Coherent)
    (distinct : instanceIndex ≠ other)
    (inWindow : window now) :
    (batcher.formBatch other now).batcher.Resting instanceIndex window := by
  have phases := formBatch_phases coherent other now
  have expires := (resting.quiet now inWindow).expire_eq
  cases isLive : batcher.live? other with
  | none =>
      simp only [formBatch, isLive]
      exact resting
  | some owner =>
      have live : (batcher.live? other).isSome = true := by simp [isLive]
      have elsewhere :
          (batcher.formBatch other now).batcher.live? instanceIndex =
            (batcher.expire now).batcher.live? instanceIndex :=
        live?_formBatch_of_ne live distinct
      generalize batcher.formBatch other now = formation at phases elsewhere
      cases phases with
      | halted halted =>
          rw [halted] at live
          contradiction
      | live _ _ _ _ dispatches _ =>
          rw [expires] at dispatches elsewhere
          refine ⟨?_, ?_, ?_⟩
          · intro instant within
            have quiet := resting.quiet instant within
            have still : (batcher.forgetTimedOut now).Quiet instant :=
              ⟨⟨quiet.inTime.lanes, quiet.inTime.slots⟩, quiet.busy⟩
            exact Moves.quiet_of_filling still dispatches
          · intro held isHeld
            rw [elsewhere] at isHeld
            rcases resting.seated held isHeld with full | allBound
            · exact Or.inl full
            · refine Or.inr ?_
              intro lane member
              have bound := allBound lane (dispatches.backlog_of_filling.subset member)
              obtain ⟨seat, isSeat⟩ := Option.isSome_iff_exists.mp bound
              have still := dispatches.seat?_kept (Or.inr rfl) isSeat
              exact Option.isSome_iff_exists.mpr ⟨seat, still⟩
          · intro held isHeld
            rw [elsewhere] at isHeld
            exact resting.unready held isHeld

/-- An instance at rest gets no batch, and nothing fails on its account. -/
theorem Resting.formBatch_idle
    (resting : batcher.Resting instanceIndex window)
    (inWindow : window now) :
    (batcher.formBatch instanceIndex now).batch? = none ∧
      (batcher.formBatch instanceIndex now).failed = [] := by
  have expires := (resting.quiet now inWindow).expire_eq
  cases isLive : batcher.live? instanceIndex with
  | none => simp [formBatch, isLive, Formation.idle]
  | some owner =>
      have live : (batcher.live? instanceIndex).isSome = true := by simp [isLive]
      have stillOwner : (batcher.forgetTimedOut now).live? instanceIndex = some owner := isLive
      have isSeated :
          ((batcher.expire now).batcher.seatLanes instanceIndex now).live? instanceIndex =
            some owner := by
        have seated : owner.table.freeSlots = [] ∨
            ∀ lane ∈ (batcher.forgetTimedOut now).backlog,
              (batcher.forgetTimedOut now).bindings.contains lane.sequence = true :=
          resting.seated owner isLive
        rw [expires, live?_seatLanes_self stillOwner, ofLanes_of_seated seated]
      rw [formBatch_of_seated live isSeated, resting.unready owner isLive, expires]
      exact ⟨rfl, rfl⟩

end Window

end Formation

end SequenceBatcher

end InferenceBatching
