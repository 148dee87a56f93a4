import InferenceBatching.Proofs.Directory
import InferenceBatching.Proofs.Sequence.Coherence
import InferenceBatching.Sequence.Settlement

namespace InferenceBatching

/-!
# Halting and draining

Halting an instance takes its seats out of sight, unbinds the sequences on it,
and tears their slots down. Draining empties the backlog and tears every slot
down where it is. Neither is a move, as both change many slots at once.
-/

namespace SequenceBatcher

private theorem unseat_eq
    (handover : Handover SequenceBatcher)
    (binding : CorrelationId × Seat) :
    unseat handover binding =
      { batcher := {
          handover.batcher with
          bindings := handover.batcher.bindings.erase binding.1
          instances :=
            handover.batcher.instances.modify binding.2.instanceIndex (fun held =>
              { held with table := (held.table.beginTeardown binding.2.slot).2 }) }
        requests :=
          handover.requests ++
            requestsOf
              (((handover.batcher.table? binding.2.instanceIndex).map (fun table =>
                (table.beginTeardown binding.2.slot).1)).getD []) } := by
  simp only [unseat]
  cases isHeld : handover.batcher.instances[binding.2.instanceIndex]? with
  | none =>
      have unchanged :
          handover.batcher.instances.modify binding.2.instanceIndex (fun held =>
            { held with table := (held.table.beginTeardown binding.2.slot).2 }) =
              handover.batcher.instances := by
        apply List.ext_getElem?
        intro index
        rw [List.getElem?_modify]
        by_cases same : binding.2.instanceIndex = index
        · simp [← same, isHeld]
        · simp [same]
      simp [table?, isHeld, unchanged, requestsOf]
  | some held =>
      simp only [table?, isHeld, Option.map_some, Option.getD_some, withTable]
      congr 2
      apply List.ext_getElem?
      intro index
      rw [List.getElem?_modify, List.getElem?_modify]
      by_cases same : binding.2.instanceIndex = index
      · simp [← same, isHeld]
      · simp [same]

/-- Tearing down the seats of several bindings into an instance, one after the other. -/
private theorem foldl_unseat
    {instanceIndex : Nat}
    {bindings : List (CorrelationId × Seat)}
    (within : ∀ binding ∈ bindings, binding.2.instanceIndex = instanceIndex)
    (handover : Handover SequenceBatcher) :
    let indices := bindings.map (fun binding => binding.2.slot)
    bindings.foldl unseat handover =
      { batcher := {
          handover.batcher with
          bindings :=
            bindings.foldl (fun held binding => held.erase binding.1)
              handover.batcher.bindings
          instances :=
            handover.batcher.instances.modify instanceIndex (fun held =>
              { held with table := (held.table.tearDownEach indices).2 }) }
        requests :=
          handover.requests ++
            requestsOf
              (((handover.batcher.table? instanceIndex).map (fun table =>
                (table.tearDownEach indices).1)).getD []) } := by
  induction bindings generalizing handover with
  | nil =>
      have unchanged :
          handover.batcher.instances.modify instanceIndex (fun held => held) =
            handover.batcher.instances :=
        List.modify_id _ _
      cases handover.batcher.table? instanceIndex <;>
        simp [SlotTable.tearDownEach, requestsOf, unchanged]
  | cons binding bindings inductionHypothesis =>
      have isInstance := within binding List.mem_cons_self
      have later := inductionHypothesis
        (fun other member => within other (List.mem_cons_of_mem binding member))
        (unseat handover binding)
      rw [List.foldl_cons, later, unseat_eq, isInstance]
      simp only [List.modify_modify_eq, Function.comp_def, List.append_assoc, Handover.mk.injEq]
      refine ⟨?_, ?_⟩
      · rfl
      · congr 1
        cases isHeld : handover.batcher.instances[instanceIndex]? with
        | none => simp [table?, isHeld, requestsOf]
        | some held =>
            simp [table?, isHeld, SlotTable.tearDownEach, requestsOf]

/-- Halting an instance tears down the seats that are bound, in the order of their sequences. -/
theorem halt_eq
    (batcher : SequenceBatcher)
    (instanceIndex : Nat) :
    let bindings := batcher.bindingsOf instanceIndex
    let indices := bindings.map (fun binding => binding.2.slot)
    batcher.halt instanceIndex =
      { batcher := {
          batcher with
          bindings := bindings.foldl (fun held binding => held.erase binding.1) batcher.bindings
          instances :=
            batcher.instances.modify instanceIndex (fun held =>
              { table := (held.table.tearDownEach indices).2, isHalted := true }) }
        requests :=
          requestsOf
            (((batcher.table? instanceIndex).map (fun table =>
              (table.tearDownEach indices).1)).getD []) } := by
  have within :
      ∀ binding ∈ batcher.bindingsOf instanceIndex,
        binding.2.instanceIndex = instanceIndex := by
    intro binding member
    simpa using (List.mem_filter.mp member).2
  dsimp only
  simp only [halt]
  rw [foldl_unseat within]
  simp only [List.modify_modify_eq, Function.comp_def, List.nil_append, table?]
  congr 2
  rw [List.getElem?_modify]
  cases batcher.instances[instanceIndex]? <;> simp

section Halt

variable (batcher : SequenceBatcher)
variable (instanceIndex : Nat)

@[simp]
theorem backlog_halt :
    (batcher.halt instanceIndex).batcher.backlog = batcher.backlog := by
  rw [halt_eq]

/-- Halting an instance unbinds the sequences on it and no others. -/
theorem seat?_halt
    (sequence : CorrelationId) :
    (batcher.halt instanceIndex).batcher.seat? sequence =
      (batcher.seat? sequence).filter (fun seat => seat.instanceIndex ≠ instanceIndex) := by
  have bound :
      ∀ seat,
        (sequence, seat) ∈ batcher.bindingsOf instanceIndex ↔
          batcher.seat? sequence = some seat ∧ seat.instanceIndex = instanceIndex := by
    intro seat
    simp [bindingsOf, seat?, Directory.find?_eq_some_iff]
  rw [halt_eq, seat?, Directory.find?_foldl_erase Prod.fst]
  change (if _ then none else batcher.seat? sequence) = _
  cases isSeat : batcher.seat? sequence with
  | none => simp
  | some seat =>
      by_cases within : seat.instanceIndex = instanceIndex
      · have member : sequence ∈ (batcher.bindingsOf instanceIndex).map Prod.fst :=
          List.mem_map.mpr ⟨(sequence, seat), (bound seat).mpr ⟨isSeat, within⟩, rfl⟩
        simp [member, within, Option.filter]
      · have notMember : sequence ∉ (batcher.bindingsOf instanceIndex).map Prod.fst := by
          intro member
          obtain ⟨⟨_, other⟩, inBindings, rfl⟩ := List.mem_map.mp member
          obtain ⟨alsoSeat, alsoWithin⟩ := (bound other).mp inBindings
          have same : seat = other := Option.some.inj (isSeat.symm.trans alsoSeat)
          exact within (same ▸ alsoWithin)
        simp [notMember, within, Option.filter]

theorem live?_halt
    (other : Nat) :
    (batcher.halt instanceIndex).batcher.live? other =
      if other = instanceIndex then none else batcher.live? other := by
  rw [halt_eq]
  simp only [live?, List.getElem?_modify]
  by_cases same : instanceIndex = other
  · subst same
    cases batcher.instances[instanceIndex]? <;> simp [Option.filter]
  · simp [same, Ne.symm same]

@[simp]
theorem tableSizes_halt :
    (batcher.halt instanceIndex).batcher.tableSizes = batcher.tableSizes := by
  rw [halt_eq]
  apply map_size_modify
  intro held
  exact held.table.size_tearDownEach _

/-- Halting an instance takes its slots out of sight. -/
theorem liveSlot?_halt
    (seat : Seat) :
    (batcher.halt instanceIndex).batcher.liveSlot? seat =
      if seat.instanceIndex = instanceIndex then none else batcher.liveSlot? seat := by
  rw [liveSlot?, live?_halt]
  split
  · rfl
  · rfl

variable {batcher}

private theorem table_of_mem_halt
    {held : Instance}
    (member : held ∈ (batcher.halt instanceIndex).batcher.instances) :
    ∃ owner ∈ batcher.instances,
      ∃ indices, held.table = (owner.table.tearDownEach indices).2 := by
  rw [halt_eq] at member
  obtain ⟨index, isHeld⟩ := List.mem_iff_getElem?.mp member
  simp only [List.getElem?_modify] at isHeld
  cases isOwner : batcher.instances[index]? with
  | none => simp [isOwner] at isHeld
  | some owner =>
      refine ⟨owner, List.mem_of_getElem? isOwner, ?_⟩
      simp only [isOwner, Option.map_eq_map, Option.map_some, Option.some.injEq] at isHeld
      rw [← isHeld]
      split
      · exact ⟨_, rfl⟩
      · exact ⟨[], rfl⟩

theorem Coherent.halt
    (coherent : batcher.Coherent) :
    (batcher.halt instanceIndex).batcher.Coherent where
  boundIff := by
    intro sequence seat
    rw [seat?_halt, Carries, liveSlot?_halt, Option.filter_eq_some_iff,
      coherent.boundIff sequence seat, Carries]
    by_cases within : seat.instanceIndex = instanceIndex
    · simp [within]
    · simp [within]
  indexed := by
    intro held member
    obtain ⟨owner, isInstance, indices, isTable⟩ := table_of_mem_halt instanceIndex member
    rw [isTable]
    exact (coherent.indexed owner isInstance).tearDownEach indices
  slots := by
    intro held member
    obtain ⟨owner, isInstance, indices, isTable⟩ := table_of_mem_halt instanceIndex member
    rw [isTable]
    exact SlotTable.sound_tearDownEach (coherent.slots owner isInstance) indices
  lanes := by
    rw [backlog_halt]
    exact coherent.lanes
  distinct := by
    rw [backlog_halt]
    exact coherent.distinct

end Halt

section Drain

variable {batcher : SequenceBatcher}

theorem live?_isSome_drain
    (batcher : SequenceBatcher)
    (instanceIndex : Nat) :
    (batcher.drain.batcher.live? instanceIndex).isSome =
      (batcher.live? instanceIndex).isSome := by
  simp only [live?, drain, List.getElem?_map]
  cases batcher.instances[instanceIndex]? with
  | none => rfl
  | some held => cases isHalted : held.isHalted <;> simp [Option.filter, isHalted]

@[simp]
theorem tableSizes_drain
    (batcher : SequenceBatcher) :
    batcher.drain.batcher.tableSizes = batcher.tableSizes := by
  simp [tableSizes, drain, SlotTable.tearDownAll, SlotTable.size]

/-- Draining leaves every slot in its place, torn down. -/
theorem liveSlot?_drain
    (batcher : SequenceBatcher)
    (seat : Seat) :
    batcher.drain.batcher.liveSlot? seat = (batcher.liveSlot? seat).map Slot.tearDown := by
  simp only [liveSlot?, live?, drain, List.getElem?_map]
  cases batcher.instances[seat.instanceIndex]? with
  | none => rfl
  | some held =>
      cases isHalted : held.isHalted <;>
        simp [Option.filter, isHalted, SlotTable.tearDownAll, SlotTable.slot?]

theorem Coherent.drain
    (coherent : batcher.Coherent) :
    batcher.drain.batcher.Coherent where
  boundIff := by
    intro sequence seat
    change batcher.seat? sequence = some seat ↔ _
    rw [coherent.boundIff sequence seat, Carries, Carries, liveSlot?_drain]
    cases batcher.liveSlot? seat with
    | none => simp
    | some slot => simp [Slot.tearDown_state]
  indexed := by
    intro held member
    obtain ⟨owner, isInstance, isHeld⟩ := List.mem_map.mp member
    rw [← isHeld]
    exact (coherent.indexed owner isInstance).tearDownAll
  slots := by
    intro held member slot isSlot
    obtain ⟨owner, isInstance, isHeld⟩ := List.mem_map.mp member
    subst isHeld
    obtain ⟨other, inOwner, isOther⟩ := List.mem_map.mp isSlot
    rw [← isOther]
    exact (coherent.slots owner isInstance other inOwner).tearDown
  lanes := by simp [SequenceBatcher.drain]
  distinct := List.nodup_nil

end Drain

end SequenceBatcher

end InferenceBatching
