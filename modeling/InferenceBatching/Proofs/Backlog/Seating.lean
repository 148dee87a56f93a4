import InferenceBatching.Proofs.Backlog.Refinement
import InferenceBatching.Proofs.Sequence.Seating

namespace InferenceBatching

/-!
# How waiting sequences get free slots

The loop over the queue of the backlog gives the free slots of an instance, in their
order, to the first requests of unbound sequences, in theirs, each with what came behind
it. Those that it passes over go back to where they were.
-/

namespace Backlog.Holds

variable {backlog : Backlog}
variable {policy : QueuePolicy}
variable {lanes : List Lane}

/-- A lane is known by its first request. -/
theorem eq_of_first
    (holds : backlog.Holds policy lanes)
    {lane other : Lane}
    (member : lane ∈ lanes)
    (otherMember : other ∈ lanes)
    (same : lane.first = other.first) :
    lane = other := by
  have sameSequence : lane.sequence = other.sequence := by
    have named := holds.named lane member
    rw [same, holds.named other otherMember] at named
    exact (Option.some.inj named).symm
  exact List.inj_on_of_nodup_map holds.distinct member otherMember sameSequence

/-- Lanes that meet items in order do so with their first requests. -/
theorem zip_first
    (holds : backlog.Holds policy lanes)
    (keep : CorrelationId → Bool)
    {Item : Type}
    (items : List Item) :
    (backlog.starts.entries.filter (fun first => first.request.sequence?.any keep)).zip items =
      ((lanes.filter (fun lane => keep lane.sequence)).zip items).map (fun pair =>
        (pair.1.first, pair.2)) := by
  have kept :
      lanes.filter (fun lane => lane.first.request.sequence?.any keep) =
        lanes.filter (fun lane => keep lane.sequence) := by
    apply List.filter_congr
    intro lane member
    rw [holds.named lane member, Option.any_some]
  rw [holds.entries_starts, List.filter_map, List.zip_map_left]
  exact congrArg _ (congrArg (fun kept => kept.zip items) kept)

/-- The first requests of the lanes that are not taken stay in their order. -/
theorem filter_first
    (holds : backlog.Holds policy lanes)
    {taken : List Lane}
    (fromLanes : ∀ lane ∈ taken, lane ∈ lanes) :
    (lanes.filter (fun lane => lane ∉ taken)).map Lane.first =
      backlog.starts.entries.filter (fun first => first ∉ taken.map Lane.first) := by
  rw [holds.entries_starts, List.filter_map]
  congr 1
  apply List.filter_congr
  intro lane member
  have isTaken : lane.first ∈ taken.map Lane.first ↔ lane ∈ taken := by
    constructor
    · intro listed
      obtain ⟨other, isOther, same⟩ := List.mem_map.mp listed
      exact holds.eq_of_first (fromLanes other isOther) member same ▸ isOther
    · exact List.mem_map_of_mem
  simp only [Function.comp_apply, isTaken]

end Backlog.Holds

/-- Lanes of other sequences do not matter for a look-up. -/
theorem find?_filter_notMem
    {lanes taken : List Lane}
    {sequence : CorrelationId}
    (spared : ∀ lane ∈ taken, lane.sequence ≠ sequence) :
    (lanes.filter (fun lane => lane ∉ taken)).find? (fun lane => lane.sequence = sequence) =
      lanes.find? (fun lane => lane.sequence = sequence) := by
  rw [List.find?_filter]
  congr 1
  funext lane
  by_cases isSequence : lane.sequence = sequence
  · have notTaken : lane ∉ taken := fun isTaken => spared lane isTaken isSequence
    simp [isSequence, notTaken]
  · simp [isSequence]

namespace BacklogBatcher

/-- Lanes stand behind a coherent batcher before its timeouts are applied, and after that. -/
theorem Coherent.sweep_mirrors
    {batcher : BacklogBatcher}
    (coherent : batcher.Coherent)
    (swept : Bool)
    (now : Nat) :
    ∃ other : Sweep,
      Sweep.Mirrors (if swept then batcher.expire now else { batcher := batcher, failed := [] })
          other ∧
        other.batcher.Coherent := by
  cases swept with
  | false =>
      exact ⟨{ batcher := batcher.lanes, failed := [] },
        ⟨coherent.mirrors, List.Perm.refl _, rfl⟩, coherent.lanes⟩
  | true =>
      obtain ⟨_, expires, _⟩ := SequenceBatcher.expire_moves coherent.lanes now
      exact ⟨batcher.lanes.expire now, expire_mirrors coherent.mirrors.holds now,
        expires.coherent coherent.lanes⟩

/--
How the free slots of a live instance are filled from the backlog, in a batcher that a run
has reached, or in it with the timeouts applied. The STARTs of unbound sequences, in the
order of the queue, meet the free slots, in ascending order. Each of them is bound to its
slot, with what the directory has under its sequence pending behind it in order, and leaves
the queue and the directory. The other STARTs stay in the queue, in order and unchanged, and
stop only because no slot is left or the sequences of all of them are bound. Nothing else
changes, no request is lost, and none fails.
-/
theorem starts_seated_in_order
    (config : ModelConfig)
    (start : Nat)
    (operations : List Operation)
    (swept : Bool)
    (instanceIndex now : Nat) :
    let reached := (ofConfig config start).after operations
    let sweep : Sweep Backlog :=
      if swept then BacklogBatcher.expire reached now else { batcher := reached, failed := [] }
    let batcher := sweep.batcher
    let filled := fillFreeSlots sweep instanceIndex now
    let last := filled.batcher
    ∀ owner,
      batcher.live? instanceIndex = some owner →
        let isUnbound := fun (sequence : CorrelationId) =>
          (batcher.bindings.find? sequence).isNone
        let unbound := batcher.backlog.starts.entries.filter (fun first =>
          first.request.sequence?.any isUnbound)
        let free := (List.range owner.table.size).filter (fun index =>
          (owner.table.slot? index).any (fun slot => slot.state = .free))
        let pairs := unbound.zip free
        (∀ pair ∈ pairs,
            ∃ sequence followers,
              pair.1.request.sequence? = some sequence ∧
                batcher.backlog.followers.find? sequence = some followers ∧
                last.bindings.find? sequence =
                  some { instanceIndex := instanceIndex, slot := pair.2 } ∧
                last.slotAt? { instanceIndex := instanceIndex, slot := pair.2 } =
                  some {
                    sequence? := some sequence
                    state := .active
                    lastActivity := now
                    pending := pair.1 :: followers
                    inFlight? := none } ∧
                last.backlog.followers.find? sequence = none) ∧
          last.backlog.starts.entries =
            batcher.backlog.starts.entries.filter (fun first => first ∉ pairs.map Prod.fst) ∧
          ((∀ index slot,
              last.slotAt? { instanceIndex := instanceIndex, slot := index } = some slot →
                slot.state ≠ .free) ∨
            ∀ first ∈ last.backlog.starts.entries,
              ∃ sequence seat,
                first.request.sequence? = some sequence ∧
                  last.bindings.find? sequence = some seat) ∧
          (∀ sequence,
            (∀ pair ∈ pairs, pair.1.request.sequence? ≠ some sequence) →
              last.bindings.find? sequence = batcher.bindings.find? sequence ∧
                last.backlog.followers.find? sequence =
                  batcher.backlog.followers.find? sequence) ∧
          (∀ index,
            (∀ pair ∈ pairs, pair.2 ≠ index) →
              last.slotAt? { instanceIndex := instanceIndex, slot := index } =
                batcher.slotAt? { instanceIndex := instanceIndex, slot := index }) ∧
          (∀ other, other ≠ instanceIndex → last.table? other = batcher.table? other) ∧
          (∀ first ∈ batcher.backlog.starts.entries, first.request.starts = true) ∧
          (BacklogBatcher.pendingEntries last).Perm (BacklogBatcher.pendingEntries batcher) ∧
          filled.failed = sweep.failed := by
  intro reached sweep batcher filled last owner live isUnbound unbound free pairs
  have reachedCoherent : reached.Coherent := (coherent_ofConfig config start).after operations
  obtain ⟨other, mirrors, coherent⟩ :
      ∃ other : Sweep, sweep.Mirrors other ∧ other.batcher.Coherent :=
    reachedCoherent.sweep_mirrors swept now
  have holds := mirrors.batcher.holds
  have sameLive : other.batcher.live? instanceIndex = some owner := by
    rw [mirrors.batcher.live?_eq]
    exact live
  have filledMirrors :=
    fillFreeSlots_mirrors mirrors instanceIndex now (fun _ => coherent.indexed_of_table)
  have lastHolds := filledMirrors.batcher.holds
  obtain ⟨seated, left, stops, sameBindings, sameSlots, sameTables, waiting⟩ :=
    SequenceBatcher.lanes_seated coherent sameLive now
  simp only [mirrors.batcher.seat?_eq, mirrors.batcher.slotAt?_eq, mirrors.batcher.table?_eq,
    filledMirrors.batcher.seat?_eq, filledMirrors.batcher.slotAt?_eq,
    filledMirrors.batcher.table?_eq] at seated left stops sameBindings sameSlots sameTables
  let lanes := (other.batcher.backlog.filter (fun lane => isUnbound lane.sequence)).zip free
  have isPairs : pairs = lanes.map (fun pair => (pair.1.first, pair.2)) :=
    holds.zip_first isUnbound free
  have fromBacklog : ∀ lane ∈ lanes.map Prod.fst, lane ∈ other.batcher.backlog := by
    intro lane member
    obtain ⟨⟨_, index⟩, isPair, rfl⟩ := List.mem_map.mp member
    exact (List.mem_filter.mp (List.of_mem_zip isPair).1).1
  have sequences :
      ∀ sequence,
        (∀ pair ∈ pairs, pair.1.request.sequence? ≠ some sequence) →
          ∀ pair ∈ lanes, pair.1.sequence ≠ sequence := by
    intro sequence others pair member isSequence
    refine others (pair.1.first, pair.2) ?_ ?_
    · rw [isPairs]
      exact List.mem_map_of_mem (f := fun pair : Lane × Nat => (pair.1.first, pair.2)) member
    · rw [← isSequence]
      exact holds.named pair.1 (fromBacklog pair.1 (List.mem_map_of_mem member))
  refine ⟨?_, ?_, ?_, ?_, ?_, sameTables, ?_, ?_, ?_⟩
  · intro pair member
    rw [isPairs] at member
    obtain ⟨⟨lane, index⟩, isPair, rfl⟩ := List.mem_map.mp member
    obtain ⟨bound, occupied, gone⟩ := seated _ isPair
    have isLane := fromBacklog lane (List.mem_map_of_mem (f := Prod.fst) isPair)
    refine ⟨lane.sequence, lane.followers, holds.named lane isLane, holds.find?_followers isLane,
      bound, occupied, ?_⟩
    have isGone := lastHolds.followers lane.sequence
    rw [isGone]
    exact congrArg (Option.map Lane.followers) gone
  · rw [lastHolds.entries_starts, left, isPairs, List.map_map]
    exact (holds.filter_first fromBacklog).trans (by rw [List.map_map]; rfl)
  · refine stops.imp id ?_
    intro allBound first member
    rw [lastHolds.entries_starts] at member
    obtain ⟨lane, isLane, rfl⟩ := List.mem_map.mp member
    obtain ⟨place, isBound⟩ := Option.isSome_iff_exists.mp (allBound lane isLane)
    exact ⟨lane.sequence, place, lastHolds.named lane isLane, isBound⟩
  · intro sequence others
    refine ⟨sameBindings sequence (sequences sequence others), ?_⟩
    rw [lastHolds.followers, holds.followers, left]
    congr 1
    apply find?_filter_notMem
    intro lane member
    obtain ⟨pair, isPair, rfl⟩ := List.mem_map.mp member
    exact sequences sequence others pair isPair
  · intro index others
    apply sameSlots
    intro pair member
    refine others (pair.1.first, pair.2) ?_
    rw [isPairs]
    exact List.mem_map_of_mem (f := fun pair : Lane × Nat => (pair.1.first, pair.2)) member
  · intro first member
    rw [holds.entries_starts] at member
    obtain ⟨lane, isLane, rfl⟩ := List.mem_map.mp member
    exact (coherent.lanes lane isLane).starts
  · exact (filledMirrors.batcher.pendingEntries_perm.trans waiting).trans
      mirrors.batcher.pendingEntries_perm.symm
  · refine failed_fillFreeSlots holds instanceIndex now ?_
    intro table isTable
    exact coherent.indexed_of_table ((mirrors.batcher.table?_eq instanceIndex).trans isTable)

/-- The sequence that is first in the backlog still ends, so the second gets the free slot. -/
theorem starts_seated_in_order_of_three :
    let config : ModelConfig := { name := "model", sequenceBatching? := some { maxSequences := 2 } }
    let report : DispatchRecord :=
      { request := 2, slot? := some 1, sequence? := some 8, ends := true }
    let operations : List Operation :=
      [.enqueue { id := 1, sequence? := some 7, starts := true, ends := true } 0,
        .enqueue { id := 2, sequence? := some 8, starts := true, ends := true } 0,
        .form 0 0,
        .enqueue { id := 3, sequence? := some 7, starts := true } 1,
        .enqueue { id := 4, sequence? := some 9, starts := true } 1,
        .enqueue { id := 5, sequence? := some 10, starts := true } 1,
        .enqueue { id := 6, sequence? := some 9 } 1,
        .complete 0 [report] 2]
    let batcher := (ofConfig config 0).after operations
    let filled := fillFreeSlots { batcher := batcher, failed := [] } 0 3
    (batcher.live? 0).isSome = true ∧
      filled.batcher.bindings.find? 9 = some { instanceIndex := 0, slot := 1 } ∧
      filled.batcher.backlog.followers.find? 9 = none ∧
      filled.batcher.bindings.find? 7 = batcher.bindings.find? 7 ∧
      filled.batcher.backlog.starts.entries.map (fun first => first.request.id) = [3, 5] := by
  intro config report operations batcher filled
  have live : (batcher.live? 0).isSome = true := by decide
  obtain ⟨owner, isOwner⟩ := Option.isSome_iff_exists.mp live
  have inOrder := starts_seated_in_order config 0 operations false 0 3
  have isReached : (ofConfig config 0).after operations = batcher := rfl
  have isFilled : fillFreeSlots { batcher := batcher, failed := [] } 0 3 = filled := rfl
  simp only [Bool.false_eq_true, if_false, isReached, isFilled] at inOrder
  obtain ⟨seated, _, _, others, _⟩ := inOrder owner isOwner
  have isPaired :
      (batcher.live? 0).map (fun owner =>
          ((batcher.backlog.starts.entries.filter (fun first =>
              first.request.sequence?.any (fun sequence =>
                (batcher.bindings.find? sequence).isNone))).zip
            ((List.range owner.table.size).filter (fun index =>
              (owner.table.slot? index).any (fun slot => slot.state = .free)))).map
            (fun pair => (pair.1.request.sequence?, pair.2))) =
        some [(some 9, 1)] := by
    decide
  rw [isOwner, Option.map_some, Option.some.injEq] at isPaired
  obtain ⟨pair, onlyPair, isPair⟩ := List.map_eq_singleton_iff.mp isPaired
  obtain ⟨isSequence, isSlot⟩ := Prod.mk.inj isPair
  obtain ⟨sequence, followers, carries, _, bound, _, gone⟩ :=
    seated pair (by rw [onlyPair]; exact List.mem_singleton_self pair)
  have isNine : sequence = 9 := Option.some.inj (carries.symm.trans isSequence)
  rw [isNine] at bound gone
  rw [isSlot] at bound
  refine ⟨live, bound, gone, (others 7 ?_).1, by decide⟩
  intro other member
  have isOther : other = pair := List.mem_singleton.mp (onlyPair ▸ member)
  simp [isOther, isSequence]

end BacklogBatcher

end InferenceBatching
