import InferenceBatching.Proofs.Backlog.Refinement

namespace InferenceBatching

/-!
# Structures that agree

Bindings, slots, free lists, the queue of first requests and the directory of what came
behind them are kept apart, and every operation changes several of them. In whatever a run
reaches they agree, also after reports that make no sense.
-/

namespace Backlog.Holds

variable {backlog : Backlog}
variable {policy : QueuePolicy}
variable {lanes : List Lane}

/-- The directory has the sequences of the first requests in the queue, and no others. -/
theorem mem_keys_followers
    (holds : backlog.Holds policy lanes)
    (sequence : CorrelationId) :
    sequence ∈ backlog.followers.keys ↔
      ∃ first ∈ backlog.starts.entries, first.request.sequence? = some sequence := by
  rw [Directory.keys, List.mem_map, holds.entries_starts]
  constructor
  · rintro ⟨⟨key, followers⟩, isPair, rfl⟩
    have isFound := backlog.followers.find?_eq_some_iff.mpr isPair
    obtain ⟨lane, member, isSequence⟩ :=
      (holds.find?_followers_isSome key).mp (by rw [isFound]; rfl)
    exact ⟨lane.first, List.mem_map_of_mem member, isSequence ▸ holds.named lane member⟩
  · rintro ⟨first, member, isSequence⟩
    obtain ⟨lane, isLane, rfl⟩ := List.mem_map.mp member
    have named : lane.sequence = sequence :=
      Option.some.inj ((holds.named lane isLane).symm.trans isSequence)
    have isFound := holds.find?_followers isLane
    rw [backlog.followers.find?_eq_some_iff] at isFound
    exact ⟨_, isFound, named⟩

/-- No two first requests in the queue are of one sequence. -/
theorem nodup_sequences
    (holds : backlog.Holds policy lanes) :
    (backlog.starts.entries.map (fun first => first.request.sequence?)).Nodup := by
  have named :
      backlog.starts.entries.map (fun first => first.request.sequence?) =
        (lanes.map Lane.sequence).map some := by
    rw [holds.entries_starts, List.map_map, List.map_map]
    exact List.map_congr_left holds.named
  rw [named, List.nodup_iff_pairwise_ne, List.pairwise_map]
  exact holds.distinct.imp (fun distinct same => distinct (Option.some.inj same))

end Backlog.Holds

namespace BacklogBatcher

/--
In every batcher that a run reaches, a sequence is bound to a seat exactly when the
slot there is on a running instance, in use, and carries the sequence; free lists
hold the free slots, which hold nothing; what is pending on a slot belongs to its
sequence. The queue of the backlog holds STARTs of distinct sequences; these sequences
and no others are the keys of the directory, and what it has under a key belongs to it.
-/
theorem reached_agreement
    (config : ModelConfig)
    (start : Nat)
    (operations : List Operation) :
    let batcher := (ofConfig config start).after operations
    (∀ sequence seat,
        batcher.bindings.find? sequence = some seat ↔
          ∃ owner slot,
            batcher.instances[seat.instanceIndex]? = some owner ∧
              owner.isHalted = false ∧
              owner.table.slots[seat.slot]? = some slot ∧
              slot.state ≠ .free ∧
              slot.sequence? = some sequence) ∧
      (∀ owner ∈ batcher.instances,
        owner.table.freeSlots.Nodup ∧
          (∀ index,
            index ∈ owner.table.freeSlots ↔
              ∃ slot, owner.table.slots[index]? = some slot ∧ slot.state = .free) ∧
          ∀ slot ∈ owner.table.slots,
            (slot.state = .free →
                slot.sequence? = none ∧ slot.pending = [] ∧ slot.inFlight? = none) ∧
              (slot.state ≠ .free → slot.sequence?.isSome = true) ∧
              ∀ entry ∈ slot.pending, entry.request.sequence? = slot.sequence?) ∧
      (∀ first ∈ batcher.backlog.starts.entries,
        first.request.starts = true ∧ first.request.sequence?.isSome = true) ∧
      (batcher.backlog.starts.entries.map (fun first => first.request.sequence?)).Nodup ∧
      (∀ sequence,
        sequence ∈ batcher.backlog.followers.keys ↔
          ∃ first ∈ batcher.backlog.starts.entries, first.request.sequence? = some sequence) ∧
      ∀ sequence followers,
        batcher.backlog.followers.find? sequence = some followers →
          ∀ entry ∈ followers, entry.request.sequence? = some sequence := by
  intro batcher
  obtain ⟨mirrors, lanes⟩ : batcher.Coherent := (coherent_ofConfig config start).after operations
  have holds := mirrors.holds
  refine ⟨lanes.seat?_eq_some_iff, ?_, ?_, holds.nodup_sequences, holds.mem_keys_followers, ?_⟩
  · intro owner isInstance
    have indexed := lanes.indexed owner isInstance
    refine ⟨indexed.ascending.imp Nat.ne_of_lt, indexed.freeIff, ?_⟩
    intro slot isSlot
    have sound := lanes.slots owner isInstance slot isSlot
    refine ⟨?_, ?_, sound.carried⟩
    · intro free
      exact ⟨sound.freeSequence free, sound.freePending free, sound.freeInFlight free⟩
    · intro used
      obtain ⟨sequence, carries⟩ := sound.usedSequence used
      simp [carries]
  · intro first member
    rw [holds.entries_starts] at member
    obtain ⟨lane, isLane, rfl⟩ := List.mem_map.mp member
    exact ⟨(lanes.lanes lane isLane).starts, by simp [holds.named lane isLane]⟩
  · intro sequence followers isFound entry member
    rw [holds.followers, Option.map_eq_some_iff] at isFound
    obtain ⟨lane, isLane, rfl⟩ := isFound
    have isSequence : lane.sequence = sequence := by simpa using List.find?_some isLane
    rw [← isSequence]
    exact (lanes.lanes lane (List.mem_of_find?_eq_some isLane)).carried entry
      (List.mem_cons_of_mem lane.first member)

end BacklogBatcher

end InferenceBatching
