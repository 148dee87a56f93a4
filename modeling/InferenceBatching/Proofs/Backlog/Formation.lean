import InferenceBatching.Backlog.Formation
import InferenceBatching.Proofs.Backlog.Filling
import InferenceBatching.Proofs.Queue.Observation
import InferenceBatching.Proofs.Sequence.Run

namespace InferenceBatching

/-!
# Formation with a backlog and with lanes

What waits in a backlog is what waits in its lanes, in another order. So the next wake
time is the same, and the batches formed are, and the same requests have failed.
-/

/-- The earlier of two earliest instants is the earliest of all. -/
theorem earlier?_earliest?
    (first second : List Nat) :
    earlier? (earliest? first) (earliest? second) = earliest? (first ++ second) := by
  have both := earliest?_flatMap [first, second] id
  simp only [List.flatMap_cons, List.flatMap_nil, List.append_nil, id] at both
  rw [← both]
  cases isFirst : earliest? first <;> cases isSecond : earliest? second <;>
    simp only [List.filterMap_cons, List.filterMap_nil, isFirst, isSecond] <;> rfl

theorem earlier?_earliestAfter?
    (now : Nat)
    (first second : List Nat) :
    earlier? (earliestAfter? now first) (earliestAfter? now second) =
      earliestAfter? now (first ++ second) := by
  rw [earliestAfter?, earliestAfter?, earlier?_earliest?, ← List.filter_append, earliestAfter?]

/-- The order of instants does not matter for the first of them. -/
theorem earliestAfter?_perm
    (now : Nat)
    {first second : List Nat}
    (isPerm : first.Perm second) :
    earliestAfter? now first = earliestAfter? now second := by
  have filtered := isPerm.filter (fun instant => decide (now < instant))
  unfold earliestAfter? earliest?
  apply Option.ext
  intro instant
  rw [List.min?_eq_some_iff, List.min?_eq_some_iff, filtered.mem_iff]
  simp only [filtered.mem_iff]

/-- Two attempts form the same batch and fail the same requests, in any order. -/
structure Formation.Mirrors
    (formation : Formation BacklogBatcher)
    (other : Formation SequenceBatcher) :
    Prop where
  batcher : formation.batcher.Mirrors other.batcher
  batch : formation.batch? = other.batch?
  failed : formation.failed.Perm other.failed
  wakeAt : formation.wakeAt? = other.wakeAt?

namespace Backlog.Holds

variable {backlog : Backlog}
variable {policy : QueuePolicy}
variable {lanes : List Lane}

/-- The directory has what the lanes have behind their first requests. -/
theorem followers_perm
    (holds : backlog.Holds policy lanes) :
    (backlog.followers.entries.flatMap Prod.snd).Perm (lanes.flatMap Lane.followers) := by
  have distinctEntries : backlog.followers.entries.Nodup :=
    List.Nodup.of_map Prod.fst (List.Pairwise.imp Nat.ne_of_lt backlog.followers.ascending)
  have distinctLanes :
      (lanes.map (fun lane => (lane.sequence, lane.followers))).Nodup :=
    List.Nodup.of_map Prod.fst (by simpa [Function.comp_def] using holds.distinct)
  have same :
      backlog.followers.entries.Perm
        (lanes.map (fun lane => (lane.sequence, lane.followers))) := by
    rw [List.perm_ext_iff_of_nodup distinctEntries distinctLanes]
    rintro ⟨sequence, followers⟩
    rw [← backlog.followers.find?_eq_some_iff, holds.followers, Option.map_eq_some_iff,
      List.mem_map]
    constructor
    · rintro ⟨lane, isFound, isFollowers⟩
      have isSequence : lane.sequence = sequence := by simpa using List.find?_some isFound
      exact ⟨lane, List.mem_of_find?_eq_some isFound, by rw [isSequence, isFollowers]⟩
    · rintro ⟨lane, member, isPair⟩
      obtain ⟨isSequence, isFollowers⟩ := Prod.mk.inj isPair
      refine ⟨lane, ?_, isFollowers⟩
      rw [← isSequence]
      exact SequenceBatcher.find?_of_distinct holds.distinct member
  have flattened := same.flatMap_right Prod.snd
  rwa [List.flatMap_map] at flattened

/-- What waits in a backlog is what waits in its lanes. -/
theorem entries_perm
    (holds : backlog.Holds policy lanes) :
    backlog.entries.Perm (lanes.flatMap Lane.entries) := by
  have parts :
      (lanes.map Lane.first ++ lanes.flatMap Lane.followers).Perm
        (lanes.flatMap Lane.entries) := by
    have split := List.flatMap_append_perm lanes (fun lane => [lane.first]) Lane.followers
    rwa [← List.map_eq_flatMap] at split
  rw [Backlog.entries, holds.entries_starts]
  exact (holds.followers_perm.append_left _).trans parts

end Backlog.Holds

namespace BacklogBatcher

variable {batcher : BacklogBatcher}
variable {other : SequenceBatcher}

namespace Mirrors

theorem instances_eq
    (mirrors : batcher.Mirrors other) :
    batcher.instances = other.instances := by
  rw [← mirrors.same]
  rfl

theorem policy_eq
    (mirrors : batcher.Mirrors other) :
    batcher.policy = other.policy := by
  rw [← mirrors.same]
  rfl

/-- What waits is the same with a backlog and with its lanes. -/
theorem pendingEntries_perm
    (mirrors : batcher.Mirrors other) :
    batcher.pendingEntries.Perm other.pendingEntries := by
  rw [BacklogBatcher.pendingEntries, mirrors.instances_eq]
  exact mirrors.holds.entries_perm.append_right _

/-- The next wake time is the same with a backlog and with its lanes. -/
theorem nextWake?_eq
    (mirrors : batcher.Mirrors other)
    (now : Nat) :
    batcher.nextWake? now = other.nextWake? now := by
  have sameSlots : batcher.liveSlots = other.liveSlots := by
    rw [← mirrors.same]
    rfl
  have sameIdle :
      batcher.liveSlots.filterMap batcher.idleDeadline? =
        other.liveSlots.filterMap other.idleDeadline? := by
    rw [← mirrors.same]
    rfl
  have waiting := mirrors.holds.entries_perm.filterMap QueueEntry.deadline?
  rw [BacklogBatcher.nextWake?, PriorityQueue.nextDeadline?_eq, earlier?_earliestAfter?,
    SequenceBatcher.nextWake?, sameIdle, BacklogBatcher.deadlines, SequenceBatcher.deadlines,
    sameSlots]
  apply earliestAfter?_perm
  rw [Backlog.entries, List.filterMap_append] at waiting
  rw [List.append_assoc, List.append_assoc, List.append_assoc]
  refine List.Perm.append_left _ (List.Perm.trans ?_ (waiting.append_right _))
  rw [← List.append_assoc]
  refine List.perm_append_comm.trans ?_
  rw [List.append_assoc]

end Mirrors

/-- Dispatching leaves the backlog alone, and so does looking for the next wake time. -/
theorem dispatch_mirrors
    {sweep : Sweep Backlog}
    {seated : Sweep}
    (mirrors : sweep.Mirrors seated)
    (instanceIndex now : Nat) :
    Formation.Mirrors
      (match sweep.batcher.table? instanceIndex with
        | none => .idle sweep.batcher sweep.failed none
        | some table =>
            if table.slots.any Slot.isReady then
              sweep.batcher.dispatchBatch instanceIndex table sweep.failed now
            else
              .idle sweep.batcher sweep.failed (BacklogBatcher.nextWake? sweep.batcher now))
      (match seated.batcher.table? instanceIndex with
        | none => .idle seated.batcher seated.failed none
        | some table =>
            if table.slots.any Slot.isReady then
              seated.batcher.dispatchBatch instanceIndex table seated.failed now
            else
              .idle seated.batcher seated.failed (seated.batcher.nextWake? now)) := by
  have sameTable :
      sweep.batcher.table? instanceIndex = seated.batcher.table? instanceIndex := by
    rw [← mirrors.batcher.same]
    rfl
  rw [sameTable]
  cases seated.batcher.table? instanceIndex with
  | none => exact ⟨mirrors.batcher, rfl, mirrors.failed, rfl⟩
  | some table =>
      have sameDispatch :=
        sweep.batcher.dispatchBatch_withBacklog seated.batcher.backlog instanceIndex table
          seated.failed now
      rw [mirrors.batcher.same] at sameDispatch
      dsimp only
      split
      · rw [sameDispatch]
        exact ⟨⟨rfl, mirrors.batcher.holds⟩, rfl, mirrors.failed, rfl⟩
      · exact ⟨mirrors.batcher, rfl, mirrors.failed, mirrors.batcher.nextWake?_eq now⟩

/-- The batch that is formed, and who fails, is the same with a backlog and with its lanes. -/
theorem formBatch_mirrors
    (mirrors : batcher.Mirrors other)
    (coherent : other.Coherent)
    (instanceIndex now : Nat) :
    (batcher.formBatch instanceIndex now).Mirrors (other.formBatch instanceIndex now) := by
  have sameLive : batcher.live? instanceIndex = other.live? instanceIndex := by
    rw [← mirrors.same]
    rfl
  unfold formBatch SequenceBatcher.formBatch
  rw [sameLive]
  cases other.live? instanceIndex with
  | none => exact ⟨mirrors, rfl, List.Perm.refl _, rfl⟩
  | some owner =>
      have expired : (batcher.expire now).Mirrors (other.expire now) := by
        rw [← mirrors.same]
        exact expire_mirrors mirrors.holds now
      obtain ⟨_, expires, _⟩ := SequenceBatcher.expire_moves coherent now
      have filled := fillFreeSlots_mirrors expired instanceIndex now
        (fun _ => (expires.coherent coherent).indexed_of_table)
      generalize fillFreeSlots (batcher.expire now) instanceIndex now = sweep at filled ⊢
      generalize other.expire now = expiredLanes at filled ⊢
      exact dispatch_mirrors filled instanceIndex now

end BacklogBatcher

end InferenceBatching
