import InferenceBatching.Backlog.Basic
import InferenceBatching.Proofs.Directory
import InferenceBatching.Proofs.Queue.Single
import InferenceBatching.Proofs.Sequence.Coherence

namespace InferenceBatching

/-!
# Backlogs as lanes

A backlog holds lanes: the first requests of the lanes are queued in their order, under
numbers that tell them apart, and the directory has for each of these numbers, and for
no other, what came behind. `Holds` is that agreement between the two places. A batcher
with a backlog mirrors one with lanes if its backlog holds them and all else is the same.
-/

namespace Lane

/-- A lane after an entry has come for a sequence. -/
def followedBy
    (sequence : CorrelationId)
    (entry : QueueEntry)
    (lane : Lane) :
    Lane :=
  if lane.sequence = sequence then
    { lane with followers := lane.followers ++ [entry] }
  else
    lane

@[simp]
theorem first_followedBy
    (lane : Lane)
    (sequence : CorrelationId)
    (entry : QueueEntry) :
    (lane.followedBy sequence entry).first = lane.first := by
  unfold followedBy
  split <;> rfl

@[simp]
theorem sequence_followedBy
    (lane : Lane)
    (sequence : CorrelationId)
    (entry : QueueEntry) :
    (lane.followedBy sequence entry).sequence = lane.sequence := by
  unfold followedBy
  split <;> rfl

end Lane

namespace Backlog

/-- The lane of a first request that waits: with what the directory has under its number. -/
def laneOf
    (backlog : Backlog)
    (first : QueueEntry) :
    Lane :=
  let sequence := first.request.sequence?.getD 0
  { sequence := sequence
    first := first
    followers := (backlog.followers.find? sequence).getD [] }

/-- The lanes that a backlog stands for. -/
def lanes
    (backlog : Backlog) :
    List Lane :=
  backlog.starts.entries.map backlog.laneOf

/-- The queue and the directory of a backlog agree with lanes, and so with each other. -/
structure Holds
    (backlog : Backlog)
    (policy : QueuePolicy)
    (lanes : List Lane) :
    Prop where
  starts : backlog.starts = .single policy (lanes.map Lane.first)
  followers :
    ∀ sequence,
      backlog.followers.find? sequence =
        (lanes.find? (fun lane => lane.sequence = sequence)).map Lane.followers
  named : ∀ lane ∈ lanes, lane.first.request.sequence? = some lane.sequence
  distinct : (lanes.map Lane.sequence).Nodup

theorem holds_empty
    (policy : QueuePolicy) :
    (empty policy).Holds policy [] where
  starts := PriorityQueue.ofLayout_single policy
  followers := by simp [empty, Directory.find?_empty]
  named := by simp
  distinct := List.nodup_nil

namespace Holds

variable {backlog : Backlog}
variable {policy : QueuePolicy}
variable {lanes : List Lane}

theorem find?_followers
    (holds : backlog.Holds policy lanes)
    {lane : Lane}
    (member : lane ∈ lanes) :
    backlog.followers.find? lane.sequence = some lane.followers := by
  rw [holds.followers, SequenceBatcher.find?_of_distinct holds.distinct member, Option.map_some]

theorem find?_followers_isSome
    (holds : backlog.Holds policy lanes)
    (sequence : CorrelationId) :
    (backlog.followers.find? sequence).isSome = true ↔
      ∃ lane ∈ lanes, lane.sequence = sequence := by
  simp [holds.followers]

/-- The lanes can be read off the backlog. -/
theorem lanes_eq
    (holds : backlog.Holds policy lanes) :
    backlog.lanes = lanes := by
  rw [Backlog.lanes, holds.starts, PriorityQueue.entries_single, List.map_map]
  refine (List.map_congr_left ?_).trans (List.map_id lanes)
  intro lane member
  simp [laneOf, holds.named lane member, holds.find?_followers member]

/-- No two backlogs hold the same lanes. -/
theorem unique
    (holds : backlog.Holds policy lanes)
    {other : Backlog}
    (otherHolds : other.Holds policy lanes) :
    backlog = other := by
  have sameFollowers : backlog.followers = other.followers :=
    Directory.eq_of_find? (fun sequence =>
      (holds.followers sequence).trans (otherHolds.followers sequence).symm)
  cases backlog
  cases other
  simp only [mk.injEq]
  exact ⟨holds.starts.trans otherHolds.starts.symm, sameFollowers⟩

theorem entries_starts
    (holds : backlog.Holds policy lanes) :
    backlog.starts.entries = lanes.map Lane.first := by
  rw [holds.starts, PriorityQueue.entries_single]

theorem size_starts
    (holds : backlog.Holds policy lanes) :
    backlog.starts.size = lanes.length := by
  rw [holds.starts, PriorityQueue.size_single, List.length_map]

/-- A request goes behind the first one of its lane; without a lane it cannot. -/
theorem follow?_none
    (holds : backlog.Holds policy lanes)
    {sequence : CorrelationId}
    (absent : lanes.find? (fun lane => lane.sequence = sequence) = none)
    (entry : QueueEntry) :
    backlog.follow? sequence entry = none := by
  simp [follow?, holds.followers, absent]

theorem follow?_some
    (holds : backlog.Holds policy lanes)
    {sequence : CorrelationId}
    {lane : Lane}
    (waits : lanes.find? (fun lane => lane.sequence = sequence) = some lane)
    (entry : QueueEntry) :
    ∃ followed,
      backlog.follow? sequence entry = some followed ∧
        followed.Holds policy (lanes.map (Lane.followedBy sequence entry)) := by
  refine ⟨
    { backlog with followers := backlog.followers.insert sequence (lane.followers ++ [entry]) },
    by simp [follow?, holds.followers, waits], ?_, ?_, ?_, ?_⟩
  · rw [List.map_map]
    exact holds.starts.trans
      (congrArg _ (List.map_congr_left (fun lane _ => (lane.first_followedBy _ _).symm)))
  · intro other
    have isFound :
        (lanes.map (Lane.followedBy sequence entry)).find? (fun lane => lane.sequence = other) =
          (lanes.find? (fun lane => lane.sequence = other)).map
            (Lane.followedBy sequence entry) := by
      rw [List.find?_map]
      simp only [Function.comp_def, Lane.sequence_followedBy]
    rw [isFound, Directory.find?_insert, holds.followers]
    split
    · next isSame =>
        subst isSame
        have isSequence : lane.sequence = other := by simpa using List.find?_some waits
        simp [waits, Lane.followedBy, isSequence]
    · next differs =>
        cases found : lanes.find? (fun lane => lane.sequence = other) with
        | none => rfl
        | some another =>
            have isOther : another.sequence = other := by simpa using List.find?_some found
            simp [Lane.followedBy, isOther, differs]
  · intro changed member
    obtain ⟨lane, isLane, isChanged⟩ := List.mem_map.mp member
    rw [← isChanged, Lane.first_followedBy, Lane.sequence_followedBy]
    exact holds.named lane isLane
  · rw [List.map_map]
    exact (List.map_congr_left (fun lane _ => Lane.sequence_followedBy lane _ _)) ▸ holds.distinct

/-- A first request is let in at the end of the queue, or handed back if the queue is full. -/
theorem push_eq
    (holds : backlog.Holds policy lanes)
    {sequence : CorrelationId}
    {request : Request}
    (absent : lanes.find? (fun lane => lane.sequence = sequence) = none)
    (belongs : request.sequence? = some sequence)
    (now : Nat) :
    if policy.hasRoom lanes.length then
      ∃ pushed,
        backlog.push sequence request now = .ok pushed ∧
          pushed.Holds policy
            (lanes ++ [{ sequence := sequence, first := .enter request policy now }])
    else
      backlog.push sequence request now = .error { request := request, error := .queueFull } := by
  have isPushed := @PriorityQueue.enqueue_single policy (lanes.map Lane.first) request now
  rw [← holds.starts, List.length_map] at isPushed
  split
  · next room =>
      rw [if_pos room] at isPushed
      refine ⟨_, by simp only [push, isPushed]; rfl, ?_, ?_, ?_, ?_⟩
      · rw [List.map_append]
        rfl
      · intro other
        simp only [Directory.find?_insert, List.find?_append, holds.followers]
        split
        · next isSame =>
            subst isSame
            rw [absent]
            simp
        · next differs =>
            cases lanes.find? (fun lane => lane.sequence = other) <;>
              simp [Ne.symm differs]
      · intro lane member
        rcases List.mem_append.mp member with before | isNew
        · exact holds.named lane before
        · rw [List.mem_singleton.mp isNew]
          exact belongs
      · rw [List.map_append, List.nodup_append]
        refine ⟨holds.distinct, by simp, ?_⟩
        intro one isOld other isNew same
        rw [List.map_singleton, List.mem_singleton] at isNew
        obtain ⟨lane, member, isOne⟩ := List.mem_map.mp isOld
        rw [List.find?_eq_none] at absent
        exact absent lane member (by simp [isOne, same, isNew])
  · next full =>
      rw [if_neg full] at isPushed
      simp only [push, isPushed]

end Holds

end Backlog

namespace BacklogBatcher

/-- The batcher with the lanes that its backlog stands for. -/
def lanes
    (batcher : BacklogBatcher) :
    SequenceBatcher :=
  batcher.withBacklog batcher.backlog.lanes

/-- A batcher with a backlog is one with lanes, but for how it keeps what waits. -/
structure Mirrors
    (batcher : BacklogBatcher)
    (other : SequenceBatcher) :
    Prop where
  same : batcher.withBacklog other.backlog = other
  holds : batcher.backlog.Holds batcher.policy other.backlog

/-- A batcher mirrors the one that keeps the lanes that its backlog holds. -/
theorem mirrors_withBacklog
    {batcher : BacklogBatcher}
    {lanes : List Lane}
    (holds : batcher.backlog.Holds batcher.policy lanes) :
    batcher.Mirrors (batcher.withBacklog lanes) where
  same := rfl
  holds := holds

theorem Mirrors.lanes_eq
    {batcher : BacklogBatcher}
    {other : SequenceBatcher}
    (mirrors : batcher.Mirrors other) :
    batcher.lanes = other := by
  rw [lanes, mirrors.holds.lanes_eq, mirrors.same]

/-- No two batchers with a backlog mirror the same one. -/
theorem Mirrors.unique
    {batcher another : BacklogBatcher}
    {other : SequenceBatcher}
    (mirrors : batcher.Mirrors other)
    (others : another.Mirrors other) :
    batcher = another := by
  have sameElse : batcher.withBacklog other.backlog = another.withBacklog other.backlog :=
    mirrors.same.trans others.same.symm
  have samePolicy : batcher.policy = another.policy :=
    congrArg (fun kept : SequenceBatcher => kept.policy) sameElse
  have sameBacklog : batcher.backlog = another.backlog :=
    mirrors.holds.unique (samePolicy ▸ others.holds)
  calc batcher
    _ = (batcher.withBacklog other.backlog).withBacklog batcher.backlog := rfl
    _ = (another.withBacklog other.backlog).withBacklog another.backlog := by
      rw [sameElse, sameBacklog]

section Reads

variable {batcher : BacklogBatcher}
variable {other : SequenceBatcher}
variable (mirrors : batcher.Mirrors other)

include mirrors

theorem Mirrors.seat?_eq
    (sequence : CorrelationId) :
    other.seat? sequence = batcher.bindings.find? sequence := by
  rw [← mirrors.same]
  rfl

theorem Mirrors.table?_eq
    (instanceIndex : Nat) :
    other.table? instanceIndex = batcher.table? instanceIndex := by
  rw [← mirrors.same]
  rfl

theorem Mirrors.slotAt?_eq
    (seat : Seat) :
    other.slotAt? seat = batcher.slotAt? seat := by
  rw [← mirrors.same]
  rfl

theorem Mirrors.live?_eq
    (instanceIndex : Nat) :
    other.live? instanceIndex = batcher.live? instanceIndex := by
  rw [← mirrors.same]
  rfl

theorem Mirrors.timedOut_eq :
    other.timedOut = batcher.timedOut := by
  rw [← mirrors.same]
  rfl

end Reads

theorem mirrors_ofConfig
    (config : ModelConfig)
    (start : Nat) :
    (ofConfig config start).Mirrors (.ofConfig config start) where
  same := rfl
  holds := Backlog.holds_empty _

end BacklogBatcher

end InferenceBatching
