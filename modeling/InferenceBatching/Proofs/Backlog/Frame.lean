import InferenceBatching.Sequence.Admission
import InferenceBatching.Sequence.Formation
import InferenceBatching.Sequence.Settlement

namespace InferenceBatching

/-!
# What leaves the backlog alone

Binding, dispatching, settling and halting read and change slots, bindings and marks.
They do the same whatever way the sequences that wait are kept.
-/

namespace SequenceBatcher

variable {Waiting Other : Type}

section Batcher

variable (batcher : SequenceBatcher Waiting)
variable (backlog : Other)

@[simp]
theorem live?_withBacklog
    (instanceIndex : Nat) :
    (batcher.withBacklog backlog).live? instanceIndex = batcher.live? instanceIndex :=
  rfl

@[simp]
theorem table?_withBacklog
    (instanceIndex : Nat) :
    (batcher.withBacklog backlog).table? instanceIndex = batcher.table? instanceIndex :=
  rfl

@[simp]
theorem seat?_withBacklog
    (sequence : CorrelationId) :
    (batcher.withBacklog backlog).seat? sequence = batcher.seat? sequence :=
  rfl

@[simp]
theorem isActive_withBacklog
    (seat : Seat) :
    (batcher.withBacklog backlog).isActive seat = batcher.isActive seat :=
  rfl

@[simp]
theorem entryFor_withBacklog
    (request : Request)
    (now : Nat) :
    (batcher.withBacklog backlog).entryFor request now = batcher.entryFor request now :=
  rfl

@[simp]
theorem liveSlots_withBacklog :
    (batcher.withBacklog backlog).liveSlots = batcher.liveSlots :=
  rfl

theorem pushAt_withBacklog
    (seat : Seat)
    (entry : QueueEntry)
    (now : Nat) :
    (batcher.withBacklog backlog).pushAt seat entry now =
      (batcher.pushAt seat entry now).withBacklog backlog := by
  simp only [pushAt, table?_withBacklog]
  cases batcher.table? seat.instanceIndex <;> rfl

theorem bindFree?_withBacklog
    (sequence : CorrelationId)
    (now : Nat) :
    (batcher.withBacklog backlog).bindFree? sequence now =
      (batcher.bindFree? sequence now).map (fun bound =>
        (bound.1, bound.2.withBacklog backlog)) := by
  have sameInstances : (batcher.withBacklog backlog).instances = batcher.instances := rfl
  simp only [bindFree?, sameInstances]
  cases findFree? sequence now 0 batcher.instances <;> rfl

/-- Settling a report leaves the backlog alone. -/
theorem settleRecord_withBacklog
    (instanceIndex : Nat)
    (record : DispatchRecord)
    (now : Nat) :
    (batcher.withBacklog backlog).settleRecord instanceIndex record now =
      (batcher.settleRecord instanceIndex record now).map (fun settled =>
        (settled.1.withBacklog backlog, settled.2)) := by
  have sameCheck :
      (batcher.withBacklog backlog).checkSeat instanceIndex record =
        batcher.checkSeat instanceIndex record :=
    rfl
  simp only [settleRecord, table?_withBacklog, sameCheck]
  cases batcher.table? instanceIndex with
  | none => rfl
  | some table =>
      cases batcher.checkSeat instanceIndex record with
      | error fault => rfl
      | ok checked =>
          dsimp only
          cases table.complete checked.2 checked.1 record.request now with
          | error fault => rfl
          | ok completed => rcases completed with ⟨_ | leftovers, released⟩ <;> rfl

theorem settleRecords_withBacklog
    (instanceIndex now : Nat)
    (records : List DispatchRecord)
    (failed : List Failure) :
    settleRecords instanceIndex now records (batcher.withBacklog backlog) failed =
      (settleRecords instanceIndex now records batcher failed).mapState
        (fun settled => settled.withBacklog backlog) := by
  induction records generalizing batcher failed with
  | nil => rfl
  | cons record records inductionHypothesis =>
      simp only [settleRecords, settleRecord_withBacklog]
      cases batcher.settleRecord instanceIndex record now with
      | error fault => rfl
      | ok settled => exact inductionHypothesis settled.1 _

theorem complete_withBacklog
    (instanceIndex : Nat)
    (records : List DispatchRecord)
    (now : Nat) :
    (batcher.withBacklog backlog).complete instanceIndex records now =
      (batcher.complete instanceIndex records now).mapState
        (fun settled => settled.withBacklog backlog) := by
  simp only [complete, table?_withBacklog]
  cases batcher.table? instanceIndex with
  | none => rfl
  | some table => exact batcher.settleRecords_withBacklog backlog instanceIndex now records []

theorem dispatchBatch_withBacklog
    (instanceIndex : Nat)
    (table : SlotTable)
    (failed : List Failure)
    (now : Nat) :
    (batcher.withBacklog backlog).dispatchBatch instanceIndex table failed now =
      (batcher.dispatchBatch instanceIndex table failed now).mapState
        (fun dispatched => dispatched.withBacklog backlog) :=
  rfl

theorem unseat_withBacklog
    (handover : Handover (SequenceBatcher Waiting))
    (binding : CorrelationId × Seat) :
    unseat (handover.mapState (fun held => held.withBacklog backlog)) binding =
      (unseat handover binding).mapState (fun held => held.withBacklog backlog) := by
  have sameTable :
      { handover.batcher.withBacklog backlog with
          bindings := handover.batcher.bindings.erase binding.1 }.table?
          binding.2.instanceIndex =
        { handover.batcher with
          bindings := handover.batcher.bindings.erase binding.1 }.table?
          binding.2.instanceIndex :=
    rfl
  unfold unseat
  dsimp only [Handover.mapState, SequenceBatcher.withBacklog] at sameTable ⊢
  rw [sameTable]
  split <;> rfl

/-- Halting an instance leaves the backlog alone. -/
theorem halt_withBacklog
    (instanceIndex : Nat) :
    (batcher.withBacklog backlog).halt instanceIndex =
      (batcher.halt instanceIndex).mapState (fun halted => halted.withBacklog backlog) := by
  have unseats :
      ∀ (bindings : List (CorrelationId × Seat)) (handover : Handover (SequenceBatcher Waiting)),
        bindings.foldl unseat (handover.mapState (fun held => held.withBacklog backlog)) =
          (bindings.foldl unseat handover).mapState (fun held => held.withBacklog backlog) := by
    intro bindings
    induction bindings with
    | nil => exact fun _ => rfl
    | cons binding bindings inductionHypothesis =>
        intro handover
        rw [List.foldl_cons, List.foldl_cons, unseat_withBacklog, inductionHypothesis]
  exact unseats (batcher.bindingsOf instanceIndex)
    { batcher := {
        batcher with
        instances := batcher.instances.modify instanceIndex (fun held =>
          { held with isHalted := true })
      }
      requests := [] }

end Batcher

end SequenceBatcher

namespace Sweep

variable {Waiting Other : Type}

/-- The same sweep with the sequences that wait kept in another way, and other failures. -/
def withBacklog
    (sweep : Sweep Waiting)
    (backlog : Other)
    (failed : List Failure) :
    Sweep Other where
  batcher := sweep.batcher.withBacklog backlog
  failed := failed
  refusals := sweep.refusals

/-- What a step of a sweep does, whatever waits and whatever has failed before. -/
structure Frames
    (before after : Sweep Waiting)
    (step : Sweep Other → Sweep Other) :
    Prop where
  sameBacklog : after.batcher.backlog = before.batcher.backlog
  samePolicy : after.batcher.policy = before.batcher.policy
  fails :
    ∃ failures,
      after.failed = before.failed ++ failures ∧
        ∀ (backlog : Other) (failed : List Failure),
          step (before.withBacklog backlog failed) =
            after.withBacklog backlog (failed ++ failures)

theorem Frames.congr
    {before after last : Sweep Waiting}
    {step other : Sweep Other → Sweep Other}
    (frames : Frames before after step)
    (isLast : last = after)
    (sameStep :
      ∀ backlog failed,
        other (before.withBacklog backlog failed) = step (before.withBacklog backlog failed)) :
    Frames before last other := by
  obtain ⟨sameBacklog, samePolicy, failures, isFailed, steps⟩ := frames
  subst isLast
  exact ⟨sameBacklog, samePolicy, failures, isFailed,
    fun backlog failed => (sameStep backlog failed).trans (steps backlog failed)⟩

section Steps

variable (sweep : Sweep Waiting)
variable (seat : Seat)
variable (sequence : CorrelationId)
variable (table : SlotTable)
variable (now : Nat)

theorem frames_refl :
    Frames sweep sweep (id : Sweep Other → Sweep Other) where
  sameBacklog := rfl
  samePolicy := rfl
  fails := ⟨[], by simp, by simp⟩

theorem frames_freeSeat :
    Frames sweep (sweep.freeSeat seat sequence table now)
      (fun other : Sweep Other => other.freeSeat seat sequence table now) := by
  unfold freeSeat
  cases table.release seat.slot now with
  | error fault => exact ⟨rfl, rfl, [], by simp [withTable], by intros; simp [withTable]; rfl⟩
  | ok released => exact ⟨rfl, rfl, [], by simp, by intros; simp; rfl⟩

theorem frames_expireSeat
    (slot : Slot) :
    Frames sweep (sweep.expireSeat seat sequence table slot now)
      (fun other : Sweep Other => other.expireSeat seat sequence table slot now) := by
  unfold expireSeat
  dsimp only
  split
  · exact ⟨rfl, rfl, _, rfl, fun _ _ => rfl⟩
  · obtain ⟨sameBacklog, samePolicy, failures, isFailed, steps⟩ :=
      @frames_freeSeat Waiting Other
        { sweep with
          batcher := sweep.batcher.markTimedOut sequence now
          failed := sweep.failed ++
            Failure.all (requestsOf (table.beginTeardown seat.slot).1)
              (.sequenceTimeout sequence) }
        seat sequence (table.beginTeardown seat.slot).2 now
    refine ⟨sameBacklog, samePolicy, _, isFailed.trans (List.append_assoc _ _ _), ?_⟩
    intro backlog failed
    rw [← List.append_assoc]
    exact steps backlog _

/-- Looking after a seat does the same whatever way the sequences that wait are kept. -/
theorem frames_sweepSeat :
    Frames sweep (sweepSeat now sweep seat)
      (fun other : Sweep Other => sweepSeat now other seat) := by
  have sameTable :
      ∀ (backlog : Other) failed,
        (sweep.withBacklog backlog failed).batcher.table? seat.instanceIndex =
          sweep.batcher.table? seat.instanceIndex :=
    fun _ _ => rfl
  have sameLimit :
      ∀ (backlog : Other) failed,
        (sweep.withBacklog backlog failed).batcher.idleLimit? = sweep.batcher.idleLimit? :=
    fun _ _ => rfl
  cases isTable : sweep.batcher.table? seat.instanceIndex with
  | none =>
      exact (frames_refl sweep).congr (by simp [sweepSeat, isTable])
        (by simp [sweepSeat, sameTable, isTable])
  | some table =>
      cases isSlot : table.slot? seat.slot with
      | none =>
          exact (frames_refl sweep).congr (by simp [sweepSeat, isTable, isSlot])
            (by simp [sweepSeat, sameTable, isTable, isSlot])
      | some slot =>
          cases carries : slot.sequence? with
          | none =>
              exact (frames_refl sweep).congr (by simp [sweepSeat, isTable, isSlot, carries])
                (by simp [sweepSeat, sameTable, isTable, isSlot, carries])
          | some sequence =>
              by_cases expired : slot.isExpired now = true
              · exact (frames_expireSeat sweep seat sequence table now slot).congr
                  (by simp [sweepSeat, isTable, isSlot, carries, expired])
                  (by simp [sweepSeat, sameTable, isTable, isSlot, carries, expired])
              · by_cases idle : slot.isIdle sweep.batcher.idleLimit? now = true
                · exact (frames_freeSeat sweep seat sequence table now).congr
                    (by simp [sweepSeat, isTable, isSlot, carries, expired, idle])
                    (by simp [sweepSeat, sameTable, sameLimit, isTable, isSlot, carries, expired,
                      idle])
                · exact (frames_refl sweep).congr
                    (by simp [sweepSeat, isTable, isSlot, carries, expired, idle])
                    (by simp [sweepSeat, sameTable, sameLimit, isTable, isSlot, carries, expired,
                      idle])

theorem frames_sweepSeats
    (seats : List Seat) :
    Frames sweep (seats.foldl (sweepSeat now) sweep)
      (fun other : Sweep Other => seats.foldl (sweepSeat now) other) := by
  induction seats generalizing sweep with
  | nil => exact frames_refl sweep
  | cons seat seats inductionHypothesis =>
      obtain ⟨sameBacklog, samePolicy, failures, isFailed, step⟩ :=
        @frames_sweepSeat Waiting Other sweep seat now
      obtain ⟨stillBacklog, stillPolicy, more, areFailed, steps⟩ :=
        inductionHypothesis (sweepSeat now sweep seat)
      refine
        ⟨stillBacklog.trans sameBacklog, stillPolicy.trans samePolicy, failures ++ more, ?_, ?_⟩
      · rw [List.foldl_cons, areFailed, isFailed, List.append_assoc]
      · intro backlog failed
        rw [List.foldl_cons, step, steps, List.append_assoc]
        rfl

/-- Looking after all slots does the same whatever way the sequences that wait are kept. -/
theorem frames_expireSlots :
    Frames sweep (SequenceBatcher.expireSlots sweep now)
      (fun other : Sweep Other => SequenceBatcher.expireSlots other now) :=
  (frames_sweepSeats sweep now sweep.batcher.seats).congr rfl (fun _ _ => rfl)

end Steps

end Sweep

end InferenceBatching
