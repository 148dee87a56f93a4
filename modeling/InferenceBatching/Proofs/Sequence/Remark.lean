import InferenceBatching.Proofs.Sequence.Handover
import InferenceBatching.Sequence.Admission
import InferenceBatching.Sequence.Formation

namespace InferenceBatching

/-!
# Under other marks

A batcher looks at its timeout marks in two places only: when a request comes in that
does not start its sequence, and when requests are left over behind an end. Both times
it asks whether a sequence is timed out. So every operation on a batcher with other
marks goes as it does on the batcher itself, as long as that question has the same
answer at its instant, and leaves what it leaves there, the marks apart.

The sequences that a formation marks do not depend on the marks either. That is what
lets a formation that drops old marks be compared with one that keeps them.
-/

/-- The marks with several sequences marked at an instant. -/
def markAll
    (sequences : List CorrelationId)
    (now : Nat)
    (marks : Directory CorrelationId Nat) :
    Directory CorrelationId Nat :=
  sequences.foldl (fun marks sequence => marks.insert sequence now) marks

theorem markAll_append
    (first second : List CorrelationId)
    (now : Nat)
    (marks : Directory CorrelationId Nat) :
    markAll (first ++ second) now marks = markAll second now (markAll first now marks) :=
  List.foldl_append

/-- Marking sequences changes their marks and no others. -/
theorem find?_markAll
    (sequences : List CorrelationId)
    (now : Nat)
    (marks : Directory CorrelationId Nat)
    (sequence : CorrelationId) :
    (markAll sequences now marks).find? sequence =
      if sequence ∈ sequences then some now else marks.find? sequence := by
  induction sequences generalizing marks with
  | nil => simp [markAll]
  | cons first rest inductionHypothesis =>
      have later := inductionHypothesis (marks.insert first now)
      rw [Directory.find?_insert] at later
      by_cases inRest : sequence ∈ rest
      · simpa only [markAll, List.foldl_cons, List.mem_cons, inRest, or_true, if_true] using later
      · simpa only [markAll, List.foldl_cons, List.mem_cons, inRest, or_false, if_false] using later

namespace SequenceBatcher

/-- The batcher with other timeout marks. -/
def remark
    (batcher : SequenceBatcher)
    (marks : Directory CorrelationId Nat) :
    SequenceBatcher :=
  { batcher with timedOut := marks }

section Reads

variable (batcher : SequenceBatcher)
variable (marks : Directory CorrelationId Nat)

@[simp]
theorem instances_remark :
    (batcher.remark marks).instances = batcher.instances :=
  rfl

@[simp]
theorem backlog_remark :
    (batcher.remark marks).backlog = batcher.backlog :=
  rfl

@[simp]
theorem inputs_remark :
    (batcher.remark marks).inputs = batcher.inputs :=
  rfl

@[simp]
theorem policy_remark :
    (batcher.remark marks).policy = batcher.policy :=
  rfl

@[simp]
theorem blocking_remark :
    (batcher.remark marks).blocking = batcher.blocking :=
  rfl

@[simp]
theorem idleLimit?_remark :
    (batcher.remark marks).idleLimit? = batcher.idleLimit? :=
  rfl

@[simp]
theorem live?_remark
    (instanceIndex : Nat) :
    (batcher.remark marks).live? instanceIndex = batcher.live? instanceIndex :=
  rfl

@[simp]
theorem table?_remark
    (instanceIndex : Nat) :
    (batcher.remark marks).table? instanceIndex = batcher.table? instanceIndex :=
  rfl

@[simp]
theorem seat?_remark
    (sequence : CorrelationId) :
    (batcher.remark marks).seat? sequence = batcher.seat? sequence :=
  rfl

@[simp]
theorem lane?_remark
    (sequence : CorrelationId) :
    (batcher.remark marks).lane? sequence = batcher.lane? sequence :=
  rfl

@[simp]
theorem isActive_remark
    (seat : Seat) :
    (batcher.remark marks).isActive seat = batcher.isActive seat :=
  rfl

end Reads

section Enqueue

variable (batcher : SequenceBatcher)
variable (marks : Directory CorrelationId Nat)
variable (sequence : CorrelationId)
variable (request : Request)
variable (now : Nat)

theorem pushAt_remark
    (seat : Seat)
    (entry : QueueEntry) :
    (batcher.remark marks).pushAt seat entry now =
      (batcher.pushAt seat entry now).remark marks := by
  simp only [pushAt, table?_remark]
  split <;> rfl

theorem openLane_remark :
    (batcher.remark marks).openLane sequence request now =
      (batcher.openLane sequence request now).mapState (fun opened => opened.remark marks) := by
  cases room : batcher.policy.hasRoom batcher.backlog.length <;>
    simp only [openLane, policy_remark, backlog_remark, room, if_true, Bool.false_eq_true,
      if_false] <;>
    rfl

theorem bindFree?_remark :
    (batcher.remark marks).bindFree? sequence now =
      (batcher.bindFree? sequence now).map (fun bound => (bound.1, bound.2.remark marks)) := by
  simp only [bindFree?, instances_remark]
  split <;> rfl

theorem startSequence_remark :
    (batcher.remark marks).startSequence sequence request now =
      (batcher.startSequence sequence request now).mapState (fun started =>
        started.remark marks) := by
  simp only [startSequence, bindFree?_remark, openLane_remark, blocking_remark]
  cases batcher.bindFree? sequence now with
  | some bound =>
      simp only [Option.map_some, pushAt_remark]
      rfl
  | none =>
      simp only [Option.map_none]
      split <;> rfl

/-- Whether a request may join its sequence does not depend on marks. -/
theorem join_remark :
    (batcher.remark marks).join sequence request now =
      (batcher.join sequence request now).mapState (fun joined => joined.remark marks) := by
  simp only [join, lane?_remark, seat?_remark, isActive_remark, pushAt_remark, openLane_remark,
    startSequence_remark]
  split
  · rfl
  · split
    · split
      · rfl
      · split <;> rfl
    · split <;> rfl

variable {batcher marks now}

/-- A request is answered the same if the marks tell the same of its sequence. -/
theorem enqueue_remark
    (agrees :
      ∀ sequence,
        (batcher.remark marks).isTimedOut sequence now = batcher.isTimedOut sequence now) :
    ∃ left,
      (batcher.remark marks).enqueue request now =
        (batcher.enqueue request now).mapState (fun after => after.remark left) := by
  simp only [enqueue, agrees, inputs_remark]
  cases request.sequence? with
  | none => exact ⟨marks, rfl⟩
  | some sequence =>
      have unmarked := join_remark (batcher.remark (batcher.timedOut.erase sequence))
        (marks.erase sequence) sequence request now
      dsimp only
      split
      · exact ⟨marks, rfl⟩
      · split
        · exact ⟨marks, rfl⟩
        · split
          · exact ⟨marks.erase sequence, unmarked⟩
          · exact ⟨marks, join_remark batcher marks sequence request now⟩

end Enqueue

section Settle

variable {batcher : SequenceBatcher}
variable {marks : Directory CorrelationId Nat}
variable {now : Nat}
variable (instanceIndex : Nat)

/-- A report is settled the same if the marks tell the same of its sequence. -/
private theorem settleRecord_remark
    (agrees :
      ∀ sequence, (batcher.remark marks).isTimedOut sequence now = batcher.isTimedOut sequence now)
    (record : DispatchRecord) :
    (batcher.remark marks).settleRecord instanceIndex record now =
        (batcher.settleRecord instanceIndex record now).map (fun settled =>
          (settled.1.remark marks, settled.2)) ∧
      ∀ settled ∈ (batcher.settleRecord instanceIndex record now).toOption,
        ∀ sequence,
          (settled.1.remark marks).isTimedOut sequence now =
            settled.1.isTimedOut sequence now := by
  have sameSeat :
      (batcher.remark marks).checkSeat instanceIndex record =
        batcher.checkSeat instanceIndex record := rfl
  simp only [settleRecord, table?_remark, sameSeat]
  split
  · exact ⟨rfl, by simp [Except.toOption]⟩
  · split
    · exact ⟨rfl, by simp [Except.toOption]⟩
    · split
      · exact ⟨rfl, by simp [Except.toOption]⟩
      · refine ⟨rfl, ?_⟩
        intro settled isSettled
        cases isSettled
        exact agrees
      · next sequence slot _ _ leftovers released _ =>
        refine ⟨?_, ?_⟩
        · have sameError :
              ((batcher.remark marks).withTable instanceIndex released).leftoverError
                  sequence now =
                (batcher.withTable instanceIndex released).leftoverError sequence now :=
            congrArg (fun timedOut : Bool =>
              if timedOut then RequestError.sequenceTimeout sequence
              else RequestError.sequenceNotFound sequence) (agrees sequence)
          rw [sameError]
          rfl
        · intro settled isSettled
          cases isSettled
          exact agrees

private theorem settleRecords_remark
    (agrees :
      ∀ sequence, (batcher.remark marks).isTimedOut sequence now = batcher.isTimedOut sequence now)
    (records : List DispatchRecord)
    (failed : List Failure) :
    settleRecords instanceIndex now records (batcher.remark marks) failed =
      (settleRecords instanceIndex now records batcher failed).mapState (fun settled =>
        settled.remark marks) := by
  induction records generalizing batcher failed with
  | nil => rfl
  | cons record records inductionHypothesis =>
      obtain ⟨sameRecord, stillAgrees⟩ := settleRecord_remark instanceIndex agrees record
      simp only [settleRecords, sameRecord]
      cases settles : batcher.settleRecord instanceIndex record now with
      | error fault => rfl
      | ok settled =>
          rw [settles] at stillAgrees
          exact inductionHypothesis (stillAgrees settled rfl) (failed ++ settled.2)

/-- A report comes to the same if the marks tell the same of all sequences. -/
theorem complete_remark
    (agrees :
      ∀ sequence, (batcher.remark marks).isTimedOut sequence now = batcher.isTimedOut sequence now)
    (records : List DispatchRecord) :
    (batcher.remark marks).complete instanceIndex records now =
      (batcher.complete instanceIndex records now).mapState (fun settled =>
        settled.remark marks) := by
  simp only [complete, table?_remark]
  split
  · rfl
  · exact settleRecords_remark instanceIndex agrees records []

end Settle

section Handover

variable (batcher : SequenceBatcher)
variable (marks : Directory CorrelationId Nat)

theorem halt_remark
    (instanceIndex : Nat) :
    (batcher.remark marks).halt instanceIndex =
      (batcher.halt instanceIndex).mapState (fun halted => halted.remark marks) := by
  rw [halt_eq, halt_eq]
  rfl

theorem drain_remark :
    (batcher.remark marks).drain =
      batcher.drain.mapState (fun drained => drained.remark marks) :=
  rfl

end Handover

end SequenceBatcher

/-- The sweep with other timeout marks on its batcher. -/
def Sweep.remark
    (sweep : Sweep)
    (marks : Directory CorrelationId Nat) :
    Sweep :=
  { sweep with batcher := sweep.batcher.remark marks }

section Form

variable (marks : Directory CorrelationId Nat)
variable (now : Nat)

private theorem freeSeat_remark
    (sweep : Sweep)
    (seat : Seat)
    (sequence : CorrelationId)
    (table : SlotTable) :
    (sweep.remark marks).freeSeat seat sequence table now =
      (sweep.freeSeat seat sequence table now).remark marks := by
  simp only [Sweep.freeSeat]
  split <;> rfl

private theorem expireSeat_remark
    (sweep : Sweep)
    (seat : Seat)
    (sequence : CorrelationId)
    (table : SlotTable)
    (slot : Slot) :
    (sweep.remark marks).expireSeat seat sequence table slot now =
      (sweep.expireSeat seat sequence table slot now).remark (marks.insert sequence now) := by
  simp only [Sweep.expireSeat]
  split
  · rfl
  · exact freeSeat_remark (marks.insert sequence now) now
      { sweep with
        batcher := sweep.batcher.markTimedOut sequence now
        failed := sweep.failed ++
          Failure.all (requestsOf (table.beginTeardown seat.slot).1) (.sequenceTimeout sequence) }
      seat sequence (table.beginTeardown seat.slot).2

/-- Looking after a seat marks the same sequences, whatever the marks are. -/
private theorem sweepSeat_remark
    (sweep : Sweep)
    (seat : Seat) :
    ∃ lapsing,
      ∀ marks,
        Sweep.sweepSeat now (sweep.remark marks) seat =
          (Sweep.sweepSeat now sweep seat).remark (markAll lapsing now marks) := by
  have sameTable : ∀ marks,
      (sweep.remark marks).batcher.table? seat.instanceIndex =
        sweep.batcher.table? seat.instanceIndex := fun _ => rfl
  have sameLimit : ∀ marks,
      (sweep.remark marks).batcher.idleLimit? = sweep.batcher.idleLimit? := fun _ => rfl
  simp only [Sweep.sweepSeat, sameTable, sameLimit]
  split
  · exact ⟨[], fun _ => rfl⟩
  · split
    · exact ⟨[], fun _ => rfl⟩
    · next slot _ =>
        split
        · exact ⟨[], fun _ => rfl⟩
        · next sequence _ =>
            split
            · exact
                ⟨[sequence], fun marks => expireSeat_remark marks now sweep seat sequence _ slot⟩
            · split
              · exact ⟨[], fun marks => freeSeat_remark marks now sweep seat sequence _⟩
              · exact ⟨[], fun _ => rfl⟩

/-- Looking after several seats marks the same sequences, whatever the marks are. -/
private theorem foldl_sweepSeat_remark
    (seats : List Seat)
    (sweep : Sweep) :
    ∃ lapsing,
      ∀ marks,
        seats.foldl (Sweep.sweepSeat now) (sweep.remark marks) =
          (seats.foldl (Sweep.sweepSeat now) sweep).remark (markAll lapsing now marks) := by
  induction seats generalizing sweep with
  | nil => exact ⟨[], fun _ => rfl⟩
  | cons seat seats inductionHypothesis =>
      obtain ⟨first, sweepsFirst⟩ := sweepSeat_remark now sweep seat
      obtain ⟨rest, sweepsRest⟩ := inductionHypothesis (Sweep.sweepSeat now sweep seat)
      refine ⟨first ++ rest, ?_⟩
      intro marks
      rw [List.foldl_cons, List.foldl_cons, sweepsFirst, sweepsRest, markAll_append]

end Form

namespace SequenceBatcher

/-- What a formation comes to once the timeouts have been applied. -/
def formSwept
    (sweep : Sweep)
    (instanceIndex : Nat)
    (now : Nat) :
    Formation SequenceBatcher :=
  let seated := sweep.batcher.seatLanes instanceIndex now
  match seated.table? instanceIndex with
  | none => .idle seated sweep.failed none
  | some table =>
      if table.slots.any Slot.isReady then
        seated.dispatchBatch instanceIndex table sweep.failed now
      else
        .idle seated sweep.failed (seated.nextWake? now)

/-- A formation that keeps all marks, old ones included. -/
def formKeeping
    (batcher : SequenceBatcher)
    (instanceIndex : Nat)
    (now : Nat) :
    Formation SequenceBatcher :=
  match batcher.live? instanceIndex with
  | none => .idle batcher [] none
  | some _ => formSwept (expireSlots (batcher.expireBacklog now) now) instanceIndex now

section FormKeeping

variable (batcher : SequenceBatcher)
variable (marks : Directory CorrelationId Nat)
variable (instanceIndex now : Nat)

/-- A formation drops the old marks first, on a live instance, and keeps marks from there on. -/
theorem formBatch_eq_formKeeping
    (live : (batcher.live? instanceIndex).isSome = true) :
    batcher.formBatch instanceIndex now =
      (batcher.forgetTimedOut now).formKeeping instanceIndex now := by
  obtain ⟨owner, isLive⟩ := Option.isSome_iff_exists.mp live
  have stillLive : (batcher.forgetTimedOut now).live? instanceIndex = some owner := isLive
  simp only [formBatch, formKeeping, isLive, stillLive]
  rfl

theorem formBatch_of_halted
    (halted : batcher.live? instanceIndex = none) :
    batcher.formBatch instanceIndex now = batcher.formKeeping instanceIndex now := by
  simp only [formBatch, formKeeping, halted]

private theorem expireBacklog_remark :
    (batcher.remark marks).expireBacklog now =
      (batcher.expireBacklog now).remark
        (markAll ((batcher.backlog.filter (fun lane => lane.isExpired now)).map Lane.sequence) now
          marks) := by
  simp only [expireBacklog, markAll, List.foldl_map]
  rfl

private theorem seatLanes_remark :
    (batcher.remark marks).seatLanes instanceIndex now =
      (batcher.seatLanes instanceIndex now).remark marks := by
  simp only [seatLanes, table?_remark]
  split <;> rfl

private theorem formSwept_remark
    (sweep : Sweep) :
    formSwept (sweep.remark marks) instanceIndex now =
      (formSwept sweep instanceIndex now).mapState (fun formed => formed.remark marks) := by
  have sameSeating :
      (sweep.remark marks).batcher.seatLanes instanceIndex now =
        (sweep.batcher.seatLanes instanceIndex now).remark marks :=
    seatLanes_remark sweep.batcher marks instanceIndex now
  simp only [formSwept, sameSeating, table?_remark]
  split
  · rfl
  · split <;> rfl

/--
A formation that keeps marks goes the same whatever the marks are, and adds the same
marks to them.
-/
theorem formKeeping_remark :
    ∃ lapsing,
      ∀ marks,
        (batcher.remark marks).formKeeping instanceIndex now =
          (batcher.formKeeping instanceIndex now).mapState (fun formed =>
            formed.remark (markAll lapsing now marks)) := by
  simp only [formKeeping, live?_remark]
  cases batcher.live? instanceIndex with
  | none => exact ⟨[], fun _ => rfl⟩
  | some owner =>
      obtain ⟨fromSlots, sweeps⟩ :=
        foldl_sweepSeat_remark now (batcher.expireBacklog now).batcher.seats
          (batcher.expireBacklog now)
      refine ⟨(batcher.backlog.filter (fun lane => lane.isExpired now)).map Lane.sequence ++
        fromSlots, ?_⟩
      intro marks
      dsimp only
      rw [expireBacklog_remark, markAll_append]
      exact (congrArg (fun sweep => formSwept sweep instanceIndex now) (sweeps _)).trans
        (formSwept_remark _ instanceIndex now _)

end FormKeeping

end SequenceBatcher

end InferenceBatching
