import InferenceBatching.Proofs.Sequence.Expiry
import InferenceBatching.Proofs.Sequence.Reports
import Mathlib.Data.List.Perm.Subperm

namespace InferenceBatching

/-!
# Faithful drivers

A driver keeps the batches that it has been given and reports each of them once at
most, in any order, and none from an instance that is out of service. What it keeps
is what is in flight, so the slots hold all that its reports name, and none of them
is refused.
-/

/-- Whether a report from an instance is the one of a batch. -/
def Batch.isReportedBy
    (batch : Batch)
    (instanceIndex : Nat)
    (records : List DispatchRecord) :
    Bool :=
  batch.instanceIndex = instanceIndex && batch.records = records

theorem Batch.isReportedBy_iff
    {batch : Batch}
    {instanceIndex : Nat}
    {records : List DispatchRecord} :
    batch.isReportedBy instanceIndex records = true ↔
      batch.instanceIndex = instanceIndex ∧ batch.records = records := by
  simp [isReportedBy]

/-- A batcher with the batches that are out, those for which no report has come back. -/
structure Driven where
  batcher : SequenceBatcher
  out : List Batch := []

namespace Driven

/-- A new batcher has no batch out. -/
def ofConfig
    (config : ModelConfig)
    (start : Nat) :
    Driven where
  batcher := .ofConfig config start

/-- A batch is out when it has been formed, until it is reported. -/
def perform
    (driven : Driven)
    (operation : Operation) :
    Driven where
  batcher := driven.batcher.perform operation
  out :=
    match operation with
    | .form instanceIndex now =>
        driven.out ++ (driven.batcher.formBatch instanceIndex now).batch?.toList
    | .complete instanceIndex records _ =>
        driven.out.eraseP (fun batch => batch.isReportedBy instanceIndex records)
    | .enqueue _ _ | .halt _ | .drain => driven.out

/-- What a run of operations leads to. -/
def after
    (driven : Driven)
    (operations : List Operation) :
    Driven :=
  operations.foldl perform driven

/--
A faithful driver reports a batch that is out from an instance in service, or does
anything else.
-/
def Permits
    (driven : Driven) :
    Operation →
    Prop
  | .complete instanceIndex records _ =>
      (driven.batcher.live? instanceIndex).isSome = true ∧
        ∃ batch ∈ driven.out, batch.isReportedBy instanceIndex records = true
  | .enqueue _ _ | .form _ _ | .halt _ | .drain => True

instance decidablePermits
    (driven : Driven)
    (operation : Operation) :
    Decidable (driven.Permits operation) :=
  match operation with
  | .complete _ _ _ => inferInstanceAs (Decidable (_ ∧ _))
  | .enqueue _ _ | .form _ _ | .halt _ | .drain => inferInstanceAs (Decidable True)

/-- Every operation of a run is one that a faithful driver makes. -/
def Faithful :
    Driven →
    List Operation →
    Prop
  | _, [] => True
  | driven, operation :: operations =>
      driven.Permits operation ∧ (driven.perform operation).Faithful operations

instance decidableFaithful :
    (driven : Driven) →
    (operations : List Operation) →
    Decidable (driven.Faithful operations)
  | _, [] => inferInstanceAs (Decidable True)
  | driven, operation :: operations =>
      have := decidableFaithful (driven.perform operation) operations
      inferInstanceAs (Decidable (_ ∧ _))

variable {driven : Driven}

/-- Keeping the batches that are out does not change what a run does to the batcher. -/
theorem batcher_after
    (driven : Driven)
    (operations : List Operation) :
    (driven.after operations).batcher = driven.batcher.after operations := by
  induction operations generalizing driven with
  | nil => rfl
  | cons operation operations inductionHypothesis => exact inductionHypothesis _

theorem faithful_append
    {done rest : List Operation} :
    driven.Faithful (done ++ rest) ↔
      driven.Faithful done ∧ (driven.after done).Faithful rest := by
  induction done generalizing driven with
  | nil => simp [Faithful, after]
  | cons operation done inductionHypothesis =>
      rw [List.cons_append, Faithful, inductionHypothesis, Faithful, and_assoc]
      rfl

/-- What is out is what the history of the run has in flight, and every record names a flight. -/
structure Tracked
    (driven : Driven)
    (history : History) :
    Prop where
  sameBatcher : history.batcher = driven.batcher
  orderly : history.batcher.Orderly history.accepted history.dispatched history.flights
  underWay : history.flights.Perm (driven.out.flatMap Batch.flights)
  recorded :
    ∀ batch ∈ driven.out,
      ∀ record ∈ batch.records, (record.flight? batch.instanceIndex).isSome = true

/-- A batch that is reported takes its flights off those that are under way. -/
private theorem underWay_of_reported
    {instanceIndex : Nat}
    {records : List DispatchRecord}
    {out : List Batch}
    (isOut : ∃ batch ∈ out, batch.isReportedBy instanceIndex records = true)
    {flights : List Flight}
    (underWay : flights.Perm (out.flatMap Batch.flights)) :
    ((records.filterMap (DispatchRecord.flight? instanceIndex)).foldl List.erase flights).Perm
      ((out.eraseP (fun batch => batch.isReportedBy instanceIndex records)).flatMap
        Batch.flights) := by
  obtain ⟨batch, member, isReport⟩ := isOut
  obtain ⟨reported, before, behind, _, isReported, isSplit, isRest⟩ :=
    List.exists_of_eraseP (p := fun batch => batch.isReportedBy instanceIndex records)
      member isReport
  obtain ⟨isInstance, isRecords⟩ := Batch.isReportedBy_iff.mp isReported
  have isFlights :
      records.filterMap (DispatchRecord.flight? instanceIndex) = reported.flights := by
    rw [← isInstance, ← isRecords]
    rfl
  have apart : flights.Perm (reported.flights ++ (before ++ behind).flatMap Batch.flights) := by
    refine underWay.trans ?_
    simp only [isSplit, List.flatMap_append, List.flatMap_cons, ← List.append_assoc]
    exact List.perm_append_comm.append_right _
  have atLeast : ∀ flight ∈ reported.flights,
      reported.flights.count flight ≤ flights.count flight := by
    intro flight _
    rw [apart.count_eq flight, List.count_append]
    exact Nat.le_add_right _ _
  rw [isFlights, isRest, ← List.diff_eq_foldl]
  exact (List.perm_append_left_iff reported.flights).mp
    ((List.subperm_append_diff_self_of_count_le atLeast).trans apart)

/-- What a faithful driver does next keeps track of what is in flight. -/
theorem Tracked.perform
    {history : History}
    (tracked : driven.Tracked history)
    {operation : Operation}
    (permitted : driven.Permits operation) :
    (driven.perform operation).Tracked (history.perform operation) where
  sameBatcher := by
    have isNext : (history.perform operation).batcher = history.batcher.perform operation := by
      cases operation <;> rfl
    rw [isNext, tracked.sameBatcher]
    rfl
  orderly := History.orderly_perform tracked.orderly operation
  underWay := by
    cases operation with
    | form instanceIndex now =>
        simp only [History.perform, Driven.perform, tracked.sameBatcher, List.flatMap_append]
        exact tracked.underWay.append_right _
    | complete instanceIndex records now =>
        exact underWay_of_reported permitted.2 tracked.underWay
    | enqueue | halt | drain => exact tracked.underWay
  recorded := by
    intro batch member
    cases operation with
    | form instanceIndex now =>
        rcases List.mem_append.mp member with wasOut | isNew
        · exact tracked.recorded batch wasOut
        · have coherent := tracked.orderly.coherent
          rw [tracked.sameBatcher] at coherent
          exact (SequenceBatcher.awaits_formed coherent (Option.mem_toList.mp isNew)).recorded
    | complete instanceIndex records now =>
        exact tracked.recorded batch (List.mem_of_mem_eraseP member)
    | enqueue | halt | drain => exact tracked.recorded batch member

theorem Tracked.after
    {history : History}
    (tracked : driven.Tracked history)
    {operations : List Operation}
    (faithful : driven.Faithful operations) :
    (driven.after operations).Tracked (history.after operations) := by
  induction operations generalizing driven history with
  | nil => exact tracked
  | cons operation operations inductionHypothesis =>
      obtain ⟨permitted, later⟩ := faithful
      exact inductionHypothesis (tracked.perform permitted) later

/-- A batch that is out is awaited. -/
theorem Tracked.awaits
    {history : History}
    (tracked : driven.Tracked history)
    {batch : Batch}
    (isOut : batch ∈ driven.out) :
    driven.batcher.Awaits batch where
  flying := by
    have underWay := tracked.orderly.flying.perm tracked.underWay
    rw [tracked.sameBatcher] at underWay
    exact underWay.sublist (List.sublist_flatten_of_mem (List.mem_map_of_mem isOut))
  recorded := tracked.recorded batch isOut

private theorem tracked_ofConfig
    (config : ModelConfig)
    (start : Nat) :
    (ofConfig config start).Tracked (.ofConfig config start) where
  sameBatcher := rfl
  orderly := History.orderly_ofConfig config start
  underWay := List.Perm.nil
  recorded := by simp [ofConfig]

/--
At any point of a run with a faithful driver, every batch that is out from an instance
in service has each of its records as the slots have it: the sequence is bound to the
slot, which carries it and holds the request in flight. So a report that comes next is
settled, whatever has happened to the slots in the meantime, and no slot that is given
up because of timeouts or idleness fails to be released.
-/
theorem reports_never_refused
    (config : ModelConfig)
    (start : Nat)
    (operations : List Operation)
    (faithful : (ofConfig config start).Faithful operations)
    (done rest : List Operation)
    (isSplit : operations = done ++ rest) :
    let driven := (ofConfig config start).after done
    driven.batcher = (SequenceBatcher.ofConfig config start).after done ∧
      (∀ batch ∈ driven.out,
        (driven.batcher.live? batch.instanceIndex).isSome = true →
          ∀ record ∈ batch.records,
            ∃ flight slot,
              record.flight? batch.instanceIndex = some flight ∧
                driven.batcher.seat? flight.sequence = some flight.seat ∧
                driven.batcher.liveSlot? flight.seat = some slot ∧
                slot.sequence? = some flight.sequence ∧
                slot.inFlight? = some flight.request) ∧
      (∀ instanceIndex records now,
        rest.head? = some (.complete instanceIndex records now) →
          ∃ failures,
            (driven.batcher.complete instanceIndex records now).verdict =
              .settled failures) ∧
      ∀ now, (driven.batcher.expire now).refusals = [] := by
  intro driven
  rw [isSplit] at faithful
  obtain ⟨soFar, next⟩ := faithful_append.mp faithful
  have tracked := (tracked_ofConfig config start).after soFar
  have coherent : driven.batcher.Coherent := tracked.sameBatcher ▸ tracked.orderly.coherent
  refine ⟨batcher_after _ done, ?_, ?_, SequenceBatcher.refusals_expire coherent⟩
  · intro batch isOut live record member
    have awaits := tracked.awaits isOut
    obtain ⟨flight, isFlight⟩ := Option.isSome_iff_exists.mp (awaits.recorded record member)
    have inBatch : flight ∈ batch.flights := List.mem_filterMap.mpr ⟨record, member, isFlight⟩
    have atInstance := DispatchRecord.instanceIndex_of_flight isFlight
    obtain ⟨slot, found, inFlight, carries⟩ :=
      awaits.flying.held flight inBatch (by rw [atInstance, live])
    exact ⟨flight, slot, isFlight, coherent.seat_of_liveSlot found carries, found, carries,
      inFlight⟩
  · intro instanceIndex records now isNext
    obtain ⟨later, isRest⟩ := List.head?_eq_some_iff.mp isNext
    rw [isRest] at next
    obtain ⟨live, batch, isOut, isReport⟩ := next.1
    obtain ⟨isInstance, isRecords⟩ := Batch.isReportedBy_iff.mp isReport
    rw [← isInstance, ← isRecords]
    exact (tracked.awaits isOut).settled coherent (by rw [isInstance, live]) now

/--
The later of two batches comes back first, and the slot of the earlier one has been
turned to its end in between.
-/
theorem reports_never_refused_out_of_turn :
    let config : ModelConfig :=
      { name := "model"
        sequenceBatching? := some { maxSequences := 2, policy := { allowsOverride := true } } }
    let earlier : DispatchRecord :=
      { request := 1, slot? := some 0, sequence? := some 7, ends := false }
    let later : DispatchRecord :=
      { request := 2, slot? := some 1, sequence? := some 8, ends := false }
    let done : List Operation :=
      [.enqueue { id := 1, sequence? := some 7, starts := true } 0,
        .form 0 0,
        .enqueue { id := 2, sequence? := some 8, starts := true } 1,
        .enqueue { id := 3, sequence? := some 7, timeout? := some 5 } 1,
        .form 0 2,
        .form 0 10,
        .complete 0 [later] 11]
    let driven := (ofConfig config 0).after done
    (ofConfig config 0).Faithful (done ++ [.complete 0 [earlier] 12]) ∧
      driven.out.map (fun batch => batch.records) = [[earlier]] ∧
      (driven.batcher.liveSlot? { instanceIndex := 0, slot := 0 }).map Slot.state =
        some .ending ∧
      ∃ failures,
        (driven.batcher.complete 0 [earlier] 12).verdict = .settled failures := by
  intro config earlier later done driven
  have faithful : (ofConfig config 0).Faithful (done ++ [.complete 0 [earlier] 12]) := by decide
  refine ⟨faithful, by decide, by decide, ?_⟩
  exact (reports_never_refused config 0 _ faithful done _ rfl).2.2.1 0 [earlier] 12 rfl

end Driven

end InferenceBatching
