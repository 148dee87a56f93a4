import InferenceBatching.Proofs.Sequence.Flights
import InferenceBatching.Proofs.Sequence.Order
import InferenceBatching.Proofs.Sequence.Pinning

namespace InferenceBatching

/-!
# Histories

A history records what a run has shown to the callers of a batcher: the entries
let in, the batches formed, and the flights begun and not yet reported. What
holds of the record is carried through a run by the moves of its operations.
-/

/-- The flights that a batch begins: those that its records report. -/
def Batch.flights
    (batch : Batch) :
    List Flight :=
  batch.records.filterMap (DispatchRecord.flight? batch.instanceIndex)

/-- What a run has shown so far, and the batcher it has reached. -/
structure History where
  batcher : SequenceBatcher
  accepted : List QueueEntry := []
  batches : List Batch := []
  flights : List Flight := []

namespace History

/-- The history of a new batcher. -/
def ofConfig
    (config : ModelConfig)
    (start : Nat) :
    History where
  batcher := .ofConfig config start

/-- The entries that the batches have sent off, in order. -/
def dispatched
    (history : History) :
    List QueueEntry :=
  history.batches.flatMap Batch.queueEntries

/-- The history after one more operation. A report takes its flights off the record. -/
def perform
    (history : History) :
    Operation →
    History
  | .enqueue request now =>
      let answer := history.batcher.enqueue request now
      { history with
        batcher := answer.batcher
        accepted :=
          if answer.rejection?.isNone then
            history.accepted ++ [history.batcher.entryFor request now]
          else
            history.accepted }
  | .form instanceIndex now =>
      let formation := history.batcher.formBatch instanceIndex now
      { history with
        batcher := formation.batcher
        batches := history.batches ++ formation.batch?.toList
        flights := history.flights ++ formation.batch?.toList.flatMap Batch.flights }
  | .complete instanceIndex records now =>
      { history with
        batcher := (history.batcher.complete instanceIndex records now).batcher
        flights :=
          (records.filterMap (DispatchRecord.flight? instanceIndex)).foldl List.erase
            history.flights }
  | .halt instanceIndex =>
      { history with batcher := (history.batcher.halt instanceIndex).batcher }
  | .drain => { history with batcher := history.batcher.drain.batcher }

/-- The history after a run of operations. -/
def after
    (history : History)
    (operations : List Operation) :
    History :=
  operations.foldl perform history

/-- A history does not change what a run does to its batcher. -/
theorem batcher_after
    (history : History)
    (operations : List Operation) :
    (history.after operations).batcher = history.batcher.after operations := by
  induction operations generalizing history with
  | nil => rfl
  | cons operation operations inductionHypothesis =>
      cases operation <;> exact inductionHypothesis _

end History

/-- The events of a batch begin the flights that its records report. -/
theorem Batch.noteFlights_events
    (batch : Batch)
    (flights : List Flight) :
    batch.events.foldl Event.noteFlights flights = flights ++ batch.flights := by
  unfold Batch.events Batch.flights Batch.records
  induction batch.entries generalizing flights with
  | nil => simp
  | cons entry entries inductionHypothesis =>
      cases entry with
      | single queued =>
          simpa [List.filterMap_cons, BatchEntry.event?, Batch.recordOf?, BatchEntry.request?,
            BatchEntry.queued?, BatchEntry.slot?, DispatchRecord.flight?]
            using inductionHypothesis flights
      | padding slot sequence? =>
          simpa [List.filterMap_cons, BatchEntry.event?, Batch.recordOf?, BatchEntry.request?,
            BatchEntry.queued?] using inductionHypothesis flights
      | seated slot queued =>
          cases carried : queued.request.sequence? with
          | none =>
              simpa [List.filterMap_cons, BatchEntry.event?, Batch.recordOf?,
                BatchEntry.request?, BatchEntry.queued?, DispatchRecord.flight?,
                Event.noteFlights, Event.takenOff?, carried]
                using inductionHypothesis flights
          | some sequence =>
              simp [BatchEntry.event?, Batch.recordOf?, BatchEntry.request?,
                BatchEntry.queued?, BatchEntry.slot?, DispatchRecord.flight?,
                Event.noteFlights, Event.takenOff?, carried, inductionHypothesis]

/-- Flights that are only ended by events are those that are reported. -/
private theorem noteFlights_of_returned
    {events : List Event}
    (noDispatch : events.filterMap Event.dispatched? = [])
    (flights : List Flight) :
    events.foldl Event.noteFlights flights =
      (events.filterMap Event.returned?).foldl List.erase flights := by
  induction events generalizing flights with
  | nil => rfl
  | cons event events inductionHypothesis =>
      cases event with
      | dispatched seat entry => simp at noDispatch
      | returned flight => exact inductionHypothesis noDispatch _
      | admitted entry =>
          simpa [Event.noteFlights, Event.takenOff?, List.filterMap_cons]
            using inductionHypothesis noDispatch _
      | failed entry error =>
          simpa [Event.noteFlights, Event.takenOff?, List.filterMap_cons]
            using inductionHypothesis noDispatch _

private theorem foldl_erase_sublist
    (ended flights : List Flight) :
    (ended.foldl List.erase flights).Sublist flights := by
  induction ended generalizing flights with
  | nil => exact List.Sublist.refl flights
  | cons flight ended inductionHypothesis =>
      exact (inductionHypothesis (flights.erase flight)).trans List.erase_sublist

namespace SequenceBatcher

/-- A batcher agrees with what has been let in, sent off, and begun. -/
structure Orderly
    (batcher : SequenceBatcher)
    (accepted dispatched : List QueueEntry)
    (flights : List Flight) :
    Prop where
  coherent : batcher.Coherent
  ordered :
    ∀ sequence,
      (entriesOf sequence dispatched ++ batcher.waitingOf sequence).Sublist
        (entriesOf sequence accepted)
  flying : batcher.Flying flights

namespace Orderly

variable {batcher last : SequenceBatcher}
variable {accepted dispatched : List QueueEntry}
variable {flights : List Flight}

/-- Moves add what their events show. -/
theorem moves
    (orderly : Orderly batcher accepted dispatched flights)
    {now : Nat}
    {activity : Activity}
    {events : List Event}
    (moves : Moves now batcher activity events last) :
    Orderly last
      (accepted ++ events.filterMap Event.admitted?)
      (dispatched ++ (events.filterMap Event.dispatched?).map Prod.snd)
      (events.foldl Event.noteFlights flights) where
  coherent := moves.coherent orderly.coherent
  ordered := by
    intro sequence
    have step := moves.ordered orderly.coherent sequence
    have front := step.append_left (entriesOf sequence dispatched)
    have back := (orderly.ordered sequence).append_right (Event.admittedOf sequence events)
    simp only [Event.dispatchedOf, Event.admittedOf, entriesOf, List.filter_append,
      List.append_assoc] at front back ⊢
    exact front.trans back
  flying := moves.flying orderly.coherent orderly.flying

theorem halt
    (orderly : Orderly batcher accepted dispatched flights)
    (instanceIndex : Nat) :
    Orderly (batcher.halt instanceIndex).batcher accepted dispatched flights where
  coherent := orderly.coherent.halt instanceIndex
  ordered := by
    intro sequence
    have fewer :=
      (waitingOf_halt_sublist batcher instanceIndex sequence).append_left
        (entriesOf sequence dispatched)
    exact fewer.trans (orderly.ordered sequence)
  flying := orderly.flying.halt instanceIndex

theorem drain
    (orderly : Orderly batcher accepted dispatched flights) :
    Orderly batcher.drain.batcher accepted dispatched flights where
  coherent := orderly.coherent.drain
  ordered := by
    intro sequence
    have fewer :=
      (waitingOf_drain_sublist batcher sequence).append_left (entriesOf sequence dispatched)
    exact fewer.trans (orderly.ordered sequence)
  flying := orderly.flying.drain

end Orderly

end SequenceBatcher

namespace History

/-- Every operation adds to the record what it shows. -/
theorem orderly_perform
    {history : History}
    (orderly :
      history.batcher.Orderly history.accepted history.dispatched history.flights)
    (operation : Operation) :
    let next := history.perform operation
    next.batcher.Orderly next.accepted next.dispatched next.flights := by
  cases operation with
  | enqueue request now =>
      have admission := SequenceBatcher.enqueue_admission orderly.coherent request now
      simp only [History.perform, dispatched]
      generalize history.batcher.enqueue request now = answer at admission
      cases admission with
      | accepted belongs moves =>
          simpa [Answer.accepted, dispatched, List.filterMap_cons] using orderly.moves moves
      | rejected error moves => simpa [Answer.rejected, dispatched] using orderly.moves moves
  | form instanceIndex now =>
      have phases := SequenceBatcher.formBatch_phases orderly.coherent instanceIndex now
      simp only [History.perform, dispatched, List.flatMap_append]
      generalize history.batcher.formBatch instanceIndex now = formation at phases
      cases phases with
      | halted halted => simpa [Formation.idle, dispatched] using orderly
      | live live expires onlyFailures isFailed dispatches placed =>
          obtain ⟨noAdmission, noDispatch, _⟩ := Event.filterMap_of_isFailure onlyFailures
          have swept := orderly.moves expires
          rw [noAdmission, noDispatch, Event.foldl_noteFlights_of_isFailure onlyFailures] at swept
          have sent := swept.moves dispatches
          have fromBatch := Formation.dispatches_eq formation
          cases isBatch : formation.batch? with
          | none =>
              simpa [fromBatch, isBatch, dispatched] using sent
          | some batch =>
              have inOrder := Batch.filterMap_dispatched_events (placed batch isBatch).2
              simpa [fromBatch, isBatch, dispatched, Batch.filterMap_admitted_events, inOrder,
                Batch.noteFlights_events] using sent
  | complete instanceIndex records now =>
      obtain ⟨events, settled, moves, ⟨unsettled, isRecords⟩, returned, noAdmission,
        noDispatch, _⟩ :=
        SequenceBatcher.complete_moves orderly.coherent instanceIndex records now
      have moved := orderly.moves moves
      rw [noAdmission, noDispatch, noteFlights_of_returned noDispatch, returned] at moved
      have fewer : ((records.filterMap (DispatchRecord.flight? instanceIndex)).foldl List.erase
          history.flights).Sublist
            ((settled.filterMap (DispatchRecord.flight? instanceIndex)).foldl List.erase
              history.flights) := by
        rw [← isRecords, List.filterMap_append, List.foldl_append]
        exact foldl_erase_sublist _ _
      simp only [List.map_nil, List.append_nil] at moved
      exact ⟨moved.coherent, moved.ordered, moved.flying.sublist fewer⟩
  | halt instanceIndex => exact orderly.halt instanceIndex
  | drain => exact orderly.drain

/-- In every run the record agrees with the batcher that is reached. -/
theorem orderly_after
    {history : History}
    (orderly :
      history.batcher.Orderly history.accepted history.dispatched history.flights)
    (operations : List Operation) :
    let last := history.after operations
    last.batcher.Orderly last.accepted last.dispatched last.flights := by
  induction operations generalizing history with
  | nil => exact orderly
  | cons operation operations inductionHypothesis =>
      exact inductionHypothesis (orderly_perform orderly operation)

theorem orderly_ofConfig
    (config : ModelConfig)
    (start : Nat) :
    let history := ofConfig config start
    history.batcher.Orderly history.accepted history.dispatched history.flights where
  coherent := SequenceBatcher.coherent_ofConfig config start
  ordered sequence := List.nil_sublist _
  flying := ⟨by simp [ofConfig], List.Pairwise.nil⟩

/--
In every run, the requests of a sequence are sent off in the order in which they
were let in, none of them twice; at most one of them is in flight from a running
instance; and each leaves from the seat of its sequence, which the sequence keeps
until the slot is released or the instance halted.
-/
theorem sequence_discipline
    (config : ModelConfig)
    (start : Nat)
    (operations : List Operation) :
    let history := (ofConfig config start).after operations
    (∀ sequence,
        (entriesOf sequence history.dispatched).Sublist
          (entriesOf sequence history.accepted)) ∧
      (∀ sequence, (history.batcher.flightsOf history.flights sequence).length ≤ 1) ∧
      ∀ instanceIndex now,
        let formation := history.batcher.formBatch instanceIndex now
        ∀ batch ∈ formation.batch?,
          ∀ index entry sequence,
            batch.entries[index]?.bind BatchEntry.queued? = some entry →
            entry.request.sequence? = some sequence →
              let seat := { instanceIndex := batch.instanceIndex, slot := index }
              batch.instanceIndex = instanceIndex ∧
                formation.batcher.seat? sequence = some seat ∧
                ∀ later,
                  (formation.batcher.after later).seat? sequence = some seat ∨
                    ∃ done operation rest,
                      later = done ++ operation :: rest ∧
                        (operation = .halt batch.instanceIndex ∨
                          (formation.batcher.after done).Releases operation seat) := by
  intro history
  have orderly := orderly_after (orderly_ofConfig config start) operations
  refine ⟨?_, ?_, ?_⟩
  · intro sequence
    have ordered := orderly.ordered sequence
    exact (List.sublist_append_left _ _).trans ordered
  · intro sequence
    exact orderly.flying.length_flightsOf_le_one orderly.coherent sequence
  · intro instanceIndex now formation batch formed index entry sequence atIndex carried seat
    obtain ⟨isInstance, _⟩ := SequenceBatcher.formBatch_placed orderly.coherent formed
    have isSeat : seat = { instanceIndex := instanceIndex, slot := index } := by
      simp only [seat, isInstance]
    have bound : formation.batcher.seat? sequence = some seat := by
      rw [isSeat]
      exact SequenceBatcher.seat?_of_formed orderly.coherent formed atIndex carried
    have reached : formation.batcher.Coherent :=
      orderly.coherent.perform (.form instanceIndex now)
    exact ⟨isInstance, bound, SequenceBatcher.seat?_after reached bound⟩

end History

end InferenceBatching
