import InferenceBatching.Proofs.Queue.Conservation
import InferenceBatching.Proofs.Sequence.Admission
import InferenceBatching.Proofs.Sequence.Formation
import InferenceBatching.Proofs.Sequence.Handover
import InferenceBatching.Proofs.Sequence.Settlement

namespace InferenceBatching

/-!
# What a sequence batcher holds

Every move accounts for the entries that it moves: what waited before, with what
was let in, is what waits afterwards, with what was sent off and what failed. The
places where entries would be dropped without a word, such as a slot that is
vacated, hold none when they are reached.
-/

/-- The failures of some events are those of the entries that the events fail. -/
theorem Event.failsWith
    (events : List Event) :
    FailsWith (events.filterMap failure?) (events.filterMap failed?) := by
  induction events with
  | nil => rfl
  | cons event events inductionHypothesis =>
      cases event with
      | failed entry error =>
          have first : FailsWith [{ request := entry.request, error := error }] [entry] := rfl
          exact first.append inductionHypothesis
      | admitted entry => exact inductionHypothesis
      | dispatched seat entry => exact inductionHypothesis
      | returned flight => exact inductionHypothesis

/-- What is dropped when a slot is torn down and what stays are what was pending. -/
theorem Slot.pending_eq_tornDown
    (slot : Slot) :
    slot.pending = slot.tornDown ++ slot.tearDown.pending := by
  unfold tornDown tearDown
  split
  · rfl
  · exact (List.append_nil _).symm

/-- Nothing stays pending on a sound slot that is torn down. -/
theorem Slot.Sound.pending_tearDown
    {slot : Slot}
    (sound : slot.Sound) :
    slot.tearDown.pending = [] := by
  simp only [Slot.tearDown]
  split
  · next free => exact sound.freePending free
  · rfl

theorem Lane.filterMap_failed_failureEvents
    (lane : Lane)
    (now : Nat) :
    (lane.failureEvents now).filterMap Event.failed? = lane.entries := by
  simp [failureEvents, entries]

namespace SlotTable

variable (table : SlotTable)

theorem count_pending_put
    {index : Nat}
    {held : Slot}
    (found : table.slot? index = some held)
    (slot : Slot)
    (entry : QueueEntry) :
    (table.put index slot).pending.count entry + held.pending.count entry =
      table.pending.count entry + slot.pending.count entry :=
  count_flatMap_set found slot Slot.pending entry

/-- Tearing down all sound slots drops what was pending, and leaves nothing pending. -/
theorem tearDownAll_of_sound
    (sound : ∀ slot ∈ table.slots, slot.Sound) :
    table.tearDownAll.1 = table.pending ∧ table.tearDownAll.2.pending = [] := by
  have nothing : ∀ slot ∈ table.slots, slot.tearDown.pending = [] :=
    fun slot isSlot => (sound slot isSlot).pending_tearDown
  constructor
  · apply List.flatMap_congr
    intro slot isSlot
    rw [slot.pending_eq_tornDown, nothing slot isSlot, List.append_nil]
  · simp only [pending, tearDownAll, List.flatMap_map, List.flatMap_eq_nil_iff]
    exact nothing

/-- Tearing a slot down drops what is then missing. -/
theorem count_beginTeardown
    (index : Nat)
    (entry : QueueEntry) :
    table.pending.count entry =
      (table.beginTeardown index).1.count entry +
        (table.beginTeardown index).2.pending.count entry := by
  cases found : table.slot? index with
  | none =>
      have unchanged : table.slots.modify index Slot.tearDown = table.slots := by
        apply List.modify_eq_self
        exact List.getElem?_eq_none_iff.mp found
      simp [beginTeardown, modify, pending, found, unchanged]
  | some held =>
      have exchanged := count_flatMap_modify found Slot.tearDown Slot.pending entry
      have dropped := congrArg (List.count entry) held.pending_eq_tornDown
      simp only [List.count_append] at dropped
      simp only [beginTeardown, modify, pending, found, Option.map_some, Option.getD_some]
      omega

theorem count_tearDownEach
    (indices : List Nat)
    (entry : QueueEntry) :
    table.pending.count entry =
      (table.tearDownEach indices).1.count entry +
        (table.tearDownEach indices).2.pending.count entry := by
  induction indices generalizing table with
  | nil => simp [tearDownEach]
  | cons index indices inductionHypothesis =>
      have first := table.count_beginTeardown index entry
      have others := inductionHypothesis (table.beginTeardown index).2
      simp only [tearDownEach, List.count_append]
      omega

end SlotTable

namespace SequenceBatcher

section Pending

variable {batcher : SequenceBatcher}
variable {seat : Seat}
variable {held : Slot}

/-- Putting a slot exchanges what is pending. -/
theorem count_pending_putSlot
    (found : batcher.liveSlot? seat = some held)
    (slot : Slot)
    (entry : QueueEntry) :
    (batcher.putSlot seat slot).pendingEntries.count entry + held.pending.count entry =
      batcher.pendingEntries.count entry + slot.pending.count entry := by
  obtain ⟨owner, live, isSlot⟩ := liveSlot?_eq_some.mp found
  have inTable := owner.table.count_pending_put isSlot slot entry
  have inInstances := count_flatMap_modify (live?_eq_some.mp live).1
    (fun changed => { changed with table := changed.table.put seat.slot slot })
    (fun changed => changed.table.pending) entry
  simp only [pendingEntries, putSlot, List.count_append] at inInstances ⊢
  omega

@[simp]
theorem pendingEntries_occupy
    (sequence : CorrelationId)
    (slot : Slot) :
    (batcher.occupy sequence seat slot).pendingEntries =
      (batcher.putSlot seat slot).pendingEntries :=
  rfl

@[simp]
theorem pendingEntries_unoccupy
    (sequence : CorrelationId)
    (slot : Slot) :
    (batcher.unoccupy sequence seat slot).pendingEntries =
      (batcher.putSlot seat slot).pendingEntries :=
  rfl

/-- A change to the backlog changes what waits by what the lanes hold. -/
theorem count_pending_withBacklog
    (batcher : SequenceBatcher)
    (lanes : List Lane)
    (entry : QueueEntry) :
    ({ batcher with backlog := lanes } : SequenceBatcher).pendingEntries.count entry +
        (batcher.backlog.flatMap Lane.entries).count entry =
      batcher.pendingEntries.count entry + (lanes.flatMap Lane.entries).count entry := by
  simp only [pendingEntries, List.count_append]
  omega

end Pending

section Lanes

variable {batcher : SequenceBatcher}

private theorem count_follow
    {lanes : List Lane}
    (distinct : (lanes.map Lane.sequence).Nodup)
    {sequence : CorrelationId}
    (waits : sequence ∈ lanes.map Lane.sequence)
    (entry other : QueueEntry) :
    ((lanes.map (fun lane =>
        if lane.sequence = sequence then
          { lane with followers := lane.followers ++ [entry] }
        else
          lane)).flatMap Lane.entries).count other =
      (lanes.flatMap Lane.entries).count other + [entry].count other := by
  induction lanes with
  | nil => contradiction
  | cons lane lanes inductionHypothesis =>
      rw [List.map_cons, List.nodup_cons] at distinct
      simp only [List.map_cons, List.flatMap_cons, List.count_append]
      by_cases here : lane.sequence = sequence
      · -- No other lane is of this sequence, so the entry is added once.
        have unchanged :
            lanes.map (fun lane =>
              if lane.sequence = sequence then
                { lane with followers := lane.followers ++ [entry] }
              else
                lane) = lanes := by
          conv_rhs => rw [← List.map_id lanes]
          apply List.map_congr_left
          intro other member
          have elsewhere : other.sequence ≠ sequence := by
            intro same
            exact distinct.1 (here ▸ same ▸ List.mem_map_of_mem member)
          simp [elsewhere]
        simp only [here, unchanged, if_true, Lane.entries, List.count_cons, List.count_append]
        omega
      · have later : sequence ∈ lanes.map Lane.sequence := by
          simpa [Ne.symm here] using waits
        have grown := inductionHypothesis distinct.2 later
        simp only [here, if_false]
        omega

/-- Following a lane adds one entry, as one lane waits for each sequence. -/
theorem count_pending_follow
    (coherent : batcher.Coherent)
    {sequence : CorrelationId}
    (waits : (batcher.lane? sequence).isSome = true)
    (entry other : QueueEntry) :
    (batcher.follow sequence entry).pendingEntries.count other =
      batcher.pendingEntries.count other + [entry].count other := by
  obtain ⟨lane, isLane⟩ := Option.isSome_iff_exists.mp waits
  obtain ⟨inBacklog, isSequence⟩ := lane?_eq_some isLane
  have listed : sequence ∈ batcher.backlog.map Lane.sequence :=
    isSequence ▸ List.mem_map_of_mem inBacklog
  have grown := count_follow coherent.distinct listed entry other
  simp only [pendingEntries, follow, List.count_append]
  omega

/-- The lanes that expire are missing afterwards. -/
theorem count_pending_expireBacklog
    (batcher : SequenceBatcher)
    (now : Nat)
    (entry : QueueEntry) :
    batcher.pendingEntries.count entry =
      (batcher.expireBacklog now).batcher.pendingEntries.count entry +
        ((batcher.backlog.filter (fun lane => lane.isExpired now)).flatMap
          Lane.entries).count entry := by
  have split := (List.filter_append_perm (fun lane : Lane => lane.isExpired now)
    batcher.backlog).flatMap_right Lane.entries
  have counted := List.perm_iff_count.mp split entry
  rw [List.flatMap_append, List.count_append] at counted
  simp only [pendingEntries, expireBacklog, List.count_append]
  omega

end Lanes

/-- What waited before, with what was let in, is what waits after, sent off, or failed. -/
def Conserves
    (batcher : SequenceBatcher)
    (events : List Event)
    (last : SequenceBatcher) :
    Prop :=
  (batcher.pendingEntries ++ events.filterMap Event.admitted?).Perm
    (last.pendingEntries ++ (events.filterMap Event.dispatched?).map Prod.snd ++
      events.filterMap Event.failed?)

/-- Every move loses and repeats nothing. -/
theorem Move.conserves
    {now : Nat}
    {batcher last : SequenceBatcher}
    {activity : Activity}
    {events : List Event}
    (coherent : batcher.Coherent)
    (move : Move now batcher activity events last) :
    batcher.Conserves events last := by
  apply List.perm_iff_count.mpr
  intro other
  simp only [List.count_append]
  cases move with
  | follow waits carried =>
      simp [List.filterMap_cons, count_pending_follow coherent waits]
  | @push sequence entry seat held waitsNot found active carries carried =>
      have exchanged := count_pending_putSlot found (held.push entry now) other
      simp only [Slot.pending_push, List.count_append] at exchanged
      simp [List.filterMap_cons]
      omega
  | @openLane sequence entry waitsNot closed room starts carried =>
      have changed := count_pending_withBacklog batcher
        (batcher.backlog ++ [{ sequence := sequence, first := entry }]) other
      simp only [List.flatMap_append, List.flatMap_singleton, Lane.entries,
        List.count_append] at changed
      simp [List.filterMap_cons]
      omega
  | @start sequence entry seat held waitsNot unbound found free starts carried =>
      have exchanged :=
        count_pending_putSlot found ((held.bind sequence now).push entry now) other
      simp only [Slot.pending_push, Slot.pending_bind, List.count_append] at exchanged
      simp [List.filterMap_cons]
      omega
  | unmark sequence => rfl
  | forget => rfl
  | expireLanes =>
      have expired := batcher.count_pending_expireBacklog now other
      obtain ⟨noAdmission, noDispatch, _⟩ :=
        Event.filterMap_of_isFailure (Lane.isFailure_of_flatMap
          (batcher.backlog.filter (fun lane => lane.isExpired now)) now)
      rw [noAdmission, noDispatch]
      simp only [List.filterMap_flatMap, Lane.filterMap_failed_failureEvents, List.map_nil,
        List.count_nil]
      omega
  | @tearDown sequence request seat held found carries expired flying =>
      have marked : (batcher.markTimedOut sequence now).liveSlot? seat = some held := found
      have exchanged := count_pending_putSlot marked held.tearDown other
      have sameEntries :
          (batcher.markTimedOut sequence now).pendingEntries = batcher.pendingEntries := rfl
      have dropped := (coherent.sound_of_liveSlot found).pending_tearDown
      simp [dropped, sameEntries] at exchanged ⊢
      omega
  | @evict sequence seat held found carries expired grounded =>
      have marked : (batcher.markTimedOut sequence now).liveSlot? seat = some held := found
      have exchanged := count_pending_putSlot marked (held.tearDown.vacate now) other
      have sameEntries :
          (batcher.markTimedOut sequence now).pendingEntries = batcher.pendingEntries := rfl
      simp [Slot.vacate, sameEntries] at exchanged ⊢
      omega
  | @reclaim sequence seat held found carries idle =>
      have exchanged := count_pending_putSlot found (held.vacate now) other
      -- An idle slot is vacated, which is no loss: nothing is pending on it.
      have nothing := (Slot.idle_shape idle).2.2
      simp [Slot.vacate, nothing] at exchanged ⊢
      omega
  | @seatLane passed later lane seat held isBacklog bound unbound found free =>
      -- A free slot has no leftovers, so the lane's entries are all that it holds afterwards.
      have nothing := (coherent.sound_of_liveSlot found).freePending free
      have changed := count_pending_withBacklog batcher (passed ++ later) other
      have stillFound :
          ({ batcher with backlog := passed ++ later } : SequenceBatcher).liveSlot? seat =
            some held := found
      have exchanged := count_pending_putSlot stillFound
        ((held.bind lane.sequence now).pushAll lane.entries now) other
      simp only [(Slot.pushAll_fields _ lane.entries now).2.2.2, Slot.pending_bind, nothing,
        List.nil_append, List.count_nil] at exchanged
      simp only [isBacklog, List.flatMap_append, List.flatMap_cons, List.count_append] at changed
      simp
      omega
  | @dispatch entry seat held after found dispatched =>
      obtain ⟨_, _, rest, isPending, isAfter⟩ := Slot.dispatch?_shape dispatched
      have exchanged := count_pending_putSlot found after other
      have left : after.pending = rest := by rw [isAfter]
      simp [isPending, left, List.count_cons, List.filterMap_cons] at exchanged ⊢
      omega
  | @land sequence request seat held found carries flying active =>
      have exchanged := count_pending_putSlot found (held.land now) other
      simp [List.filterMap_cons] at exchanged ⊢
      omega
  | @release sequence request seat held found carries flying ending =>
      have exchanged := count_pending_putSlot found ((held.land now).vacate now) other
      simp [Slot.vacate, List.filterMap_cons] at exchanged ⊢
      omega

theorem Moves.conserves
    {now : Nat}
    {batcher last : SequenceBatcher}
    {activity : Activity}
    {events : List Event}
    (coherent : batcher.Coherent)
    (moves : Moves now batcher activity events last) :
    batcher.Conserves events last := by
  induction moves with
  | nil => simp [Conserves]
  | snoc moves move inductionHypothesis =>
      have step := move.conserves (moves.coherent coherent)
      simp only [Conserves, List.perm_iff_count, List.count_append, List.filterMap_append,
        List.map_append] at inductionHypothesis step ⊢
      intro entry
      have before := inductionHypothesis entry
      have after := step entry
      omega

theorem pendingEntries_ofConfig
    (config : ModelConfig)
    (now : Nat) :
    (ofConfig config now).pendingEntries = [] := by
  simp only [pendingEntries, ofConfig, ofConfigWith, SlotTable.pending, SlotTable.unused,
    List.flatMap_nil, List.nil_append, List.flatMap_map, List.flatMap_eq_nil_iff]
  intro index _ slot isSlot
  rw [List.eq_of_mem_replicate isSlot]
  rfl

section Operations

variable {batcher : SequenceBatcher}

/-- A request that is let in adds its entry to what waits. -/
theorem enqueue_accepted
    (coherent : batcher.Coherent)
    {request : Request}
    {now : Nat}
    (accepted : (batcher.enqueue request now).rejection? = none) :
    (batcher.enqueue request now).batcher.pendingEntries.Perm
      (batcher.pendingEntries ++ [batcher.entryFor request now]) := by
  have admission := enqueue_admission coherent request now
  generalize batcher.enqueue request now = answer at admission accepted
  cases admission with
  | rejected error moves => contradiction
  | accepted belongs moves =>
      simpa [Conserves, Answer.accepted, List.filterMap_cons]
        using (moves.conserves coherent).symm

/-- A request that is turned away is handed back and adds nothing. -/
theorem enqueue_rejected
    (coherent : batcher.Coherent)
    {request : Request}
    {now : Nat}
    {failure : Failure}
    (rejected : (batcher.enqueue request now).rejection? = some failure) :
    failure.request = request ∧
      (batcher.enqueue request now).batcher.pendingEntries.Perm batcher.pendingEntries := by
  have admission := enqueue_admission coherent request now
  generalize batcher.enqueue request now = answer at admission rejected
  cases admission with
  | accepted belongs moves => contradiction
  | rejected error moves =>
      have same := congrArg Failure.request (Option.some.inj rejected)
      exact ⟨same.symm, by simpa [Conserves, Answer.rejected]
        using (moves.conserves coherent).symm⟩

/-- Forming a batch keeps, dispatches or fails what waits. -/
theorem formBatch_perm
    (coherent : batcher.Coherent)
    (instanceIndex now : Nat) :
    let formation := batcher.formBatch instanceIndex now
    ∃ failed,
      FailsWith formation.failed failed ∧
        batcher.pendingEntries.Perm
          (formation.batcher.pendingEntries ++
            formation.batch?.toList.flatMap Batch.queueEntries ++ failed) := by
  have phases := formBatch_phases coherent instanceIndex now
  generalize batcher.formBatch instanceIndex now = formation at phases
  cases phases with
  | halted halted => exact ⟨[], rfl, by simp [Formation.idle]⟩
  | @live _ failures live expires onlyFailures isFailed dispatches placed =>
      obtain ⟨noAdmission, noDispatch, _⟩ := Event.filterMap_of_isFailure onlyFailures
      have swept := expires.conserves coherent
      have sent := dispatches.conserves (expires.coherent coherent)
      rw [Conserves, noAdmission, noDispatch, List.map_nil, List.append_nil,
        List.append_nil] at swept
      refine ⟨failures.filterMap Event.failed?, isFailed ▸ Event.failsWith failures, ?_⟩
      refine swept.trans (List.Perm.append_right _ ?_)
      have fromBatch := Formation.dispatches_eq formation
      cases isBatch : formation.batch? with
      | none => simpa [Conserves, fromBatch, isBatch] using sent
      | some batch =>
          have inOrder := Batch.filterMap_dispatched_events (placed batch isBatch).2
          simpa [Conserves, fromBatch, isBatch, Batch.filterMap_admitted_events,
            Batch.filterMap_failed_events, inOrder] using sent

/-- Settling reports keeps or fails what waits, and tells the failures if it is not refused. -/
theorem complete_perm
    (coherent : batcher.Coherent)
    (instanceIndex : Nat)
    (records : List DispatchRecord)
    (now : Nat) :
    let settlement := batcher.complete instanceIndex records now
    ∃ failed,
      batcher.pendingEntries.Perm (settlement.batcher.pendingEntries ++ failed) ∧
        ∀ failures, settlement.verdict = .settled failures → FailsWith failures failed := by
  obtain ⟨events, _, moves, _, _, noAdmission, noDispatch, verdict⟩ :=
    complete_moves coherent instanceIndex records now
  have settled := moves.conserves coherent
  rw [Conserves, noAdmission, noDispatch, List.map_nil, List.append_nil,
    List.append_nil] at settled
  refine ⟨events.filterMap Event.failed?, settled, ?_⟩
  intro failures isSettled
  rw [(verdict failures isSettled).2]
  exact Event.failsWith events

/-- Halting an instance hands over what is then missing. -/
theorem halt_perm
    (batcher : SequenceBatcher)
    (instanceIndex : Nat) :
    let handover := batcher.halt instanceIndex
    ∃ returned,
      handover.requests = requestsOf returned ∧
        batcher.pendingEntries.Perm (handover.batcher.pendingEntries ++ returned) := by
  have isHalt := batcher.halt_eq instanceIndex
  dsimp only at isHalt ⊢
  rw [isHalt]
  refine ⟨_, rfl, List.perm_iff_count.mpr ?_⟩
  intro entry
  cases found : batcher.instances[instanceIndex]? with
  | none =>
      have unchanged :
          ∀ change, batcher.instances.modify instanceIndex change = batcher.instances :=
        fun change => List.modify_eq_self (List.getElem?_eq_none_iff.mp found)
      simp [pendingEntries, table?, found, unchanged]
  | some held =>
      have dropped := held.table.count_tearDownEach
        ((batcher.bindingsOf instanceIndex).map (fun binding => binding.2.slot)) entry
      have exchanged := count_flatMap_modify found
        (fun changed =>
          { table :=
              (changed.table.tearDownEach
                ((batcher.bindingsOf instanceIndex).map (fun binding => binding.2.slot))).2
            isHalted := true })
        (fun changed => changed.table.pending) entry
      simp only [pendingEntries, table?, found, Option.map_some, Option.getD_some,
        List.count_append] at exchanged ⊢
      omega

/-- Draining hands over all that waits and leaves nothing. -/
theorem drain_pending
    (coherent : batcher.Coherent) :
    batcher.drain.requests = requestsOf batcher.pendingEntries ∧
      batcher.drain.batcher.pendingEntries = [] := by
  have tornDown := fun held member => (held : Instance).table.tearDownAll_of_sound
    (coherent.slots held member)
  constructor
  · rw [drain, pendingEntries, List.flatMap_congr (fun held member => (tornDown held member).1)]
  · simp only [drain, pendingEntries, List.flatMap_nil, List.nil_append, List.flatMap_map,
      List.flatMap_eq_nil_iff]
    exact fun held member => (tornDown held member).2

end Operations

end SequenceBatcher

end InferenceBatching
