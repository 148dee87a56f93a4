import InferenceBatching.Proofs.Sequence.History

namespace InferenceBatching

/-!
# The protocol of a slot

A model with state keeps it by slot, so what the backend sees at one slot has to
make sense by itself: a request that does not start a sequence comes right after
one of the same sequence that did not end it.

The invariant says how a slot takes up what was seen at it before. The sequence of
an active slot either was seen there last and has not ended, or has its starting
request at the head of the slot. A slot that is not active may be given to anyone,
and a new owner always begins with its starting request.
-/

/-- What the backend is told of the requests at a seat, over the batches of its instance. -/
def readyControls
    (seat : Seat)
    (batches : List Batch) :
    List SlotControl :=
  ((batches.filter (fun batch => batch.instanceIndex = seat.instanceIndex)).filterMap
    (fun batch => batch.entries[seat.slot]?.bind BatchEntry.control?)).filter SlotControl.ready

theorem readyControls_nil
    (seat : Seat) :
    readyControls seat [] = [] :=
  rfl

theorem readyControls_append
    (seat : Seat)
    (batches more : List Batch) :
    readyControls seat (batches ++ more) =
      readyControls seat batches ++ readyControls seat more := by
  simp [readyControls]

/-- Only what goes on with the sequence seen just before, and not ended, does not start one. -/
def FollowsProtocol
    (controls : List SlotControl) :
    Prop :=
  ∀ index control,
    controls[index]? = some control →
    control.start = false →
      ∃ earlier previous,
        index = earlier + 1 ∧
          controls[earlier]? = some previous ∧
          previous.sequence? = control.sequence? ∧
          previous.ending = false

namespace FollowsProtocol

variable {controls : List SlotControl}

/-- The protocol goes on with a control that starts a sequence or goes on with the last one. -/
theorem snoc
    (follows : FollowsProtocol controls)
    {control : SlotControl}
    (continues :
      control.start = false →
        ∃ previous,
          controls.getLast? = some previous ∧
            previous.sequence? = control.sequence? ∧
            previous.ending = false) :
    FollowsProtocol (controls ++ [control]) := by
  intro index other atIndex notStart
  rcases Nat.lt_trichotomy index controls.length with before | atEnd | beyond
  · rw [List.getElem?_append_left before] at atIndex
    obtain ⟨earlier, previous, isNext, isPrevious, agrees⟩ := follows index other atIndex notStart
    have inFront : earlier < controls.length := by omega
    exact ⟨earlier, previous, isNext, by rw [List.getElem?_append_left inFront, isPrevious], agrees⟩
  · have same : control = other := by simpa [atEnd] using atIndex
    subst same
    obtain ⟨previous, isLast, agrees⟩ := continues notStart
    rw [List.getLast?_eq_getElem?] at isLast
    have inFront := (List.getElem?_eq_some_iff.mp isLast).1
    refine ⟨controls.length - 1, previous, by omega, ?_, agrees⟩
    rw [List.getElem?_append_left inFront, isLast]
  · have outside : (controls ++ [control]).length ≤ index := by
      simpa using Nat.succ_le_of_lt beyond
    rw [List.getElem?_eq_none outside] at atIndex
    contradiction

/-- The first request of all starts a sequence. -/
theorem start_of_head
    (follows : FollowsProtocol controls)
    {first : SlotControl}
    (isFirst : first ∈ controls.head?) :
    first.start = true := by
  cases starts : first.start with
  | true => rfl
  | false =>
      rw [Option.mem_def, List.head?_eq_getElem?] at isFirst
      obtain ⟨earlier, _, isNext, _⟩ := follows 0 first isFirst starts
      contradiction

/-- The request after one that ends its sequence starts a sequence. -/
theorem start_of_ending
    (follows : FollowsProtocol controls)
    {index : Nat}
    {last next : SlotControl}
    (isLast : controls[index]? = some last)
    (ends : last.ending = true)
    (isNext : controls[index + 1]? = some next) :
    next.start = true := by
  cases starts : next.start with
  | true => rfl
  | false =>
      obtain ⟨earlier, previous, isEarlier, isPrevious, _, goesOn⟩ :=
        follows (index + 1) next isNext starts
      have same : index = earlier := Nat.succ.inj isEarlier
      rw [same, isPrevious] at isLast
      rw [Option.some.inj isLast, ends] at goesOn
      contradiction

/-- Between the requests of two sequences one of them starts. -/
theorem start_between
    (follows : FollowsProtocol controls)
    {first second : Nat}
    {before after : SlotControl}
    (inOrder : first < second)
    (isBefore : controls[first]? = some before)
    (isAfter : controls[second]? = some after)
    (distinct : before.sequence? ≠ after.sequence?) :
    ∃ index control,
      first < index ∧
        index ≤ second ∧
        controls[index]? = some control ∧
        control.start = true := by
  induction second generalizing after with
  | zero => contradiction
  | succ earlier inductionHypothesis =>
      cases starts : after.start with
      | true => exact ⟨earlier + 1, after, inOrder, Nat.le_refl _, isAfter, starts⟩
      | false =>
          obtain ⟨place, previous, isNext, isPrevious, sameSequence, _⟩ :=
            follows (earlier + 1) after isAfter starts
          have same : earlier = place := Nat.succ.inj isNext
          rw [← same] at isPrevious
          have stillDistinct : before.sequence? ≠ previous.sequence? := by
            rw [sameSequence]
            exact distinct
          rcases Nat.lt_or_eq_of_le (Nat.lt_succ_iff.mp inOrder) with further | reached
          · obtain ⟨index, control, isLater, inRange, found⟩ :=
              inductionHypothesis further isPrevious stillDistinct
            exact ⟨index, control, isLater, by omega, found⟩
          · rw [reached, isPrevious] at isBefore
            exact absurd (congrArg SlotControl.sequence? (Option.some.inj isBefore)).symm
              stillDistinct

end FollowsProtocol

/-- What the backend is told at a seat of a request that is sent off. -/
def controlAt?
    (seat : Seat)
    (sent : Seat × QueueEntry) :
    Option SlotControl :=
  if sent.1 = seat then
    (BatchEntry.seated sent.1.slot sent.2).control?
  else
    none

/-- What the backend is told at a seat by the events of some moves. -/
def controlsAt
    (seat : Seat)
    (events : List Event) :
    List SlotControl :=
  (events.filterMap Event.dispatched?).filterMap (controlAt? seat)

theorem controlsAt_append
    (seat : Seat)
    (events more : List Event) :
    controlsAt seat (events ++ more) = controlsAt seat events ++ controlsAt seat more := by
  simp [controlsAt]

/-- Events of which nothing is sent off tell the backend nothing. -/
theorem controlsAt_of_grounded
    {events : List Event}
    (noDispatch : events.filterMap Event.dispatched? = [])
    (seat : Seat) :
    controlsAt seat events = [] := by
  rw [controlsAt, noDispatch]
  rfl

section Batch

variable {entries : List BatchEntry}
variable {seat : Seat}

/-- Nothing is seen at a seat from positions that are not its slot. -/
private theorem controlsAt_elsewhere
    {instanceIndex : Nat}
    (elsewhere :
      ∀ entry ∈ entries, instanceIndex = seat.instanceIndex → entry.slot? ≠ some seat.slot) :
    controlsAt seat (entries.filterMap (BatchEntry.event? instanceIndex)) = [] := by
  simp only [controlsAt, List.filterMap_filterMap, List.filterMap_eq_nil_iff]
  intro entry member
  cases entry with
  | single queued => rfl
  | padding slot sequence? => rfl
  | seated slot queued =>
      have distinct : ({ instanceIndex := instanceIndex, slot := slot } : Seat) ≠ seat := by
        intro same
        apply elsewhere _ member
        · rw [← same]
        · rw [← same]
          rfl
      simp [BatchEntry.event?, controlAt?, distinct]

/-- What is seen at a seat of consecutive slots is the request at its slot. -/
private theorem controlsAt_positions
    {index offset : Nat}
    (isSlot : seat.slot = index + offset)
    (placed : entries.map BatchEntry.slot? = (List.range' index entries.length).map some) :
    controlsAt seat (entries.filterMap (BatchEntry.event? seat.instanceIndex)) =
      ((entries[offset]?.bind BatchEntry.control?).filter SlotControl.ready).toList := by
  -- By induction on the positions: the slot is the first of them, or further on by one less.
  induction entries generalizing index offset with
  | nil => rfl
  | cons entry entries inductionHypothesis =>
      simp only [List.map_cons, List.length_cons, List.range'_succ, List.cons.injEq] at placed
      obtain ⟨isIndex, restPlaced⟩ := placed
      have split :
          (entry :: entries).filterMap (BatchEntry.event? seat.instanceIndex) =
            [entry].filterMap (BatchEntry.event? seat.instanceIndex) ++
              entries.filterMap (BatchEntry.event? seat.instanceIndex) := by
        rw [← List.filterMap_append]
        rfl
      rw [split, controlsAt_append]
      cases offset with
      | zero =>
          have later : controlsAt seat
              (entries.filterMap (BatchEntry.event? seat.instanceIndex)) = [] := by
            apply controlsAt_elsewhere
            intro other member _ same
            have inRange : some seat.slot ∈ (List.range' (index + 1) entries.length).map some := by
              rw [← restPlaced, ← same]
              exact List.mem_map_of_mem member
            simp at inRange
            omega
          have isSeat : { instanceIndex := seat.instanceIndex, slot := index } = seat := by
            cases seat
            simp_all
          rw [later]
          cases entry with
          | single queued => contradiction
          | padding slot sequence? =>
              simp [BatchEntry.event?, BatchEntry.control?, controlsAt, Option.filter]
          | seated slot queued =>
              have sameSlot : slot = index := Option.some.inj isIndex
              simp [BatchEntry.event?, BatchEntry.control?, controlsAt, controlAt?, sameSlot,
                isSeat, Option.filter]
      | succ further =>
          have before : controlsAt seat
              ([entry].filterMap (BatchEntry.event? seat.instanceIndex)) = [] := by
            apply controlsAt_elsewhere
            intro other member _ same
            rw [List.mem_singleton.mp member, isIndex, Option.some.injEq] at same
            omega
          have isFurther : seat.slot = (index + 1) + further := by omega
          rw [before, inductionHypothesis isFurther restPlaced]
          rfl

/-- What is seen at a seat of a batch is the request that the batch has for it. -/
theorem controlsAt_events
    {batch : Batch}
    (placed : batch.entries.map BatchEntry.slot? = (List.range batch.size).map some)
    (seat : Seat) :
    controlsAt seat batch.events = readyControls seat [batch] := by
  by_cases here : batch.instanceIndex = seat.instanceIndex
  · have isRange : batch.entries.map BatchEntry.slot? =
        (List.range' 0 batch.entries.length).map some := by
      rw [placed, List.range_eq_range']
      rfl
    rw [Batch.events, here, controlsAt_positions (Nat.zero_add _).symm isRange]
    cases isControl : batch.entries[seat.slot]?.bind BatchEntry.control? with
    | none => simp [readyControls, here, isControl]
    | some control =>
        cases isReady : control.ready <;>
          simp [readyControls, here, isControl, isReady, Option.filter]
  · have elsewhere : controlsAt seat batch.events = [] :=
      controlsAt_elsewhere (fun _ _ same => absurd same here)
    rw [elsewhere]
    simp [readyControls, here]

theorem controlsAt_dispatches
    {State : Type}
    {formation : Formation State}
    (placed :
      ∀ batch ∈ formation.batch?,
        batch.entries.map BatchEntry.slot? = (List.range batch.size).map some)
    (seat : Seat) :
    controlsAt seat formation.dispatches = readyControls seat formation.batch?.toList := by
  rw [Formation.dispatches_eq]
  cases isBatch : formation.batch? with
  | none => rfl
  | some batch => simpa using controlsAt_events (placed batch isBatch) seat

end Batch

namespace SequenceBatcher

/-- A slot takes up what was seen at its seat before. -/
def TakesUp
    (slot : Slot)
    (seen : List SlotControl) :
    Prop :=
  (∃ last,
      seen.getLast? = some last ∧ last.sequence? = slot.sequence? ∧ last.ending = false) ∨
    ∃ entry ∈ slot.pending.head?, entry.request.starts = true

/-- What was seen at a seat follows the protocol, and an active slot there takes it up. -/
structure Faithful
    (batcher : SequenceBatcher)
    (seat : Seat)
    (seen : List SlotControl) :
    Prop where
  follows : FollowsProtocol seen
  takesUp :
    ∀ slot ∈ batcher.liveSlot? seat, slot.state = .active → TakesUp slot seen

namespace Faithful

variable {batcher last : SequenceBatcher}
variable {seat : Seat}
variable {seen : List SlotControl}

/-- Where no slot is active, nothing that was seen before matters. -/
theorem of_not_active
    (inactive : ∀ slot ∈ batcher.liveSlot? seat, slot.state ≠ .active)
    (follows : FollowsProtocol seen) :
    batcher.Faithful seat seen where
  follows := follows
  takesUp slot found active := absurd active (inactive slot found)

/-- A slot may be put that is not active, begins with a start, or goes on as before. -/
private theorem putSlot
    (faithful : batcher.Faithful seat seen)
    {place : Seat}
    {held slot : Slot}
    (found : batcher.liveSlot? place = some held)
    (isPut : last.liveSlot? = (batcher.putSlot place slot).liveSlot?)
    (goesOn :
      slot.state = .active →
        (∃ entry ∈ slot.pending.head?, entry.request.starts = true) ∨
          held.state = .active ∧
            slot.sequence? = held.sequence? ∧
            ∀ entry ∈ held.pending.head?, entry ∈ slot.pending.head?) :
    last.Faithful seat seen where
  follows := faithful.follows
  takesUp := by
    intro other isOther active
    rw [isPut, liveSlot?_putSlot slot found] at isOther
    split at isOther
    · next atSeat =>
        rw [← Option.some.inj isOther] at active ⊢
        rcases goesOn active with starts | ⟨wasActive, sameSequence, sameHead⟩
        · exact Or.inr starts
        · rw [atSeat] at faithful
          rcases faithful.takesUp held found wasActive with ⟨last, isLast, same, unended⟩ | starts
          · exact Or.inl ⟨last, isLast, same.trans sameSequence.symm, unended⟩
          · obtain ⟨entry, isHead, starts⟩ := starts
            exact Or.inr ⟨entry, sameHead entry isHead, starts⟩
    · exact faithful.takesUp other isOther active

/-- A slot sends off its head, which goes on with what was seen or starts a sequence. -/
private theorem dispatch
    (faithful : batcher.Faithful seat seen)
    (coherent : batcher.Coherent)
    {now : Nat}
    {entry : QueueEntry}
    {held after : Slot}
    (found : batcher.liveSlot? seat = some held)
    (dispatched : held.dispatch? now = some (entry, after)) :
    (batcher.putSlot seat after).Faithful seat
      (seen ++ (BatchEntry.seated seat.slot entry).control?.toList) := by
  obtain ⟨active, _, rest, isPending, isAfter⟩ := Slot.dispatch?_shape dispatched
  have carries : entry.request.sequence? = held.sequence? :=
    (coherent.sound_of_liveSlot found).carried entry (by simp [isPending])
  refine ⟨faithful.follows.snoc ?_, ?_⟩
  · intro notStart
    rcases faithful.takesUp held found active with ⟨last, isLast, same, unended⟩ | starts
    · exact ⟨last, isLast, same.trans carries.symm, unended⟩
    · obtain ⟨head, isHead, starts⟩ := starts
      have sameHead : head = entry := by simpa [isPending] using isHead.symm
      rw [sameHead] at starts
      simp [starts] at notStart
  · intro slot isSlot stillActive
    have same : slot = after := by
      simpa [liveSlot?_putSlot after found] using isSlot.symm
    rw [same, isAfter] at stillActive ⊢
    -- Had the request ended its sequence, the slot would be at its end and not active.
    refine Or.inl ⟨_, List.getLast?_concat, carries, ?_⟩
    cases ends : entry.request.ends with
    | false => rfl
    | true => simp [ends] at stillActive

end Faithful

/-- Every move goes on with what was seen at a seat. -/
theorem Move.faithful
    {now : Nat}
    {batcher last : SequenceBatcher}
    {activity : Activity}
    {events : List Event}
    (coherent : batcher.Coherent)
    {seat : Seat}
    {seen : List SlotControl}
    (faithful : batcher.Faithful seat seen)
    (move : Move now batcher activity events last) :
    last.Faithful seat (seen ++ controlsAt seat events) := by
  have grounded :
      events.filterMap Event.dispatched? = [] →
        last.Faithful seat seen → last.Faithful seat (seen ++ controlsAt seat events) := by
    intro noDispatch unchanged
    rw [controlsAt_of_grounded noDispatch, List.append_nil]
    exact unchanged
  cases move with
  | follow waits carried => exact grounded rfl ⟨faithful.follows, faithful.takesUp⟩
  | push waitsNot found active carries carried =>
      refine grounded rfl (faithful.putSlot found rfl (fun _ => Or.inr ⟨active, rfl, ?_⟩))
      intro entry isHead
      rw [Slot.pending_push, List.head?_append, Option.mem_def.mp isHead]
      rfl
  | openLane waitsNot closed room starts carried =>
      exact grounded rfl ⟨faithful.follows, faithful.takesUp⟩
  | start waitsNot unbound found free starts carried =>
      have empty := (coherent.sound_of_liveSlot found).freePending free
      refine grounded rfl (faithful.putSlot found rfl (fun _ => Or.inl ⟨_, ?_, starts⟩))
      simp [empty]
  | unmark sequence => exact grounded rfl ⟨faithful.follows, faithful.takesUp⟩
  | forget => exact grounded rfl ⟨faithful.follows, faithful.takesUp⟩
  | expireLanes =>
      obtain ⟨_, noDispatch, _⟩ :=
        Event.filterMap_of_isFailure (Lane.isFailure_of_flatMap _ now)
      exact grounded noDispatch ⟨faithful.follows, faithful.takesUp⟩
  | tearDown found carries expired flying =>
      refine grounded (Event.filterMap_dispatched_failAll _ _) (faithful.putSlot found rfl ?_)
      exact fun active => absurd active (Slot.tearDown_not_active _)
  | evict found carries expired flying =>
      refine grounded (Event.filterMap_dispatched_failAll _ _) (faithful.putSlot found rfl ?_)
      exact fun active => by simp [Slot.vacate] at active
  | reclaim found carries idle =>
      refine grounded rfl (faithful.putSlot found rfl ?_)
      exact fun active => by simp [Slot.vacate] at active
  | @seatLane passed later lane place held isBacklog bound unbound found free =>
      -- The slot has no leftovers, so its head is the request that opened the lane, a start.
      have empty := (coherent.sound_of_liveSlot found).freePending free
      have starts := (coherent.lanes lane (by simp [isBacklog])).starts
      refine grounded rfl (faithful.putSlot found rfl (fun _ => Or.inl ⟨lane.first, ?_, starts⟩))
      rw [(Slot.pushAll_fields _ lane.entries now).2.2.2, Slot.pending_bind, empty]
      rfl
  | @dispatch entry place held after found dispatched =>
      by_cases here : place = seat
      · subst here
        simpa [controlsAt, controlAt?, BatchEntry.control?]
          using faithful.dispatch coherent found dispatched
      · have unseen : controlsAt seat [.dispatched place entry] = [] := by
          simp [controlsAt, controlAt?, here]
        rw [unseen, List.append_nil]
        refine ⟨faithful.follows, ?_⟩
        intro slot isSlot
        rw [liveSlot?_putSlot after found, if_neg (Ne.symm here)] at isSlot
        exact faithful.takesUp slot isSlot
  | land found carries flying active =>
      refine grounded rfl (faithful.putSlot found rfl (fun _ => Or.inr ⟨active, rfl, ?_⟩))
      exact fun entry isHead => isHead
  | release found carries flying ending =>
      refine grounded (by simp [List.filterMap_cons]) (faithful.putSlot found rfl ?_)
      exact fun active => by simp [Slot.vacate] at active

theorem Moves.faithful
    {now : Nat}
    {batcher last : SequenceBatcher}
    {activity : Activity}
    {events : List Event}
    (coherent : batcher.Coherent)
    {seat : Seat}
    {seen : List SlotControl}
    (faithful : batcher.Faithful seat seen)
    (moves : Moves now batcher activity events last) :
    last.Faithful seat (seen ++ controlsAt seat events) := by
  induction moves with
  | nil => simpa [controlsAt] using faithful
  | snoc moves move inductionHypothesis =>
      rw [controlsAt_append, ← List.append_assoc]
      exact move.faithful (moves.coherent coherent) inductionHypothesis

section Operations

variable {batcher : SequenceBatcher}
variable {seat : Seat}
variable {seen : List SlotControl}

/-- What an operation does before it fills slots goes on with what was seen at a seat. -/
theorem Faithful.afterReleases
    (faithful : batcher.Faithful seat seen)
    (coherent : batcher.Coherent)
    (operation : Operation) :
    (batcher.afterReleases operation).Faithful seat seen := by
  cases operation with
  | enqueue request now =>
      have admission := enqueue_admission coherent request now
      simp only [SequenceBatcher.afterReleases, perform]
      generalize batcher.enqueue request now = answer at admission
      cases admission with
      | accepted belongs moves =>
          simpa [controlsAt, List.filterMap_cons, Answer.accepted]
            using moves.faithful coherent faithful
      | rejected error moves =>
          simpa [controlsAt, Answer.rejected] using moves.faithful coherent faithful
  | form instanceIndex now =>
      by_cases live : (batcher.live? instanceIndex).isSome = true
      · obtain ⟨events, expires, onlyFailures, _⟩ := expire_moves coherent now
        obtain ⟨_, noDispatch, _⟩ := Event.filterMap_of_isFailure onlyFailures
        have swept := expires.faithful coherent faithful
        rw [SequenceBatcher.afterReleases, if_pos live]
        rwa [controlsAt_of_grounded noDispatch, List.append_nil] at swept
      · rw [SequenceBatcher.afterReleases, if_neg live]
        exact faithful
  | complete instanceIndex records now =>
      obtain ⟨_, _, moves, _, _, _, noDispatch, _⟩ :=
        complete_moves coherent instanceIndex records now
      have settled := moves.faithful coherent faithful
      rw [controlsAt_of_grounded noDispatch, List.append_nil] at settled
      exact settled
  | halt instanceIndex =>
      refine ⟨faithful.follows, ?_⟩
      intro slot isSlot
      change slot ∈ (batcher.halt instanceIndex).batcher.liveSlot? seat at isSlot
      rw [liveSlot?_halt] at isSlot
      split at isSlot
      · contradiction
      · exact faithful.takesUp slot isSlot
  | drain =>
      apply Faithful.of_not_active _ faithful.follows
      intro slot isSlot
      change slot ∈ batcher.drain.batcher.liveSlot? seat at isSlot
      rw [liveSlot?_drain] at isSlot
      obtain ⟨held, _, isTornDown⟩ := Option.map_eq_some_iff.mp isSlot
      rw [← isTornDown]
      exact held.tearDown_not_active

/-- A formation fills slots so that its batch goes on with what was seen at a seat. -/
theorem Faithful.form
    {instanceIndex now : Nat}
    (faithful : (batcher.afterReleases (.form instanceIndex now)).Faithful seat seen)
    (coherent : batcher.Coherent) :
    let formation := batcher.formBatch instanceIndex now
    formation.batcher.Faithful seat (seen ++ readyControls seat formation.batch?.toList) := by
  have phases := formBatch_phases coherent instanceIndex now
  simp only [SequenceBatcher.afterReleases] at faithful ⊢
  generalize batcher.formBatch instanceIndex now = formation at phases
  cases phases with
  | halted halted => simpa [halted, Formation.idle, readyControls] using faithful
  | live live expires onlyFailures isFailed dispatches placed =>
      rw [if_pos live] at faithful
      have positioned := fun batch isBatch => (placed batch isBatch).2
      rw [← controlsAt_dispatches positioned seat]
      exact dispatches.faithful (expires.coherent coherent) faithful

/-- A slot that has expired or been idle for the limit is not active after the sweep. -/
theorem not_active_of_swept
    (coherent : batcher.Coherent)
    {instanceIndex now : Nat}
    (live : (batcher.live? instanceIndex).isSome = true)
    {slot : Slot}
    (found : batcher.liveSlot? seat = some slot)
    (due : slot.isExpired now = true ∨ slot.isIdle batcher.idleLimit? now = true) :
    ∀ after ∈ (batcher.afterReleases (.form instanceIndex now)).liveSlot? seat,
      after.state ≠ .active := by
  intro after isAfter
  rw [SequenceBatcher.afterReleases, if_pos live, liveSlot?_expire coherent, found] at isAfter
  rw [← Option.some.inj isAfter]
  exact slot.swept_not_active batcher.idleLimit? now due

end Operations

end SequenceBatcher

namespace History

variable {history : History}
variable {seat : Seat}
variable {seen : List SlotControl}

/-- The batches that further operations add to a history. -/
def batchesOf
    (history : History)
    (operations : List Operation) :
    List Batch :=
  (history.after operations).batches.drop history.batches.length

private theorem faithful_of_released
    (coherent : history.batcher.Coherent)
    {operation : Operation}
    (faithful : (history.batcher.afterReleases operation).Faithful seat seen) :
    ∃ more,
      (history.perform operation).batches = history.batches ++ more ∧
        (history.perform operation).batcher.Faithful seat
          (seen ++ readyControls seat more) := by
  cases operation with
  | form instanceIndex now => exact ⟨_, rfl, faithful.form coherent⟩
  | enqueue | complete | halt | drain =>
      refine ⟨[], (List.append_nil _).symm, ?_⟩
      rw [readyControls_nil, List.append_nil]
      exact faithful

private theorem coherent_perform
    (coherent : history.batcher.Coherent)
    (operation : Operation) :
    (history.perform operation).batcher.Coherent := by
  have performed := coherent.perform operation
  cases operation <;> exact performed

private theorem faithful_after
    (coherent : history.batcher.Coherent)
    (faithful : history.batcher.Faithful seat seen)
    (operations : List Operation) :
    ∃ more,
      (history.after operations).batches = history.batches ++ more ∧
        (history.after operations).batcher.Coherent ∧
        (history.after operations).batcher.Faithful seat (seen ++ readyControls seat more) := by
  induction operations generalizing history seen with
  | nil =>
      refine ⟨[], (List.append_nil _).symm, coherent, ?_⟩
      rw [readyControls_nil, List.append_nil]
      exact faithful
  | cons operation operations inductionHypothesis =>
      obtain ⟨first, isFirst, performed⟩ :=
        faithful_of_released coherent (faithful.afterReleases coherent operation)
      obtain ⟨rest, isRest, reached, last⟩ :=
        inductionHypothesis (coherent_perform coherent operation) performed
      refine ⟨first ++ rest, ?_, reached, ?_⟩
      · rw [← List.append_assoc, ← isFirst]
        exact isRest
      · rw [readyControls_append, ← List.append_assoc]
        exact last

/-- Once an operation has left no active slot at a seat, the next request there is a start. -/
private theorem starts_after_release
    (coherent : history.batcher.Coherent)
    {operation : Operation}
    (inactive :
      ∀ slot ∈ (history.batcher.afterReleases operation).liveSlot? seat, slot.state ≠ .active)
    (later : List Operation) :
    ∀ first ∈ (readyControls seat (history.batchesOf (operation :: later))).head?,
      first.start = true := by
  -- With no active slot there is nothing to take up, so what was seen before may be forgotten.
  have afresh : (history.batcher.afterReleases operation).Faithful seat [] :=
    .of_not_active inactive (fun index control atIndex => by simp at atIndex)
  obtain ⟨made, isMade, performed⟩ := faithful_of_released coherent afresh
  obtain ⟨more, isMore, _, last⟩ :=
    faithful_after (coherent_perform coherent operation) performed later
  have isAdded : history.batchesOf (operation :: later) = made ++ more := by
    have isAll : (history.after (operation :: later)).batches =
        history.batches ++ (made ++ more) := by
      rw [← List.append_assoc, ← isMade]
      exact isMore
    rw [batchesOf, isAll, List.drop_left]
  have follows := last.follows
  rw [List.nil_append, ← readyControls_append, ← isAdded] at follows
  exact fun first isFirst => follows.start_of_head isFirst

/--
In every run, what the backend sees at a seat follows the protocol of a slot: a
request that does not start a sequence comes right after one of its sequence that
did not end it. So the request after an END starts a sequence, between requests of
two sequences one starts, and once the slot has been released or torn down, by a
timeout or for being idle or otherwise, the next request there starts a sequence.
-/
theorem slot_protocol
    (config : ModelConfig)
    (start : Nat)
    (operations : List Operation)
    (seat : Seat) :
    let history := (ofConfig config start).after operations
    let controls := readyControls seat history.batches
    FollowsProtocol controls ∧
      (∀ index last next,
        controls[index]? = some last →
        last.ending = true →
        controls[index + 1]? = some next →
          next.start = true) ∧
      (∀ first second : Nat, ∀ before after : SlotControl,
        first < second →
        controls[first]? = some before →
        controls[second]? = some after →
        before.sequence? ≠ after.sequence? →
          ∃ index, ∃ control : SlotControl,
            first < index ∧
              index ≤ second ∧
              controls[index]? = some control ∧
              control.start = true) ∧
      (∀ operation later,
        (∀ slot ∈ (history.batcher.afterReleases operation).liveSlot? seat,
          slot.state ≠ .active) →
          ∀ next ∈ (readyControls seat (history.batchesOf (operation :: later))).head?,
            next.start = true) ∧
      ∀ instanceIndex now slot later,
        (history.batcher.live? instanceIndex).isSome = true →
        history.batcher.liveSlot? seat = some slot →
        slot.isExpired now = true ∨ slot.isIdle history.batcher.idleLimit? now = true →
          ∀ next ∈
            (readyControls seat
              (history.batchesOf (.form instanceIndex now :: later))).head?,
            next.start = true := by
  intro history controls
  have coherent : (ofConfig config start).batcher.Coherent :=
    SequenceBatcher.coherent_ofConfig config start
  have faithful : (ofConfig config start).batcher.Faithful seat [] := by
    refine ⟨fun index control atIndex => by simp at atIndex, ?_⟩
    intro slot found active
    obtain ⟨sequence, carries⟩ :=
      (coherent.sound_of_liveSlot found).usedSequence (by simp [active])
    have bound := coherent.seat_of_liveSlot found carries
    contradiction
  obtain ⟨more, isMore, reached, last⟩ := faithful_after coherent faithful operations
  have follows : FollowsProtocol controls := by
    have isAll : history.batches = more := isMore
    simpa only [controls, isAll, List.nil_append] using last.follows
  refine ⟨follows, ?_, ?_, ?_, ?_⟩
  · intro index last next isLast ends isNext
    exact follows.start_of_ending isLast ends isNext
  · intro first second before after inOrder isBefore isAfter distinct
    exact follows.start_between inOrder isBefore isAfter distinct
  · intro operation later inactive
    exact starts_after_release reached inactive later
  · intro instanceIndex now slot later live found due
    exact starts_after_release reached
      (SequenceBatcher.not_active_of_swept reached live found due) later

end History

end InferenceBatching
