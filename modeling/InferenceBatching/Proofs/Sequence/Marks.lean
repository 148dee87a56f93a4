import InferenceBatching.Proofs.Sequence.Pinning
import InferenceBatching.Proofs.Sequence.Succession

namespace InferenceBatching

/-!
# Timeout marks

A mark tells the late requests of a sequence why they fail. A START that is let in
clears the mark of its sequence, and only a formation at which the sequence runs
into a timeout sets it again. A sequence that times out is dead then, with one
exception: marks go by id, so when an old sequence at its end times out while a new
one of the same id already waits behind it, the mark falls on the new one too.
-/

namespace SequenceBatcher

/--
A sequence waits, and has time left, behind an earlier one of the same id at its
end, of which something still pending has run out of time.
-/
structure PredecessorLapses
    (batcher : SequenceBatcher)
    (sequence : CorrelationId)
    (now : Nat) :
    Prop where
  waits :
    ∃ lane ∈ batcher.backlog, lane.sequence = sequence ∧ lane.isExpired now = false
  lapses :
    ∃ seat slot request,
      batcher.seat? sequence = some seat ∧
        batcher.liveSlot? seat = some slot ∧
        slot.state = .ending ∧
        slot.inFlight? = some request ∧
        slot.isExpired now = true

section Moves

variable {now : Nat}
variable {batcher last : SequenceBatcher}
variable {activity : Activity}
variable {events : List Event}
variable {sequence : CorrelationId}

/-- Only applying the timeouts sets marks. -/
theorem Move.marked_before
    (move : Move now batcher activity events last)
    (notExpiring : activity ≠ .expiring)
    {instant : Nat}
    (marked : last.timedOut.find? sequence = some instant) :
    batcher.timedOut.find? sequence = some instant := by
  cases move with
  | unmark other =>
      rw [Directory.find?_erase] at marked
      split at marked
      · contradiction
      · exact marked
  | follow | push | openLane | start | seatLane | dispatch | land | release => exact marked
  | forget | expireLanes | tearDown | evict | reclaim => contradiction

theorem Moves.marked_before
    (moves : Moves now batcher activity events last)
    (notExpiring : activity ≠ .expiring)
    {instant : Nat}
    (marked : last.timedOut.find? sequence = some instant) :
    batcher.timedOut.find? sequence = some instant := by
  induction moves with
  | nil => exact marked
  | snoc _ move inductionHypothesis =>
      exact inductionHypothesis (move.marked_before notExpiring marked)

/-- Filling slots leaves the marks as they are. -/
theorem Moves.timedOut_of_filling
    (moves : Moves now batcher .filling events last) :
    last.timedOut = batcher.timedOut := by
  induction moves with
  | nil => rfl
  | snoc _ move inductionHypothesis =>
      rw [← inductionHypothesis]
      cases move <;> rfl

/-- Filling slots leaves a lane where it is while its sequence is still bound. -/
theorem Moves.laned_of_bound
    (moves : Moves now batcher .filling events last)
    {seat : Seat}
    (bound : batcher.seat? sequence = some seat)
    (waits : sequence ∈ batcher.laned) :
    sequence ∈ last.laned := by
  induction moves with
  | nil => exact waits
  | snoc moves move inductionHypothesis =>
      have stillBound := moves.seat?_kept (Or.inr rfl) bound
      cases move with
      | dispatch => exact inductionHypothesis
      | @seatLane passed later lane place held isBacklog _ unbound found free =>
          have distinct : sequence ≠ lane.sequence := by
            intro same
            rw [same, unbound] at stillBound
            contradiction
          have listed := inductionHypothesis
          rw [laned, isBacklog] at listed
          simpa [laned, occupy, putSlot, distinct] using listed

end Moves

section Form

variable {batcher : SequenceBatcher}
variable {sequence : CorrelationId}
variable {now instant : Nat}

/-- What lives on after the timeouts did not run out of time itself, only its predecessor did. -/
private theorem predecessor_of_lapsed
    (coherent : batcher.Coherent)
    (succession : batcher.Succession)
    (lapses : sequence ∈ batcher.lapsed now)
    (alive : (batcher.expire now).batcher.IsAlive sequence) :
    batcher.PredecessorLapses sequence now := by
  have expiredSlot := mem_lapsed.mp lapses
  rcases alive with waits | active
  · rw [laned, backlog_expire coherent] at waits
    obtain ⟨lane, isLeft, isSequence⟩ := List.mem_map.mp waits
    obtain ⟨member, inTime⟩ := List.mem_filter.mp isLeft
    rw [Bool.not_eq_true'] at inTime
    rcases expiredSlot with ⟨other, isOther, alsoSequence, expired⟩ | onSlot
    · have same : other = lane := by
        have found := coherent.lane?_of_mem isOther
        rw [alsoSequence, ← isSequence, coherent.lane?_of_mem member] at found
        exact (Option.some.inj found).symm
      rw [same, inTime] at expired
      contradiction
    · obtain ⟨seat, held, found, carries, expired⟩ := onSlot
      have ending : held.state = .ending := by
        have used := (coherent.sound_of_liveSlot found).used_of_sequence carries
        have notActive : held.state ≠ .active := fun active =>
          succession.notActive sequence
            (isSequence ▸ List.mem_map_of_mem member) ⟨seat, held, found, carries, active⟩
        cases isState : held.state with
        | free => exact absurd isState used
        | active => exact absurd isState notActive
        | ending => rfl
      have holds : held.pending ≠ [] := by
        intro nothing
        rw [Slot.isExpired_of_pending now nothing] at expired
        contradiction
      obtain ⟨request, flying⟩ :=
        Option.isSome_iff_exists.mp (succession.awaited seat held found ending holds)
      exact {
        waits := ⟨lane, member, isSequence, inTime⟩
        lapses := ⟨seat, held, request, coherent.seat_of_liveSlot found carries, found,
          ending, flying, expired⟩ }
  · obtain ⟨seat, slot, found, carries, active⟩ := active
    rw [liveSlot?_expire coherent] at found
    obtain ⟨held, wasFound, isSwept⟩ := Option.map_eq_some_iff.mp found
    obtain ⟨inTime, kept⟩ :=
      held.swept_of_active batcher.idleLimit? now (by rw [isSwept, active])
    rw [← isSwept, kept] at carries active
    rcases expiredSlot with ⟨lane, member, isSequence, _⟩ | ⟨place, other, alsoFound, also, expired⟩
    · have waits : sequence ∈ batcher.laned := isSequence ▸ List.mem_map_of_mem member
      exact absurd ⟨seat, held, wasFound, carries, active⟩ (succession.notActive sequence waits)
    · have sameSeat : seat = place := Option.some.inj
        ((coherent.seat_of_liveSlot wasFound carries).symm.trans
          (coherent.seat_of_liveSlot alsoFound also))
      rw [sameSeat, alsoFound] at wasFound
      rw [Option.some.inj wasFound, inTime] at expired
      contradiction

/-- A formation leaves the marks that the timeouts leave. -/
theorem timedOut_formBatch
    (coherent : batcher.Coherent)
    {instanceIndex : Nat}
    (live : (batcher.live? instanceIndex).isSome = true) :
    (batcher.formBatch instanceIndex now).batcher.timedOut =
      (batcher.expire now).batcher.timedOut := by
  have phases := formBatch_phases coherent instanceIndex now
  generalize batcher.formBatch instanceIndex now = formation at phases
  cases phases with
  | halted halted =>
      rw [halted] at live
      contradiction
  | live _ expires onlyFailures isFailed dispatches placed => exact dispatches.timedOut_of_filling

/-- A formation brings no sequence to life, so what is alive then survived its timeouts. -/
theorem alive_of_formed
    (coherent : batcher.Coherent)
    {instanceIndex : Nat}
    (live : (batcher.live? instanceIndex).isSome = true)
    (alive : (batcher.formBatch instanceIndex now).batcher.IsAlive sequence) :
    (batcher.expire now).batcher.IsAlive sequence ∧ batcher.IsAlive sequence := by
  have phases := formBatch_phases coherent instanceIndex now
  generalize batcher.formBatch instanceIndex now = formation at phases alive
  cases phases with
  | halted halted =>
      rw [halted] at live
      contradiction
  | live _ expires onlyFailures isFailed dispatches placed =>
      have survived : (batcher.expire now).batcher.IsAlive sequence := by
        rcases dispatches.alive_before alive with already | ⟨entry, isNew, _⟩
        · exact already
        · rw [Formation.dispatches_eq, List.filterMap_flatMap] at isNew
          simp [Batch.filterMap_admitted_events] at isNew
      refine ⟨survived, ?_⟩
      rcases expires.alive_before survived with already | ⟨entry, isNew, _⟩
      · exact already
      · rw [(Event.filterMap_of_isFailure onlyFailures).1] at isNew
        contradiction

/--
When an old sequence at its end times out while a new one of its id waits, the new
one keeps waiting, and its later requests are turned away as those of the old one.
-/
theorem turned_away_of_predecessor
    (coherent : batcher.Coherent)
    {instanceIndex : Nat}
    (live : (batcher.live? instanceIndex).isSome = true)
    (predecessor : batcher.PredecessorLapses sequence instant) :
    let after := (batcher.formBatch instanceIndex instant).batcher
    (after.lane? sequence).isSome = true ∧
      after.timedOut.find? sequence = some instant ∧
      ∀ request now,
        request.sequence? = some sequence →
        request.starts = false →
        elapsed instant now < after.timedOutRetention →
          after.enqueue request now =
            .rejected after request (.sequenceTimeout sequence) := by
  intro after
  obtain ⟨lane, member, isSequence, inTime⟩ := predecessor.waits
  obtain ⟨seat, slot, request, bound, found, ending, flying, expired⟩ := predecessor.lapses
  obtain ⟨_, alsoFound, used, carries⟩ := coherent.liveSlot_of_seat bound
  rw [found, Option.some.injEq] at alsoFound
  subst alsoFound
  have lapses : sequence ∈ batcher.lapsed instant :=
    mem_lapsed.mpr (Or.inr ⟨seat, slot, found, carries, expired⟩)
  have marked : after.timedOut.find? sequence = some instant := by
    rw [timedOut_formBatch coherent live, timedOut_expire coherent, if_pos lapses]
  have waits : sequence ∈ after.laned := by
    have phases := formBatch_phases coherent instanceIndex instant
    change sequence ∈ (batcher.formBatch instanceIndex instant).batcher.laned
    generalize batcher.formBatch instanceIndex instant = formation at phases
    cases phases with
    | halted halted =>
        rw [halted] at live
        contradiction
    | live _ expires onlyFailures isFailed dispatches placed =>
        have swept := expires.coherent coherent
        have stillFound :
            (batcher.expire instant).batcher.liveSlot? seat = some slot.tearDown := by
          simp [liveSlot?_expire coherent, found, Slot.swept, expired, flying]
        have stillBound := swept.seat_of_liveSlot stillFound
          ((Slot.tearDown_sequence slot).trans carries)
        apply dispatches.laned_of_bound stillBound
        rw [laned, backlog_expire coherent, ← isSequence]
        exact List.mem_map_of_mem (List.mem_filter.mpr ⟨member, by simp [inTime]⟩)
  refine ⟨?_, marked, ?_⟩
  · obtain ⟨lane, isLane, isNamed⟩ := List.mem_map.mp waits
    exact lane?_isSome.mpr ⟨lane, isLane, isNamed⟩
  · intro late now belongs continues recent
    simp [enqueue, belongs, continues, isTimedOut, marked, recent]

end Form

section Enqueue

variable (batcher : SequenceBatcher)
variable (sequence : CorrelationId)
variable (request : Request)
variable (now : Nat)

@[simp]
theorem timedOut_pushAt
    (seat : Seat)
    (entry : QueueEntry) :
    (batcher.pushAt seat entry now).timedOut = batcher.timedOut := by
  simp only [pushAt]
  split <;> rfl

/-- Joining a sequence leaves the marks, and no refusal to let a request join tells of one. -/
theorem join_marks :
    (batcher.join sequence request now).batcher.timedOut = batcher.timedOut ∧
      ∀ rejection ∈ (batcher.join sequence request now).rejection?,
        ∀ other, rejection.error ≠ .sequenceTimeout other := by
  have opened :
      (batcher.openLane sequence request now).batcher.timedOut = batcher.timedOut ∧
        ∀ rejection ∈ (batcher.openLane sequence request now).rejection?,
          ∀ other, rejection.error ≠ .sequenceTimeout other := by
    simp only [openLane]
    split
    · simp [Answer.accepted]
    · simp only [Answer.rejected]
      split <;> simp
  have started :
      (batcher.startSequence sequence request now).batcher.timedOut = batcher.timedOut ∧
        ∀ rejection ∈ (batcher.startSequence sequence request now).rejection?,
          ∀ other, rejection.error ≠ .sequenceTimeout other := by
    simp only [startSequence]
    split
    · next seat bound isBound =>
        simp only [bindFree?] at isBound
        split at isBound
        · contradiction
        · simp only [Option.some.injEq, Prod.mk.injEq] at isBound
          rw [← isBound.2]
          simp [Answer.accepted, withTable]
    · split
      · exact opened
      · simp [Answer.rejected]
  simp only [join]
  split
  · simp [Answer.accepted, follow]
  · split
    · split
      · simp [Answer.accepted]
      · split
        · exact opened
        · simp [Answer.rejected]
    · split
      · exact started
      · simp [Answer.rejected]

variable {batcher sequence request now}

/-- A START that is let in leaves its sequence unmarked. -/
theorem unmarked_of_start
    (accepted : (batcher.enqueue request now).rejection? = none)
    (starts : request.starts = true)
    (belongs : request.sequence? = some sequence) :
    (batcher.enqueue request now).batcher.timedOut.find? sequence = none := by
  simp only [enqueue, belongs, starts, Bool.not_true, Bool.false_and, Bool.false_eq_true,
    if_false] at accepted ⊢
  split
  · next isMismatch =>
      rw [isMismatch] at accepted
      contradiction
  · rw [if_pos trivial, (join_marks _ sequence request now).1, Directory.find?_erase, if_pos rfl]

/-- Only a request that does not start its sequence is told of a mark, and only of its own. -/
theorem isTimedOut_of_rejected
    {rejection : Failure}
    (rejected : (batcher.enqueue request now).rejection? = some rejection)
    (isError : rejection.error = .sequenceTimeout sequence) :
    request.sequence? = some sequence ∧
      request.starts = false ∧
      batcher.isTimedOut sequence now = true := by
  simp only [enqueue] at rejected
  split at rejected
  · simp only [Answer.rejected, Option.some.injEq] at rejected
    rw [← rejected] at isError
    contradiction
  · next other belongs =>
      split at rejected
      · next marked =>
          simp only [Answer.rejected, Option.some.injEq] at rejected
          rw [← rejected] at isError
          have isSequence : other = sequence := RequestError.sequenceTimeout.inj isError
          rw [Bool.and_eq_true, Bool.not_eq_true'] at marked
          exact ⟨isSequence ▸ belongs, marked.1, isSequence ▸ marked.2⟩
      · split at rejected
        · simp only [Answer.rejected, Option.some.injEq] at rejected
          rw [← rejected] at isError
          contradiction
        · split at rejected
          · exact absurd isError ((join_marks _ other request now).2 rejection rejected sequence)
          · exact absurd isError ((join_marks _ other request now).2 rejection rejected sequence)

end Enqueue

section Runs

variable {batcher : SequenceBatcher}
variable {sequence : CorrelationId}
variable {instant : Nat}

/-- An operation that leaves a mark found it, or is the formation that set it. -/
theorem marked_perform
    (coherent : batcher.Coherent)
    {operation : Operation}
    (marked : (batcher.perform operation).timedOut.find? sequence = some instant) :
    batcher.timedOut.find? sequence = some instant ∨
      ∃ instanceIndex,
        operation = .form instanceIndex instant ∧
          (batcher.live? instanceIndex).isSome = true ∧
          sequence ∈ batcher.lapsed instant := by
  cases operation with
  | enqueue request now =>
      have admission := enqueue_admission coherent request now
      simp only [perform] at marked
      generalize batcher.enqueue request now = answer at admission marked
      cases admission with
      | accepted belongs moves => exact Or.inl (moves.marked_before (by simp) marked)
      | rejected error moves => exact Or.inl (moves.marked_before (by simp) marked)
  | form instanceIndex now =>
      cases isLive : batcher.live? instanceIndex with
      | none =>
          simp only [perform, formBatch, isLive] at marked
          exact Or.inl marked
      | some owner =>
          have live : (batcher.live? instanceIndex).isSome = true := by simp [isLive]
          rw [perform, timedOut_formBatch coherent live, timedOut_expire coherent] at marked
          split at marked
          · next lapses =>
              rw [← Option.some.inj marked]
              exact Or.inr ⟨instanceIndex, rfl, live, lapses⟩
          · rw [forgetTimedOut, Directory.find?_filter, Option.filter_eq_some_iff] at marked
            exact Or.inl marked.1
  | complete instanceIndex records now =>
      obtain ⟨_, _, moves, _⟩ := complete_moves coherent instanceIndex records now
      exact Or.inl (moves.marked_before (by simp) marked)
  | halt instanceIndex =>
      rw [perform, halt_eq] at marked
      exact Or.inl marked
  | drain => exact Or.inl marked

/-- An operation that leaves a marked sequence alive found it so, or set the mark. -/
theorem marked_alive_perform
    (coherent : batcher.Coherent)
    (succession : batcher.Succession)
    {operation : Operation}
    (marked : (batcher.perform operation).timedOut.find? sequence = some instant)
    (alive : (batcher.perform operation).IsAlive sequence) :
    (batcher.timedOut.find? sequence = some instant ∧ batcher.IsAlive sequence) ∨
      ∃ instanceIndex,
        operation = .form instanceIndex instant ∧
          (batcher.live? instanceIndex).isSome = true ∧
          batcher.PredecessorLapses sequence instant := by
  rcases marked_perform coherent marked with already | ⟨instanceIndex, isForm, live, lapses⟩
  · refine Or.inl ⟨already, ?_⟩
    cases operation with
    | enqueue request now =>
        have admission := enqueue_admission coherent request now
        have cleared :
            (batcher.enqueue request now).rejection? = none →
            request.starts = true →
            request.sequence? = some sequence →
              (batcher.enqueue request now).batcher.timedOut.find? sequence = none :=
          unmarked_of_start
        simp only [perform] at marked alive
        generalize batcher.enqueue request now = answer at admission cleared marked alive
        cases admission with
        | accepted belongs moves =>
            rcases moves.alive_before alive with before | ⟨entry, isNew, starts, started⟩
            · exact before
            · simp only [List.filterMap_cons, Event.admitted?, List.filterMap_nil,
                List.mem_singleton] at isNew
              subst isNew
              rw [cleared rfl starts started] at marked
              contradiction
        | rejected error moves =>
            rcases moves.alive_before alive with before | ⟨entry, isNew, _⟩
            · exact before
            · contradiction
    | form instanceIndex now =>
        cases isLive : batcher.live? instanceIndex with
        | none =>
            simp only [perform, formBatch, isLive] at alive
            exact alive
        | some owner => exact (alive_of_formed coherent (by simp [isLive]) alive).2
    | complete instanceIndex records now =>
        obtain ⟨events, _, moves, _, _, noAdmission, _⟩ :=
          complete_moves coherent instanceIndex records now
        rcases moves.alive_before alive with before | ⟨entry, isNew, _⟩
        · exact before
        · rw [noAdmission] at isNew
          contradiction
    | halt instanceIndex =>
        rcases alive with waits | ⟨seat, slot, found, carries, active⟩
        · rw [laned, perform, backlog_halt] at waits
          exact Or.inl waits
        · rw [perform, liveSlot?_halt] at found
          split at found
          · contradiction
          · exact Or.inr ⟨seat, slot, found, carries, active⟩
    | drain =>
        rcases alive with waits | ⟨seat, slot, found, _, active⟩
        · contradiction
        · rw [perform, liveSlot?_drain] at found
          obtain ⟨held, _, isTornDown⟩ := Option.map_eq_some_iff.mp found
          rw [← isTornDown] at active
          exact absurd active held.tearDown_not_active
  · subst isForm
    exact Or.inr ⟨instanceIndex, rfl, live,
      predecessor_of_lapsed coherent succession lapses (alive_of_formed coherent live alive).1⟩

/-- A mark found after a run was there before it, or was set by a formation of the run. -/
theorem marked_after
    (coherent : batcher.Coherent)
    (operations : List Operation)
    (marked : (batcher.after operations).timedOut.find? sequence = some instant) :
    batcher.timedOut.find? sequence = some instant ∨
      ∃ earlier instanceIndex later,
        operations = earlier ++ .form instanceIndex instant :: later ∧
          ((batcher.after earlier).live? instanceIndex).isSome = true ∧
          sequence ∈ (batcher.after earlier).lapsed instant := by
  rcases before_or_caused Coherent Coherent.perform
      (fun reached => reached.timedOut.find? sequence = some instant)
      (fun reached operation =>
        ∃ instanceIndex,
          operation = .form instanceIndex instant ∧
            (reached.live? instanceIndex).isSome = true ∧
            sequence ∈ reached.lapsed instant)
      marked_perform coherent marked with
    before | ⟨earlier, _, later, isSplit, instanceIndex, isForm, setting⟩
  · exact Or.inl before
  · rw [isForm] at isSplit
    exact Or.inr ⟨earlier, instanceIndex, later, isSplit, setting⟩

/-- A sequence alive under a mark after a run was so before it, or its predecessor timed out. -/
theorem marked_alive_after
    (coherent : batcher.Coherent)
    (succession : batcher.Succession)
    (operations : List Operation)
    (marked : (batcher.after operations).timedOut.find? sequence = some instant)
    (alive : (batcher.after operations).IsAlive sequence) :
    (batcher.timedOut.find? sequence = some instant ∧ batcher.IsAlive sequence) ∨
      ∃ earlier instanceIndex later,
        operations = earlier ++ .form instanceIndex instant :: later ∧
          ((batcher.after earlier).live? instanceIndex).isSome = true ∧
          (batcher.after earlier).PredecessorLapses sequence instant := by
  rcases before_or_caused (fun reached => reached.Coherent ∧ reached.Succession)
      (fun before operation =>
        ⟨before.1.perform operation, before.2.perform before.1 operation⟩)
      (fun reached =>
        reached.timedOut.find? sequence = some instant ∧ reached.IsAlive sequence)
      (fun reached operation =>
        ∃ instanceIndex,
          operation = .form instanceIndex instant ∧
            (reached.live? instanceIndex).isSome = true ∧
            reached.PredecessorLapses sequence instant)
      (fun before _ performed =>
        marked_alive_perform before.1 before.2 performed.1 performed.2)
      ⟨coherent, succession⟩ ⟨marked, alive⟩ with
    before | ⟨earlier, _, later, isSplit, instanceIndex, isForm, setting⟩
  · exact Or.inl before
  · rw [isForm] at isSplit
    exact Or.inr ⟨earlier, instanceIndex, later, isSplit, setting⟩

/-- A sequence is alive when it has a lane, or is bound to an active slot. -/
theorem isAlive_iff
    (coherent : batcher.Coherent) :
    batcher.IsAlive sequence ↔
      (batcher.lane? sequence).isSome = true ∨
        ∃ seat, batcher.seat? sequence = some seat ∧ batcher.isActive seat = true := by
  apply or_congr
  · rw [lane?_isSome, laned, List.mem_map]
  · constructor
    · rintro ⟨seat, slot, found, carries, active⟩
      exact ⟨seat, coherent.seat_of_liveSlot found carries,
        (isActive_of_liveSlot found).mpr active⟩
    · rintro ⟨seat, bound, active⟩
      obtain ⟨slot, found, _, carries⟩ := coherent.liveSlot_of_seat bound
      exact ⟨seat, slot, found, carries, (isActive_of_liveSlot found).mp active⟩

theorem mark_of_isTimedOut
    {now : Nat}
    (timedOut : batcher.isTimedOut sequence now = true) :
    ∃ instant,
      batcher.timedOut.find? sequence = some instant ∧
        elapsed instant now < batcher.timedOutRetention := by
  simp only [isTimedOut] at timedOut
  split at timedOut
  · next instant marked => exact ⟨instant, marked, by simpa using timedOut⟩
  · contradiction

/--
In every run, a sequence that waits or is active is answered as timed out only
through its predecessor: a formation marked its id while it waited, with time left,
behind an earlier sequence of that id at its end, of which something pending had run
out of time. Every such formation does so, and leaves the sequence waiting; until the
mark is forgotten, its later requests are turned away.

Otherwise a mark means what it says: after a START was let in, a later request of its
sequence is told of a timeout only if a formation in between found something of that
sequence, in its lane or at its slot, that had run out of time.
-/
theorem marks_of_living_sequences
    (config : ModelConfig)
    (start : Nat)
    (operations : List Operation)
    (sequence : CorrelationId) :
    let reached := (ofConfig config start).after
    (∀ now,
        (reached operations).isTimedOut sequence now = true →
        ((reached operations).lane? sequence).isSome = true ∨
            (∃ seat,
              (reached operations).seat? sequence = some seat ∧
                (reached operations).isActive seat = true) →
          ∃ earlier instanceIndex instant later,
            operations = earlier ++ .form instanceIndex instant :: later ∧
              ((reached earlier).live? instanceIndex).isSome = true ∧
              (reached earlier).PredecessorLapses sequence instant ∧
              elapsed instant now < (reached operations).timedOutRetention) ∧
      (∀ instanceIndex instant,
        ((reached operations).live? instanceIndex).isSome = true →
        (reached operations).PredecessorLapses sequence instant →
          let formed := reached (operations ++ [.form instanceIndex instant])
          (formed.lane? sequence).isSome = true ∧
            formed.timedOut.find? sequence = some instant ∧
            ∀ request now,
              request.sequence? = some sequence →
              request.starts = false →
              elapsed instant now < formed.timedOutRetention →
                formed.enqueue request now =
                  .rejected formed request (.sequenceTimeout sequence)) ∧
      ∀ earlier request arrival later,
        operations = earlier ++ .enqueue request arrival :: later →
        ((reached earlier).enqueue request arrival).rejection? = none →
        request.starts = true →
        request.sequence? = some sequence →
          ∀ continuation now rejection,
            ((reached operations).enqueue continuation now).rejection? = some rejection →
            rejection.error = .sequenceTimeout sequence →
              ∃ between instanceIndex instant rest,
                later = between ++ .form instanceIndex instant :: rest ∧
                  sequence ∈
                    (reached (earlier ++ .enqueue request arrival :: between)).lapsed instant := by
  intro reached
  have coherent : ∀ ops, (reached ops).Coherent := fun ops =>
    (coherent_ofConfig config start).after ops
  have succession : ∀ ops, (reached ops).Succession := fun ops =>
    (succession_ofConfig config start).after (coherent_ofConfig config start) ops
  have chained : ∀ first second, reached (first ++ second) = (reached first).after second :=
    fun first second => List.foldl_append
  refine ⟨?_, ?_, ?_⟩
  · intro now timedOut alive
    obtain ⟨instant, marked, recent⟩ := mark_of_isTimedOut timedOut
    rcases marked_alive_after (coherent_ofConfig config start) (succession_ofConfig config start)
        operations marked ((isAlive_iff (coherent operations)).mpr alive) with
      fromStart | ⟨earlier, instanceIndex, later, isSplit, live, predecessor⟩
    · have unmarked := fromStart.1
      contradiction
    · exact ⟨earlier, instanceIndex, instant, later, isSplit, live, predecessor, recent⟩
  · intro instanceIndex instant live predecessor
    rw [chained]
    exact turned_away_of_predecessor (coherent operations) live predecessor
  · intro earlier request arrival later isSplit accepted starts belongs continuation now
      rejection rejected isError
    obtain ⟨_, _, timedOut⟩ := isTimedOut_of_rejected rejected isError
    obtain ⟨instant, marked, _⟩ := mark_of_isTimedOut timedOut
    have cleared := unmarked_of_start accepted starts belongs
    rw [isSplit, chained] at marked
    rcases marked_after ((coherent earlier).perform (.enqueue request arrival)) later marked with
      atOnce | ⟨between, instanceIndex, rest, isLater, _, lapses⟩
    · rw [perform, cleared] at atOnce
      contradiction
    · refine ⟨between, instanceIndex, instant, rest, isLater, ?_⟩
      rw [chained]
      exact lapses

/-- One slot is enough: the second sequence of an id is told of the timeout of the first. -/
example :
    let config : ModelConfig :=
      { name := "model"
        sequenceBatching? := some { maxSequences := 1, policy := { allowsOverride := true } } }
    let batcher := (ofConfig config 0).after
      [.enqueue { id := 1, sequence? := some 7, starts := true, ends := true } 0,
        .enqueue { id := 2, sequence? := some 7, timeout? := some 5 } 0,
        .form 0 0,
        .enqueue { id := 3, sequence? := some 7, starts := true } 1,
        .form 0 5]
    config.problem? = none ∧
      (batcher.lane? 7).isSome = true ∧
      (batcher.enqueue { id := 4, sequence? := some 7 } 6).rejection?.map Failure.error =
        some (.sequenceTimeout 7) := by
  decide

end Runs

end SequenceBatcher

end InferenceBatching
