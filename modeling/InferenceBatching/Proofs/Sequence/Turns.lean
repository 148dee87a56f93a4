import InferenceBatching.Proofs.Sequence.History
import InferenceBatching.Proofs.Sequence.Rest
import InferenceBatching.Proofs.Sequence.Succession

namespace InferenceBatching

/-!
# Whose turn it is

Waiting sequences stand in the order in which their first requests were let in, and a
formation gives slots away in that order, passing over those whose id is still bound.
A START that is let in does not look at who waits and takes a free slot if there is
one. It can pass others like that, but only on an instance that has had a free slot
for them since an operation that let nobody in, and that has formed no batch since.
-/

namespace SequenceBatcher

section Arrival

variable {batcher last : SequenceBatcher}
variable {now : Nat}
variable {activity : Activity}
variable {events : List Event}

/-- The first requests of waiting sequences stay in order, and new ones come behind them. -/
theorem Move.firsts
    (move : Move now batcher activity events last) :
    (last.backlog.map Lane.first).Sublist
      (batcher.backlog.map Lane.first ++ events.filterMap Event.admitted?) := by
  have same : (batcher.backlog.map Lane.first).Sublist
      (batcher.backlog.map Lane.first ++ events.filterMap Event.admitted?) :=
    List.sublist_append_left _ _
  cases move with
  | unmark | forget | push | start | tearDown | evict | reclaim | dispatch | land | release =>
      exact same
  | @follow sequence entry waits carried =>
      have sameFirsts :
          (batcher.follow sequence entry).backlog.map Lane.first =
            batcher.backlog.map Lane.first := by
        rw [SequenceBatcher.follow, List.map_map]
        apply List.map_congr_left
        intro lane _
        dsimp only [Function.comp_apply]
        split <;> rfl
      rw [sameFirsts]
      exact same
  | openLane => simp
  | expireLanes => exact (List.filter_sublist.map Lane.first).trans same
  | @seatLane passed later lane seat held isBacklog bound unbound found free =>
      have fewer : (passed ++ later).Sublist batcher.backlog := by
        rw [isBacklog]
        exact (List.sublist_cons_self lane later).append_left passed
      exact (fewer.map Lane.first).trans same

theorem Moves.firsts
    (moves : Moves now batcher activity events last) :
    (last.backlog.map Lane.first).Sublist
      (batcher.backlog.map Lane.first ++ events.filterMap Event.admitted?) := by
  induction moves with
  | nil => simp
  | snoc _ move inductionHypothesis =>
      rw [List.filterMap_append, ← List.append_assoc]
      exact move.firsts.trans (inductionHypothesis.append_right _)

end Arrival

end SequenceBatcher

namespace History

/-- Waiting sequences stay in the order of arrival. -/
theorem firsts_perform
    {history : History}
    (coherent : history.batcher.Coherent)
    (inOrder : (history.batcher.backlog.map Lane.first).Sublist history.accepted)
    (operation : Operation) :
    ((history.perform operation).batcher.backlog.map Lane.first).Sublist
      (history.perform operation).accepted := by
  have grown :
      ∀ {now activity events last},
        SequenceBatcher.Moves now history.batcher activity events last →
          (last.backlog.map Lane.first).Sublist
            (history.accepted ++ events.filterMap Event.admitted?) :=
    fun moves => moves.firsts.trans (inOrder.append_right _)
  cases operation with
  | enqueue request now =>
      have admission := SequenceBatcher.enqueue_admission coherent request now
      simp only [History.perform]
      generalize history.batcher.enqueue request now = answer at admission
      cases admission with
      | accepted belongs moves => exact grown moves
      | rejected error moves => simpa [Answer.rejected] using grown moves
  | form instanceIndex now =>
      have phases := SequenceBatcher.formBatch_phases coherent instanceIndex now
      simp only [History.perform]
      generalize history.batcher.formBatch instanceIndex now = formation at phases
      cases phases with
      | halted halted => exact inOrder
      | live live expires onlyFailures isFailed dispatches placed =>
          have swept := grown expires
          rw [(Event.filterMap_of_isFailure onlyFailures).1, List.append_nil] at swept
          exact (dispatches.backlog_of_filling.map Lane.first).trans swept
  | complete instanceIndex records now =>
      obtain ⟨events, _, moves, _, _, noAdmission, _⟩ :=
        SequenceBatcher.complete_moves coherent instanceIndex records now
      have settled := grown moves
      rw [noAdmission, List.append_nil] at settled
      exact settled
  | halt instanceIndex =>
      simp only [History.perform, SequenceBatcher.backlog_halt]
      exact inOrder
  | drain => exact List.nil_sublist _

theorem firsts_after
    {history : History}
    (orderly :
      history.batcher.Orderly history.accepted history.dispatched history.flights)
    (inOrder : (history.batcher.backlog.map Lane.first).Sublist history.accepted)
    (operations : List Operation) :
    ((history.after operations).batcher.backlog.map Lane.first).Sublist
      (history.after operations).accepted := by
  induction operations generalizing history with
  | nil => exact inOrder
  | cons operation operations inductionHypothesis =>
      exact inductionHypothesis (orderly_perform orderly operation)
        (firsts_perform orderly.coherent inOrder operation)

end History

namespace SequenceBatcher

section Turns

variable {batcher last : SequenceBatcher}
variable {now : Nat}
variable {events : List Event}

/-- Of those ahead of a lane in a backlog, a part of it that has the lane has only those ahead. -/
private theorem split_of_sublist
    {lanes passed later : List Lane}
    {lane : Lane}
    (distinct : (lanes.map Lane.sequence).Nodup)
    (part : (passed ++ lane :: later).Sublist lanes) :
    ∃ ahead behind,
      lanes = ahead ++ lane :: behind ∧
        ∀ other ∈ ahead, other ∈ passed ++ lane :: later → other ∈ passed := by
  obtain ⟨front, back, isSplit, _, inBack⟩ := List.append_sublist_iff.mp part
  obtain ⟨start, rest, isBack, member, inRest⟩ := List.cons_sublist_iff.mp inBack
  obtain ⟨before, between, isStart⟩ := List.append_of_mem member
  have isAround : lanes = (front ++ before) ++ lane :: (between ++ rest) := by
    simp [isSplit, isBack, isStart]
  refine ⟨front ++ before, between ++ rest, isAround, ?_⟩
  intro other isAhead isPart
  rw [isAround, List.map_append, List.nodup_append] at distinct
  have notBehind : other ∉ lane :: (between ++ rest) := fun isBehind =>
    distinct.2.2 _ (List.mem_map_of_mem isAhead) _ (List.mem_map_of_mem isBehind) rfl
  refine (List.mem_append.mp isPart).resolve_right (fun fromLane => notBehind ?_)
  rcases List.mem_cons.mp fromLane with isLane | isLater
  · rw [isLane]
    exact List.mem_cons_self
  · exact List.mem_cons_of_mem _ (List.mem_append_right between (inRest.subset isLater))

/--
Whoever is bound by filling has waited, and of those ahead in the backlog only those
that were bound before are left.
-/
theorem Moves.bound_in_turn
    (coherent : batcher.Coherent)
    (moves : Moves now batcher .filling events last)
    {sequence : CorrelationId}
    {seat : Seat}
    (unbound : batcher.seat? sequence = none)
    (bound : last.seat? sequence = some seat) :
    ∃ ahead lane behind,
      batcher.backlog = ahead ++ lane :: behind ∧
        lane.sequence = sequence ∧
        last.lane? sequence = none ∧
        ∀ other ∈ ahead,
          other ∈ last.backlog → (batcher.seat? other.sequence).isSome = true := by
  induction moves generalizing sequence seat with
  | nil =>
      rw [unbound] at bound
      contradiction
  | @snoc middle last events more moves move inductionHypothesis =>
      cases already : middle.seat? sequence with
      | some place =>
          obtain ⟨ahead, lane, behind, isSplit, isSequence, gone, passed⟩ :=
            inductionHypothesis unbound already
          have fewer := move.backlog_of_filling
          refine ⟨ahead, lane, behind, isSplit, isSequence, ?_, ?_⟩
          · rw [lane?_eq_none] at gone ⊢
            exact fun waits => gone ((fewer.map Lane.sequence).subset waits)
          · exact fun other isAhead stays => passed other isAhead (fewer.subset stays)
      | none =>
          cases move with
          | dispatch =>
              have stillUnbound := already.symm.trans bound
              contradiction
          | @seatLane passed later lane place held isBacklog passedBound unbound found free =>
              have isSequence : sequence = lane.sequence := by
                by_contra distinct
                rw [seat?_occupy, if_neg distinct] at bound
                have stillUnbound := already.symm.trans bound
                contradiction
              subst isSequence
              have part := moves.backlog_of_filling
              rw [isBacklog] at part
              obtain ⟨ahead, behind, isSplit, onlyPassed⟩ :=
                split_of_sublist coherent.distinct part
              refine ⟨ahead, lane, behind, isSplit, rfl, ?_, ?_⟩
              · have reached := (moves.coherent coherent).distinct
                rw [isBacklog, (List.perm_middle.map Lane.sequence).nodup_iff, List.map_cons,
                  List.nodup_cons] at reached
                exact lane?_eq_none.mpr reached.1
              · intro other isAhead stays
                have stayed : other ∈ passed ++ lane :: later :=
                  ((List.sublist_cons_self lane later).append_left passed).subset stays
                have isPassed := onlyPassed other isAhead stayed
                by_contra otherUnbound
                rw [Option.not_isSome_iff_eq_none] at otherUnbound
                obtain ⟨_, otherBound⟩ := Option.isSome_iff_exists.mp (passedBound other isPassed)
                obtain ⟨_, _, _, _, _, gone, _⟩ := inductionHypothesis otherUnbound otherBound
                rw [lane?_eq_none, isBacklog] at gone
                exact gone (List.mem_map_of_mem (List.mem_append_left _ isPassed))

/--
A formation binds only who has waited. Of those ahead in the backlog only those are
left whose id has been bound throughout.
-/
theorem formBatch_in_turn
    (coherent : batcher.Coherent)
    {instanceIndex : Nat}
    {sequence : CorrelationId}
    {seat : Seat}
    (unbound : (batcher.afterReleases (.form instanceIndex now)).seat? sequence = none)
    (bound : (batcher.formBatch instanceIndex now).batcher.seat? sequence = some seat) :
    ∃ ahead lane behind,
      batcher.backlog = ahead ++ lane :: behind ∧
        lane.sequence = sequence ∧
        ∀ other ∈ ahead,
          other ∈ (batcher.formBatch instanceIndex now).batcher.backlog →
            ∃ place,
              (batcher.afterReleases (.form instanceIndex now)).seat? other.sequence =
                  some place ∧
                (batcher.formBatch instanceIndex now).batcher.seat? other.sequence =
                  some place := by
  have phases := formBatch_phases coherent instanceIndex now
  rw [afterReleases] at unbound ⊢
  generalize batcher.formBatch instanceIndex now = formation at phases bound
  cases phases with
  | halted halted =>
      simp only [halted, Option.isSome_none, Bool.false_eq_true, if_false] at unbound
      have stillUnbound := unbound.symm.trans bound
      contradiction
  | live live expires onlyFailures isFailed dispatches placed =>
      rw [if_pos live] at unbound ⊢
      obtain ⟨ahead, lane, behind, isSplit, isSequence, _, passed⟩ :=
        dispatches.bound_in_turn (expires.coherent coherent) unbound bound
      have fewer : (ahead ++ lane :: behind).Sublist batcher.backlog := by
        rw [← isSplit, backlog_expire coherent]
        exact List.filter_sublist
      obtain ⟨before, after, isBacklog, onlyAhead⟩ := split_of_sublist coherent.distinct fewer
      refine ⟨before, lane, after, isBacklog, isSequence, ?_⟩
      intro other isBefore stays
      have stayed := dispatches.backlog_of_filling.subset stays
      rw [isSplit] at stayed
      obtain ⟨place, isPlace⟩ :=
        Option.isSome_iff_exists.mp (passed other (onlyAhead other isBefore stayed) stays)
      exact ⟨place, isPlace, dispatches.seat?_kept (Or.inr rfl) isPlace⟩

end Turns

/-- A sequence waits, is not bound, and could have a free slot of an instance. -/
structure Seatable
    (batcher : SequenceBatcher)
    (instanceIndex : Nat)
    (sequence : CorrelationId) :
    Prop where
  waits : sequence ∈ batcher.laned
  unbound : batcher.seat? sequence = none
  free :
    ∃ slot held,
      batcher.liveSlot? { instanceIndex := instanceIndex, slot := slot } = some held ∧
        held.state = .free

section Seatable

variable {batcher : SequenceBatcher}
variable {instanceIndex now : Nat}
variable {sequence : CorrelationId}

/-- A formation for an instance leaves nobody waiting who could have a slot of it. -/
theorem not_seatable_formBatch
    (coherent : batcher.Coherent)
    (instanceIndex now : Nat)
    (sequence : CorrelationId) :
    ¬ (batcher.formBatch instanceIndex now).batcher.Seatable instanceIndex sequence := by
  intro seatable
  have formed : (batcher.formBatch instanceIndex now).batcher.Coherent :=
    coherent.perform (.form instanceIndex now)
  obtain ⟨slot, held, found, free⟩ := seatable.free
  obtain ⟨owner, isOwner, isSlot⟩ := liveSlot?_eq_some.mp found
  have live : (batcher.live? instanceIndex).isSome = true := by
    have notHalted : Operation.form instanceIndex now ≠ .halt instanceIndex := by simp
    rw [← live?_isSome_perform coherent notHalted, perform, isOwner]
    rfl
  rcases seated_formBatch coherent live isOwner with full | allBound
  · have listed := ((formed.indexed_of_live isOwner).freeIff slot).mpr ⟨held, isSlot, free⟩
    rw [full] at listed
    contradiction
  · obtain ⟨lane, member, isSequence⟩ := List.mem_map.mp seatable.waits
    have bound := allBound lane member
    rw [isSequence] at bound
    obtain ⟨seat, isSeat⟩ := Option.isSome_iff_exists.mp bound
    have unbound := seatable.unbound.symm.trans isSeat
    contradiction

/-- A START that begins a new sequence takes a slot if one is free. -/
private theorem join_binds
    (coherent : batcher.Coherent)
    {request : Request}
    (starts : request.starts = true)
    (waitsNot : batcher.lane? sequence = none)
    (unbound : batcher.seat? sequence = none)
    {seat : Seat}
    {held : Slot}
    (found : batcher.liveSlot? seat = some held)
    (free : held.state = .free)
    (now : Nat) :
    ((batcher.join sequence request now).batcher.seat? sequence).isSome = true := by
  simp only [join, waitsNot, unbound, starts, startSequence, Option.isSome_none,
    Bool.false_eq_true, if_false, if_true]
  split
  · next place bound isBound =>
      obtain ⟨_, _, _, isOccupied⟩ := bindFree?_shape coherent isBound
      have kept :
          (bound.pushAt place (batcher.entryFor request now) now).seat? sequence =
            bound.seat? sequence := by
        simp only [pushAt]
        split <;> rfl
      rw [Answer.accepted, kept, isOccupied, seat?_occupy, if_pos rfl]
      rfl
  · next notBound => exact absurd free (used_of_bindFree? coherent notBound found)

/-- A START of a new sequence that is let in takes a slot if one is free. -/
theorem bound_of_free
    (coherent : batcher.Coherent)
    {request : Request}
    (accepted : (batcher.enqueue request now).rejection? = none)
    (starts : request.starts = true)
    (belongs : request.sequence? = some sequence)
    (waitsNot : batcher.lane? sequence = none)
    (unbound : batcher.seat? sequence = none)
    {seat : Seat}
    {held : Slot}
    (found : batcher.liveSlot? seat = some held)
    (free : held.state = .free) :
    ((batcher.enqueue request now).batcher.seat? sequence).isSome = true := by
  simp only [enqueue, belongs, starts, Bool.not_true, Bool.false_and, Bool.false_eq_true,
    if_false, if_true] at accepted ⊢
  split
  · next isMismatch =>
      rw [isMismatch] at accepted
      contradiction
  · have unmarked := coherent.withMarks (batcher.timedOut.erase sequence)
    exact join_binds unmarked starts waitsNot unbound found free now

/-- What is free after a slot in use has been put was free before. -/
private theorem free_before_put
    {seat place : Seat}
    {held slot other : Slot}
    (found : batcher.liveSlot? seat = some held)
    (used : slot.state ≠ .free)
    (isOther : (batcher.putSlot seat slot).liveSlot? place = some other)
    (free : other.state = .free) :
    batcher.liveSlot? place = some other := by
  rw [liveSlot?_putSlot slot found] at isOther
  split at isOther
  · rw [← Option.some.inj isOther] at free
    contradiction
  · exact isOther

/--
By a move that lets an entry in, a sequence comes to wait that could have a slot only if
the entry starts it.
-/
theorem Move.seatable_before
    {last : SequenceBatcher}
    {entry : QueueEntry}
    (move : Move now batcher .admitting [.admitted entry] last)
    (seatable : last.Seatable instanceIndex sequence) :
    batcher.Seatable instanceIndex sequence ∨
      entry.request.starts = true ∧
        entry.request.sequence? = some sequence ∧
        batcher.lane? sequence = none ∧
        batcher.seat? sequence = none ∧
        ∃ seat held, batcher.liveSlot? seat = some held ∧ held.state = .free := by
  obtain ⟨waits, unbound, slot, held, found, free⟩ := seatable
  cases move with
  | follow =>
      refine Or.inl ⟨?_, unbound, slot, held, found, free⟩
      rw [laned, follow_backlog] at waits
      exact waits
  | @push _ _ seat before waitsNot isHeld active carries carried =>
      have used : (before.push entry now).state ≠ .free := by simp [Slot.push, active]
      exact Or.inl ⟨waits, unbound, slot, held, free_before_put isHeld used found free, free⟩
  | @openLane opened _ waitsNot closed room starts carried =>
      rw [laned, List.map_append, List.mem_append] at waits
      rcases waits with already | isNew
      · exact Or.inl ⟨already, unbound, slot, held, found, free⟩
      · rw [List.map_singleton, List.mem_singleton] at isNew
        subst isNew
        exact Or.inr ⟨starts, carried, waitsNot, unbound, _, held, found, free⟩
  | @start started _ seat before waitsNot _ isFree wasFree starts carried =>
      have used : ((before.bind started now).push entry now).state ≠ .free := by
        simp [Slot.push, Slot.bind]
      have wasUnbound : batcher.seat? sequence = none := by
        rw [seat?_occupy] at unbound
        split at unbound
        · contradiction
        · exact unbound
      exact Or.inl ⟨waits, wasUnbound, slot, held, free_before_put isFree used found free, free⟩

/-- Letting a request in leaves nobody waiting who could have a slot, but for those before. -/
theorem Seatable.before_enqueue
    (coherent : batcher.Coherent)
    {request : Request}
    (seatable : (batcher.enqueue request now).batcher.Seatable instanceIndex sequence) :
    batcher.Seatable instanceIndex sequence := by
  cases answered : (batcher.enqueue request now).rejection? with
  | some failure =>
      obtain ⟨marks, isLast⟩ := enqueue_marks coherent answered
      rw [isLast] at seatable
      exact ⟨seatable.waits, seatable.unbound, seatable.free⟩
  | none =>
      obtain ⟨marks, after, others, move, isLast⟩ := enqueue_move coherent answered
      have placed : after.Seatable instanceIndex sequence := by
        rw [isLast] at seatable
        exact ⟨seatable.waits, seatable.unbound, seatable.free⟩
      rcases move.seatable_before placed with
        before | ⟨starts, belongs, waitsNot, unbound, seat, held, found, free⟩
      · exact ⟨before.waits, before.unbound, before.free⟩
      · -- The sequence would have taken the free slot and not waited.
        have bound := bound_of_free coherent answered starts belongs waitsNot unbound found free
        rw [seatable.unbound] at bound
        contradiction

/-- A sequence that is bound on being let in is started like that, and takes a free slot. -/
theorem enqueue_binds
    (coherent : batcher.Coherent)
    {request : Request}
    {seat : Seat}
    (unbound : batcher.seat? sequence = none)
    (bound : (batcher.enqueue request now).batcher.seat? sequence = some seat) :
    request.starts = true ∧
      request.sequence? = some sequence ∧
      ∃ held, batcher.liveSlot? seat = some held ∧ held.state = .free := by
  cases answered : (batcher.enqueue request now).rejection? with
  | some failure =>
      obtain ⟨marks, isLast⟩ := enqueue_marks coherent answered
      rw [isLast] at bound
      have stillUnbound := unbound.symm.trans bound
      contradiction
  | none =>
      obtain ⟨marks, after, others, move, isLast⟩ := enqueue_move coherent answered
      have placed : after.seat? sequence = some seat := by
        rw [isLast] at bound
        exact bound
      cases move with
      | follow | push | openLane =>
          have stillUnbound := unbound.symm.trans placed
          contradiction
      | @start started _ place held waitsNot _ found free starts carried =>
          rw [seat?_occupy] at placed
          split at placed
          · next isSequence =>
              rw [← Option.some.inj placed, isSequence]
              exact ⟨starts, carried, held, found, free⟩
          · have stillUnbound := unbound.symm.trans placed
            contradiction

end Seatable

section Runs

variable {batcher : SequenceBatcher}
variable {instanceIndex : Nat}
variable {sequence : CorrelationId}

/-- What holds after a run has held all along, or ever since some operation of the run. -/
theorem held_since
    (property : SequenceBatcher → Prop)
    {operations : List Operation}
    (holds : property (batcher.after operations)) :
    (∀ done, done <+: operations → property (batcher.after done)) ∨
      ∃ earlier operation later,
        operations = earlier ++ operation :: later ∧
          ¬ property (batcher.after earlier) ∧
          ∀ done, done <+: later → property (batcher.after (earlier ++ operation :: done)) := by
  induction operations generalizing batcher with
  | nil =>
      refine Or.inl (fun done isPrefix => ?_)
      rw [List.prefix_nil.mp isPrefix]
      exact holds
  | cons operation operations inductionHypothesis =>
      rcases inductionHypothesis holds with
        throughout | ⟨earlier, turning, later, isSplit, before, since⟩
      · by_cases already : property batcher
        · refine Or.inl (fun done isPrefix => ?_)
          rcases List.prefix_cons_iff.mp isPrefix with isEmpty | ⟨rest, isDone, within⟩
          · rw [isEmpty]
            exact already
          · rw [isDone]
            exact throughout rest within
        · exact Or.inr ⟨[], operation, operations, rfl, already, throughout⟩
      · exact Or.inr ⟨operation :: earlier, turning, later, by rw [isSplit]; rfl, before, since⟩

/--
Whoever waits and could have a slot of an instance has been in this position since an
operation that let nobody in, and no batch has been formed for the instance since.
-/
theorem seatable_since
    (config : ModelConfig)
    (start : Nat)
    {operations : List Operation}
    (seatable :
      ((ofConfig config start).after operations).Seatable instanceIndex sequence) :
    ∃ earlier operation later,
      operations = earlier ++ operation :: later ∧
        (∀ request now, operation ≠ .enqueue request now) ∧
        (∀ now, .form instanceIndex now ∉ operation :: later) ∧
        ¬ ((ofConfig config start).after earlier).Seatable instanceIndex sequence ∧
        ∀ done,
          done <+: later →
            ((ofConfig config start).after (earlier ++ operation :: done)).Seatable
              instanceIndex sequence := by
  have coherent : ∀ done, ((ofConfig config start).after done).Coherent := fun done =>
    (coherent_ofConfig config start).after done
  rcases held_since (fun reached => reached.Seatable instanceIndex sequence) seatable with
    throughout | ⟨earlier, operation, later, isSplit, before, since⟩
  · have atStart := (throughout [] List.nil_prefix).waits
    contradiction
  · refine ⟨earlier, operation, later, isSplit, ?_, ?_, before, since⟩
    · intro request now isEnqueue
      have entered := since [] List.nil_prefix
      rw [isEnqueue, after, List.foldl_append] at entered
      exact before (entered.before_enqueue (coherent earlier))
    · intro now formed
      obtain ⟨front, back, isFormed⟩ := List.append_of_mem formed
      have within : (front ++ [.form instanceIndex now]) <+: (operation :: later) := by
        rw [isFormed]
        exact ⟨back, by simp⟩
      rcases List.prefix_cons_iff.mp within with isEmpty | ⟨done, isDone, isPrefix⟩
      · simp at isEmpty
      · have stillSeatable := since done isPrefix
        rw [← isDone, ← List.append_assoc, after, List.foldl_append] at stillSeatable
        exact not_seatable_formBatch (coherent (earlier ++ front)) _ _ _ stillSeatable

end Runs

/--
In every run, the waiting sequences stand in the order in which their first requests
were let in, and a formation that binds one of them leaves nobody waiting ahead of it
but sequences whose id is bound throughout. After it, nobody waits who could have a slot
of the instance. A request that is bound on being let in is a START, and takes a slot
that is free. It passes a waiting sequence that is not bound only on an instance of
which that one could have had a slot ever since an operation that let nobody in, and
for which no batch has been formed since.
-/
theorem waiting_sequences_in_turn
    (config : ModelConfig)
    (start : Nat)
    (operations : List Operation) :
    let history := (History.ofConfig config start).after operations
    let reached := (ofConfig config start).after
    let batcher := reached operations
    history.batcher = batcher ∧
      (batcher.backlog.map Lane.first).Sublist history.accepted ∧
      (∀ instanceIndex now sequence seat,
        let freed := batcher.afterReleases (.form instanceIndex now)
        let formed := (batcher.formBatch instanceIndex now).batcher
        freed.seat? sequence = none →
        formed.seat? sequence = some seat →
          ∃ ahead lane behind,
            batcher.backlog = ahead ++ lane :: behind ∧
              lane.sequence = sequence ∧
              ∀ other ∈ ahead,
                other ∈ formed.backlog →
                  ∃ place,
                    freed.seat? other.sequence = some place ∧
                      formed.seat? other.sequence = some place) ∧
      (∀ instanceIndex now sequence,
        ¬ (batcher.formBatch instanceIndex now).batcher.Seatable instanceIndex sequence) ∧
      ∀ request now sequence seat,
        batcher.seat? sequence = none →
        (batcher.enqueue request now).batcher.seat? sequence = some seat →
          request.starts = true ∧
            request.sequence? = some sequence ∧
            (∃ held, batcher.liveSlot? seat = some held ∧ held.state = .free) ∧
            ∀ lane ∈ batcher.backlog,
              batcher.seat? lane.sequence = none →
                ∃ earlier operation later,
                  operations = earlier ++ operation :: later ∧
                    (∀ entering instant, operation ≠ .enqueue entering instant) ∧
                    (∀ instant, .form seat.instanceIndex instant ∉ operation :: later) ∧
                    ¬ (reached earlier).Seatable seat.instanceIndex lane.sequence ∧
                    ∀ done,
                      done <+: later →
                        (reached (earlier ++ operation :: done)).Seatable
                          seat.instanceIndex lane.sequence := by
  intro history reached batcher
  have sameBatcher : history.batcher = batcher := History.batcher_after _ operations
  have coherent : batcher.Coherent := (coherent_ofConfig config start).after operations
  refine ⟨sameBatcher, ?_, ?_, not_seatable_formBatch coherent, ?_⟩
  · rw [← sameBatcher]
    exact History.firsts_after (History.orderly_ofConfig config start) (List.nil_sublist _)
      operations
  · intro instanceIndex now sequence seat freed formed unbound bound
    exact formBatch_in_turn coherent unbound bound
  · intro request now sequence seat unbound bound
    obtain ⟨starts, belongs, held, found, free⟩ := enqueue_binds coherent unbound bound
    refine ⟨starts, belongs, ⟨held, found, free⟩, ?_⟩
    intro lane member laneUnbound
    exact seatable_since config start
      ⟨List.mem_map_of_mem member, laneUnbound, seat.slot, held, found, free⟩

/-- Between a release and the next formation, a START passes one that was let in before it. -/
theorem passed_before_formation :
    let config : ModelConfig :=
      { name := "model", sequenceBatching? := some { maxSequences := 1, blocking := true } }
    let report : DispatchRecord :=
      { request := 1, slot? := some 0, sequence? := some 1, ends := true }
    let newcomer : Request := { id := 3, sequence? := some 3, starts := true }
    let batcher := (ofConfig config 0).after
      [.enqueue { id := 1, sequence? := some 1, starts := true, ends := true } 0,
        .form 0 0,
        .enqueue { id := 2, sequence? := some 2, starts := true } 0,
        .complete 0 [report] 0]
    let answer := batcher.enqueue newcomer 0
    config.problem? = none ∧
      batcher.blocking = true ∧
      batcher.seat? 3 = none ∧
      answer.rejection? = none ∧
      answer.batcher.seat? 3 = some { instanceIndex := 0, slot := 0 } ∧
      answer.batcher.seat? 2 = none ∧
      answer.batcher.backlog.map (fun lane => lane.first.request.id) = [2] := by
  decide

end SequenceBatcher

end InferenceBatching
