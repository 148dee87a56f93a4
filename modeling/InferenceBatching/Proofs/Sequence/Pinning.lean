import InferenceBatching.Proofs.Sequence.Run

namespace InferenceBatching

/-!
# Pinning

A bound sequence keeps its seat. Admission and filling only bind sequences that
have no seat, and expiry and settlement only unbind, which leaves the slot free.
So a seat changes hands only after its slot was released or its instance halted.
-/

namespace SequenceBatcher

section Moves

variable {now : Nat}
variable {batcher last : SequenceBatcher}
variable {activity : Activity}
variable {events : List Event}
variable {sequence : CorrelationId}
variable {seat : Seat}

private theorem find?_insert_of_bound
    {other : CorrelationId}
    (unbound : batcher.seat? other = none)
    (bound : batcher.seat? sequence = some seat)
    (place : Seat) :
    (batcher.bindings.insert other place).find? sequence = some seat := by
  have distinct : sequence ≠ other := by
    intro same
    rw [same, unbound] at bound
    contradiction
  rw [Directory.find?_insert, if_neg distinct]
  exact bound

private theorem seat?_of_erase
    {other : CorrelationId}
    (bound : (batcher.bindings.erase other).find? sequence = some seat) :
    batcher.seat? sequence = some seat := by
  rw [Directory.find?_erase] at bound
  split at bound
  · contradiction
  · exact bound

/-- Admission and filling keep every binding. -/
theorem Move.seat?_kept
    (move : Move now batcher activity events last)
    (binds : activity = .admitting ∨ activity = .filling)
    (bound : batcher.seat? sequence = some seat) :
    last.seat? sequence = some seat := by
  cases move with
  | follow | push | openLane | unmark | dispatch => exact bound
  | start waitsNot unbound found free starts carried =>
      exact find?_insert_of_bound unbound bound _
  | seatLane isBacklog isBound unbound found free =>
      exact find?_insert_of_bound unbound bound _
  | forget | expireLanes | tearDown | evict | reclaim | land | release =>
      rcases binds with isAdmitting | isFilling <;> contradiction

/-- Expiry and settlement make no binding. -/
theorem Move.seat?_before
    (move : Move now batcher activity events last)
    (unbinds : activity = .expiring ∨ activity = .settling)
    (bound : last.seat? sequence = some seat) :
    batcher.seat? sequence = some seat := by
  cases move with
  | forget | expireLanes | tearDown | land => exact bound
  | evict | reclaim | release => exact seat?_of_erase bound
  | follow | push | openLane | start | unmark | seatLane | dispatch =>
      rcases unbinds with isExpiring | isSettling <;> contradiction

theorem Moves.seat?_kept
    (moves : Moves now batcher activity events last)
    (binds : activity = .admitting ∨ activity = .filling)
    (bound : batcher.seat? sequence = some seat) :
    last.seat? sequence = some seat := by
  induction moves with
  | nil => exact bound
  | snoc _ move inductionHypothesis => exact move.seat?_kept binds inductionHypothesis

theorem Moves.seat?_before
    (moves : Moves now batcher activity events last)
    (unbinds : activity = .expiring ∨ activity = .settling)
    (bound : last.seat? sequence = some seat) :
    batcher.seat? sequence = some seat := by
  induction moves with
  | nil => exact bound
  | snoc _ move inductionHypothesis =>
      exact inductionHypothesis (move.seat?_before unbinds bound)

/-- Expiry and settlement take a seat only by freeing its slot. -/
theorem Moves.seat?_kept_or_free
    (coherent : batcher.Coherent)
    (moves : Moves now batcher activity events last)
    (unbinds : activity = .expiring ∨ activity = .settling)
    (bound : batcher.seat? sequence = some seat) :
    last.seat? sequence = some seat ∨
      ∃ slot, last.liveSlot? seat = some slot ∧ slot.state = .free := by
  have reached := moves.coherent coherent
  obtain ⟨held, heldFound, _, heldCarries⟩ := coherent.liveSlot_of_seat bound
  have stillThere : (last.liveSlot? seat).isSome = true := by
    rw [moves.liveSlot?_isSome, heldFound]
    rfl
  obtain ⟨slot, found⟩ := Option.isSome_iff_exists.mp stillThere
  by_cases free : slot.state = .free
  · exact Or.inr ⟨slot, found, free⟩
  · -- Whoever sits there now sat there before, and a seat has one sequence.
    obtain ⟨other, carries⟩ := (reached.sound_of_liveSlot found).usedSequence free
    have alsoBound := reached.seat_of_liveSlot found carries
    have wasBound := moves.seat?_before unbinds alsoBound
    obtain ⟨_, alsoFound, _, alsoCarries⟩ := coherent.liveSlot_of_seat wasBound
    have same : other = sequence := by
      rw [← Option.some.inj (heldFound.symm.trans alsoFound), heldCarries] at alsoCarries
      exact (Option.some.inj alsoCarries).symm
    exact Or.inl (same ▸ alsoBound)

/-- What filling sends off leaves from the seat to which its sequence is bound. -/
theorem Moves.seat?_of_dispatched
    (coherent : batcher.Coherent)
    (moves : Moves now batcher .filling events last)
    {entry : QueueEntry}
    (sentOff : (seat, entry) ∈ events.filterMap Event.dispatched?)
    (carried : entry.request.sequence? = some sequence) :
    last.seat? sequence = some seat := by
  induction moves with
  | nil => contradiction
  | @snoc middle last events more moves move inductionHypothesis =>
      rw [List.filterMap_append, List.mem_append] at sentOff
      rcases sentOff with before | now
      · exact move.seat?_kept (Or.inr rfl) (inductionHypothesis before)
      · cases move with
        | seatLane => contradiction
        | @dispatch sent place held after found dispatched =>
            have reached := moves.coherent coherent
            have sound := reached.sound_of_liveSlot found
            obtain ⟨_, _, _, isPending, _⟩ := Slot.dispatch?_shape dispatched
            obtain ⟨rfl, rfl⟩ : seat = place ∧ entry = sent := by simpa using now
            have carries := sound.carried entry (by simp [isPending])
            exact reached.seat_of_liveSlot found (carries.symm.trans carried)

end Moves

/--
The batcher when an operation has given up all seats that it gives up. Only a
formation goes on from there: it may give a free seat to another sequence.
-/
def afterReleases
    (batcher : SequenceBatcher) :
    Operation →
    SequenceBatcher
  | .form instanceIndex now =>
      if (batcher.live? instanceIndex).isSome then
        (batcher.expire now).batcher
      else
        batcher
  | operation => batcher.perform operation

/-- An operation leaves the slot at a seat free. -/
def Releases
    (batcher : SequenceBatcher)
    (operation : Operation)
    (seat : Seat) :
    Prop :=
  ∃ slot, (batcher.afterReleases operation).liveSlot? seat = some slot ∧ slot.state = .free

section Runs

variable {batcher : SequenceBatcher}
variable {sequence : CorrelationId}
variable {seat : Seat}

/-- A bound sequence keeps its seat unless its slot is released or its instance halted. -/
theorem seat?_perform
    (coherent : batcher.Coherent)
    (bound : batcher.seat? sequence = some seat)
    (operation : Operation) :
    (batcher.perform operation).seat? sequence = some seat ∨
      operation = .halt seat.instanceIndex ∨
      batcher.Releases operation seat := by
  cases operation with
  | enqueue request now =>
      have admission := enqueue_admission coherent request now
      simp only [perform]
      generalize batcher.enqueue request now = answer at admission
      cases admission with
      | accepted belongs moves => exact Or.inl (moves.seat?_kept (Or.inl rfl) bound)
      | rejected error moves => exact Or.inl (moves.seat?_kept (Or.inl rfl) bound)
  | form instanceIndex now =>
      have phases := formBatch_phases coherent instanceIndex now
      simp only [perform]
      generalize batcher.formBatch instanceIndex now = formation at phases
      cases phases with
      | halted halted => exact Or.inl bound
      | live live expires onlyFailures isFailed dispatches placed =>
          rcases expires.seat?_kept_or_free coherent (Or.inl rfl) bound with kept | freed
          · exact Or.inl (dispatches.seat?_kept (Or.inr rfl) kept)
          · refine Or.inr (Or.inr ?_)
            rw [Releases, afterReleases, if_pos live]
            exact freed
  | complete instanceIndex records now =>
      obtain ⟨_, _, moves, _⟩ := complete_moves coherent instanceIndex records now
      rcases moves.seat?_kept_or_free coherent (Or.inr rfl) bound with kept | freed
      · exact Or.inl kept
      · exact Or.inr (Or.inr freed)
  | halt instanceIndex =>
      by_cases within : seat.instanceIndex = instanceIndex
      · exact Or.inr (Or.inl (by rw [within]))
      · refine Or.inl ?_
        rw [perform, seat?_halt, bound]
        simp [Option.filter, within]
  | drain => exact Or.inl bound

/-- Through any further operations a bound sequence keeps its seat until it loses its slot. -/
theorem seat?_after
    (coherent : batcher.Coherent)
    (bound : batcher.seat? sequence = some seat)
    (operations : List Operation) :
    (batcher.after operations).seat? sequence = some seat ∨
      ∃ done operation rest,
        operations = done ++ operation :: rest ∧
          (operation = .halt seat.instanceIndex ∨
            (batcher.after done).Releases operation seat) :=
  after_or_ended Coherent Coherent.perform
    (fun reached => reached.seat? sequence = some seat)
    (fun reached operation =>
      operation = .halt seat.instanceIndex ∨ reached.Releases operation seat)
    seat?_perform coherent bound operations

/-- A request leaves from the seat to which its sequence is bound. -/
theorem seat?_of_formed
    (coherent : batcher.Coherent)
    {instanceIndex now index : Nat}
    {batch : Batch}
    (formed : batch ∈ (batcher.formBatch instanceIndex now).batch?)
    {entry : QueueEntry}
    (atIndex : batch.entries[index]?.bind BatchEntry.queued? = some entry)
    (carried : entry.request.sequence? = some sequence) :
    (batcher.formBatch instanceIndex now).batcher.seat? sequence =
      some { instanceIndex := instanceIndex, slot := index } := by
  have phases := formBatch_phases coherent instanceIndex now
  generalize batcher.formBatch instanceIndex now = formation at phases formed
  cases phases with
  | halted halted => contradiction
  | live live expires onlyFailures isFailed dispatches placed =>
      obtain ⟨isInstance, isSlots⟩ := placed batch formed
      have isSeated := Batch.getElem?_of_queued isSlots atIndex
      apply dispatches.seat?_of_dispatched (expires.coherent coherent) _ carried
      rw [Formation.dispatches_eq, Option.mem_def.mp formed]
      simp only [Option.toList_some, List.flatMap_singleton, List.mem_filterMap]
      refine ⟨.dispatched { instanceIndex := instanceIndex, slot := index } entry, ?_, rfl⟩
      apply List.mem_filterMap.mpr
      exact ⟨.seated index entry, List.mem_of_getElem? isSeated, by rw [isInstance]; rfl⟩

end Runs

end SequenceBatcher

end InferenceBatching
