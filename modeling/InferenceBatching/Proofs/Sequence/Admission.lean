import InferenceBatching.Proofs.Sequence.Move

namespace InferenceBatching

/-!
# Admission by moves

A request that is let in makes one entry and one move that places it, behind its
sequence or at the start of a new one. A request that is turned away places
nothing. A START that passes the input check clears the mark of its sequence
first, whatever becomes of it.
-/

namespace SequenceBatcher

/-- What letting a request in, or turning it away, comes to. -/
inductive Admission
    (now : Nat)
    (batcher : SequenceBatcher)
    (request : Request) :
    Answer SequenceBatcher → Prop where
  | accepted
      {last : SequenceBatcher}
      (belongs : ∃ sequence, request.sequence? = some sequence)
      (moves : Moves now batcher .admitting [.admitted (batcher.entryFor request now)] last) :
      Admission now batcher request (.accepted last)
  | rejected
      {last : SequenceBatcher}
      (error : RequestError)
      (moves : Moves now batcher .admitting [] last) :
      Admission now batcher request (.rejected last request error)

/-- Queueing an entry at a live seat is putting its slot with the entry queued. -/
theorem pushAt_eq_putSlot
    {batcher : SequenceBatcher}
    (coherent : batcher.Coherent)
    {seat : Seat}
    {held : Slot}
    (found : batcher.liveSlot? seat = some held)
    (used : held.state ≠ .free)
    (entry : QueueEntry)
    (now : Nat) :
    batcher.pushAt seat entry now = batcher.putSlot seat (held.push entry now) := by
  obtain ⟨owner, live, isSlot⟩ := liveSlot?_eq_some.mp found
  have isTable := table?_of_live live
  have pushed :
      owner.table.push seat.slot entry now =
        owner.table.put seat.slot (held.push entry now) :=
    (coherent.indexed_of_live live).modify_eq_put isSlot used used
  simp only [pushAt, isTable, pushed]
  exact withTable_put isTable _

theorem isActive_of_liveSlot
    {batcher : SequenceBatcher}
    {seat : Seat}
    {held : Slot}
    (found : batcher.liveSlot? seat = some held) :
    batcher.isActive seat = true ↔ held.state = .active := by
  simp [isActive, slotAt?_of_liveSlot found]

private theorem findFree?_shape
    {sequence : CorrelationId}
    {now index : Nat}
    {instances : List Instance}
    {seat : Seat}
    {table : SlotTable}
    (isFree : findFree? sequence now index instances = some (seat, table)) :
    ∃ offset held,
      seat.instanceIndex = index + offset ∧
        instances[offset]? = some held ∧
          held.isHalted = false ∧
            held.table.bind? sequence now = some (seat.slot, table) := by
  induction instances generalizing index with
  | nil => contradiction
  | cons first rest inductionHypothesis =>
      simp only [findFree?] at isFree
      split at isFree
      · next slot bound isBound =>
          simp only [Option.some.injEq, Prod.mk.injEq] at isFree
          obtain ⟨isSeat, isTable⟩ := isFree
          subst isSeat isTable
          cases isHalted : first.isHalted with
          | true => simp [isHalted] at isBound
          | false =>
              simp only [isHalted, Bool.false_eq_true, if_false] at isBound
              exact ⟨0, first, rfl, rfl, isHalted, isBound⟩
      · obtain ⟨offset, held, isIndex, isHeld, halted, isBound⟩ := inductionHypothesis isFree
        exact ⟨offset + 1, held, by omega, isHeld, halted, isBound⟩

/-- A new sequence is bound to a free slot of a live instance. -/
theorem bindFree?_shape
    {batcher bound : SequenceBatcher}
    (coherent : batcher.Coherent)
    {sequence : CorrelationId}
    {now : Nat}
    {seat : Seat}
    (isBound : batcher.bindFree? sequence now = some (seat, bound)) :
    ∃ held,
      batcher.liveSlot? seat = some held ∧
        held.state = .free ∧
          bound = batcher.occupy sequence seat (held.bind sequence now) := by
  simp only [bindFree?] at isBound
  split at isBound
  · contradiction
  · next place table isFree =>
      simp only [Option.some.injEq, Prod.mk.injEq] at isBound
      obtain ⟨isSeat, isBatcher⟩ := isBound
      subst isSeat isBatcher
      obtain ⟨offset, owner, isIndex, isOwner, halted, isTable⟩ := findFree?_shape isFree
      have live : batcher.live? place.instanceIndex = some owner := by
        rw [isIndex, Nat.zero_add]
        exact live?_eq_some.mpr ⟨isOwner, halted⟩
      obtain ⟨held, isSlot, free, isPut⟩ :=
        (coherent.indexed_of_live live).bind?_shape isTable
      refine ⟨held, liveSlot?_eq_some.mpr ⟨owner, live, isSlot⟩, free, ?_⟩
      rw [isPut, withTable_put (table?_of_live live)]
      rfl

private theorem findFree?_none
    {sequence : CorrelationId}
    {now index : Nat}
    {instances : List Instance}
    (noneFree : findFree? sequence now index instances = none)
    {owner : Instance}
    (member : owner ∈ instances)
    (live : owner.isHalted = false) :
    owner.table.freeSlots = [] := by
  induction instances generalizing index with
  | nil => contradiction
  | cons first rest inductionHypothesis =>
      simp only [findFree?] at noneFree
      split at noneFree
      · contradiction
      · next full =>
          rcases List.mem_cons.mp member with isFirst | inRest
          · rw [← isFirst, live] at full
            simp only [Bool.false_eq_true, if_false, SlotTable.bind?] at full
            split at full
            · next nothing => exact nothing
            · contradiction
          · exact inductionHypothesis noneFree inRest

/-- A new sequence is bound to no slot only if no live instance has a free one. -/
theorem used_of_bindFree?
    {batcher : SequenceBatcher}
    (coherent : batcher.Coherent)
    {sequence : CorrelationId}
    {now : Nat}
    (notBound : batcher.bindFree? sequence now = none)
    {seat : Seat}
    {held : Slot}
    (found : batcher.liveSlot? seat = some held) :
    held.state ≠ .free := by
  intro free
  simp only [bindFree?] at notBound
  split at notBound
  · next noneFree =>
      obtain ⟨owner, live, isSlot⟩ := liveSlot?_eq_some.mp found
      obtain ⟨isInstance, running⟩ := live?_eq_some.mp live
      have listed := ((coherent.indexed_of_live live).freeIff seat.slot).mpr ⟨held, isSlot, free⟩
      rw [findFree?_none noneFree (List.mem_of_getElem? isInstance) running] at listed
      contradiction
  · contradiction

/-- Opening a lane is one move, if there is room for the lane. -/
private theorem openLane_admission
    {batcher : SequenceBatcher}
    {sequence : CorrelationId}
    (waitsNot : batcher.lane? sequence = none)
    (closed : ∀ seat, batcher.seat? sequence = some seat → batcher.isActive seat = false)
    {request : Request}
    (starts : request.starts = true)
    (belongs : request.sequence? = some sequence)
    (now : Nat) :
    Admission now batcher request (batcher.openLane sequence request now) := by
  simp only [openLane]
  split
  · next room =>
      exact .accepted ⟨sequence, belongs⟩ (.single (.openLane waitsNot closed room starts belongs))
  · exact .rejected _ (.nil)

/-- Starting a sequence is one move, if there is a free slot or room for a lane. -/
private theorem startSequence_admission
    {batcher : SequenceBatcher}
    (coherent : batcher.Coherent)
    {sequence : CorrelationId}
    (waitsNot : batcher.lane? sequence = none)
    (unbound : batcher.seat? sequence = none)
    {request : Request}
    (starts : request.starts = true)
    (belongs : request.sequence? = some sequence)
    (now : Nat) :
    Admission now batcher request (batcher.startSequence sequence request now) := by
  simp only [startSequence]
  split
  · next seat bound isBound =>
      obtain ⟨held, found, free, isBatcher⟩ := bindFree?_shape coherent isBound
      have sound := (coherent.sound_of_liveSlot found).bind free sequence now
      have used : (held.bind sequence now).state ≠ .free := by simp [Slot.bind]
      have boundCoherent : bound.Coherent := by
        rw [isBatcher]
        exact coherent.occupy found free unbound sound rfl
      have boundFound : bound.liveSlot? seat = some (held.bind sequence now) := by
        rw [isBatcher, liveSlot?_occupy, liveSlot?_putSlot _ found, if_pos rfl]
      rw [pushAt_eq_putSlot boundCoherent boundFound used, isBatcher,
        coherent.putSlot_occupy found]
      exact .accepted ⟨sequence, belongs⟩
        (.single (.start waitsNot unbound found free starts belongs))
  · split
    · apply openLane_admission waitsNot _ starts belongs
      intro seat bound
      rw [unbound] at bound
      contradiction
    · exact .rejected _ (.nil)

/-- A checked request joins its sequence by one move, or is turned away. -/
private theorem join_admission
    {batcher : SequenceBatcher}
    (coherent : batcher.Coherent)
    {sequence : CorrelationId}
    {request : Request}
    (belongs : request.sequence? = some sequence)
    (now : Nat) :
    Admission now batcher request (batcher.join sequence request now) := by
  simp only [join]
  split
  · next waits => exact .accepted ⟨sequence, belongs⟩ (.single (.follow waits belongs))
  · next waitsNot =>
      rw [Option.not_isSome_iff_eq_none] at waitsNot
      split
      · next seat bound =>
          obtain ⟨held, found, used, carries⟩ := coherent.liveSlot_of_seat bound
          split
          · next active =>
              rw [pushAt_eq_putSlot coherent found used]
              exact .accepted ⟨sequence, belongs⟩
                (.single (.push waitsNot found ((isActive_of_liveSlot found).mp active)
                  carries belongs))
          · next closed =>
              split
              · next starts =>
                  apply openLane_admission waitsNot _ starts belongs
                  intro place alsoBound
                  have same : seat = place := Option.some.inj (bound.symm.trans alsoBound)
                  rw [← same]
                  exact Bool.eq_false_iff.mpr closed
              · exact .rejected _ (.nil)
      · next unbound =>
          split
          · next starts =>
              exact startSequence_admission coherent waitsNot unbound starts belongs now
          · exact .rejected _ (.nil)

/-- Moves made beforehand, of which nothing is seen, may be put in front of an admission. -/
private theorem Admission.after
    {now : Nat}
    {batcher middle : SequenceBatcher}
    {request : Request}
    {answer : Answer SequenceBatcher}
    (moves : Moves now batcher .admitting [] middle)
    (samePolicy : middle.policy = batcher.policy)
    (admission : Admission now middle request answer) :
    Admission now batcher request answer := by
  have sameEntry : middle.entryFor request now = batcher.entryFor request now := by
    rw [entryFor, samePolicy, entryFor]
  cases admission with
  | accepted belongs further =>
      rw [sameEntry] at further
      exact .accepted belongs (moves.append further)
  | rejected error further => exact .rejected error (moves.append further)

/-- A request is let in or turned away by moves. -/
theorem enqueue_admission
    {batcher : SequenceBatcher}
    (coherent : batcher.Coherent)
    (request : Request)
    (now : Nat) :
    Admission now batcher request (batcher.enqueue request now) := by
  simp only [enqueue]
  split
  · exact .rejected _ (.nil)
  · next sequence belongs =>
      split
      · exact .rejected _ (.nil)
      · split
        · exact .rejected _ (.nil)
        · split
          · have unmarked : Moves now batcher .admitting [] _ := .single (.unmark sequence)
            exact (join_admission (unmarked.coherent coherent) belongs now).after unmarked rfl
          · exact join_admission coherent belongs now

section Placing

variable {batcher last : SequenceBatcher}
variable {now : Nat}
variable {events : List Event}
variable {entry : QueueEntry}

/-- Admitting without letting anything in changes nothing but marks. -/
private theorem Moves.marks_of_silent
    (moves : Moves now batcher .admitting events last)
    (silent : events = []) :
    ∃ marks, last = { batcher with timedOut := marks } := by
  induction moves with
  | nil => exact ⟨batcher.timedOut, rfl⟩
  | snoc _ move inductionHypothesis =>
      obtain ⟨nothingBefore, nothingNow⟩ := List.append_eq_nil_iff.mp silent
      obtain ⟨marks, isMiddle⟩ := inductionHypothesis nothingBefore
      subst isMiddle
      cases move with
      | unmark sequence => exact ⟨_, rfl⟩
      | follow | push | openLane | start => contradiction

/-- Letting one entry in is one move, up to marks before and after it. -/
private theorem Moves.move_of_admitted
    (moves : Moves now batcher .admitting events last)
    (isAdmission : events = [.admitted entry]) :
    ∃ marks after others,
      Move now { batcher with timedOut := marks } .admitting [.admitted entry] after ∧
        last = { after with timedOut := others } := by
  induction moves with
  | nil => contradiction
  | @snoc middle last events more moves move inductionHypothesis =>
      rcases List.append_eq_singleton_iff.mp isAdmission with
        ⟨nothingBefore, isNow⟩ | ⟨isBefore, nothingNow⟩
      · obtain ⟨marks, isMiddle⟩ := moves.marks_of_silent nothingBefore
        subst isMiddle isNow
        exact ⟨marks, last, last.timedOut, move, rfl⟩
      · obtain ⟨marks, after, others, placing, isMiddle⟩ := inductionHypothesis isBefore
        obtain ⟨marks', isLast⟩ := (Moves.single move).marks_of_silent nothingNow
        refine ⟨marks, after, marks', placing, ?_⟩
        rw [isLast, isMiddle]

/-- A request that is let in is placed by one move, up to marks before and after it. -/
theorem enqueue_move
    (coherent : batcher.Coherent)
    {request : Request}
    (accepted : (batcher.enqueue request now).rejection? = none) :
    ∃ marks after others,
      Move now { batcher with timedOut := marks } .admitting
          [.admitted (batcher.entryFor request now)] after ∧
        (batcher.enqueue request now).batcher = { after with timedOut := others } := by
  have admission := enqueue_admission coherent request now
  generalize batcher.enqueue request now = answer at admission accepted
  cases admission with
  | accepted belongs moves => exact moves.move_of_admitted rfl
  | rejected error moves => contradiction

/-- A request that is turned away changes nothing but marks. -/
theorem enqueue_marks
    (coherent : batcher.Coherent)
    {request : Request}
    {failure : Failure}
    (rejected : (batcher.enqueue request now).rejection? = some failure) :
    ∃ marks, (batcher.enqueue request now).batcher = { batcher with timedOut := marks } := by
  have admission := enqueue_admission coherent request now
  generalize batcher.enqueue request now = answer at admission rejected
  cases admission with
  | accepted belongs moves => contradiction
  | rejected error moves => exact moves.marks_of_silent rfl

end Placing

/-- What a START that finds no room is told. -/
def noRoom
    {Waiting : Type}
    (batcher : SequenceBatcher Waiting) :
    RequestError :=
  if batcher.blocking then .queueFull else .noAvailableSlot

section Refusals

variable {batcher : SequenceBatcher}
variable {sequence : CorrelationId}
variable {request : Request}
variable {now : Nat}
variable {failure : Failure}

/-- A lane that may not be opened leaves everything as it was. -/
theorem openLane_rejected
    (rejected : (batcher.openLane sequence request now).rejection? = some failure) :
    batcher.openLane sequence request now = .rejected batcher request batcher.noRoom := by
  simp only [openLane] at rejected ⊢
  split at rejected
  · contradiction
  · next full =>
      rw [if_neg full]
      rfl

/-- A sequence that may not start leaves everything as it was. -/
theorem startSequence_rejected
    (rejected : (batcher.startSequence sequence request now).rejection? = some failure) :
    batcher.startSequence sequence request now = .rejected batcher request batcher.noRoom := by
  simp only [startSequence] at rejected ⊢
  split at rejected
  · contradiction
  · split at rejected
    · next waits =>
        rw [if_pos waits]
        exact openLane_rejected rejected
    · next waitsNot => 
        rw [if_neg waitsNot, noRoom, if_neg waitsNot]

/-- A request that may not join leaves everything as it was; a START is told of the want of room. -/
theorem join_rejected
    (rejected : (batcher.join sequence request now).rejection? = some failure) :
    batcher.join sequence request now =
      .rejected batcher request
        (if request.starts then batcher.noRoom else .sequenceNotFound sequence) := by
  simp only [join] at rejected ⊢
  split at rejected
  · contradiction
  · next waitsNot =>
      rw [if_neg waitsNot]
      split at rejected
      · split at rejected
        · contradiction
        · next closed =>
            rw [if_neg closed]
            split at rejected
            · next starts =>
                rw [if_pos starts, if_pos starts]
                exact openLane_rejected rejected
            · next continues =>
                rw [if_neg continues, if_neg continues]
      · split at rejected
        · next starts =>
            rw [if_pos starts, if_pos starts]
            exact startSequence_rejected rejected
        · next continues =>
            rw [if_neg continues, if_neg continues]

end Refusals

end SequenceBatcher

end InferenceBatching
