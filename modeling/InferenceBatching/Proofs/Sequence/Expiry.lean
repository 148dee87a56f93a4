import InferenceBatching.Proofs.Directory
import InferenceBatching.Proofs.Sequence.Move

namespace InferenceBatching

/-!
# Expiry by moves

Applying the timeouts drops old marks, fails lanes, and then looks after one seat
of a live instance after the other. Each step is a move, or none, and everything
seen of it is a failure. The bookkeeping never refuses to free a slot: a sweep
frees only slots in use that have nothing in flight.

`Slot.swept` is what the timeouts make of one slot. A sweep makes exactly that of
every slot of a live instance, fails exactly what `Slot.failures` and
`Lane.failures` list, and marks exactly the sequences that have `lapsed`.
-/

namespace Slot

/-- What the timeouts make of a slot. -/
def swept
    (slot : Slot)
    (idleLimit? : Option Nat)
    (now : Nat) :
    Slot :=
  if slot.isExpired now then
    if slot.inFlight?.isSome then
      slot.tearDown
    else
      slot.tearDown.vacate now
  else if slot.isIdle idleLimit? now then
    slot.vacate now
  else
    slot

/-- The sequence on a slot, if it has run into a timeout. -/
def lapsed?
    (slot : Slot)
    (now : Nat) :
    Option CorrelationId :=
  if slot.isExpired now then slot.sequence? else none

/-- The failures of an expired slot: whatever is pending is told that the sequence timed out. -/
def failures
    (slot : Slot)
    (now : Nat) :
    List Failure :=
  (slot.lapsed? now).toList.flatMap (fun sequence =>
    Failure.all (requestsOf slot.pending) (.sequenceTimeout sequence))

section Swept

variable (slot : Slot)
variable (idleLimit? : Option Nat)
variable (now : Nat)

theorem isExpired_of_pending
    {slot : Slot}
    (nothing : slot.pending = []) :
    slot.isExpired now = false := by
  simp [isExpired, nothing]

theorem not_idle_of_state
    {slot : Slot}
    (notActive : slot.state ≠ .active) :
    slot.isIdle idleLimit? now = false := by
  unfold isIdle
  split
  · rfl
  · simp [notActive]

theorem lapsed?_of_not_expired
    {slot : Slot}
    {now : Nat}
    (notExpired : slot.isExpired now = false) :
    slot.lapsed? now = none := by
  simp [lapsed?, notExpired]

theorem failures_of_not_expired
    {slot : Slot}
    {now : Nat}
    (notExpired : slot.isExpired now = false) :
    slot.failures now = [] := by
  simp [failures, lapsed?_of_not_expired notExpired]

theorem lapsed?_of_expired
    {slot : Slot}
    {sequence : CorrelationId}
    (carries : slot.sequence? = some sequence)
    {now : Nat}
    (expired : slot.isExpired now = true) :
    slot.lapsed? now = some sequence := by
  simp [lapsed?, expired, carries]

theorem failures_of_expired
    {slot : Slot}
    {sequence : CorrelationId}
    (carries : slot.sequence? = some sequence)
    {now : Nat}
    (expired : slot.isExpired now = true) :
    slot.failures now = Failure.all (requestsOf slot.pending) (.sequenceTimeout sequence) := by
  simp [failures, lapsed?_of_expired carries expired]

/-- An expired or idle slot is not active afterwards. -/
theorem swept_not_active
    (due : slot.isExpired now = true ∨ slot.isIdle idleLimit? now = true) :
    (slot.swept idleLimit? now).state ≠ .active := by
  simp only [swept]
  split
  · split
    · exact slot.tearDown_not_active
    · simp [vacate]
  · next notExpired =>
      rcases due with expired | idle
      · contradiction
      · simp [idle, vacate]

/-- A slot that is still active is as it was, and was not expired. -/
theorem swept_of_active
    (active : (slot.swept idleLimit? now).state = .active) :
    slot.isExpired now = false ∧ slot.swept idleLimit? now = slot := by
  have notDue :
      ¬ (slot.isExpired now = true ∨ slot.isIdle idleLimit? now = true) := fun due =>
    slot.swept_not_active idleLimit? now due active
  rw [not_or, Bool.not_eq_true, Bool.not_eq_true] at notDue
  exact ⟨notDue.1, by simp [swept, notDue]⟩

variable {slot}

/-- What is left on a slot has not expired. -/
theorem Sound.swept_not_expired
    (sound : slot.Sound) :
    (slot.swept idleLimit? now).isExpired now = false := by
  simp only [swept]
  split
  · next expired =>
      have used : slot.state ≠ .free := by
        intro free
        rw [isExpired_of_pending now (sound.freePending free)] at expired
        contradiction
      split
      · exact isExpired_of_pending now (by rw [(tearDown_of_used used).2])
      · exact isExpired_of_pending now rfl
  · next notExpired =>
      split
      · exact isExpired_of_pending now rfl
      · exact Bool.eq_false_iff.mpr notExpired

/-- What is left on a slot is not idle. -/
theorem swept_not_idle
    (slot : Slot) :
    (slot.swept idleLimit? now).isIdle idleLimit? now = false := by
  simp only [swept]
  split
  · split
    · exact not_idle_of_state idleLimit? now slot.tearDown_not_active
    · exact not_idle_of_state idleLimit? now (by simp [vacate])
  · split
    · exact not_idle_of_state idleLimit? now (by simp [vacate])
    · next notIdle => exact Bool.eq_false_iff.mpr notIdle

end Swept

end Slot

namespace SequenceBatcher

section Seat

variable {now : Nat}
variable {sweep : Sweep}
variable {seat : Seat}
variable {owner : Instance}
variable {held : Slot}
variable {sequence : CorrelationId}

/-- Freeing a slot in use with nothing in flight is giving up its seat. -/
private theorem freeSeat_eq
    (sweep : Sweep)
    (coherent : sweep.batcher.Coherent)
    (live : sweep.batcher.live? seat.instanceIndex = some owner)
    (isSlot : owner.table.slot? seat.slot = some held)
    {changed : Slot}
    (used : changed.state ≠ .free)
    (grounded : changed.inFlight? = none) :
    sweep.freeSeat seat sequence (owner.table.put seat.slot changed) now =
      { sweep with
        batcher := sweep.batcher.unoccupy sequence seat (changed.vacate now) } := by
  have changedFound : (owner.table.put seat.slot changed).slot? seat.slot = some changed := by
    simp [SlotTable.slot?_put isSlot]
  simp only [Sweep.freeSeat]
  rw [SlotTable.release_eq changedFound used grounded,
    (coherent.indexed_of_live live).put_put isSlot]
  simp only [withTable_put (table?_of_live live)]
  rfl

/-- A step of a sweep: the moves made, what they fail, and what becomes of the slot. -/
private structure Swept
    (now : Nat)
    (sweep : Sweep)
    (seat : Seat)
    (held : Slot)
    (events : List Event)
    (after : Sweep) :
    Prop where
  moves : Moves now sweep.batcher .expiring events after.batcher
  onlyFailures : ∀ event ∈ events, event.IsFailure
  seen : events.filterMap Event.failure? = held.failures now
  isFailed : after.failed = sweep.failed ++ held.failures now
  sameRefusals : after.refusals = sweep.refusals
  sameLimit : after.batcher.idleLimit? = sweep.batcher.idleLimit?
  sameBacklog : after.batcher.backlog = sweep.batcher.backlog
  marks :
    ∀ sequence,
      after.batcher.timedOut.find? sequence =
        if held.lapsed? now = some sequence then
          some now
        else
          sweep.batcher.timedOut.find? sequence
  slots :
    after.batcher.liveSlot? =
      (sweep.batcher.putSlot seat (held.swept sweep.batcher.idleLimit? now)).liveSlot?

private theorem find?_markTimedOut
    (batcher : SequenceBatcher)
    (marked sequence : CorrelationId)
    (now : Nat) :
    (batcher.markTimedOut marked now).timedOut.find? sequence =
      if some marked = some sequence then some now else batcher.timedOut.find? sequence := by
  simp only [markTimedOut, Directory.find?_insert, Option.some.injEq, eq_comm]

/-- An expired sequence is torn down by a move, and evicted unless it has to wait. -/
private theorem swept_expireSeat
    (coherent : sweep.batcher.Coherent)
    (live : sweep.batcher.live? seat.instanceIndex = some owner)
    (isSlot : owner.table.slot? seat.slot = some held)
    (carries : held.sequence? = some sequence)
    (expired : held.isExpired now = true) :
    ∃ events,
      Swept now sweep seat held events
        (sweep.expireSeat seat sequence owner.table held now) := by
  have found : sweep.batcher.liveSlot? seat = some held :=
    liveSlot?_eq_some.mpr ⟨owner, live, isSlot⟩
  have used := (coherent.sound_of_liveSlot found).used_of_sequence carries
  have onlyFailures := Event.isFailure_of_failAll held.pending (.sequenceTimeout sequence)
  have isFailures := Slot.failures_of_expired carries expired
  have seen :
      (Event.failAll held.pending (.sequenceTimeout sequence)).filterMap Event.failure? =
        held.failures now := by
    rw [Event.filterMap_failure_failAll, isFailures]
  have marks : ∀ other, (sweep.batcher.markTimedOut sequence now).timedOut.find? other =
      if held.lapsed? now = some other then some now
      else sweep.batcher.timedOut.find? other := by
    intro other
    rw [Slot.lapsed?_of_expired carries expired, find?_markTimedOut]
  simp only [Sweep.expireSeat]
  rw [(coherent.indexed_of_live live).beginTeardown_eq isSlot used]
  cases flying : held.inFlight? with
  | some request =>
      have isTable : (sweep.batcher.markTimedOut sequence now).table? seat.instanceIndex =
          some owner.table := table?_of_live live
      simp only [Option.isSome_some, if_true, Sweep.withTable, withTable_put isTable]
      refine ⟨_, .single (.tearDown found carries expired flying), onlyFailures, seen,
        congrArg _ isFailures.symm, rfl, rfl, rfl, marks, ?_⟩
      simp [Slot.swept, expired, flying]
      rfl
  | none =>
      have stillUsed := mt (Slot.tearDown_state held).mp used
      have marked : (sweep.batcher.markTimedOut sequence now).Coherent := coherent.withMarks _
      simp only [Option.isSome_none, Bool.false_eq_true, if_false]
      rw [freeSeat_eq
        { sweep with
          batcher := sweep.batcher.markTimedOut sequence now
          failed := sweep.failed ++
            Failure.all (requestsOf held.pending) (.sequenceTimeout sequence) }
        marked live isSlot stillUsed ((Slot.tearDown_inFlight held).trans flying)]
      refine ⟨_, .single (.evict found carries expired flying), onlyFailures, seen,
        congrArg _ isFailures.symm, rfl, rfl, rfl, marks, ?_⟩
      simp [Slot.swept, expired, flying]
      rfl

/-- Looking after a seat takes at most one move, which makes of its slot what is due. -/
private theorem swept_sweepSeat
    (coherent : sweep.batcher.Coherent)
    (found : sweep.batcher.liveSlot? seat = some held) :
    ∃ events, Swept now sweep seat held events (Sweep.sweepSeat now sweep seat) := by
  obtain ⟨owner, live, isSlot⟩ := liveSlot?_eq_some.mp found
  have sound := coherent.sound_of_liveSlot found
  have unchanged :
      held.isExpired now = false →
      held.swept sweep.batcher.idleLimit? now = held →
        Swept now sweep seat held [] sweep := by
    intro notExpired kept
    refine ⟨.nil, by simp, ?_, ?_, rfl, rfl, rfl, ?_, ?_⟩
    · simp [Slot.failures_of_not_expired notExpired]
    · simp [Slot.failures_of_not_expired notExpired]
    · simp [Slot.lapsed?_of_not_expired notExpired]
    · funext other
      rw [kept, liveSlot?_putSlot held found]
      split
      · next same => rw [same, found]
      · rfl
  simp only [Sweep.sweepSeat]
  rw [table?_of_live live]
  dsimp only
  rw [isSlot]
  dsimp only
  split
  · next carriesNone =>
      have free : held.state = .free := by
        by_cases free : held.state = .free
        · exact free
        · obtain ⟨sequence, carries⟩ := sound.usedSequence free
          rw [carriesNone] at carries
          contradiction
      have notExpired := Slot.isExpired_of_pending now (sound.freePending free)
      have notIdle := Slot.not_idle_of_state sweep.batcher.idleLimit? now
        (show held.state ≠ .active by simp [free])
      exact ⟨[], unchanged notExpired (by simp [Slot.swept, notExpired, notIdle])⟩
  · next sequence carries =>
      split
      · next expired => exact swept_expireSeat coherent live isSlot carries expired
      · next notExpired =>
          rw [Bool.not_eq_true] at notExpired
          split
          · next idle =>
              have used := sound.used_of_sequence carries
              rw [← (coherent.indexed_of_live live).put_self isSlot,
                freeSeat_eq _ coherent live isSlot used (Slot.idle_shape idle).2.1]
              refine ⟨[], .single (.reclaim found carries idle), by simp, ?_, ?_, rfl, rfl, rfl,
                ?_, ?_⟩
              · simp [Slot.failures_of_not_expired notExpired]
              · simp [Slot.failures_of_not_expired notExpired]
              · intro other
                rw [Slot.lapsed?_of_not_expired notExpired]
                rfl
              · simp [Slot.swept, notExpired, idle]
          · next notIdle =>
              exact ⟨[], unchanged notExpired (by simp [Slot.swept, notExpired, notIdle])⟩

end Seat

/-- The seats that a batcher looks after are those of its live slots. -/
theorem mem_seats
    {batcher : SequenceBatcher}
    {seat : Seat} :
    seat ∈ batcher.seats ↔ (batcher.liveSlot? seat).isSome = true := by
  have listed :
      seat ∈ batcher.seats ↔
        ∃ index, ∃ held,
          batcher.instances[index]? = some held ∧ seat ∈ liveSeats index held := by
    simp only [seats, List.mem_flatten, List.mem_mapIdx]
    constructor
    · rintro ⟨_, ⟨index, inRange, isSeats⟩, isSeat⟩
      exact ⟨index, batcher.instances[index], by simp [inRange], isSeats ▸ isSeat⟩
    · rintro ⟨index, held, isHeld, isSeat⟩
      obtain ⟨inRange, isElement⟩ := List.getElem?_eq_some_iff.mp isHeld
      exact ⟨_, ⟨index, inRange, rfl⟩, isElement ▸ isSeat⟩
  rw [listed, Option.isSome_iff_exists]
  constructor
  · rintro ⟨index, held, isHeld, isSeat⟩
    simp only [liveSeats] at isSeat
    split at isSeat
    · contradiction
    · next running =>
        obtain ⟨slot, inRange, isSame⟩ := List.mem_map.mp isSeat
        subst isSame
        have live : batcher.live? index = some held :=
          live?_eq_some.mpr ⟨isHeld, Bool.eq_false_iff.mpr running⟩
        have within : slot < held.table.slots.length := List.mem_range.mp inRange
        exact ⟨held.table.slots[slot], liveSlot?_eq_some.mpr
          ⟨held, live, List.getElem?_eq_getElem within⟩⟩
  · rintro ⟨slot, found⟩
    obtain ⟨held, live, isSlot⟩ := liveSlot?_eq_some.mp found
    obtain ⟨isHeld, running⟩ := live?_eq_some.mp live
    have within : seat.slot < held.table.slots.length := (List.getElem?_eq_some_iff.mp isSlot).1
    refine ⟨seat.instanceIndex, held, isHeld, ?_⟩
    rw [liveSeats, running]
    exact List.mem_map.mpr ⟨seat.slot, List.mem_range.mpr within, rfl⟩

/-- No seat is looked after twice. -/
theorem nodup_seats
    (batcher : SequenceBatcher) :
    batcher.seats.Nodup := by
  have instanceOf :
      ∀ index held, ∀ seat ∈ liveSeats index held, seat.instanceIndex = index := by
    intro index held seat isSeat
    simp only [liveSeats] at isSeat
    split at isSeat
    · contradiction
    · obtain ⟨slot, _, isSame⟩ := List.mem_map.mp isSeat
      rw [← isSame]
  rw [List.nodup_iff_pairwise_ne, seats, List.pairwise_flatten]
  constructor
  · intro listed isListed
    obtain ⟨index, inRange, isSeats⟩ := List.mem_mapIdx.mp isListed
    subst isSeats
    simp only [liveSeats]
    split
    · exact List.Pairwise.nil
    · rw [List.pairwise_map]
      exact List.nodup_range.imp (fun distinct same => distinct (Seat.mk.inj same).2)
  · rw [List.pairwise_iff_getElem]
    intro first second _ _ before
    simp only [List.getElem_mapIdx]
    intro seat inFirst other inSecond same
    have isFirst := instanceOf _ _ seat inFirst
    have isSecond := instanceOf _ _ other inSecond
    rw [same, isSecond] at isFirst
    omega

/-- The sequences that run into a timeout at an instant: in their lanes, or on live slots. -/
def lapsed
    (batcher : SequenceBatcher)
    (now : Nat) :
    List CorrelationId :=
  (batcher.backlog.filter (fun lane => lane.isExpired now)).map Lane.sequence ++
    batcher.seats.filterMap (fun seat =>
      (batcher.liveSlot? seat).bind (fun slot => slot.lapsed? now))

theorem mem_lapsed
    {batcher : SequenceBatcher}
    {sequence : CorrelationId}
    {now : Nat} :
    sequence ∈ batcher.lapsed now ↔
      (∃ lane ∈ batcher.backlog,
          lane.sequence = sequence ∧ lane.isExpired now = true) ∨
        ∃ seat held,
          batcher.liveSlot? seat = some held ∧
            held.sequence? = some sequence ∧
              held.isExpired now = true := by
  have ofLanes :
      sequence ∈ (batcher.backlog.filter (fun lane => lane.isExpired now)).map Lane.sequence ↔
        ∃ lane ∈ batcher.backlog,
          lane.sequence = sequence ∧ lane.isExpired now = true := by
    simp only [List.mem_map, List.mem_filter]
    constructor
    · rintro ⟨lane, ⟨member, expired⟩, isSequence⟩
      exact ⟨lane, member, isSequence, expired⟩
    · rintro ⟨lane, member, isSequence, expired⟩
      exact ⟨lane, ⟨member, expired⟩, isSequence⟩
  have ofSlots :
      sequence ∈ batcher.seats.filterMap (fun seat =>
          (batcher.liveSlot? seat).bind (fun slot => slot.lapsed? now)) ↔
        ∃ seat held,
          batcher.liveSlot? seat = some held ∧
            held.sequence? = some sequence ∧
              held.isExpired now = true := by
    simp only [List.mem_filterMap, Option.bind_eq_some_iff, Slot.lapsed?]
    constructor
    · rintro ⟨seat, _, held, found, lapses⟩
      split at lapses
      · next expired => exact ⟨seat, held, found, lapses, expired⟩
      · contradiction
    · rintro ⟨seat, held, found, carries, expired⟩
      exact ⟨seat, mem_seats.mpr (by simp [found]), held, found, by simp [expired, carries]⟩
  rw [lapsed, List.mem_append, ofLanes, ofSlots]

/-- A sweep that has looked after some seats, from a batcher whose lanes have been failed. -/
private structure Sweeps
    (now : Nat)
    (start : SequenceBatcher)
    (done : List Seat)
    (sweep : Sweep) :
    Prop where
  moved :
    ∃ events,
      Moves now start .expiring events sweep.batcher ∧
        (∀ event ∈ events, event.IsFailure) ∧
        events.filterMap Event.failure? = sweep.failed
  noRefusals : sweep.refusals = []
  sameLimit : sweep.batcher.idleLimit? = start.idleLimit?
  backlog : sweep.batcher.backlog = start.backlog.filter (fun lane => !lane.isExpired now)
  isFailed :
    sweep.failed =
      (start.backlog.filter (fun lane => lane.isExpired now)).flatMap
          (fun lane => lane.failures now) ++
        done.flatMap (fun seat =>
          (start.liveSlot? seat).toList.flatMap (fun slot => slot.failures now))
  marks :
    ∀ sequence,
      sweep.batcher.timedOut.find? sequence =
        if sequence ∈
            (start.backlog.filter (fun lane => lane.isExpired now)).map Lane.sequence ++
              done.filterMap (fun seat =>
                (start.liveSlot? seat).bind (fun slot => slot.lapsed? now)) then
          some now
        else
          (start.forgetTimedOut now).timedOut.find? sequence
  slots :
    ∀ seat,
      sweep.batcher.liveSlot? seat =
        if seat ∈ done then
          (start.liveSlot? seat).map (fun slot => slot.swept start.idleLimit? now)
        else
          start.liveSlot? seat

section Sweeps

variable {now : Nat}
variable {start : SequenceBatcher}
variable {sweep : Sweep}

private theorem Sweeps.step
    {done : List Seat}
    (coherent : start.Coherent)
    (sweeps : Sweeps now start done sweep)
    {seat : Seat}
    (isNew : seat ∉ done)
    {held : Slot}
    (found : start.liveSlot? seat = some held) :
    Sweeps now start (done ++ [seat]) (Sweep.sweepSeat now sweep seat) := by
  obtain ⟨made, moves, onlyFailures, seen⟩ := sweeps.moved
  have stillFound : sweep.batcher.liveSlot? seat = some held := by
    rw [sweeps.slots seat, if_neg isNew, found]
  obtain ⟨events, swept⟩ := swept_sweepSeat (moves.coherent coherent) stillFound
  refine ⟨⟨made ++ events, moves.append swept.moves, ?_, ?_⟩, ?_, ?_, ?_, ?_, ?_, ?_⟩
  · intro event member
    rcases List.mem_append.mp member with before | after
    · exact onlyFailures event before
    · exact swept.onlyFailures event after
  · rw [List.filterMap_append, seen, swept.seen, swept.isFailed]
  · rw [swept.sameRefusals, sweeps.noRefusals]
  · rw [swept.sameLimit, sweeps.sameLimit]
  · rw [swept.sameBacklog, sweeps.backlog]
  · rw [swept.isFailed, sweeps.isFailed]
    simp [found]
  · intro sequence
    have extended :
        sequence ∈ (done ++ [seat]).filterMap (fun seat =>
            (start.liveSlot? seat).bind (fun slot => slot.lapsed? now)) ↔
          sequence ∈ done.filterMap (fun seat =>
              (start.liveSlot? seat).bind (fun slot => slot.lapsed? now)) ∨
            held.lapsed? now = some sequence := by
      rw [List.filterMap_append, List.mem_append, List.mem_filterMap (l := [seat])]
      simp [found]
    rw [swept.marks, sweeps.marks]
    simp only [List.mem_append, extended]
    by_cases lapses : held.lapsed? now = some sequence
    · simp only [lapses, or_true, if_true]
    · simp only [lapses, or_false, if_false]
  · intro other
    rw [swept.slots, liveSlot?_putSlot _ stillFound, sweeps.sameLimit]
    by_cases same : other = seat
    · simp [same, found]
    · simp [same, sweeps.slots other]

private theorem Sweeps.foldl
    {done : List Seat}
    (coherent : start.Coherent)
    (sweeps : Sweeps now start done sweep)
    {seats : List Seat}
    (present : ∀ seat ∈ seats, (start.liveSlot? seat).isSome = true)
    (distinct : (done ++ seats).Nodup) :
    Sweeps now start (done ++ seats) (seats.foldl (Sweep.sweepSeat now) sweep) := by
  induction seats generalizing done sweep with
  | nil => simpa using sweeps
  | cons seat seats inductionHypothesis =>
      obtain ⟨held, found⟩ :=
        Option.isSome_iff_exists.mp (present seat List.mem_cons_self)
      have isNew : seat ∉ done := by
        intro inDone
        exact (List.nodup_append.mp distinct).2.2 seat inDone seat List.mem_cons_self rfl
      have regrouped : done ++ seat :: seats = (done ++ [seat]) ++ seats := by simp
      rw [regrouped] at distinct ⊢
      exact inductionHypothesis (sweeps.step coherent isNew found)
        (fun other member => present other (List.mem_cons_of_mem seat member)) distinct

private theorem sweeps_expire
    {batcher : SequenceBatcher}
    (coherent : batcher.Coherent)
    (now : Nat) :
    Sweeps now batcher batcher.seats (batcher.expire now) := by
  have failedLanes :
      Sweeps now batcher [] ((batcher.forgetTimedOut now).expireBacklog now) := by
    refine ⟨⟨_, .snoc (.single .forget) .expireLanes, ?_, ?_⟩, rfl, rfl, rfl, ?_, ?_,
      fun seat => rfl⟩
    · exact Lane.isFailure_of_flatMap _ now
    · simp only [List.nil_append, List.filterMap_flatMap, Lane.filterMap_failureEvents]
      rfl
    · simp only [List.flatMap_nil, List.append_nil]
      rfl
    · intro sequence
      simp only [List.filterMap_nil, List.append_nil]
      exact Directory.find?_foldl_insert Lane.sequence now _ _ sequence
  exact failedLanes.foldl coherent (fun seat member => mem_seats.mp member)
    batcher.nodup_seats

end Sweeps

section Expire

variable {batcher : SequenceBatcher}

/-- Applying the timeouts is made of moves, of which only failures are seen. -/
theorem expire_moves
    (coherent : batcher.Coherent)
    (now : Nat) :
    ∃ events,
      Moves now batcher .expiring events (batcher.expire now).batcher ∧
        (∀ event ∈ events, event.IsFailure) ∧
        events.filterMap Event.failure? = (batcher.expire now).failed :=
  (sweeps_expire coherent now).moved

/-- The bookkeeping never refuses to free a slot. -/
theorem refusals_expire
    (coherent : batcher.Coherent)
    (now : Nat) :
    (batcher.expire now).refusals = [] :=
  (sweeps_expire coherent now).noRefusals

/-- The timeouts take the expired lanes out of the backlog and leave the others. -/
theorem backlog_expire
    (coherent : batcher.Coherent)
    (now : Nat) :
    (batcher.expire now).batcher.backlog =
      batcher.backlog.filter (fun lane => !lane.isExpired now) :=
  (sweeps_expire coherent now).backlog

theorem idleLimit?_expire
    (coherent : batcher.Coherent)
    (now : Nat) :
    (batcher.expire now).batcher.idleLimit? = batcher.idleLimit? :=
  (sweeps_expire coherent now).sameLimit

/-- The timeouts fail what was in expired lanes and pending on expired slots. -/
theorem failed_expire
    (coherent : batcher.Coherent)
    (now : Nat) :
    (batcher.expire now).failed =
      (batcher.backlog.filter (fun lane => lane.isExpired now)).flatMap
          (fun lane => lane.failures now) ++
        batcher.seats.flatMap (fun seat =>
          (batcher.liveSlot? seat).toList.flatMap (fun slot => slot.failures now)) :=
  (sweeps_expire coherent now).isFailed

/-- The timeouts mark the sequences that lapse, and drop the marks that are old. -/
theorem timedOut_expire
    (coherent : batcher.Coherent)
    (now : Nat)
    (sequence : CorrelationId) :
    (batcher.expire now).batcher.timedOut.find? sequence =
      if sequence ∈ batcher.lapsed now then
        some now
      else
        (batcher.forgetTimedOut now).timedOut.find? sequence :=
  (sweeps_expire coherent now).marks sequence

/-- The timeouts make of every slot of a live instance what is due. -/
theorem liveSlot?_expire
    (coherent : batcher.Coherent)
    (now : Nat)
    (seat : Seat) :
    (batcher.expire now).batcher.liveSlot? seat =
      (batcher.liveSlot? seat).map (fun slot => slot.swept batcher.idleLimit? now) := by
  rw [(sweeps_expire coherent now).slots seat]
  split
  · rfl
  · next absent =>
      rw [mem_seats, Option.not_isSome_iff_eq_none] at absent
      simp [absent]

end Expire

end SequenceBatcher

end InferenceBatching
