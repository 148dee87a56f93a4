import InferenceBatching.Proofs.Sequence.Handover
import InferenceBatching.Proofs.Sequence.Move

namespace InferenceBatching

/-!
# Order within a sequence

What waits of a sequence is what is pending at its seat and then its lane. Moves
let entries in behind all of it and send entries off from the front of it, and a
sequence takes a seat with its whole lane. So what is sent off, followed by what
still waits, is always in the order in which it was let in.
-/

/-- The entries of a sequence among others, in order. -/
def entriesOf
    (sequence : CorrelationId)
    (entries : List QueueEntry) :
    List QueueEntry :=
  entries.filter (fun entry => entry.request.sequence? = some sequence)

theorem entriesOf_of_carried
    {sequence other : CorrelationId}
    {entries : List QueueEntry}
    (carried : ∀ entry ∈ entries, entry.request.sequence? = some other) :
    entriesOf sequence entries = if sequence = other then entries else [] := by
  split
  · next same =>
      apply List.filter_eq_self.mpr
      intro entry member
      simp [carried entry member, same]
  · next distinct =>
      apply List.filter_eq_nil_iff.mpr
      intro entry member
      simp [carried entry member, Ne.symm distinct]

namespace Event

/-- The entries of a sequence that events let in. -/
def admittedOf
    (sequence : CorrelationId)
    (events : List Event) :
    List QueueEntry :=
  entriesOf sequence (events.filterMap admitted?)

/-- The entries of a sequence that events send off. -/
def dispatchedOf
    (sequence : CorrelationId)
    (events : List Event) :
    List QueueEntry :=
  entriesOf sequence ((events.filterMap dispatched?).map Prod.snd)

end Event

namespace SequenceBatcher

/-- What is pending at the seat of a sequence. -/
def pendingOf
    (batcher : SequenceBatcher)
    (sequence : CorrelationId) :
    List QueueEntry :=
  (((batcher.seat? sequence).bind batcher.liveSlot?).map Slot.pending).getD []

/-- What waits in the lane of a sequence. -/
def lanedOf
    (batcher : SequenceBatcher)
    (sequence : CorrelationId) :
    List QueueEntry :=
  ((batcher.lane? sequence).map Lane.entries).getD []

/-- All that waits of a sequence, in the order in which it is sent off. -/
def waitingOf
    (batcher : SequenceBatcher)
    (sequence : CorrelationId) :
    List QueueEntry :=
  batcher.pendingOf sequence ++ batcher.lanedOf sequence

section PendingOf

variable {batcher : SequenceBatcher}
variable {seat : Seat}
variable {held : Slot}
variable {sequence : CorrelationId}

theorem pendingOf_of_seat
    (bound : batcher.seat? sequence = some seat)
    (found : batcher.liveSlot? seat = some held) :
    batcher.pendingOf sequence = held.pending := by
  simp [pendingOf, bound, found]

theorem pendingOf_of_unbound
    (unbound : batcher.seat? sequence = none) :
    batcher.pendingOf sequence = [] := by
  simp [pendingOf, unbound]

/-- Another slot at a seat changes what is pending of the sequence there only. -/
theorem pendingOf_putSlot
    (coherent : batcher.Coherent)
    (found : batcher.liveSlot? seat = some held)
    (carries : held.sequence? = some sequence)
    (slot : Slot)
    (other : CorrelationId) :
    (batcher.putSlot seat slot).pendingOf other =
      if other = sequence then slot.pending else batcher.pendingOf other := by
  have bound := coherent.seat_of_liveSlot found carries
  split
  · next same =>
      subst same
      have putFound : (batcher.putSlot seat slot).liveSlot? seat = some slot := by
        simp [liveSlot?_putSlot slot found]
      exact pendingOf_of_seat bound putFound
  · next distinct =>
      unfold pendingOf
      rw [seat?_putSlot]
      cases isPlace : batcher.seat? other with
      | none => rfl
      | some place =>
          have elsewhere : place ≠ seat := by
            intro same
            obtain ⟨slot', alsoFound, _, alsoCarries⟩ :=
              coherent.liveSlot_of_seat (same ▸ isPlace)
            have sameSlot : held = slot' := Option.some.inj (found.symm.trans alsoFound)
            subst sameSlot
            exact distinct (Option.some.inj (alsoCarries.symm.trans carries))
          simp [liveSlot?_putSlot slot found, elsewhere]

/-- Taking a free seat gives a sequence what is pending there. -/
theorem pendingOf_occupy
    (coherent : batcher.Coherent)
    (found : batcher.liveSlot? seat = some held)
    (free : held.state = .free)
    (sequence : CorrelationId)
    (slot : Slot)
    (other : CorrelationId) :
    (batcher.occupy sequence seat slot).pendingOf other =
      if other = sequence then slot.pending else batcher.pendingOf other := by
  unfold pendingOf
  rw [seat?_occupy]
  split
  · simp [liveSlot?_putSlot slot found]
  · cases isPlace : batcher.seat? other with
    | none => rfl
    | some place =>
        have elsewhere : place ≠ seat := by
          intro same
          exact coherent.not_bound_of_free found free other (same ▸ isPlace)
        simp [liveSlot?_putSlot slot found, elsewhere]

/-- Giving up a seat gives up what is pending there. -/
theorem pendingOf_unoccupy
    (coherent : batcher.Coherent)
    (found : batcher.liveSlot? seat = some held)
    (carries : held.sequence? = some sequence)
    (slot : Slot)
    (other : CorrelationId) :
    (batcher.unoccupy sequence seat slot).pendingOf other =
      if other = sequence then [] else batcher.pendingOf other := by
  have put := pendingOf_putSlot coherent found carries slot other
  simp only [pendingOf] at put ⊢
  rw [seat?_unoccupy]
  split
  · rfl
  · next distinct =>
      rw [if_neg distinct] at put
      exact put

end PendingOf

section LanedOf

variable {batcher : SequenceBatcher}
variable {sequence : CorrelationId}

theorem lanedOf_of_lane
    {lane : Lane}
    (waits : batcher.lane? sequence = some lane) :
    batcher.lanedOf sequence = lane.entries := by
  simp [lanedOf, waits]

theorem lanedOf_of_absent
    (waitsNot : batcher.lane? sequence = none) :
    batcher.lanedOf sequence = [] := by
  simp [lanedOf, waitsNot]

@[simp]
theorem lanedOf_putSlot
    (seat : Seat)
    (slot : Slot) :
    (batcher.putSlot seat slot).lanedOf = batcher.lanedOf :=
  rfl

@[simp]
theorem lanedOf_occupy
    (seat : Seat)
    (slot : Slot) :
    (batcher.occupy sequence seat slot).lanedOf = batcher.lanedOf :=
  rfl

/-- An entry queued behind a waiting sequence comes last in its lane. -/
theorem lanedOf_follow
    (waits : (batcher.lane? sequence).isSome = true)
    (entry : QueueEntry)
    (other : CorrelationId) :
    (batcher.follow sequence entry).lanedOf other =
      batcher.lanedOf other ++ if other = sequence then [entry] else [] := by
  obtain ⟨lane, isLane⟩ := Option.isSome_iff_exists.mp waits
  have sameKey :
      ∀ held : Lane,
        (if held.sequence = sequence then
          { held with followers := held.followers ++ [entry] }
        else
          held).sequence = held.sequence := by
    intro held
    split <;> rfl
  unfold lanedOf
  rw [lane?, follow, List.find?_map]
  simp only [Function.comp_def, sameKey]
  change ((Option.map _ (batcher.lane? other)).map Lane.entries).getD [] = _
  cases waitsOther : batcher.lane? other with
  | none =>
      have distinct : other ≠ sequence := by
        intro same
        rw [same, isLane] at waitsOther
        contradiction
      simp [distinct]
  | some held =>
      have isOther := (lane?_eq_some waitsOther).2
      by_cases same : other = sequence
      · simp [isOther, same, Lane.entries]
      · simp [isOther, same]

/-- A new lane is found for its sequence, and the lanes before it as they were. -/
theorem lanedOf_append
    (waitsNot : batcher.lane? sequence = none)
    {lane : Lane}
    (isLane : lane.sequence = sequence)
    (other : CorrelationId) :
    ({ batcher with backlog := batcher.backlog ++ [lane] } : SequenceBatcher).lanedOf other =
      if other = sequence then lane.entries else batcher.lanedOf other := by
  unfold lanedOf lane? at *
  rw [List.find?_append]
  by_cases same : other = sequence
  · simp [same, waitsNot, isLane]
  · have distinct : ¬ sequence = other := Ne.symm same
    simp [same, isLane, distinct]

/-- Lanes that leave the backlog leave those of other sequences as they are. -/
theorem lanedOf_of_sublist
    (coherent : batcher.Coherent)
    {backlog : List Lane}
    (fewer : backlog.Sublist batcher.backlog)
    (sequence : CorrelationId) :
    let rest : SequenceBatcher := { batcher with backlog := backlog }
    rest.lanedOf sequence =
      if (rest.lane? sequence).isSome then batcher.lanedOf sequence else [] := by
  intro rest
  cases waits : rest.lane? sequence with
  | none => simp [lanedOf, waits]
  | some lane =>
      obtain ⟨member, isSequence⟩ := lane?_eq_some waits
      have alsoWaits := coherent.lane?_of_mem (fewer.subset member)
      rw [isSequence] at alsoWaits
      simp [lanedOf, waits, alsoWaits]

theorem lanedOf_sublist
    (coherent : batcher.Coherent)
    {backlog : List Lane}
    (fewer : backlog.Sublist batcher.backlog)
    (sequence : CorrelationId) :
    (({ batcher with backlog := backlog } : SequenceBatcher).lanedOf sequence).Sublist
      (batcher.lanedOf sequence) := by
  rw [lanedOf_of_sublist coherent fewer]
  split
  · exact List.Sublist.refl _
  · exact List.nil_sublist _

/-- A lane that leaves the backlog takes along what waits of its sequence, and nothing else. -/
theorem lanedOf_seatLane
    (coherent : batcher.Coherent)
    {passed later : List Lane}
    {lane : Lane}
    (isBacklog : batcher.backlog = passed ++ lane :: later)
    (other : CorrelationId) :
    batcher.lanedOf other =
        (if other = lane.sequence then lane.entries else []) ++
          ({ batcher with backlog := passed ++ later } : SequenceBatcher).lanedOf other := by
  have distinct := coherent.distinct
  by_cases same : other = lane.sequence
  · have member : lane ∈ batcher.backlog := by simp [isBacklog]
    have absent :
        ({ batcher with backlog := passed ++ later } : SequenceBatcher).lane? other = none := by
      rw [isBacklog] at distinct
      simp only [List.map_append, List.map_cons] at distinct
      rw [lane?_eq_none, same, List.map_append]
      exact (List.nodup_cons.mp (List.perm_middle.nodup_iff.mp distinct)).1
    rw [lanedOf_of_absent absent, same, lanedOf_of_lane (coherent.lane?_of_mem member)]
    simp
  · have distinctLane : ¬ lane.sequence = other := Ne.symm same
    unfold lanedOf lane?
    rw [isBacklog, List.find?_append, List.find?_append,
      List.find?_cons_of_neg (by simpa using distinctLane)]
    simp [same]

end LanedOf

/-- A change of one sequence, from what the change does to that sequence. -/
private theorem ordered_of_sequence
    {before after : SequenceBatcher}
    {events : List Event}
    (sequence : CorrelationId)
    (letIn :
      ∀ entry ∈ events.filterMap Event.admitted?, entry.request.sequence? = some sequence)
    (sentOff :
      ∀ entry ∈ (events.filterMap Event.dispatched?).map Prod.snd,
        entry.request.sequence? = some sequence)
    (elsewhere :
      ∀ other, other ≠ sequence → after.waitingOf other = before.waitingOf other)
    (here :
      ((events.filterMap Event.dispatched?).map Prod.snd ++ after.waitingOf sequence).Sublist
        (before.waitingOf sequence ++ events.filterMap Event.admitted?))
    (other : CorrelationId) :
    (Event.dispatchedOf other events ++ after.waitingOf other).Sublist
      (before.waitingOf other ++ Event.admittedOf other events) := by
  unfold Event.dispatchedOf Event.admittedOf
  rw [entriesOf_of_carried letIn, entriesOf_of_carried sentOff]
  by_cases same : other = sequence
  · simpa [same] using here
  · simp [same, elsewhere other same]

/-- A change by which nothing is let in or sent off. -/
private theorem ordered_of_silent
    {before after : SequenceBatcher}
    {events : List Event}
    (noAdmission : events.filterMap Event.admitted? = [])
    (noDispatch : events.filterMap Event.dispatched? = [])
    (other : CorrelationId)
    (fewer : (after.waitingOf other).Sublist (before.waitingOf other)) :
    (Event.dispatchedOf other events ++ after.waitingOf other).Sublist
      (before.waitingOf other ++ Event.admittedOf other events) := by
  simpa [Event.dispatchedOf, Event.admittedOf, noAdmission, noDispatch, entriesOf] using fewer

/-- A change by which the seat of a sequence loses what is pending there. -/
private theorem ordered_of_loss
    {before after : SequenceBatcher}
    {events : List Event}
    {sequence : CorrelationId}
    (noAdmission : events.filterMap Event.admitted? = [])
    (noDispatch : events.filterMap Event.dispatched? = [])
    (other : CorrelationId)
    (sameLanes : after.lanedOf = before.lanedOf)
    (lost :
      after.pendingOf other = if other = sequence then [] else before.pendingOf other) :
    (Event.dispatchedOf other events ++ after.waitingOf other).Sublist
      (before.waitingOf other ++ Event.admittedOf other events) := by
  apply ordered_of_silent noAdmission noDispatch
  rw [waitingOf, sameLanes, lost]
  split
  · exact (List.nil_sublist _).append (List.Sublist.refl _)
  · exact List.Sublist.refl _

/-- Moves let entries in last, and send off what has waited longest. -/
theorem Move.ordered
    {now : Nat}
    {batcher last : SequenceBatcher}
    {activity : Activity}
    {events : List Event}
    (coherent : batcher.Coherent)
    (move : Move now batcher activity events last)
    (other : CorrelationId) :
    (Event.dispatchedOf other events ++ last.waitingOf other).Sublist
      (batcher.waitingOf other ++ Event.admittedOf other events) := by
  cases move with
  | @follow sequence entry waits carried =>
      have followed := lanedOf_follow waits entry
      have samePending :
          ∀ c, (batcher.follow sequence entry).pendingOf c = batcher.pendingOf c :=
        fun _ => rfl
      apply ordered_of_sequence sequence
      · simpa using carried
      · simp
      · intro c distinct
        simp [waitingOf, samePending, followed, distinct]
      · simp [waitingOf, samePending, followed]
  | @push sequence entry seat held waitsNot found active carries carried =>
      have bound := coherent.seat_of_liveSlot found carries
      have pushed := pendingOf_putSlot coherent found carries (held.push entry now)
      apply ordered_of_sequence sequence
      · simpa using carried
      · simp
      · intro c distinct
        simp [waitingOf, pushed, distinct]
      · simp [waitingOf, pushed, lanedOf_of_absent waitsNot, pendingOf_of_seat bound found]
  | @openLane sequence entry waitsNot closed room starts carried =>
      have opened := lanedOf_append waitsNot
        (rfl : ({ sequence := sequence, first := entry } : Lane).sequence = sequence)
      have samePending :
          ∀ c,
            ({ batcher with
              backlog := batcher.backlog ++ [{ sequence := sequence, first := entry }] } :
                SequenceBatcher).pendingOf c = batcher.pendingOf c :=
        fun _ => rfl
      apply ordered_of_sequence sequence
      · simpa using carried
      · simp
      · intro c distinct
        simp [waitingOf, samePending, opened, distinct]
      · simp [waitingOf, samePending, opened, lanedOf_of_absent waitsNot, Lane.entries]
  | @start sequence entry seat held waitsNot unbound found free starts carried =>
      have nothing := (coherent.sound_of_liveSlot found).freePending free
      have started := pendingOf_occupy coherent found free sequence
        ((held.bind sequence now).push entry now)
      apply ordered_of_sequence sequence
      · simpa using carried
      · simp
      · intro c distinct
        simp [waitingOf, started, distinct]
      · simp [waitingOf, started, lanedOf_of_absent waitsNot, pendingOf_of_unbound unbound,
          nothing]
  | unmark sequence => exact ordered_of_silent rfl rfl other (List.Sublist.refl _)
  | forget => exact ordered_of_silent rfl rfl other (List.Sublist.refl _)
  | expireLanes =>
      obtain ⟨noAdmission, noDispatch, _⟩ :=
        Event.filterMap_of_isFailure
          (Lane.isFailure_of_flatMap (batcher.backlog.filter (fun lane => lane.isExpired now)) now)
      apply ordered_of_silent noAdmission noDispatch
      exact (List.Sublist.refl _).append (lanedOf_sublist coherent List.filter_sublist other)
  | @tearDown sequence request seat held found carries expired flying =>
      have used := (coherent.sound_of_liveSlot found).used_of_sequence carries
      have marked : (batcher.markTimedOut sequence now).Coherent := coherent.withMarks _
      have tornDown := pendingOf_putSlot marked found carries held.tearDown other
      rw [(Slot.tearDown_of_used used).2] at tornDown ⊢
      exact ordered_of_loss (by simp) (by simp) other rfl tornDown
  | @evict sequence seat held found carries expired grounded =>
      have marked : (batcher.markTimedOut sequence now).Coherent := coherent.withMarks _
      have evicted := pendingOf_unoccupy marked found carries (held.tearDown.vacate now) other
      exact ordered_of_loss (by simp) (by simp) other rfl evicted
  | @reclaim sequence seat held found carries idle =>
      have reclaimed := pendingOf_unoccupy coherent found carries (held.vacate now) other
      exact ordered_of_loss rfl rfl other rfl reclaimed
  | @seatLane passed later lane seat held isBacklog bound unbound found free =>
      have nothing := (coherent.sound_of_liveSlot found).freePending free
      have left := lanedOf_seatLane coherent isBacklog
      have fewer : (passed ++ later).Sublist batcher.backlog := by
        rw [isBacklog]
        exact (List.sublist_cons_self lane later).append_left passed
      have started := pendingOf_occupy (coherent.withFewerLanes fewer) found free lane.sequence
        ((held.bind lane.sequence now).pushAll lane.entries now)
      apply ordered_of_sequence lane.sequence
      · simp
      · simp
      · intro c distinct
        simp [waitingOf, started, left, distinct]
        rfl
      · simp [waitingOf, started, left, nothing, Slot.pushAll_fields, pendingOf_of_unbound unbound]
  | @dispatch entry seat held after found dispatched =>
      have sound := coherent.sound_of_liveSlot found
      obtain ⟨active, _, rest, isPending, isAfter⟩ := Slot.dispatch?_shape dispatched
      obtain ⟨sequence, carries⟩ := sound.usedSequence (by simp [active])
      have bound := coherent.seat_of_liveSlot found carries
      have carried : entry.request.sequence? = some sequence :=
        (sound.carried entry (by simp [isPending])).trans carries
      have sentOff := pendingOf_putSlot coherent found carries after
      have isRest : after.pending = rest := by rw [isAfter]
      apply ordered_of_sequence sequence
      · simp
      · simpa using carried
      · intro c distinct
        simp [waitingOf, sentOff, distinct]
      · simp [waitingOf, sentOff, pendingOf_of_seat bound found, isPending, isRest]
  | @land sequence request seat held found carries flying active =>
      have landed := pendingOf_putSlot coherent found carries (held.land now)
      have bound := coherent.seat_of_liveSlot found carries
      apply ordered_of_silent (by simp) (by simp)
      by_cases same : other = sequence
      · simp [waitingOf, landed, same, pendingOf_of_seat bound found]
      · simp [waitingOf, landed, same]
  | @release sequence request seat held found carries flying ending =>
      have released := pendingOf_unoccupy coherent found carries
        ((held.land now).vacate now) other
      have noAdmission := Event.filterMap_admitted_failAll held.pending
        (batcher.leftoverError sequence now)
      have noDispatch := Event.filterMap_dispatched_failAll held.pending
        (batcher.leftoverError sequence now)
      exact ordered_of_loss noAdmission noDispatch other rfl released

theorem Moves.ordered
    {now : Nat}
    {batcher last : SequenceBatcher}
    {activity : Activity}
    {events : List Event}
    (coherent : batcher.Coherent)
    (moves : Moves now batcher activity events last)
    (other : CorrelationId) :
    (Event.dispatchedOf other events ++ last.waitingOf other).Sublist
      (batcher.waitingOf other ++ Event.admittedOf other events) := by
  induction moves with
  | nil => simp [Event.dispatchedOf, Event.admittedOf, entriesOf]
  | @snoc middle last events more moves move inductionHypothesis =>
      have step := move.ordered (moves.coherent coherent) other
      have front := step.append_left (Event.dispatchedOf other events)
      have back := inductionHypothesis.append_right (Event.admittedOf other more)
      simp only [Event.dispatchedOf, Event.admittedOf, List.filterMap_append, List.map_append,
        entriesOf, List.filter_append, List.append_assoc] at front back ⊢
      exact front.trans back

/-- Halting an instance takes away what is pending there. -/
theorem waitingOf_halt_sublist
    (batcher : SequenceBatcher)
    (instanceIndex : Nat)
    (sequence : CorrelationId) :
    ((batcher.halt instanceIndex).batcher.waitingOf sequence).Sublist
      (batcher.waitingOf sequence) := by
  have sameLanes :
      (batcher.halt instanceIndex).batcher.lanedOf sequence = batcher.lanedOf sequence := by
    rw [lanedOf, lane?, backlog_halt]
    rfl
  rw [waitingOf, sameLanes]
  apply List.Sublist.append _ (List.Sublist.refl _)
  unfold pendingOf
  rw [seat?_halt]
  cases isSeat : batcher.seat? sequence with
  | none => exact List.Sublist.refl _
  | some seat =>
      by_cases within : seat.instanceIndex = instanceIndex
      · simp [Option.filter, within]
      · simp [Option.filter, within, liveSlot?_halt]

/-- Draining takes away everything that waits. -/
theorem waitingOf_drain_sublist
    (batcher : SequenceBatcher)
    (sequence : CorrelationId) :
    (batcher.drain.batcher.waitingOf sequence).Sublist (batcher.waitingOf sequence) := by
  have samePlace : batcher.drain.batcher.seat? = batcher.seat? := rfl
  have noLane : batcher.drain.batcher.lanedOf sequence = [] := rfl
  rw [waitingOf, noLane]
  apply List.Sublist.append _ (List.nil_sublist _)
  unfold pendingOf
  rw [samePlace]
  cases batcher.seat? sequence with
  | none => exact List.Sublist.refl _
  | some seat =>
      rw [Option.bind_some, Option.bind_some, liveSlot?_drain]
      cases batcher.liveSlot? seat with
      | none => exact List.Sublist.refl _
      | some slot => exact slot.pending_tearDown_sublist

end SequenceBatcher

end InferenceBatching
