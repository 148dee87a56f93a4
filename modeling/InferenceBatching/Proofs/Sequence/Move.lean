import InferenceBatching.Proofs.Sequence.Coherence
import InferenceBatching.Sequence.Admission
import InferenceBatching.Sequence.Expiry
import InferenceBatching.Sequence.Settlement

namespace InferenceBatching

/-!
# Moves of a sequence batcher

Letting requests in, forming batches and settling reports all come down to a few
moves, each of which changes one slot, one lane, or the timeout marks. `Move`
lists them with what holds when they are made and what can be seen of them, and
`Moves` are those of one operation. Whatever every move keeps, every operation
keeps.
-/

/-- A request in flight: the seat from which it was sent off, its sequence, and its id. -/
structure Flight where
  seat : Seat
  sequence : CorrelationId
  request : RequestId
  deriving Repr, DecidableEq

/-- What can be seen of a move: an entry let in, sent off or failed, a request come back. -/
inductive Event where
  | admitted (entry : QueueEntry)
  | dispatched (seat : Seat) (entry : QueueEntry)
  | failed (entry : QueueEntry) (error : RequestError)
  | returned (flight : Flight)
  deriving Repr, DecidableEq

namespace Event

/-- The entry that an event lets in. -/
@[simp]
def admitted? :
    Event →
    Option QueueEntry
  | .admitted entry => some entry
  | _ => none

/-- The entry that an event sends off, with its seat. -/
@[simp]
def dispatched? :
    Event →
    Option (Seat × QueueEntry)
  | .dispatched seat entry => some (seat, entry)
  | _ => none

/-- The entry that an event fails. -/
@[simp]
def failed? :
    Event →
    Option QueueEntry
  | .failed entry _ => some entry
  | _ => none

/-- The failure that an event makes. -/
@[simp]
def failure? :
    Event →
    Option Failure
  | .failed entry error => some { request := entry.request, error := error }
  | _ => none

/-- The flight that an event ends. -/
@[simp]
def returned? :
    Event →
    Option Flight
  | .returned flight => some flight
  | _ => none

/-- An event that fails an entry. -/
def IsFailure
    (event : Event) :
    Prop :=
  ∃ entry error, event = .failed entry error

/-- Failures let nothing in, send nothing off, and bring nothing back. -/
theorem filterMap_of_isFailure
    {events : List Event}
    (failures : ∀ event ∈ events, event.IsFailure) :
    events.filterMap admitted? = [] ∧
      events.filterMap dispatched? = [] ∧
      events.filterMap returned? = [] := by
  refine ⟨?_, ?_, ?_⟩ <;>
  · apply List.filterMap_eq_nil_iff.mpr
    intro event member
    obtain ⟨entry, error, isFailed⟩ := failures event member
    rw [isFailed]
    rfl

/-- Fail several entries for one reason. -/
def failAll
    (entries : List QueueEntry)
    (error : RequestError) :
    List Event :=
  entries.map (fun entry => .failed entry error)

section FailAll

variable (entries : List QueueEntry)
variable (error : RequestError)

theorem isFailure_of_failAll :
    ∀ event ∈ failAll entries error, event.IsFailure := by
  intro event member
  obtain ⟨entry, _, isFailed⟩ := List.mem_map.mp member
  exact ⟨entry, error, isFailed.symm⟩

@[simp]
theorem filterMap_admitted_failAll :
    (failAll entries error).filterMap admitted? = [] := by
  simp [failAll, List.filterMap_map, Function.comp_def, admitted?]

@[simp]
theorem filterMap_dispatched_failAll :
    (failAll entries error).filterMap dispatched? = [] := by
  simp [failAll, List.filterMap_map, Function.comp_def, dispatched?]

@[simp]
theorem filterMap_failed_failAll :
    (failAll entries error).filterMap failed? = entries := by
  simp [failAll, List.filterMap_map, Function.comp_def, failed?]

@[simp]
theorem filterMap_failure_failAll :
    (failAll entries error).filterMap failure? =
      Failure.all (requestsOf entries) error := by
  simp [failAll, List.filterMap_map, Function.comp_def, failure?, Failure.all, requestsOf]

end FailAll

end Event

/-- An idle slot is active and has nothing in flight and nothing pending. -/
theorem Slot.idle_shape
    {slot : Slot}
    {idleLimit? : Option Nat}
    {now : Nat}
    (idle : slot.isIdle idleLimit? now = true) :
    slot.state = .active ∧ slot.inFlight? = none ∧ slot.pending = [] := by
  unfold isIdle at idle
  split at idle
  · contradiction
  · simp only [Bool.and_eq_true, decide_eq_true_eq, isQuiescent, Option.isNone_iff_eq_none,
      List.isEmpty_iff] at idle
    exact ⟨idle.1.1, idle.1.2⟩

/-- The events by which an expired lane fails. -/
def Lane.failureEvents
    (lane : Lane)
    (now : Nat) :
    List Event :=
  .failed lane.first
      (if lane.first.isRejectable now then
        .timeoutExpired
      else
        .sequenceTimeout lane.sequence) ::
    Event.failAll lane.followers (.sequenceTimeout lane.sequence)

theorem Lane.isFailure_of_failureEvents
    (lane : Lane)
    (now : Nat) :
    ∀ event ∈ lane.failureEvents now, event.IsFailure := by
  intro event member
  rcases List.mem_cons.mp member with isFirst | inRest
  · exact ⟨lane.first, _, isFirst⟩
  · exact Event.isFailure_of_failAll _ _ event inRest

theorem Lane.isFailure_of_flatMap
    (lanes : List Lane)
    (now : Nat) :
    ∀ event ∈ lanes.flatMap (fun lane => lane.failureEvents now), event.IsFailure := by
  intro event member
  obtain ⟨lane, _, fromLane⟩ := List.mem_flatMap.mp member
  exact lane.isFailure_of_failureEvents now event fromLane

/-- The failures that these events make are those of the lane. -/
theorem Lane.filterMap_failureEvents
    (lane : Lane)
    (now : Nat) :
    (lane.failureEvents now).filterMap Event.failure? = lane.failures now := by
  simp [failureEvents, failures, Event.failure?]

namespace SequenceBatcher

/-- What a batcher is doing when it makes a move. -/
inductive Activity where
  | admitting
  | expiring
  | filling
  | settling
  deriving Repr, DecidableEq

/-- One move at an instant: when it is made, what is seen of it, and the batcher afterwards. -/
inductive Move (now : Nat) (batcher : SequenceBatcher) :
    Activity → List Event → SequenceBatcher → Prop where
  | follow
      {sequence : CorrelationId}
      {entry : QueueEntry}
      (waits : (batcher.lane? sequence).isSome = true)
      (carried : entry.request.sequence? = some sequence) :
      Move now batcher .admitting [.admitted entry] (batcher.follow sequence entry)
  | push
      {sequence : CorrelationId}
      {entry : QueueEntry}
      {seat : Seat}
      {held : Slot}
      (waitsNot : batcher.lane? sequence = none)
      (found : batcher.liveSlot? seat = some held)
      (active : held.state = .active)
      (carries : held.sequence? = some sequence)
      (carried : entry.request.sequence? = some sequence) :
      Move now batcher .admitting [.admitted entry] (batcher.putSlot seat (held.push entry now))
  | openLane
      {sequence : CorrelationId}
      {entry : QueueEntry}
      (waitsNot : batcher.lane? sequence = none)
      (closed :
        ∀ seat, batcher.seat? sequence = some seat → batcher.isActive seat = false)
      (room : batcher.policy.hasRoom batcher.backlog.length = true)
      (starts : entry.request.starts = true)
      (carried : entry.request.sequence? = some sequence) :
      Move now batcher .admitting [.admitted entry]
        { batcher with
          backlog := batcher.backlog ++ [{ sequence := sequence, first := entry }] }
  | start
      {sequence : CorrelationId}
      {entry : QueueEntry}
      {seat : Seat}
      {held : Slot}
      (waitsNot : batcher.lane? sequence = none)
      (unbound : batcher.seat? sequence = none)
      (found : batcher.liveSlot? seat = some held)
      (free : held.state = .free)
      (starts : entry.request.starts = true)
      (carried : entry.request.sequence? = some sequence) :
      Move now batcher .admitting [.admitted entry]
        (batcher.occupy sequence seat ((held.bind sequence now).push entry now))
  | unmark
      (sequence : CorrelationId) :
      Move now batcher .admitting [] { batcher with timedOut := batcher.timedOut.erase sequence }
  | forget :
      Move now batcher .expiring [] (batcher.forgetTimedOut now)
  | expireLanes :
      Move now batcher .expiring
        ((batcher.backlog.filter (fun lane => lane.isExpired now)).flatMap
          (fun lane => lane.failureEvents now))
        (batcher.expireBacklog now).batcher
  | tearDown
      {sequence : CorrelationId}
      {request : RequestId}
      {seat : Seat}
      {held : Slot}
      (found : batcher.liveSlot? seat = some held)
      (carries : held.sequence? = some sequence)
      (expired : held.isExpired now = true)
      (flying : held.inFlight? = some request) :
      Move now batcher .expiring
        (Event.failAll held.pending (.sequenceTimeout sequence))
        ((batcher.markTimedOut sequence now).putSlot seat held.tearDown)
  | evict
      {sequence : CorrelationId}
      {seat : Seat}
      {held : Slot}
      (found : batcher.liveSlot? seat = some held)
      (carries : held.sequence? = some sequence)
      (expired : held.isExpired now = true)
      (grounded : held.inFlight? = none) :
      Move now batcher .expiring
        (Event.failAll held.pending (.sequenceTimeout sequence))
        ((batcher.markTimedOut sequence now).unoccupy sequence seat (held.tearDown.vacate now))
  | reclaim
      {sequence : CorrelationId}
      {seat : Seat}
      {held : Slot}
      (found : batcher.liveSlot? seat = some held)
      (carries : held.sequence? = some sequence)
      (idle : held.isIdle batcher.idleLimit? now = true) :
      Move now batcher .expiring [] (batcher.unoccupy sequence seat (held.vacate now))
  | seatLane
      {passed later : List Lane}
      {lane : Lane}
      {seat : Seat}
      {held : Slot}
      (isBacklog : batcher.backlog = passed ++ lane :: later)
      (bound : ∀ other ∈ passed, (batcher.seat? other.sequence).isSome = true)
      (unbound : batcher.seat? lane.sequence = none)
      (found : batcher.liveSlot? seat = some held)
      (free : held.state = .free) :
      Move now batcher .filling []
        ({ batcher with backlog := passed ++ later }.occupy lane.sequence seat
          ((held.bind lane.sequence now).pushAll lane.entries now))
  | dispatch
      {entry : QueueEntry}
      {seat : Seat}
      {held after : Slot}
      (found : batcher.liveSlot? seat = some held)
      (dispatched : held.dispatch? now = some (entry, after)) :
      Move now batcher .filling [.dispatched seat entry] (batcher.putSlot seat after)
  | land
      {sequence : CorrelationId}
      {request : RequestId}
      {seat : Seat}
      {held : Slot}
      (found : batcher.liveSlot? seat = some held)
      (carries : held.sequence? = some sequence)
      (flying : held.inFlight? = some request)
      (active : held.state = .active) :
      Move now batcher .settling
        [.returned { seat := seat, sequence := sequence, request := request }]
        (batcher.putSlot seat (held.land now))
  | release
      {sequence : CorrelationId}
      {request : RequestId}
      {seat : Seat}
      {held : Slot}
      (found : batcher.liveSlot? seat = some held)
      (carries : held.sequence? = some sequence)
      (flying : held.inFlight? = some request)
      (ending : held.state = .ending) :
      Move now batcher .settling
        (.returned { seat := seat, sequence := sequence, request := request } ::
          Event.failAll held.pending (batcher.leftoverError sequence now))
        (batcher.unoccupy sequence seat ((held.land now).vacate now))

/-- The moves of one activity, in order. -/
inductive Moves (now : Nat) (batcher : SequenceBatcher) (activity : Activity) :
    List Event → SequenceBatcher → Prop where
  | nil :
      Moves now batcher activity [] batcher
  | snoc
      {middle last : SequenceBatcher}
      {events more : List Event} :
      Moves now batcher activity events middle →
      Move now middle activity more last →
      Moves now batcher activity (events ++ more) last

namespace Moves

theorem single
    {now : Nat}
    {batcher last : SequenceBatcher}
    {activity : Activity}
    {events : List Event}
    (move : Move now batcher activity events last) :
    Moves now batcher activity events last := by
  simpa using snoc nil move

theorem append
    {now : Nat}
    {batcher middle last : SequenceBatcher}
    {activity : Activity}
    {events more : List Event}
    (moves : Moves now batcher activity events middle)
    (further : Moves now middle activity more last) :
    Moves now batcher activity (events ++ more) last := by
  induction further with
  | nil => simpa using moves
  | snoc _ move inductionHypothesis =>
      rw [← List.append_assoc]
      exact snoc inductionHypothesis move

end Moves

/-- Queueing an entry behind a waiting sequence leaves the waiting sequences the same. -/
theorem follow_backlog
    (batcher : SequenceBatcher)
    (sequence : CorrelationId)
    (entry : QueueEntry) :
    (batcher.follow sequence entry).backlog.map Lane.sequence =
      batcher.backlog.map Lane.sequence := by
  simp only [follow, List.map_map]
  apply List.map_congr_left
  intro lane _
  dsimp only [Function.comp_apply]
  split <;> rfl

private theorem follow_sound
    {batcher : SequenceBatcher}
    (coherent : batcher.Coherent)
    {sequence : CorrelationId}
    {entry : QueueEntry}
    (carried : entry.request.sequence? = some sequence) :
    ∀ lane ∈ (batcher.follow sequence entry).backlog, lane.Sound := by
  intro lane member
  simp only [follow, List.mem_map] at member
  obtain ⟨old, inBacklog, isLane⟩ := member
  have sound := coherent.lanes old inBacklog
  subst isLane
  split
  · next same =>
      refine ⟨sound.starts, ?_⟩
      intro queued isQueued
      simp only [Lane.entries, ← List.cons_append, List.mem_append,
        List.mem_singleton] at isQueued
      rcases isQueued with inOld | isNew
      · exact sound.carried queued inOld
      · rw [isNew, same]
        exact carried
  · exact sound

namespace Move

/-- Every move keeps a batcher coherent. -/
theorem coherent
    {now : Nat}
    {batcher last : SequenceBatcher}
    {activity : Activity}
    {events : List Event}
    (before : batcher.Coherent)
    (move : Move now batcher activity events last) :
    last.Coherent := by
  cases move with
  | follow waits carried =>
      exact before.withBacklog (follow_sound before carried)
        (follow_backlog batcher _ _ ▸ before.distinct)
  | push waitsNot found active carries carried =>
      have sound := before.sound_of_liveSlot found
      have used := sound.used_of_sequence carries
      exact before.putSlot found used (sound.push used (carried.trans carries.symm) now)
        used rfl
  | @openLane sequence entry waitsNot closed room starts carried =>
      apply before.withBacklog
      · intro lane member
        rcases List.mem_append.mp member with inOld | isNew
        · exact before.lanes lane inOld
        · rw [List.mem_singleton.mp isNew]
          refine ⟨starts, ?_⟩
          intro queued isQueued
          rw [List.mem_singleton.mp isQueued]
          exact carried
      · have absent := lane?_eq_none.mp waitsNot
        rw [List.map_append, List.nodup_append]
        refine ⟨before.distinct, by simp, ?_⟩
        intro other inOld new isNew same
        rw [List.map_singleton, List.mem_singleton] at isNew
        rw [same, isNew] at inOld
        exact absent inOld
  | @start sequence entry seat held waitsNot unbound found free starts carried =>
      have sound := (before.sound_of_liveSlot found).bind free sequence now
      exact before.occupy found free unbound
        (sound.push (by simp [Slot.bind]) carried now) rfl
  | unmark sequence => exact before.withMarks _
  | forget => exact before.withMarks _
  | expireLanes => exact (before.withFewerLanes List.filter_sublist).withMarks _
  | @tearDown sequence request seat held found carries expired flying =>
      have sound := before.sound_of_liveSlot found
      have used := sound.used_of_sequence carries
      have stillUsed := mt (Slot.tearDown_state _).mp used
      have marked : (batcher.markTimedOut sequence now).Coherent := before.withMarks _
      exact marked.putSlot found used sound.tearDown stillUsed (Slot.tearDown_sequence _)
  | @evict sequence seat held found carries expired grounded =>
      have marked : (batcher.markTimedOut sequence now).Coherent := before.withMarks _
      exact marked.unoccupy found carries
        (Slot.sound_vacate ((Slot.tearDown_inFlight _).trans grounded) now) rfl
  | reclaim found carries idle =>
      exact before.unoccupy found carries
        (Slot.sound_vacate (Slot.idle_shape idle).2.1 now) rfl
  | @seatLane passed later lane seat held isBacklog bound unbound found free =>
      have isLane : lane ∈ batcher.backlog := by simp [isBacklog]
      have fewer : (passed ++ later).Sublist batcher.backlog := by
        rw [isBacklog]
        exact (List.sublist_cons_self lane later).append_left passed
      have sound := (before.sound_of_liveSlot found).bind free lane.sequence now
      have seated :=
        sound.pushAll (by simp [Slot.bind]) (before.lanes lane isLane).carried now
      have sameSequence :=
        ((held.bind lane.sequence now).pushAll_fields lane.entries now).2.1
      exact (before.withFewerLanes fewer).occupy found free unbound seated sameSequence
  | @dispatch entry seat held after found dispatched =>
      have sound := before.sound_of_liveSlot found
      obtain ⟨_, _, rest, _, isAfter⟩ := Slot.dispatch?_shape dispatched
      have used := Slot.used_of_dispatch? dispatched
      exact before.putSlot found used.1 (sound.dispatch dispatched) used.2 (by rw [isAfter])
  | land found carries flying active =>
      have sound := before.sound_of_liveSlot found
      have used := sound.used_of_sequence carries
      exact before.putSlot found used (sound.land now) used rfl
  | release found carries flying ending =>
      exact before.unoccupy found carries (Slot.sound_vacate rfl now) rfl

/-- Moves halt and revive no instance. -/
theorem live?_isSome
    {now : Nat}
    {batcher last : SequenceBatcher}
    {activity : Activity}
    {events : List Event}
    (move : Move now batcher activity events last)
    (instanceIndex : Nat) :
    (last.live? instanceIndex).isSome = (batcher.live? instanceIndex).isSome := by
  cases move with
  | follow | openLane | unmark | forget | expireLanes => rfl
  | push | start | tearDown | evict | reclaim | seatLane | dispatch | land | release =>
      exact live?_isSome_putSlot _ _ _ instanceIndex

/-- Moves neither add slots nor remove any. -/
theorem tableSizes
    {now : Nat}
    {batcher last : SequenceBatcher}
    {activity : Activity}
    {events : List Event}
    (move : Move now batcher activity events last) :
    last.tableSizes = batcher.tableSizes := by
  cases move with
  | follow | openLane | unmark | forget | expireLanes => rfl
  | push | start | tearDown | evict | reclaim | seatLane | dispatch | land | release =>
      exact tableSizes_putSlot _ _ _

/-- Moves bring no slot into sight and take none out of it. -/
theorem liveSlot?_isSome
    {now : Nat}
    {batcher last : SequenceBatcher}
    {activity : Activity}
    {events : List Event}
    (move : Move now batcher activity events last)
    (seat : Seat) :
    (last.liveSlot? seat).isSome = (batcher.liveSlot? seat).isSome := by
  have putSlot :
      ∀ place held slot,
        batcher.liveSlot? place = some held →
          ((batcher.putSlot place slot).liveSlot? seat).isSome =
            (batcher.liveSlot? seat).isSome := by
    intro place held slot found
    rw [liveSlot?_putSlot slot found]
    split
    · next same => simp [same, found]
    · rfl
  cases move with
  | follow | openLane | unmark | forget | expireLanes => rfl
  | push _ found | start _ _ found | tearDown found | evict found | reclaim found =>
      exact putSlot _ _ _ found
  | seatLane _ _ _ found | dispatch found | land found | release found =>
      exact putSlot _ _ _ found

end Move

theorem Moves.coherent
    {now : Nat}
    {batcher last : SequenceBatcher}
    {activity : Activity}
    {events : List Event}
    (moves : Moves now batcher activity events last)
    (before : batcher.Coherent) :
    last.Coherent := by
  induction moves with
  | nil => exact before
  | snoc _ move inductionHypothesis => exact move.coherent inductionHypothesis

theorem Moves.live?_isSome
    {now : Nat}
    {batcher last : SequenceBatcher}
    {activity : Activity}
    {events : List Event}
    (moves : Moves now batcher activity events last)
    (instanceIndex : Nat) :
    (last.live? instanceIndex).isSome = (batcher.live? instanceIndex).isSome := by
  induction moves with
  | nil => rfl
  | snoc _ move inductionHypothesis =>
      rw [move.live?_isSome, inductionHypothesis]

theorem Moves.tableSizes
    {now : Nat}
    {batcher last : SequenceBatcher}
    {activity : Activity}
    {events : List Event}
    (moves : Moves now batcher activity events last) :
    last.tableSizes = batcher.tableSizes := by
  induction moves with
  | nil => rfl
  | snoc _ move inductionHypothesis => exact move.tableSizes.trans inductionHypothesis

theorem Moves.liveSlot?_isSome
    {now : Nat}
    {batcher last : SequenceBatcher}
    {activity : Activity}
    {events : List Event}
    (moves : Moves now batcher activity events last)
    (seat : Seat) :
    (last.liveSlot? seat).isSome = (batcher.liveSlot? seat).isSome := by
  induction moves with
  | nil => rfl
  | snoc _ move inductionHypothesis =>
      rw [move.liveSlot?_isSome, inductionHypothesis]

end SequenceBatcher

end InferenceBatching
