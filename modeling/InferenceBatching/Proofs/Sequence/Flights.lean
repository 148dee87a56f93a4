import InferenceBatching.Proofs.Sequence.Handover
import InferenceBatching.Proofs.Sequence.Move

namespace InferenceBatching

/-!
# Flights

A flight begins when a request is sent off and ends when it is reported. As long
as its instance runs, the slot at its seat holds it, and no other flight began at
that seat. A sequence has one seat at most, and so one flight at most.
-/

namespace Event

/-- The flight that an event begins. -/
def takenOff? :
    Event →
    Option Flight
  | .dispatched seat entry =>
      entry.request.sequence?.map (fun sequence =>
        { seat := seat, sequence := sequence, request := entry.request.id })
  | _ => none

/-- The flights under way after an event. -/
def noteFlights
    (flights : List Flight)
    (event : Event) :
    List Flight :=
  match event with
  | .returned flight => flights.erase flight
  | _ => flights ++ event.takenOff?.toList

@[simp]
theorem noteFlights_admitted
    (flights : List Flight)
    (entry : QueueEntry) :
    noteFlights flights (.admitted entry) = flights :=
  List.append_nil flights

theorem foldl_noteFlights_of_isFailure
    {events : List Event}
    (failures : ∀ event ∈ events, event.IsFailure)
    (flights : List Flight) :
    events.foldl noteFlights flights = flights := by
  induction events generalizing flights with
  | nil => rfl
  | cons event events inductionHypothesis =>
      obtain ⟨entry, error, isFailed⟩ := failures event List.mem_cons_self
      have unchanged : noteFlights flights event = flights := by
        simp [isFailed, noteFlights, takenOff?]
      rw [List.foldl_cons, unchanged]
      exact inductionHypothesis (fun other member =>
        failures other (List.mem_cons_of_mem event member)) flights

end Event

namespace SequenceBatcher

/-- Flights from running instances are held by the slots at their seats, one by each. -/
structure Flying
    (batcher : SequenceBatcher)
    (flights : List Flight) :
    Prop where
  held :
    ∀ flight ∈ flights,
      (batcher.live? flight.seat.instanceIndex).isSome = true →
        ∃ slot,
          batcher.liveSlot? flight.seat = some slot ∧
            slot.inFlight? = some flight.request ∧
            slot.sequence? = some flight.sequence
  apart :
    flights.Pairwise (fun first second =>
      first.seat = second.seat → batcher.live? first.seat.instanceIndex = none)

/-- The flights of a sequence from running instances. -/
def flightsOf
    (batcher : SequenceBatcher)
    (flights : List Flight)
    (sequence : CorrelationId) :
    List Flight :=
  flights.filter (fun flight =>
    flight.sequence = sequence && (batcher.live? flight.seat.instanceIndex).isSome)

namespace Flying

variable {batcher last : SequenceBatcher}
variable {flights : List Flight}

/-- Flights go on while their slots hold them. -/
theorem change
    (flying : Flying batcher flights)
    {kept : List Flight}
    (fewer : kept.Sublist flights)
    (fewerLive :
      ∀ index, (last.live? index).isSome = true → (batcher.live? index).isSome = true)
    (sameHeld :
      ∀ flight ∈ kept,
        (last.live? flight.seat.instanceIndex).isSome = true →
          ∀ slot,
            batcher.liveSlot? flight.seat = some slot →
            slot.inFlight? = some flight.request →
            ∃ after,
              last.liveSlot? flight.seat = some after ∧
                after.inFlight? = slot.inFlight? ∧
                after.sequence? = slot.sequence?) :
    Flying last kept where
  held := by
    intro flight member live
    obtain ⟨slot, found, inFlight, carries⟩ :=
      flying.held flight (fewer.subset member) (fewerLive _ live)
    obtain ⟨after, isAfter, sameFlight, sameSequence⟩ :=
      sameHeld flight member live slot found inFlight
    exact ⟨after, isAfter, sameFlight.trans inFlight, sameSequence.trans carries⟩
  apart := by
    apply (flying.apart.sublist fewer).imp
    intro first second apart sameSeat
    have wasHalted := apart sameSeat
    cases isLive : last.live? first.seat.instanceIndex with
    | none => rfl
    | some owner =>
        have wasLive := fewerLive first.seat.instanceIndex (by simp [isLive])
        simp [wasHalted] at wasLive

/-- Flights go on when a slot is put that holds what was held before. -/
private theorem putSlot
    (flying : Flying batcher flights)
    {seat : Seat}
    {held slot : Slot}
    (found : batcher.liveSlot? seat = some held)
    (sameLive : ∀ index, (last.live? index).isSome = (batcher.live? index).isSome)
    (isPut : last.liveSlot? = (batcher.putSlot seat slot).liveSlot?)
    (keeps :
      held.inFlight? = none ∨
        slot.inFlight? = held.inFlight? ∧ slot.sequence? = held.sequence?) :
    Flying last flights := by
  apply flying.change (List.Sublist.refl _)
  · intro index live
    rw [← sameLive, live]
  · intro flight _ _ other otherFound inFlight
    rw [isPut, liveSlot?_putSlot slot found]
    split
    · next atSeat =>
        rw [atSeat] at otherFound
        have same : held = other := Option.some.inj (found.symm.trans otherFound)
        subst same
        rcases keeps with grounded | ⟨sameFlight, sameSequence⟩
        · rw [grounded] at inFlight
          contradiction
        · exact ⟨slot, rfl, sameFlight, sameSequence⟩
    · exact ⟨other, otherFound, rfl, rfl⟩

/-- A flight begins at a seat that holds none. -/
private theorem takeOff
    (flying : Flying batcher flights)
    {seat : Seat}
    {held slot : Slot}
    (found : batcher.liveSlot? seat = some held)
    (grounded : held.inFlight? = none)
    {sequence : CorrelationId}
    {request : RequestId}
    (inFlight : slot.inFlight? = some request)
    (carries : slot.sequence? = some sequence) :
    Flying (batcher.putSlot seat slot)
      (flights ++ [{ seat := seat, sequence := sequence, request := request }]) := by
  have sameLive := live?_isSome_putSlot batcher seat slot
  have goesOn : Flying (batcher.putSlot seat slot) flights :=
    flying.putSlot found sameLive rfl (Or.inl grounded)
  refine ⟨?_, ?_⟩
  · intro flight member live
    rcases List.mem_append.mp member with old | new
    · exact goesOn.held flight old live
    · rw [List.mem_singleton.mp new]
      exact ⟨slot, by simp [liveSlot?_putSlot slot found], inFlight, carries⟩
  · rw [List.pairwise_append]
    refine ⟨goesOn.apart, List.pairwise_singleton _ _, ?_⟩
    intro first old second new sameSeat
    rw [List.mem_singleton.mp new] at sameSeat
    have atSeat : first.seat = seat := sameSeat
    cases isLive : (batcher.putSlot seat slot).live? first.seat.instanceIndex with
    | none => rfl
    | some owner =>
        have wasLive : (batcher.live? first.seat.instanceIndex).isSome = true := by
          rw [← sameLive, isLive]
          rfl
        obtain ⟨other, otherFound, otherFlight, _⟩ := flying.held first old wasLive
        rw [atSeat] at otherFound
        have same : held = other := Option.some.inj (found.symm.trans otherFound)
        rw [← same, grounded] at otherFlight
        contradiction

private theorem not_mem_erase
    {related : Flight → Flight → Prop}
    {flight : Flight}
    (apart : flights.Pairwise related)
    (notSelf : ¬ related flight flight) :
    flight ∉ flights.erase flight := by
  induction flights with
  | nil => simp
  | cons first rest inductionHypothesis =>
      rw [List.pairwise_cons] at apart
      by_cases isFirst : first = flight
      · subst isFirst
        rw [List.erase_cons_head]
        intro inRest
        exact notSelf (apart.1 first inRest)
      · rw [List.erase_cons_tail (by simpa using isFirst)]
        intro member
        rcases List.mem_cons.mp member with same | inRest
        · exact isFirst same.symm
        · exact inductionHypothesis apart.2 inRest

/-- A flight ends, and its seat holds none. -/
private theorem land
    (flying : Flying batcher flights)
    {seat : Seat}
    {held slot : Slot}
    (found : batcher.liveSlot? seat = some held)
    (sameLive : ∀ index, (last.live? index).isSome = (batcher.live? index).isSome)
    (isPut : last.liveSlot? = (batcher.putSlot seat slot).liveSlot?)
    {sequence : CorrelationId}
    {request : RequestId}
    (carries : held.sequence? = some sequence)
    (inFlight : held.inFlight? = some request) :
    Flying last
      (flights.erase { seat := seat, sequence := sequence, request := request }) := by
  obtain ⟨owner, live, _⟩ := liveSlot?_eq_some.mp found
  -- A running instance has one flight from each seat, so none is left once this one is erased.
  have ended :
      { seat := seat, sequence := sequence, request := request } ∉
        flights.erase { seat := seat, sequence := sequence, request := request } :=
    not_mem_erase flying.apart (by simp [live])
  apply flying.change List.erase_sublist
  · intro index isLive
    rw [← sameLive, isLive]
  · intro flight member isLive other otherFound _
    rw [isPut, liveSlot?_putSlot slot found]
    split
    · next atSeat =>
        have wasLive : (batcher.live? flight.seat.instanceIndex).isSome = true := by
          rw [← sameLive, isLive]
        obtain ⟨slot', alsoFound, isRequest, isSequence⟩ :=
          flying.held flight (List.mem_of_mem_erase member) wasLive
        rw [atSeat] at alsoFound
        have same : held = slot' := Option.some.inj (found.symm.trans alsoFound)
        subst same
        have isFlight :
            flight = { seat := seat, sequence := sequence, request := request } := by
          have sameRequest := Option.some.inj (inFlight.symm.trans isRequest)
          have sameSequence := Option.some.inj (carries.symm.trans isSequence)
          cases flight
          simp_all
        rw [isFlight] at member
        exact absurd member ended
    · exact ⟨other, otherFound, rfl, rfl⟩

end Flying

/-- Flights go on through moves, apart from those that the events begin and end. -/
theorem Move.flying
    {now : Nat}
    {batcher last : SequenceBatcher}
    {activity : Activity}
    {events : List Event}
    {flights : List Flight}
    (coherent : batcher.Coherent)
    (flying : Flying batcher flights)
    (move : Move now batcher activity events last) :
    Flying last (events.foldl Event.noteFlights flights) := by
  have sameLive := move.live?_isSome
  cases move with
  | follow waits carried =>
      simpa using (⟨flying.held, flying.apart⟩ : Flying (batcher.follow _ _) flights)
  | push waitsNot found active carries carried =>
      simpa using flying.putSlot found sameLive rfl (Or.inr ⟨rfl, rfl⟩)
  | openLane waitsNot closed room starts carried =>
      rw [List.foldl_cons, Event.noteFlights_admitted]
      exact ⟨flying.held, flying.apart⟩
  | start waitsNot unbound found free starts carried =>
      have grounded := (coherent.sound_of_liveSlot found).freeInFlight free
      simpa using flying.putSlot found sameLive rfl (Or.inl grounded)
  | unmark sequence => exact ⟨flying.held, flying.apart⟩
  | forget => exact ⟨flying.held, flying.apart⟩
  | expireLanes =>
      rw [Event.foldl_noteFlights_of_isFailure (Lane.isFailure_of_flatMap _ now)]
      exact ⟨flying.held, flying.apart⟩
  | tearDown found carries expired inFlight =>
      rw [Event.foldl_noteFlights_of_isFailure (Event.isFailure_of_failAll _ _)]
      exact flying.putSlot found sameLive rfl
        (Or.inr ⟨Slot.tearDown_inFlight _, Slot.tearDown_sequence _⟩)
  | evict found carries expired grounded =>
      rw [Event.foldl_noteFlights_of_isFailure (Event.isFailure_of_failAll _ _)]
      exact flying.putSlot found sameLive rfl (Or.inl grounded)
  | reclaim found carries idle =>
      exact flying.putSlot found sameLive rfl (Or.inl (Slot.idle_shape idle).2.1)
  | seatLane isBacklog bound unbound found free =>
      have grounded := (coherent.sound_of_liveSlot found).freeInFlight free
      exact flying.putSlot found sameLive rfl (Or.inl grounded)
  | @dispatch entry seat held after found dispatched =>
      have sound := coherent.sound_of_liveSlot found
      obtain ⟨active, grounded, rest, isPending, isAfter⟩ := Slot.dispatch?_shape dispatched
      obtain ⟨sequence, carries⟩ := sound.usedSequence (by simp [active])
      have carried : entry.request.sequence? = some sequence :=
        (sound.carried entry (by simp [isPending])).trans carries
      have inFlight : after.inFlight? = some entry.request.id := by rw [isAfter]
      have stillCarries : after.sequence? = some sequence := by rw [isAfter, ← carries]
      have tookOff := flying.takeOff found grounded inFlight stillCarries
      simpa [Event.noteFlights, Event.takenOff?, carried] using tookOff
  | land found carries inFlight active =>
      exact flying.land found sameLive rfl carries inFlight
  | release found carries inFlight ending =>
      rw [List.foldl_cons,
        Event.foldl_noteFlights_of_isFailure (Event.isFailure_of_failAll _ _)]
      exact flying.land found sameLive rfl carries inFlight

theorem Moves.flying
    {now : Nat}
    {batcher last : SequenceBatcher}
    {activity : Activity}
    {events : List Event}
    {flights : List Flight}
    (coherent : batcher.Coherent)
    (flying : Flying batcher flights)
    (moves : Moves now batcher activity events last) :
    Flying last (events.foldl Event.noteFlights flights) := by
  induction moves with
  | nil => exact flying
  | snoc moves move inductionHypothesis =>
      rw [List.foldl_append]
      exact move.flying (moves.coherent coherent) inductionHypothesis

namespace Flying

variable {batcher : SequenceBatcher}
variable {flights : List Flight}

theorem sublist
    (flying : Flying batcher flights)
    {kept : List Flight}
    (fewer : kept.Sublist flights) :
    Flying batcher kept where
  held flight member := flying.held flight (fewer.subset member)
  apart := flying.apart.sublist fewer

theorem perm
    (flying : Flying batcher flights)
    {others : List Flight}
    (same : flights.Perm others) :
    Flying batcher others where
  held flight member := flying.held flight (same.mem_iff.mpr member)
  apart := by
    refine (same.pairwise_iff ?_).mp flying.apart
    intro first second apart sameSeat
    rw [sameSeat]
    exact apart sameSeat.symm

/-- Flights from other instances go on when an instance is halted. -/
theorem halt
    (flying : Flying batcher flights)
    (instanceIndex : Nat) :
    Flying (batcher.halt instanceIndex).batcher flights := by
  apply flying.change (List.Sublist.refl _)
  · intro index live
    rw [live?_halt] at live
    split at live
    · contradiction
    · exact live
  · intro flight _ live slot found _
    rw [live?_halt] at live
    rw [liveSlot?_halt]
    split at live
    · contradiction
    · next elsewhere =>
        rw [if_neg elsewhere]
        exact ⟨slot, found, rfl, rfl⟩

theorem drain
    (flying : Flying batcher flights) :
    Flying batcher.drain.batcher flights := by
  apply flying.change (List.Sublist.refl _)
  · intro index live
    rw [live?_isSome_drain] at live
    exact live
  · intro flight _ _ slot found _
    rw [liveSlot?_drain, found]
    exact ⟨slot.tearDown, rfl, Slot.tearDown_inFlight slot, Slot.tearDown_sequence slot⟩

/-- A sequence has at most one flight from running instances. -/
theorem length_flightsOf_le_one
    (coherent : batcher.Coherent)
    (flying : Flying batcher flights)
    (sequence : CorrelationId) :
    (batcher.flightsOf flights sequence).length ≤ 1 := by
  have atSeat :
      ∀ flight ∈ batcher.flightsOf flights sequence,
        batcher.seat? sequence = some flight.seat ∧
          (batcher.live? flight.seat.instanceIndex).isSome = true := by
    intro flight member
    obtain ⟨inFlights, passes⟩ := List.mem_filter.mp member
    simp only [Bool.and_eq_true, decide_eq_true_eq] at passes
    obtain ⟨slot, found, _, carries⟩ := flying.held flight inFlights passes.2
    rw [passes.1] at carries
    exact ⟨coherent.seat_of_liveSlot found carries, passes.2⟩
  have apart : (batcher.flightsOf flights sequence).Pairwise _ :=
    flying.apart.sublist List.filter_sublist
  cases isFlights : batcher.flightsOf flights sequence with
  | nil => simp
  | cons first rest =>
      cases rest with
      | nil => simp
      | cons second rest =>
          rw [isFlights] at apart atSeat
          obtain ⟨firstSeat, live⟩ := atSeat first (by simp)
          obtain ⟨secondSeat, _⟩ := atSeat second (by simp)
          have sameSeat : first.seat = second.seat :=
            Option.some.inj (firstSeat.symm.trans secondSeat)
          have halted := List.rel_of_pairwise_cons apart (by simp) sameSeat
          simp [halted] at live

end Flying

end SequenceBatcher

end InferenceBatching
