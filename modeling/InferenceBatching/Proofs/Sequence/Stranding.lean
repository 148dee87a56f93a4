import InferenceBatching.Proofs.Sequence.Conservation

namespace InferenceBatching

/-!
# Behind the end of a sequence

A request that is let in while the last request of its sequence still waits goes
behind it, and so does a START, which would open a new sequence a moment later.
What is behind an end is stranded: no move sends it off. Moves strand what they let
in behind an end and nothing else, and what is stranded stays so until it fails.
-/

/-- The entries behind the first that ends its sequence. -/
def behindEnd :
    List QueueEntry →
    List QueueEntry
  | [] => []
  | entry :: rest => if entry.request.ends then rest else behindEnd rest

theorem behindEnd_subset
    (entries : List QueueEntry) :
    behindEnd entries ⊆ entries := by
  induction entries with
  | nil => exact List.Subset.refl _
  | cons entry rest inductionHypothesis =>
      rw [behindEnd]
      split
      · exact List.subset_cons_self entry rest
      · exact fun other member => List.mem_cons_of_mem entry (inductionHypothesis member)

/-- A new entry is behind an end if there is one. -/
theorem behindEnd_append_singleton
    (entries : List QueueEntry)
    (new : QueueEntry) :
    behindEnd (entries ++ [new]) =
      behindEnd entries ++
        if entries.any (fun entry => entry.request.ends) then [new] else [] := by
  induction entries with
  | nil => simp [behindEnd]
  | cons entry rest inductionHypothesis =>
      rw [List.cons_append, behindEnd, behindEnd, List.any_cons]
      cases entry.request.ends with
      | true => simp
      | false => simpa using inductionHypothesis

/-- Whoever is in a lane that has expired fails. -/
theorem Lane.failed_of_mem
    (lane : Lane)
    (now : Nat)
    {entry : QueueEntry}
    (member : entry ∈ lane.entries) :
    ∃ error, .failed entry error ∈ lane.failureEvents now := by
  rcases List.mem_cons.mp member with isFirst | follows
  · rw [isFirst]
    exact ⟨_, List.mem_cons_self⟩
  · exact ⟨_, List.mem_cons_of_mem _ (List.mem_map_of_mem follows)⟩

/-- What is stranded on a slot: all that is pending once the end has been sent off. -/
def Slot.stranded
    (slot : Slot) :
    List QueueEntry :=
  if slot.state = .ending then
    slot.pending
  else
    behindEnd slot.pending

section Slots

variable {slot : Slot}

theorem Slot.stranded_subset :
    slot.stranded ⊆ slot.pending := by
  rw [stranded]
  split
  · exact List.Subset.refl _
  · exact behindEnd_subset slot.pending

theorem Slot.stranded_of_empty
    (nothing : slot.pending = []) :
    slot.stranded = [] := by
  simp [stranded, nothing, behindEnd]

/-- Sending a request off strands nothing new: what was behind it as an end still is. -/
theorem Slot.stranded_dispatch
    {after : Slot}
    {now : Nat}
    {entry : QueueEntry}
    (dispatched : slot.dispatch? now = some (entry, after)) :
    after.stranded = slot.stranded := by
  obtain ⟨active, _, rest, isPending, isAfter⟩ := dispatch?_shape dispatched
  rw [isAfter, stranded, stranded, active, isPending, behindEnd]
  cases entry.request.ends <;> simp

/-- A slot that is given to a lane strands what was stranded in the lane. -/
theorem Slot.stranded_seated
    (nothing : slot.pending = [])
    (sequence : CorrelationId)
    (entries : List QueueEntry)
    (now : Nat) :
    ((slot.bind sequence now).pushAll entries now).stranded = behindEnd entries := by
  have fields := (slot.bind sequence now).pushAll_fields entries now
  rw [stranded, fields.1, fields.2.2.2, pending_bind, nothing]
  rfl

end Slots

namespace SequenceBatcher

/-- An entry waits behind the end of its sequence, in its lane or at its slot. -/
def IsStranded
    (batcher : SequenceBatcher)
    (entry : QueueEntry) :
    Prop :=
  (∃ lane ∈ batcher.backlog, entry ∈ behindEnd lane.entries) ∨
    ∃ seat slot, batcher.liveSlot? seat = some slot ∧ entry ∈ slot.stranded

/-- The end of a sequence has been let in and not yet sent off: it is in its lane or at its slot. -/
def EndWaits
    (batcher : SequenceBatcher)
    (sequence : CorrelationId) :
    Prop :=
  (∃ lane, batcher.lane? sequence = some lane ∧
      ∃ ender ∈ lane.entries, ender.request.ends = true) ∨
    batcher.lane? sequence = none ∧
      ∃ seat slot,
        batcher.seat? sequence = some seat ∧
          batcher.liveSlot? seat = some slot ∧
          slot.state = .active ∧
          ∃ ender ∈ slot.pending, ender.request.ends = true

section Moves

variable {now : Nat}
variable {batcher last : SequenceBatcher}
variable {activity : Activity}
variable {events : List Event}
variable {entry : QueueEntry}

/-- What is stranded after another slot was put is what that slot strands, or was so before. -/
private theorem IsStranded.before_put
    (stranded : last.IsStranded entry)
    (lanes : last.backlog ⊆ batcher.backlog)
    {seat : Seat}
    {slot : Slot}
    (slots :
      ∀ place,
        last.liveSlot? place = if place = seat then some slot else batcher.liveSlot? place) :
    batcher.IsStranded entry ∨ entry ∈ slot.stranded := by
  rcases stranded with ⟨lane, inBacklog, behind⟩ | ⟨place, other, isOther, behind⟩
  · exact Or.inl (Or.inl ⟨lane, lanes inBacklog, behind⟩)
  · rw [slots place] at isOther
    split at isOther
    · rw [← Option.some.inj isOther] at behind
      exact Or.inr behind
    · exact Or.inl (Or.inr ⟨place, other, isOther, behind⟩)

/-- What is stranded when another slot is put still is, if that slot keeps what the old one had. -/
private theorem IsStranded.after_put
    {Fails : Prop}
    (stranded : batcher.IsStranded entry)
    (lanes : batcher.backlog ⊆ last.backlog)
    {seat : Seat}
    {held slot : Slot}
    (found : batcher.liveSlot? seat = some held)
    (slots :
      ∀ place,
        last.liveSlot? place = if place = seat then some slot else batcher.liveSlot? place)
    (here : entry ∈ held.stranded → entry ∈ slot.stranded ∨ Fails) :
    last.IsStranded entry ∨ Fails := by
  rcases stranded with ⟨lane, inBacklog, behind⟩ | ⟨place, other, isOther, behind⟩
  · exact Or.inl (Or.inl ⟨lane, lanes inBacklog, behind⟩)
  · by_cases atSeat : place = seat
    · rw [atSeat, found] at isOther
      rw [← Option.some.inj isOther] at behind
      exact (here behind).imp (fun still => Or.inr ⟨seat, slot, by simp [slots], still⟩) id
    · exact Or.inl (Or.inr ⟨place, other, by rw [slots, if_neg atSeat, isOther], behind⟩)

/-- An entry is stranded only by being let in while the end of its sequence waits. -/
theorem Move.stranded_before
    (coherent : batcher.Coherent)
    (move : Move now batcher activity events last)
    (stranded : last.IsStranded entry) :
    batcher.IsStranded entry ∨
      entry ∈ events.filterMap Event.admitted? ∧
        ∃ sequence,
          entry.request.sequence? = some sequence ∧ batcher.EndWaits sequence := by
  have same : batcher.backlog ⊆ batcher.backlog := List.Subset.refl _
  cases move with
  | unmark | forget => exact Or.inl stranded
  | @follow sequence new waits carried =>
      rcases stranded with ⟨lane, inBacklog, behind⟩ | onSlot
      · obtain ⟨old, wasThere, isLane⟩ := List.mem_map.mp inBacklog
        split at isLane
        · next isSequence =>
            have isEntries : lane.entries = old.entries ++ [new] := by
              rw [← isLane]
              rfl
            rw [isEntries, behindEnd_append_singleton, List.mem_append] at behind
            rcases behind with already | isNew
            · exact Or.inl (Or.inl ⟨old, wasThere, already⟩)
            · split at isNew
              · next ends =>
                  obtain ⟨ender, inLane, isEnd⟩ := List.any_eq_true.mp ends
                  rw [List.mem_singleton.mp isNew]
                  refine Or.inr ⟨by simp, sequence, carried, Or.inl ⟨old, ?_, ender, inLane, isEnd⟩⟩
                  rw [← isSequence]
                  exact coherent.lane?_of_mem wasThere
              · contradiction
        · rw [← isLane] at behind
          exact Or.inl (Or.inl ⟨old, wasThere, behind⟩)
      · exact Or.inl (Or.inr onSlot)
  | @push sequence new seat held waitsNot found active carries carried =>
      rcases stranded.before_put same (liveSlot?_putSlot _ found) with before | onSlot
      · exact Or.inl before
      · have used : (held.push new now).state ≠ .ending := by simp [Slot.push, active]
        rw [Slot.stranded, if_neg used, Slot.pending_push, behindEnd_append_singleton,
          List.mem_append] at onSlot
        rcases onSlot with already | isNew
        · refine Or.inl (Or.inr ⟨seat, held, found, ?_⟩)
          simpa [Slot.stranded, active] using already
        · split at isNew
          · next ends =>
              obtain ⟨ender, isPending, isEnd⟩ := List.any_eq_true.mp ends
              rw [List.mem_singleton.mp isNew]
              exact Or.inr ⟨by simp, sequence, carried, Or.inr ⟨waitsNot, seat, held,
                coherent.seat_of_liveSlot found carries, found, active, ender, isPending, isEnd⟩⟩
          · contradiction
  | openLane waitsNot closed room starts carried =>
      rcases stranded with ⟨lane, inBacklog, behind⟩ | onSlot
      · rcases List.mem_append.mp inBacklog with already | isNew
        · exact Or.inl (Or.inl ⟨lane, already, behind⟩)
        · rw [List.mem_singleton.mp isNew] at behind
          simp [Lane.entries, behindEnd] at behind
      · exact Or.inl (Or.inr onSlot)
  | @start sequence new seat held waitsNot unbound found free starts carried =>
      refine (stranded.before_put same (liveSlot?_putSlot _ found)).imp id (fun onSlot => ?_)
      have nothing := (coherent.sound_of_liveSlot found).freePending free
      simp [Slot.stranded, Slot.push, Slot.bind, nothing, behindEnd] at onSlot
  | expireLanes =>
      rcases stranded with ⟨lane, inBacklog, behind⟩ | onSlot
      · exact Or.inl (Or.inl ⟨lane, (List.mem_filter.mp inBacklog).1, behind⟩)
      · exact Or.inl (Or.inr onSlot)
  | @tearDown sequence request seat held found carries expired flying =>
      refine (stranded.before_put same (liveSlot?_putSlot _ found)).imp id (fun onSlot => ?_)
      rw [Slot.stranded_of_empty (coherent.sound_of_liveSlot found).pending_tearDown] at onSlot
      contradiction
  | evict found | reclaim found | release found =>
      refine (stranded.before_put same (liveSlot?_putSlot _ found)).imp id (fun onSlot => ?_)
      rw [Slot.stranded_of_empty rfl] at onSlot
      contradiction
  | @seatLane passed later lane seat held isBacklog bound unbound found free =>
      have fewer : passed ++ later ⊆ batcher.backlog := by
        rw [isBacklog]
        exact ((List.sublist_cons_self lane later).append_left passed).subset
      rcases stranded.before_put fewer (liveSlot?_putSlot _ found) with before | onSlot
      · exact Or.inl before
      · rw [Slot.stranded_seated ((coherent.sound_of_liveSlot found).freePending free)] at onSlot
        exact Or.inl (Or.inl ⟨lane, by simp [isBacklog], onSlot⟩)
  | @dispatch sent seat held after found dispatched =>
      rcases stranded.before_put same (liveSlot?_putSlot _ found) with before | onSlot
      · exact Or.inl before
      · rw [Slot.stranded_dispatch dispatched] at onSlot
        exact Or.inl (Or.inr ⟨seat, held, found, onSlot⟩)
  | @land sequence request seat held found carries flying active =>
      rcases stranded.before_put same (liveSlot?_putSlot _ found) with before | onSlot
      · exact Or.inl before
      · exact Or.inl (Or.inr ⟨seat, held, found, onSlot⟩)

/-- A stranded entry stays so until it fails. -/
theorem Move.stranded_after
    (coherent : batcher.Coherent)
    (move : Move now batcher activity events last)
    (stranded : batcher.IsStranded entry) :
    last.IsStranded entry ∨ ∃ error, .failed entry error ∈ events := by
  have same : batcher.backlog ⊆ batcher.backlog := List.Subset.refl _
  cases move with
  | unmark | forget => exact Or.inl stranded
  | @follow sequence new waits carried =>
      rcases stranded with ⟨lane, inBacklog, behind⟩ | onSlot
      · refine Or.inl (Or.inl ⟨_, List.mem_map_of_mem inBacklog, ?_⟩)
        split
        · have grown := behindEnd_append_singleton lane.entries new
          rw [Lane.entries, List.cons_append] at grown
          rw [Lane.entries, grown]
          exact List.mem_append_left _ behind
        · exact behind
      · exact Or.inl (Or.inr onSlot)
  | @push sequence new seat held waitsNot found active carries carried =>
      refine stranded.after_put same found (liveSlot?_putSlot _ found) (fun onSlot => Or.inl ?_)
      have used : (held.push new now).state ≠ .ending := by simp [Slot.push, active]
      rw [Slot.stranded, if_neg used, Slot.pending_push, behindEnd_append_singleton]
      exact List.mem_append_left _ (by simpa [Slot.stranded, active] using onSlot)
  | openLane waitsNot closed room starts carried =>
      rcases stranded with ⟨lane, inBacklog, behind⟩ | onSlot
      · exact Or.inl (Or.inl ⟨lane, List.mem_append_left _ inBacklog, behind⟩)
      · exact Or.inl (Or.inr onSlot)
  | start waitsNot unbound found free starts carried =>
      refine stranded.after_put same found (liveSlot?_putSlot _ found) (fun onSlot => ?_)
      have nothing := (coherent.sound_of_liveSlot found).freePending free
      rw [Slot.stranded_of_empty nothing] at onSlot
      contradiction
  | expireLanes =>
      rcases stranded with ⟨lane, inBacklog, behind⟩ | onSlot
      · cases expired : lane.isExpired now with
        | false =>
            refine Or.inl (Or.inl ⟨lane, List.mem_filter.mpr ⟨inBacklog, ?_⟩, behind⟩)
            simp [expired]
        | true =>
            obtain ⟨error, fails⟩ := lane.failed_of_mem now (behindEnd_subset _ behind)
            exact Or.inr ⟨error, List.mem_flatMap.mpr
              ⟨lane, List.mem_filter.mpr ⟨inBacklog, expired⟩, fails⟩⟩
      · exact Or.inl (Or.inr onSlot)
  | tearDown found | evict found =>
      refine stranded.after_put same found (liveSlot?_putSlot _ found) (fun onSlot => Or.inr ?_)
      exact ⟨_, List.mem_map_of_mem (Slot.stranded_subset onSlot)⟩
  | reclaim found carries idle =>
      refine stranded.after_put same found (liveSlot?_putSlot _ found) (fun onSlot => ?_)
      rw [Slot.stranded_of_empty (Slot.idle_shape idle).2.2] at onSlot
      contradiction
  | release found =>
      refine stranded.after_put same found (liveSlot?_putSlot _ found) (fun onSlot => Or.inr ?_)
      exact ⟨_, List.mem_cons_of_mem _ (List.mem_map_of_mem (Slot.stranded_subset onSlot))⟩
  | @seatLane passed later lane seat held isBacklog bound unbound found free =>
      have nothing := (coherent.sound_of_liveSlot found).freePending free
      have slots :=
        liveSlot?_putSlot ((held.bind lane.sequence now).pushAll lane.entries now) found
      rcases stranded with ⟨other, inBacklog, behind⟩ | ⟨place, other, isOther, behind⟩
      · simp only [isBacklog, List.mem_append, List.mem_cons] at inBacklog
        rcases inBacklog with ahead | isLane | further
        · exact Or.inl (Or.inl ⟨other, List.mem_append_left _ ahead, behind⟩)
        · refine Or.inl (Or.inr ⟨seat, _, (slots seat).trans (if_pos rfl), ?_⟩)
          rwa [Slot.stranded_seated nothing, ← isLane]
        · exact Or.inl (Or.inl ⟨other, List.mem_append_right _ further, behind⟩)
      · have elsewhere : place ≠ seat := by
          intro atSeat
          rw [atSeat, found] at isOther
          rw [← Option.some.inj isOther, Slot.stranded_of_empty nothing] at behind
          contradiction
        exact Or.inl (Or.inr ⟨place, other, (slots place).trans (by simp [elsewhere, isOther]),
          behind⟩)
  | dispatch found dispatched =>
      refine stranded.after_put same found (liveSlot?_putSlot _ found) (fun onSlot => Or.inl ?_)
      rwa [Slot.stranded_dispatch dispatched]
  | land found carries flying active =>
      exact stranded.after_put same found (liveSlot?_putSlot _ found) Or.inl

/-- An entry that is let in while the end of its sequence waits is stranded. -/
theorem Move.strands
    (coherent : batcher.Coherent)
    (move : Move now batcher .admitting [.admitted entry] last)
    {sequence : CorrelationId}
    (belongs : entry.request.sequence? = some sequence)
    (endWaits : batcher.EndWaits sequence) :
    last.IsStranded entry := by
  have here : ∀ other, entry.request.sequence? = some other → other = sequence :=
    fun other carried => Option.some.inj (carried.symm.trans belongs)
  cases move with
  | @follow other _ waits carried =>
      rw [here other carried] at waits ⊢
      rcases endWaits with ⟨lane, isLane, ends⟩ | ⟨waitsNot, _⟩
      · obtain ⟨inBacklog, isSequence⟩ := lane?_eq_some isLane
        refine Or.inl ⟨_, List.mem_map_of_mem inBacklog, ?_⟩
        have grown := behindEnd_append_singleton lane.entries entry
        rw [if_pos (List.any_eq_true.mpr ends), Lane.entries, List.cons_append] at grown
        rw [if_pos isSequence, Lane.entries, grown]
        exact List.mem_append_right _ List.mem_cons_self
      · rw [waitsNot] at waits
        contradiction
  | @push other _ seat held waitsNot found active carries carried =>
      rw [here other carried] at waitsNot carries
      rcases endWaits with ⟨lane, isLane, _⟩ | ⟨_, place, slot, bound, isSlot, _, ends⟩
      · rw [waitsNot] at isLane
        contradiction
      · have samePlace :=
          Option.some.inj ((coherent.seat_of_liveSlot found carries).symm.trans bound)
        rw [← samePlace, found] at isSlot
        rw [← Option.some.inj isSlot] at ends
        refine Or.inr ⟨seat, held.push entry now, by simp [liveSlot?_putSlot _ found], ?_⟩
        have used : (held.push entry now).state ≠ .ending := by simp [Slot.push, active]
        rw [Slot.stranded, if_neg used, Slot.pending_push, behindEnd_append_singleton,
          if_pos (List.any_eq_true.mpr ends)]
        exact List.mem_append_right _ List.mem_cons_self
  | @openLane other _ waitsNot closed room starts carried =>
      rw [here other carried] at waitsNot closed
      rcases endWaits with ⟨lane, isLane, _⟩ | ⟨_, place, slot, bound, isSlot, active, _⟩
      · rw [waitsNot] at isLane
        contradiction
      · have notActive := closed place bound
        rw [(isActive_of_liveSlot isSlot).mpr active] at notActive
        contradiction
  | @start other _ seat held waitsNot unbound found free starts carried =>
      rw [here other carried] at waitsNot unbound
      rcases endWaits with ⟨lane, isLane, _⟩ | ⟨_, place, slot, bound, _⟩
      · rw [waitsNot] at isLane
        contradiction
      · rw [unbound] at bound
        contradiction

/-- Only what is stranded is told that there is no such sequence. -/
theorem Move.stranded_of_notFound
    (coherent : batcher.Coherent)
    (move : Move now batcher activity events last)
    {sequence : CorrelationId}
    (fails : .failed entry (.sequenceNotFound sequence) ∈ events) :
    batcher.IsStranded entry ∧ entry.request.sequence? = some sequence := by
  have notAll : ∀ {entries : List QueueEntry} {other : CorrelationId},
      .failed entry (.sequenceNotFound sequence) ∉
        Event.failAll entries (.sequenceTimeout other) := by
    intro entries other member
    obtain ⟨_, _, isFailure⟩ := List.mem_map.mp member
    have isError := (Event.failed.inj isFailure).2
    contradiction
  cases move with
  | unmark | forget | reclaim | seatLane => contradiction
  | follow | push | openLane | start | dispatch | land =>
      have isOther := List.mem_singleton.mp fails
      contradiction
  | tearDown | evict => exact absurd fails notAll
  | expireLanes =>
      obtain ⟨lane, _, fromLane⟩ := List.mem_flatMap.mp fails
      rcases List.mem_cons.mp fromLane with isFirst | follows
      · have isError := (Event.failed.inj isFirst).2
        split at isError <;> contradiction
      · exact absurd follows notAll
  | @release other request seat held found carries flying ending =>
      rcases List.mem_cons.mp fails with isReturned | inFailures
      · contradiction
      · obtain ⟨pending, isPending, isFailure⟩ := List.mem_map.mp inFailures
        simp only [Event.failed.injEq] at isFailure
        obtain ⟨isEntry, isError⟩ := isFailure
        subst isEntry
        have isSequence : other = sequence := by
          simp only [leftoverError] at isError
          split at isError
          · contradiction
          · exact RequestError.sequenceNotFound.inj isError
        refine ⟨Or.inr ⟨seat, held, found, by simpa [Slot.stranded, ending] using isPending⟩, ?_⟩
        rw [(coherent.sound_of_liveSlot found).carried pending isPending, carries, isSequence]

/-- Apart from admission, moves strand nothing that was not stranded. -/
theorem Moves.stranded_before
    (coherent : batcher.Coherent)
    (moves : Moves now batcher activity events last)
    (noAdmission : events.filterMap Event.admitted? = [])
    (stranded : last.IsStranded entry) :
    batcher.IsStranded entry := by
  induction moves with
  | nil => exact stranded
  | snoc moves move inductionHypothesis =>
      rw [List.filterMap_append, List.append_eq_nil_iff] at noAdmission
      rcases move.stranded_before (moves.coherent coherent) stranded with before | ⟨isNew, _⟩
      · exact inductionHypothesis noAdmission.1 before
      · rw [noAdmission.2] at isNew
        contradiction

theorem Moves.stranded_after
    (coherent : batcher.Coherent)
    (moves : Moves now batcher activity events last)
    (stranded : batcher.IsStranded entry) :
    last.IsStranded entry ∨ ∃ error, .failed entry error ∈ events := by
  induction moves with
  | nil => exact Or.inl stranded
  | snoc moves move inductionHypothesis =>
      rcases inductionHypothesis with still | ⟨error, failed⟩
      · exact (move.stranded_after (moves.coherent coherent) still).imp id
          (fun ⟨error, fails⟩ => ⟨error, List.mem_append_right _ fails⟩)
      · exact Or.inr ⟨error, List.mem_append_left _ failed⟩

theorem Moves.stranded_of_notFound
    (coherent : batcher.Coherent)
    (moves : Moves now batcher activity events last)
    (noAdmission : events.filterMap Event.admitted? = [])
    {sequence : CorrelationId}
    (fails : .failed entry (.sequenceNotFound sequence) ∈ events) :
    batcher.IsStranded entry ∧ entry.request.sequence? = some sequence := by
  induction moves with
  | nil => contradiction
  | snoc moves move inductionHypothesis =>
      rw [List.filterMap_append, List.append_eq_nil_iff] at noAdmission
      rcases List.mem_append.mp fails with earlier | now
      · exact inductionHypothesis noAdmission.1 earlier
      · have reached := moves.coherent coherent
        obtain ⟨stranded, belongs⟩ := move.stranded_of_notFound reached now
        exact ⟨moves.stranded_before coherent noAdmission.1 stranded, belongs⟩

end Moves

end SequenceBatcher

end InferenceBatching
