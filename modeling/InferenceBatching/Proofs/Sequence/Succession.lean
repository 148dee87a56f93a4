import InferenceBatching.Proofs.Sequence.Run

namespace InferenceBatching

/-!
# Succession of sequences

An id may be used again while its last sequence is coming to its end: the new
sequence then waits in a lane behind the slot of the old one. So a sequence that
waits never has an active slot, and a slot at its end that still holds entries
has a request in flight to wait for. `Succession` is that state of affairs, and
every operation keeps it.

A sequence is alive while it waits or is active. Only a START brings one to life.
-/

namespace SequenceBatcher

/-- The sequences that wait in lanes. -/
def laned
    (batcher : SequenceBatcher) :
    List CorrelationId :=
  batcher.backlog.map Lane.sequence

/-- A live slot is active for a sequence. -/
def IsActiveFor
    (batcher : SequenceBatcher)
    (sequence : CorrelationId) :
    Prop :=
  ∃ seat slot,
    batcher.liveSlot? seat = some slot ∧
      slot.sequence? = some sequence ∧
        slot.state = .active

/-- A sequence waits for a slot or is active on one. -/
def IsAlive
    (batcher : SequenceBatcher)
    (sequence : CorrelationId) :
    Prop :=
  sequence ∈ batcher.laned ∨ batcher.IsActiveFor sequence

/-- A waiting sequence comes after one at its end, which waits for its request in flight. -/
structure Succession (batcher : SequenceBatcher) : Prop where
  notActive : ∀ sequence ∈ batcher.laned, ¬ batcher.IsActiveFor sequence
  awaited :
    ∀ seat slot,
      batcher.liveSlot? seat = some slot →
      slot.state = .ending →
      slot.pending ≠ [] →
        slot.inFlight?.isSome = true

section Change

variable {batcher last : SequenceBatcher}
variable {seat : Seat}
variable {slot : Slot}

/-- Another slot at one seat makes at most its own sequence active. -/
private theorem isActiveFor_of_change
    (slots :
      ∀ other,
        last.liveSlot? other = if other = seat then some slot else batcher.liveSlot? other)
    {sequence : CorrelationId}
    (active : last.IsActiveFor sequence) :
    slot.sequence? = some sequence ∧ slot.state = .active ∨ batcher.IsActiveFor sequence := by
  obtain ⟨place, held, found, carries, isActive⟩ := active
  rw [slots place] at found
  split at found
  · rw [Option.some.inj found]
    exact Or.inl ⟨carries, isActive⟩
  · exact Or.inr ⟨place, held, found, carries, isActive⟩

/-- Succession is kept by a change of one slot that keeps to it, while no lane is added. -/
private theorem Succession.change
    (before : batcher.Succession)
    (fewer : last.laned ⊆ batcher.laned)
    (slots :
      ∀ other,
        last.liveSlot? other = if other = seat then some slot else batcher.liveSlot? other)
    (notActive :
      ∀ sequence, slot.sequence? = some sequence → slot.state = .active →
        sequence ∉ last.laned)
    (awaited : slot.state = .ending → slot.pending ≠ [] → slot.inFlight?.isSome = true) :
    last.Succession where
  notActive := by
    intro sequence waits active
    rcases isActiveFor_of_change slots active with ⟨carries, isActive⟩ | already
    · exact notActive sequence carries isActive waits
    · exact before.notActive sequence (fewer waits) already
  awaited := by
    intro place held found
    rw [slots place] at found
    split at found
    · rw [← Option.some.inj found]
      exact awaited
    · exact before.awaited place held found

/-- Succession is kept by whatever leaves the slots as they are and adds no lane. -/
private theorem Succession.withFewerLanes
    (before : batcher.Succession)
    (fewer : last.laned ⊆ batcher.laned)
    (sameSlots : last.liveSlot? = batcher.liveSlot?) :
    last.Succession where
  notActive := by
    intro sequence waits active
    rw [IsActiveFor, sameSlots] at active
    exact before.notActive sequence (fewer waits) active
  awaited := by
    rw [sameSlots]
    exact before.awaited

end Change

section Moves

variable {now : Nat}
variable {batcher last : SequenceBatcher}
variable {activity : Activity}
variable {events : List Event}

/-- Every move keeps succession. -/
theorem Move.succession
    (coherent : batcher.Coherent)
    (before : batcher.Succession)
    (move : Move now batcher activity events last) :
    last.Succession := by
  cases move with
  | @follow sequence entry waits carried =>
      exact before.withFewerLanes (by simp [laned, follow_backlog]) rfl
  | unmark | forget => exact before.withFewerLanes (List.Subset.refl _) rfl
  | expireLanes =>
      exact before.withFewerLanes ((List.filter_sublist.map Lane.sequence).subset) rfl
  | @push sequence entry seat held waitsNot found active carries carried =>
      refine before.change (List.Subset.refl _) (liveSlot?_putSlot _ found) ?_ ?_
      · intro other alsoCarries _ waits
        exact before.notActive other waits ⟨seat, held, found, alsoCarries, active⟩
      · intro ending
        rw [Slot.push, active] at ending
        contradiction
  | @openLane sequence entry waitsNot closed room starts carried =>
      refine ⟨?_, before.awaited⟩
      rintro other waits ⟨seat, held, found, carries, active⟩
      rw [laned, List.map_append, List.mem_append, List.map_singleton,
        List.mem_singleton] at waits
      rcases waits with already | isNew
      · exact before.notActive other already ⟨seat, held, found, carries, active⟩
      · have wasFound : batcher.liveSlot? seat = some held := found
        have bound := coherent.seat_of_liveSlot wasFound (isNew ▸ carries)
        have inactive := closed seat bound
        rw [(isActive_of_liveSlot wasFound).mpr active] at inactive
        contradiction
  | @start sequence entry seat held waitsNot unbound found free starts carried =>
      refine before.change (List.Subset.refl _) (liveSlot?_putSlot _ found) ?_ ?_
      · intro other carries _ waits
        have isSequence : sequence = other := Option.some.inj carries
        exact lane?_eq_none.mp waitsNot (isSequence ▸ waits)
      · intro ending
        simp [Slot.push, Slot.bind] at ending
  | @tearDown sequence request seat held found carries expired flying =>
      refine before.change (List.Subset.refl _) (liveSlot?_putSlot _ found) ?_ ?_
      · intro other _ active
        exact absurd active held.tearDown_not_active
      · intro _ _
        rw [Slot.tearDown_inFlight, flying]
        rfl
  | @evict sequence seat held found carries expired grounded =>
      refine before.change (List.Subset.refl _) (liveSlot?_putSlot _ found) ?_ ?_ <;>
        simp [Slot.vacate]
  | @reclaim sequence seat held found carries idle =>
      refine before.change (List.Subset.refl _) (liveSlot?_putSlot _ found) ?_ ?_ <;>
        simp [Slot.vacate]
  | @seatLane passed later lane seat held isBacklog bound unbound found free =>
      have distinct := coherent.distinct
      rw [isBacklog, List.map_append, List.map_cons] at distinct
      have fields := (held.bind lane.sequence now).pushAll_fields lane.entries now
      refine before.change ?_ (liveSlot?_putSlot _ found) ?_ ?_
      · simp only [laned, occupy, putSlot, isBacklog]
        exact ((List.sublist_cons_self lane later).append_left passed).map Lane.sequence |>.subset
      · intro other carries _ waits
        have isSequence : lane.sequence = other := by
          rw [fields.2.1] at carries
          exact Option.some.inj carries
        simp only [laned, occupy, putSlot, List.map_append, ← isSequence] at waits
        exact (List.nodup_cons.mp (List.perm_middle.nodup_iff.mp distinct)).1 waits
      · intro ending
        rw [fields.1] at ending
        simp [Slot.bind] at ending
  | @dispatch entry seat held after found dispatched =>
      obtain ⟨active, _, rest, _, isAfter⟩ := Slot.dispatch?_shape dispatched
      refine before.change (List.Subset.refl _) (liveSlot?_putSlot _ found) ?_ ?_
      · intro other carries _ waits
        rw [isAfter] at carries
        exact before.notActive other waits ⟨seat, held, found, carries, active⟩
      · intro _ _
        rw [isAfter]
        rfl
  | @land sequence request seat held found carries flying active =>
      refine before.change (List.Subset.refl _) (liveSlot?_putSlot _ found) ?_ ?_
      · intro other alsoCarries _ waits
        exact before.notActive other waits ⟨seat, held, found, alsoCarries, active⟩
      · intro ending
        rw [Slot.land, active] at ending
        contradiction
  | @release sequence request seat held found carries flying ending =>
      refine before.change (List.Subset.refl _) (liveSlot?_putSlot _ found) ?_ ?_ <;>
        simp [Slot.vacate]

/-- Only a START brings a sequence to life. -/
theorem Move.alive_before
    (move : Move now batcher activity events last)
    {sequence : CorrelationId}
    (alive : last.IsAlive sequence) :
    batcher.IsAlive sequence ∨
      ∃ entry ∈ events.filterMap Event.admitted?,
        entry.request.starts = true ∧ entry.request.sequence? = some sequence := by
  have kept :
      ∀ {place held slot},
        last.laned ⊆ batcher.laned →
        batcher.liveSlot? place = some held →
        last.liveSlot? = (batcher.putSlot place slot).liveSlot? →
        (slot.sequence? = some sequence → slot.state = .active →
          batcher.IsAlive sequence) →
          batcher.IsAlive sequence := by
    intro place held slot fewer found sameSlots wasAlive
    rcases alive with waits | active
    · exact Or.inl (fewer waits)
    · have slots := liveSlot?_putSlot slot found
      rw [← sameSlots] at slots
      rcases isActiveFor_of_change slots active with ⟨carries, isActive⟩ | already
      · exact wasAlive carries isActive
      · exact Or.inr already
  cases move with
  | unmark | forget => exact Or.inl alive
  | follow waits carried =>
      refine Or.inl (alive.imp (fun waits => ?_) id)
      rwa [laned, follow_backlog] at waits
  | expireLanes =>
      exact Or.inl
        (alive.imp (fun waits => (List.filter_sublist.map Lane.sequence).subset waits) id)
  | @push other entry seat held waitsNot found active carries carried =>
      refine Or.inl (kept (List.Subset.refl _) found rfl ?_)
      intro alsoCarries _
      exact Or.inr ⟨seat, held, found, alsoCarries, active⟩
  | @openLane other entry waitsNot closed room starts carried =>
      rcases alive with waits | active
      · rw [laned, List.map_append, List.mem_append, List.map_singleton,
          List.mem_singleton] at waits
        rcases waits with already | isNew
        · exact Or.inl (Or.inl already)
        · exact Or.inr ⟨entry, by simp, starts, isNew ▸ carried⟩
      · exact Or.inl (Or.inr active)
  | @start other entry seat held waitsNot unbound found free starts carried =>
      rcases alive with waits | active
      · exact Or.inl (Or.inl waits)
      · rcases isActiveFor_of_change (liveSlot?_putSlot _ found) active with isNew | already
        · have isOther : other = sequence := Option.some.inj isNew.1
          exact Or.inr ⟨entry, by simp, starts, isOther ▸ carried⟩
        · exact Or.inl (Or.inr already)
  | @tearDown other request seat held found carries expired flying =>
      refine Or.inl (kept (List.Subset.refl _) found rfl ?_)
      intro _ active
      exact absurd active held.tearDown_not_active
  | @evict other seat held found carries expired grounded =>
      exact Or.inl (kept (List.Subset.refl _) found rfl (by simp [Slot.vacate]))
  | @reclaim other seat held found carries idle =>
      exact Or.inl (kept (List.Subset.refl _) found rfl (by simp [Slot.vacate]))
  | @seatLane passed later lane seat held isBacklog bound unbound found free =>
      refine Or.inl (kept ?_ found rfl ?_)
      · simp only [laned, occupy, putSlot, isBacklog]
        exact ((List.sublist_cons_self lane later).append_left passed).map Lane.sequence |>.subset
      · intro carries _
        rw [((held.bind lane.sequence now).pushAll_fields lane.entries now).2.1] at carries
        have isSequence : lane.sequence = sequence := Option.some.inj carries
        exact Or.inl (by simp [laned, isBacklog, isSequence])
  | @dispatch entry seat held after found dispatched =>
      obtain ⟨active, _, rest, _, isAfter⟩ := Slot.dispatch?_shape dispatched
      refine Or.inl (kept (List.Subset.refl _) found rfl ?_)
      intro carries _
      rw [isAfter] at carries
      exact Or.inr ⟨seat, held, found, carries, active⟩
  | @land other request seat held found carries flying active =>
      refine Or.inl (kept (List.Subset.refl _) found rfl ?_)
      intro alsoCarries _
      exact Or.inr ⟨seat, held, found, alsoCarries, active⟩
  | @release other request seat held found carries flying ending =>
      exact Or.inl (kept (List.Subset.refl _) found rfl (by simp [Slot.vacate]))

theorem Moves.alive_before
    (moves : Moves now batcher activity events last)
    {sequence : CorrelationId}
    (alive : last.IsAlive sequence) :
    batcher.IsAlive sequence ∨
      ∃ entry ∈ events.filterMap Event.admitted?,
        entry.request.starts = true ∧ entry.request.sequence? = some sequence := by
  induction moves with
  | nil => exact Or.inl alive
  | snoc _ move inductionHypothesis =>
      rw [List.filterMap_append]
      rcases move.alive_before alive with earlier | ⟨entry, isNew, started⟩
      · rcases inductionHypothesis earlier with before | ⟨entry, isOld, started⟩
        · exact Or.inl before
        · exact Or.inr ⟨entry, List.mem_append_left _ isOld, started⟩
      · exact Or.inr ⟨entry, List.mem_append_right _ isNew, started⟩

end Moves

section Runs

variable {batcher : SequenceBatcher}

theorem succession_ofConfig
    (config : ModelConfig)
    (start : Nat) :
    (ofConfig config start).Succession where
  notActive sequence waits := by contradiction
  awaited := by
    intro seat slot found ending
    have coherent := coherent_ofConfig config start
    obtain ⟨sequence, carries⟩ :=
      (coherent.sound_of_liveSlot found).usedSequence (by simp [ending])
    have bound := coherent.seat_of_liveSlot found carries
    contradiction

theorem Succession.halt
    (before : batcher.Succession)
    (instanceIndex : Nat) :
    (batcher.halt instanceIndex).batcher.Succession := by
  have stillFound :
      ∀ seat slot,
        (batcher.halt instanceIndex).batcher.liveSlot? seat = some slot →
          batcher.liveSlot? seat = some slot := by
    intro seat slot found
    rw [liveSlot?_halt] at found
    split at found
    · contradiction
    · exact found
  refine ⟨?_, fun seat slot found => before.awaited seat slot (stillFound seat slot found)⟩
  rintro sequence waits ⟨seat, slot, found, carries, active⟩
  rw [laned, backlog_halt] at waits
  exact before.notActive sequence waits ⟨seat, slot, stillFound seat slot found, carries, active⟩

/-- After draining nothing waits, in no lane and on no slot. -/
theorem succession_drain
    (batcher : SequenceBatcher) :
    batcher.drain.batcher.Succession where
  notActive sequence waits := by contradiction
  awaited := by
    intro seat slot found ending
    rw [liveSlot?_drain] at found
    obtain ⟨held, _, isTornDown⟩ := Option.map_eq_some_iff.mp found
    have used : held.state ≠ .free := by
      intro free
      rw [← isTornDown, (Slot.tearDown_state held).mpr free] at ending
      contradiction
    rw [← isTornDown, (Slot.tearDown_of_used used).2]
    simp

/-- Every operation keeps succession. -/
theorem Succession.perform
    (coherent : batcher.Coherent)
    (before : batcher.Succession)
    (operation : Operation) :
    (batcher.perform operation).Succession :=
  related_perform
    (fun before after => before.Succession → after.Succession)
    (fun _ before => before)
    (fun first second before => second (first before))
    (fun coherent move before => move.succession coherent before)
    coherent
    (fun instanceIndex _ before => before.halt instanceIndex)
    (fun _ _ => succession_drain batcher)
    before

theorem Succession.after
    (coherent : batcher.Coherent)
    (before : batcher.Succession)
    (operations : List Operation) :
    (batcher.after operations).Succession := by
  induction operations generalizing batcher with
  | nil => exact before
  | cons operation operations inductionHypothesis =>
      exact inductionHypothesis (coherent.perform operation) (before.perform coherent operation)

end Runs

end SequenceBatcher

end InferenceBatching
