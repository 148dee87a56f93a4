import InferenceBatching.Proofs.Sequence.Formation

namespace InferenceBatching

/-!
# What waits on the live part of a batcher

Only admission adds to what waits. So a property of all waiting entries survives
expiry, seating, dispatch and settlement, and what is dispatched on the way has it
too. After the timeouts have been applied, one such property is to have time left.
-/

/--
A failure that is due at an instant: of an entry that is late itself, or of one
whose sequence has a late entry where it waits.
-/
def Failure.IsDue
    (failure : Failure)
    (groups : List (List QueueEntry))
    (now : Nat) :
    Prop :=
  ∃ group ∈ groups, ∃ entry ∈ group,
    entry.request = failure.request ∧
      (failure.error = .timeoutExpired ∧ entry.isRejectable now = true ∨
        ∃ sequence, ∃ late ∈ group,
          failure.error = .sequenceTimeout sequence ∧
            late.request.sequence? = some sequence ∧
            late.isRejectable now = true)

namespace SequenceBatcher

/-- Every slot of a live instance is found at a seat. -/
theorem mem_liveSlots
    {batcher : SequenceBatcher}
    {slot : Slot} :
    slot ∈ batcher.liveSlots ↔ ∃ seat, batcher.liveSlot? seat = some slot := by
  simp only [liveSlots, List.mem_flatMap, List.mem_filter, Bool.not_eq_true']
  constructor
  · rintro ⟨held, ⟨isInstance, running⟩, isSlot⟩
    obtain ⟨instanceIndex, isHeld⟩ := List.mem_iff_getElem?.mp isInstance
    obtain ⟨index, found⟩ := List.mem_iff_getElem?.mp isSlot
    exact ⟨{ instanceIndex := instanceIndex, slot := index },
      liveSlot?_eq_some.mpr ⟨held, live?_eq_some.mpr ⟨isHeld, running⟩, found⟩⟩
  · rintro ⟨seat, found⟩
    obtain ⟨held, live, isSlot⟩ := liveSlot?_eq_some.mp found
    obtain ⟨isHeld, running⟩ := live?_eq_some.mp live
    exact ⟨held, ⟨List.mem_of_getElem? isHeld, running⟩, List.mem_of_getElem? isSlot⟩

/-- What waits together where it can still be run: each lane, and what is pending on each slot. -/
def liveGroups
    (batcher : SequenceBatcher) :
    List (List QueueEntry) :=
  batcher.backlog.map Lane.entries ++ batcher.liveSlots.map Slot.pending

/-- Everything that waits where it can still be run has a property. -/
structure AllWaiting
    (Holds : QueueEntry → Prop)
    (batcher : SequenceBatcher) :
    Prop where
  lanes : ∀ lane ∈ batcher.backlog, ∀ entry ∈ lane.entries, Holds entry
  slots :
    ∀ seat slot,
      batcher.liveSlot? seat = some slot →
        ∀ entry ∈ slot.pending, Holds entry

theorem AllWaiting.of_mem
    {Holds : QueueEntry → Prop}
    {batcher : SequenceBatcher}
    (all : batcher.AllWaiting Holds)
    {group : List QueueEntry}
    (isGroup : group ∈ batcher.liveGroups) :
    ∀ entry ∈ group, Holds entry := by
  rcases List.mem_append.mp isGroup with inBacklog | onSlot
  · obtain ⟨lane, member, rfl⟩ := List.mem_map.mp inBacklog
    exact all.lanes lane member
  · obtain ⟨slot, isLive, rfl⟩ := List.mem_map.mp onSlot
    obtain ⟨seat, found⟩ := mem_liveSlots.mp isLive
    exact all.slots seat slot found

section Moves

variable {Holds : QueueEntry → Prop}
variable {now : Nat}
variable {batcher last : SequenceBatcher}
variable {activity : Activity}
variable {events : List Event}

/-- Another slot at a seat may hold whatever the one before held. -/
private theorem AllWaiting.change
    (all : batcher.AllWaiting Holds)
    (lanes : ∀ lane ∈ last.backlog, lane ∈ batcher.backlog)
    {seat : Seat}
    {slot : Slot}
    (slots :
      ∀ other,
        last.liveSlot? other = if other = seat then some slot else batcher.liveSlot? other)
    (pending : ∀ entry ∈ slot.pending, Holds entry) :
    last.AllWaiting Holds where
  lanes lane member := all.lanes lane (lanes lane member)
  slots := by
    intro place held found
    rw [slots place] at found
    split at found
    · rw [← Option.some.inj found]
      exact pending
    · exact all.slots place held found

/-- A property of all that waits is kept by every move but those of admission. -/
theorem Move.allWaiting
    (all : batcher.AllWaiting Holds)
    (move : Move now batcher activity events last)
    (notAdmitting : activity ≠ .admitting) :
    last.AllWaiting Holds ∧
      ∀ entry ∈ (events.filterMap Event.dispatched?).map Prod.snd, Holds entry := by
  have sameLanes : ∀ lane ∈ batcher.backlog, lane ∈ batcher.backlog := fun _ member => member
  cases move with
  | follow | push | openLane | start | unmark => contradiction
  | forget => exact ⟨⟨all.lanes, all.slots⟩, by simp⟩
  | expireLanes =>
      refine ⟨⟨?_, all.slots⟩, ?_⟩
      · intro lane member
        exact all.lanes lane (List.mem_filter.mp member).1
      · simp [(Event.filterMap_of_isFailure (Lane.isFailure_of_flatMap _ now)).2.1]
  | @tearDown sequence request seat held found carries expired flying =>
      refine ⟨all.change sameLanes (liveSlot?_putSlot _ found) ?_, by simp⟩
      intro entry isPending
      exact all.slots seat held found entry (held.pending_tearDown_sublist.subset isPending)
  | evict found carries expired grounded =>
      exact ⟨all.change sameLanes (liveSlot?_putSlot _ found) (by simp [Slot.vacate]), by simp⟩
  | reclaim found carries idle =>
      exact ⟨all.change sameLanes (liveSlot?_putSlot _ found) (by simp [Slot.vacate]), by simp⟩
  | @seatLane passed later lane seat held isBacklog bound unbound found free =>
      have fields := (held.bind lane.sequence now).pushAll_fields lane.entries now
      refine ⟨all.change ?_ (liveSlot?_putSlot _ found) ?_, by simp⟩
      · intro other member
        have stays : other ∈ passed ++ later := member
        rw [isBacklog]
        exact ((List.sublist_cons_self lane later).append_left passed).subset stays
      · intro entry isPending
        rw [fields.2.2.2, Slot.pending_bind, List.mem_append] at isPending
        rcases isPending with old | inLane
        · exact all.slots seat held found entry old
        · exact all.lanes lane (by simp [isBacklog]) entry inLane
  | @dispatch entry seat held after found dispatched =>
      obtain ⟨_, isPending, _⟩ := Slot.dispatch?_eq_some dispatched
      have held := all.slots seat held found
      rw [isPending] at held
      refine ⟨all.change sameLanes (liveSlot?_putSlot _ found) ?_, ?_⟩
      · intro other member
        exact held other (List.mem_cons_of_mem entry member)
      · simpa using held entry List.mem_cons_self
  | @land sequence request seat held found carries flying active =>
      exact ⟨all.change sameLanes (liveSlot?_putSlot _ found) (all.slots seat held found),
        by simp⟩
  | release found carries flying ending =>
      refine ⟨all.change sameLanes (liveSlot?_putSlot _ found) (by simp [Slot.vacate]), ?_⟩
      rw [List.filterMap_cons_none rfl, Event.filterMap_dispatched_failAll]
      simp

theorem Moves.allWaiting
    (all : batcher.AllWaiting Holds)
    (moves : Moves now batcher activity events last)
    (notAdmitting : activity ≠ .admitting) :
    last.AllWaiting Holds ∧
      ∀ entry ∈ (events.filterMap Event.dispatched?).map Prod.snd, Holds entry := by
  induction moves with
  | nil => exact ⟨all, by simp⟩
  | snoc _ move inductionHypothesis =>
      obtain ⟨still, sentOff⟩ := move.allWaiting inductionHypothesis.1 notAdmitting
      refine ⟨still, ?_⟩
      intro entry member
      rw [List.filterMap_append, List.map_append, List.mem_append] at member
      rcases member with before | now
      · exact inductionHypothesis.2 entry before
      · exact sentOff entry now

end Moves

section Deadlines

variable {batcher : SequenceBatcher}
variable {now instanceIndex : Nat}

/-- Once the timeouts have been applied, all that waits has time left. -/
theorem allWaiting_expire
    (coherent : batcher.Coherent)
    (now : Nat) :
    (batcher.expire now).batcher.AllWaiting (fun entry => entry.isRejectable now = false) where
  lanes := by
    intro lane member
    rw [backlog_expire coherent] at member
    simpa [Lane.isExpired] using (List.mem_filter.mp member).2
  slots := by
    intro seat slot found
    rw [liveSlot?_expire coherent] at found
    obtain ⟨held, wasFound, isSwept⟩ := Option.map_eq_some_iff.mp found
    have inTime := (coherent.sound_of_liveSlot wasFound).swept_not_expired batcher.idleLimit? now
    rw [isSwept] at inTime
    simpa [Slot.isExpired] using inTime

/-- A formation on a live instance dispatches nothing that is late, and leaves nothing late. -/
theorem formBatch_inTime
    (coherent : batcher.Coherent)
    (live : (batcher.live? instanceIndex).isSome = true) :
    let formation := batcher.formBatch instanceIndex now
    (∀ batch ∈ formation.batch?, ∀ entry ∈ batch.queueEntries,
        entry.isRejectable now = false) ∧
      formation.batcher.AllWaiting (fun entry => entry.isRejectable now = false) := by
  intro formation
  have phases := formBatch_phases coherent instanceIndex now
  change Phases now batcher instanceIndex formation at phases
  generalize formation = formation at phases
  cases phases with
  | halted halted =>
      rw [halted] at live
      contradiction
  | live _ expires onlyFailures isFailed dispatches placed =>
      obtain ⟨left, sentOff⟩ :=
        dispatches.allWaiting (allWaiting_expire coherent now) (by simp)
      refine ⟨?_, left⟩
      intro batch formed entry member
      apply sentOff
      rw [Formation.dispatches_eq, Option.mem_def.mp formed, Option.toList_some,
        List.flatMap_singleton, Batch.filterMap_dispatched_events (placed batch formed).2]
      exact member

/-- What a formation on a live instance fails is what the timeouts fail. -/
theorem failed_formBatch
    (live : (batcher.live? instanceIndex).isSome = true) :
    (batcher.formBatch instanceIndex now).failed = (batcher.expire now).failed := by
  obtain ⟨owner, isOwner⟩ := Option.isSome_iff_exists.mp live
  simp only [formBatch, isOwner]
  split
  · rfl
  · split <;> rfl

/-- The timeouts fail only what is late or waits with something late. -/
theorem failed_expire_isDue
    (coherent : batcher.Coherent)
    (now : Nat) :
    ∀ failure ∈ (batcher.expire now).failed, failure.IsDue batcher.liveGroups now := by
  intro failure member
  rw [failed_expire coherent, List.mem_append, List.mem_flatMap, List.mem_flatMap] at member
  rcases member with ⟨lane, isExpired, fails⟩ | ⟨seat, _, fails⟩
  · obtain ⟨inBacklog, expired⟩ := List.mem_filter.mp isExpired
    have isGroup : lane.entries ∈ batcher.liveGroups :=
      List.mem_append_left _ (List.mem_map_of_mem inBacklog)
    have sound := coherent.lanes lane inBacklog
    obtain ⟨late, inLane, isLate⟩ := List.any_eq_true.mp expired
    rcases List.mem_cons.mp fails with isFirst | behind
    · refine ⟨lane.entries, isGroup, lane.first, List.mem_cons_self, by rw [isFirst], ?_⟩
      rw [isFirst]
      by_cases itself : lane.first.isRejectable now = true
      · exact Or.inl ⟨if_pos itself, itself⟩
      · exact Or.inr ⟨lane.sequence, late, inLane, if_neg itself, sound.carried late inLane,
          isLate⟩
    · simp only [Failure.all, requestsOf, List.map_map, List.mem_map, Function.comp_apply]
        at behind
      obtain ⟨entry, isFollower, isFailure⟩ := behind
      refine ⟨lane.entries, isGroup, entry, List.mem_cons_of_mem _ isFollower,
        by rw [← isFailure], ?_⟩
      rw [← isFailure]
      exact Or.inr ⟨lane.sequence, late, inLane, rfl, sound.carried late inLane, isLate⟩
  · obtain ⟨slot, isSlot, fails⟩ := List.mem_flatMap.mp fails
    have found := Option.mem_toList.mp isSlot
    obtain ⟨sequence, lapses, fails⟩ := List.mem_flatMap.mp fails
    simp only [Option.mem_toList, Slot.lapsed?] at lapses
    split at lapses
    · next expired =>
        have isGroup : slot.pending ∈ batcher.liveGroups :=
          List.mem_append_right _ (List.mem_map_of_mem (mem_liveSlots.mpr ⟨seat, found⟩))
        obtain ⟨late, isPending, isLate⟩ := List.any_eq_true.mp expired
        have carried := (coherent.sound_of_liveSlot found).carried late isPending
        simp only [Failure.all, requestsOf, List.map_map, List.mem_map, Function.comp_apply]
          at fails
        obtain ⟨entry, alsoPending, isFailure⟩ := fails
        refine ⟨slot.pending, isGroup, entry, alsoPending, by rw [← isFailure], ?_⟩
        rw [← isFailure]
        exact Or.inr ⟨sequence, late, isPending, rfl, carried.trans lapses, isLate⟩
    · contradiction

end Deadlines

end SequenceBatcher

end InferenceBatching
