import InferenceBatching.Slot.Table

namespace InferenceBatching

/-!
# Sound slots

The stage of a slot says which of its other fields are filled: a free slot holds
nothing, and a slot in use has a sequence to which everything pending on it
belongs. Each operation on a slot keeps this under the condition that its caller
checks.
-/

/-- A slot whose fields agree with its stage and with each other. -/
structure Slot.Sound (slot : Slot) : Prop where
  freeSequence : slot.state = .free → slot.sequence? = none
  freePending : slot.state = .free → slot.pending = []
  freeInFlight : slot.state = .free → slot.inFlight? = none
  usedSequence : slot.state ≠ .free → ∃ sequence, slot.sequence? = some sequence
  carried : ∀ entry ∈ slot.pending, entry.request.sequence? = slot.sequence?

namespace Slot

theorem sound_unused
    (now : Nat) :
    (unused now).Sound where
  freeSequence _ := rfl
  freePending _ := rfl
  freeInFlight _ := rfl
  usedSequence used := absurd rfl used
  carried := by simp [unused]

namespace Sound

variable {slot : Slot}

theorem used_of_sequence
    (sound : slot.Sound)
    {sequence : CorrelationId}
    (carries : slot.sequence? = some sequence) :
    slot.state ≠ .free := by
  intro free
  rw [sound.freeSequence free] at carries
  contradiction

/-- A free slot may be given to a sequence. -/
theorem bind
    (sound : slot.Sound)
    (free : slot.state = .free)
    (sequence : CorrelationId)
    (now : Nat) :
    (slot.bind sequence now).Sound where
  freeSequence isFree := by simp [Slot.bind] at isFree
  freePending isFree := by simp [Slot.bind] at isFree
  freeInFlight isFree := by simp [Slot.bind] at isFree
  usedSequence _ := ⟨sequence, rfl⟩
  carried := by simp [Slot.bind, sound.freePending free]

/-- A slot in use may take further entries of its sequence. -/
theorem push
    (sound : slot.Sound)
    (used : slot.state ≠ .free)
    {entry : QueueEntry}
    (carries : entry.request.sequence? = slot.sequence?)
    (now : Nat) :
    (slot.push entry now).Sound where
  freeSequence isFree := absurd isFree used
  freePending isFree := absurd isFree used
  freeInFlight isFree := absurd isFree used
  usedSequence := sound.usedSequence
  carried := by
    intro queued member
    rcases List.mem_append.mp member with inOld | isNew
    · exact sound.carried queued inOld
    · rw [List.mem_singleton.mp isNew]
      exact carries

/-- What is in flight on a slot may come back at any time. -/
theorem land
    (sound : slot.Sound)
    (now : Nat) :
    (slot.land now).Sound where
  freeSequence := sound.freeSequence
  freePending := sound.freePending
  freeInFlight _ := rfl
  usedSequence := sound.usedSequence
  carried := sound.carried

theorem tearDown
    (sound : slot.Sound) :
    slot.tearDown.Sound := by
  simp only [Slot.tearDown]
  split
  · exact sound
  · next used =>
      exact {
        freeSequence := by simp
        freePending := by simp
        freeInFlight := by simp
        usedSequence := fun _ => sound.usedSequence used
        carried := by simp }

end Sound

/-- A slot with nothing in flight may be vacated. -/
theorem sound_vacate
    {slot : Slot}
    (grounded : slot.inFlight? = none)
    (now : Nat) :
    (slot.vacate now).Sound where
  freeSequence _ := rfl
  freePending _ := rfl
  freeInFlight _ := grounded
  usedSequence used := absurd rfl used
  carried := by simp [vacate]

/-- What a slot gives up when it is torn down, together with the slot afterwards. -/
theorem tearDown_of_used
    {slot : Slot}
    (used : slot.state ≠ .free) :
    slot.tornDown = slot.pending ∧
      slot.tearDown = { slot with state := .ending, pending := [] } := by
  simp [tornDown, tearDown, used]

/-- Tearing down neither frees a slot nor takes a free one. -/
theorem tearDown_state
    (slot : Slot) :
    slot.tearDown.state = .free ↔ slot.state = .free := by
  simp only [tearDown]
  split
  · rfl
  · next used => simp [used]

theorem tearDown_not_active
    (slot : Slot) :
    slot.tearDown.state ≠ .active := by
  simp only [tearDown]
  split
  · next free => simp [free]
  · simp

theorem pending_tearDown_sublist
    (slot : Slot) :
    slot.tearDown.pending.Sublist slot.pending := by
  simp only [tearDown]
  split
  · exact List.Sublist.refl _
  · exact List.nil_sublist _

@[simp]
theorem tearDown_sequence
    (slot : Slot) :
    slot.tearDown.sequence? = slot.sequence? := by
  simp only [tearDown]
  split <;> rfl

@[simp]
theorem tearDown_inFlight
    (slot : Slot) :
    slot.tearDown.inFlight? = slot.inFlight? := by
  simp only [tearDown]
  split <;> rfl

@[simp]
theorem pending_push
    (slot : Slot)
    (entry : QueueEntry)
    (now : Nat) :
    (slot.push entry now).pending = slot.pending ++ [entry] :=
  rfl

@[simp]
theorem pending_bind
    (slot : Slot)
    (sequence : CorrelationId)
    (now : Nat) :
    (slot.bind sequence now).pending = slot.pending :=
  rfl

@[simp]
theorem pending_land
    (slot : Slot)
    (now : Nat) :
    (slot.land now).pending = slot.pending :=
  rfl

/-- Queue several entries behind those already pending. -/
def pushAll
    (slot : Slot)
    (entries : List QueueEntry)
    (now : Nat) :
    Slot :=
  entries.foldl (fun queued entry => queued.push entry now) slot

/-- Queueing changes only what is pending and when the slot was last used. -/
theorem pushAll_fields
    (slot : Slot)
    (entries : List QueueEntry)
    (now : Nat) :
    (slot.pushAll entries now).state = slot.state ∧
      (slot.pushAll entries now).sequence? = slot.sequence? ∧
      (slot.pushAll entries now).inFlight? = slot.inFlight? ∧
      (slot.pushAll entries now).pending = slot.pending ++ entries := by
  induction entries generalizing slot with
  | nil => simp [pushAll]
  | cons entry entries inductionHypothesis =>
      have later := inductionHypothesis (slot.push entry now)
      simpa [pushAll, push] using later

theorem Sound.pushAll
    {slot : Slot}
    (sound : slot.Sound)
    (used : slot.state ≠ .free)
    {entries : List QueueEntry}
    (carried : ∀ entry ∈ entries, entry.request.sequence? = slot.sequence?)
    (now : Nat) :
    (slot.pushAll entries now).Sound := by
  induction entries generalizing slot with
  | nil => exact sound
  | cons entry entries inductionHypothesis =>
      have carriesFirst := carried entry List.mem_cons_self
      exact inductionHypothesis (sound.push used carriesFirst now) used
        (fun other member => carried other (List.mem_cons_of_mem entry member))

/-- All that dispatching does: the head of an active slot goes into flight. -/
theorem dispatch?_shape
    {slot after : Slot}
    {now : Nat}
    {entry : QueueEntry}
    (dispatched : slot.dispatch? now = some (entry, after)) :
    slot.state = .active ∧
      slot.inFlight? = none ∧
      ∃ rest,
        slot.pending = entry :: rest ∧
          after = {
            slot with
            inFlight? := some entry.request.id
            lastActivity := now
            pending := rest
            state := if entry.request.ends then .ending else .active } := by
  simp only [dispatch?] at dispatched
  split at dispatched
  · next ready =>
      simp only [isReady, Bool.and_eq_true, decide_eq_true_eq, Option.isNone_iff_eq_none] at ready
      split at dispatched
      · contradiction
      · next head rest isPending =>
          simp only [Option.some.injEq, Prod.mk.injEq] at dispatched
          obtain ⟨isEntry, isAfter⟩ := dispatched
          subst isEntry isAfter
          refine ⟨ready.1.1, ready.1.2, rest, isPending, ?_⟩
          rw [ready.1.1]
  · contradiction

/-- A slot is in use when it is dispatched, and stays so. -/
theorem used_of_dispatch?
    {slot after : Slot}
    {now : Nat}
    {entry : QueueEntry}
    (dispatched : slot.dispatch? now = some (entry, after)) :
    slot.state ≠ .free ∧ after.state ≠ .free := by
  obtain ⟨active, _, rest, _, isAfter⟩ := dispatch?_shape dispatched
  rw [isAfter]
  dsimp only
  split <;> simp [active]

theorem Sound.dispatch
    {slot after : Slot}
    (sound : slot.Sound)
    {now : Nat}
    {entry : QueueEntry}
    (dispatched : slot.dispatch? now = some (entry, after)) :
    after.Sound := by
  obtain ⟨active, _, rest, isPending, isAfter⟩ := dispatch?_shape dispatched
  have used := (used_of_dispatch? dispatched).2
  have sameSequence : after.sequence? = slot.sequence? := by rw [isAfter]
  have isRest : after.pending = rest := by rw [isAfter]
  exact {
    freeSequence := fun isFree => absurd isFree used
    freePending := fun isFree => absurd isFree used
    freeInFlight := fun isFree => absurd isFree used
    usedSequence := fun _ => by
      rw [sameSequence]
      exact sound.usedSequence (by simp [active])
    carried := by
      intro queued member
      rw [sameSequence]
      apply sound.carried
      rw [isPending]
      exact List.mem_cons_of_mem entry (isRest ▸ member) }

end Slot

end InferenceBatching
