import InferenceBatching.Proofs.Run.Operation
import InferenceBatching.Proofs.Sequence.Admission
import InferenceBatching.Proofs.Sequence.Formation
import InferenceBatching.Proofs.Sequence.Handover
import InferenceBatching.Proofs.Sequence.Settlement

namespace InferenceBatching

/-!
# Coherent runs

An operation is made of moves, or halts an instance, or drains the batcher. What relates
a batcher to the next one at each of these relates it to what any operation leaves, and
what is kept at each of these is kept over every run.

Every operation keeps a batcher coherent, those that stop half-way included, so
every run of a new batcher reaches coherent batchers only.
-/

namespace SequenceBatcher

section Relating

variable (relation : SequenceBatcher → SequenceBatcher → Prop)
variable (refl : ∀ batcher, relation batcher batcher)
variable
  (trans :
    ∀ {first second third},
      relation first second → relation second third → relation first third)
variable
  (ofMove :
    ∀ {now activity events} {before after : SequenceBatcher},
      before.Coherent → Move now before activity events after → relation before after)
variable {batcher : SequenceBatcher}
variable (coherent : batcher.Coherent)

include refl trans ofMove coherent

theorem Moves.related
    {now : Nat}
    {activity : Activity}
    {events : List Event}
    {last : SequenceBatcher}
    (moves : Moves now batcher activity events last) :
    relation batcher last := by
  induction moves with
  | nil => exact refl batcher
  | snoc moves move inductionHypothesis =>
      exact trans inductionHypothesis (ofMove (moves.coherent coherent) move)

/-- What relates batchers at every move relates them at an operation, halting and draining apart. -/
theorem related_perform
    {operation : Operation}
    (ofHalt :
      ∀ instanceIndex,
        operation = .halt instanceIndex → relation batcher (batcher.halt instanceIndex).batcher)
    (ofDrain : operation = .drain → relation batcher batcher.drain.batcher) :
    relation batcher (batcher.perform operation) := by
  cases operation with
  | enqueue request now =>
      have admission := enqueue_admission coherent request now
      simp only [perform]
      generalize batcher.enqueue request now = answer at admission
      cases admission with
      | accepted belongs moves => exact moves.related relation refl trans ofMove coherent
      | rejected error moves => exact moves.related relation refl trans ofMove coherent
  | form instanceIndex now =>
      have phases := formBatch_phases coherent instanceIndex now
      simp only [perform]
      generalize batcher.formBatch instanceIndex now = formation at phases
      cases phases with
      | halted halted => exact refl batcher
      | live live expires onlyFailures isFailed dispatches placed =>
          exact trans (expires.related relation refl trans ofMove coherent)
            (dispatches.related relation refl trans ofMove (expires.coherent coherent))
  | complete instanceIndex records now =>
      obtain ⟨events, _, moves, _⟩ := complete_moves coherent instanceIndex records now
      exact moves.related relation refl trans ofMove coherent
  | halt instanceIndex => exact ofHalt instanceIndex rfl
  | drain => exact ofDrain rfl

end Relating

/-- Every operation keeps a batcher coherent. -/
theorem Coherent.perform
    {batcher : SequenceBatcher}
    (coherent : batcher.Coherent)
    (operation : Operation) :
    (batcher.perform operation).Coherent :=
  related_perform
    (fun before after => before.Coherent → after.Coherent)
    (fun _ before => before)
    (fun first second before => second (first before))
    (fun _ move before => move.coherent before)
    coherent
    (fun instanceIndex _ before => before.halt instanceIndex)
    (fun _ before => before.drain)
    coherent

theorem Coherent.after
    {batcher : SequenceBatcher}
    (coherent : batcher.Coherent)
    (operations : List Operation) :
    (batcher.after operations).Coherent := by
  induction operations generalizing batcher with
  | nil => exact coherent
  | cons operation operations inductionHypothesis =>
      exact inductionHypothesis (coherent.perform operation)

/-- What relates batchers at every move, halt and drain relates them over every run. -/
theorem related_after
    (relation : SequenceBatcher → SequenceBatcher → Prop)
    (refl : ∀ batcher, relation batcher batcher)
    (trans :
      ∀ {first second third},
        relation first second → relation second third → relation first third)
    (ofMove :
      ∀ {now activity events} {before after : SequenceBatcher},
        before.Coherent → Move now before activity events after → relation before after)
    (ofHalt :
      ∀ batcher instanceIndex, relation batcher (batcher.halt instanceIndex).batcher)
    (ofDrain : ∀ batcher, relation batcher batcher.drain.batcher)
    {batcher : SequenceBatcher}
    (coherent : batcher.Coherent)
    (operations : List Operation) :
    relation batcher (batcher.after operations) := by
  induction operations generalizing batcher with
  | nil => exact refl batcher
  | cons operation operations inductionHypothesis =>
      have performed : relation batcher (batcher.perform operation) :=
        related_perform relation refl trans ofMove coherent
          (fun instanceIndex _ => ofHalt batcher instanceIndex) (fun _ => ofDrain batcher)
      exact trans performed (inductionHypothesis (coherent.perform operation))

/-- Only halting an instance takes it out of service. -/
theorem live?_isSome_perform
    {batcher : SequenceBatcher}
    (coherent : batcher.Coherent)
    {operation : Operation}
    {instanceIndex : Nat}
    (notHalted : operation ≠ .halt instanceIndex) :
    ((batcher.perform operation).live? instanceIndex).isSome =
      (batcher.live? instanceIndex).isSome := by
  refine related_perform
    (fun before after =>
      (after.live? instanceIndex).isSome = (before.live? instanceIndex).isSome)
    (fun _ => rfl)
    (fun first second => second.trans first)
    (fun _ move => move.live?_isSome instanceIndex)
    coherent ?_ (fun _ => live?_isSome_drain batcher instanceIndex)
  intro halted isHalt
  have elsewhere : instanceIndex ≠ halted := fun same => notHalted (by rw [isHalt, same])
  simp only [live?_halt, if_neg elsewhere]

/-- No run adds slots or removes any. -/
theorem tableSizes_after
    {batcher : SequenceBatcher}
    (coherent : batcher.Coherent)
    (operations : List Operation) :
    (batcher.after operations).tableSizes = batcher.tableSizes :=
  related_after
    (fun before after => after.tableSizes = before.tableSizes)
    (fun _ => rfl)
    (fun first second => second.trans first)
    (fun _ move => move.tableSizes)
    tableSizes_halt
    tableSizes_drain
    coherent
    operations

section Tracing

variable (invariant : SequenceBatcher → Prop)
variable {batcher : SequenceBatcher}

/-- What holds after a run held before it, or was brought about by an operation of the run. -/
theorem before_or_caused
    (kept :
      ∀ {batcher : SequenceBatcher},
        invariant batcher → ∀ operation, invariant (batcher.perform operation))
    (property : SequenceBatcher → Prop)
    (cause : SequenceBatcher → Operation → Prop)
    (step :
      ∀ {batcher : SequenceBatcher},
        invariant batcher →
          ∀ {operation},
            property (batcher.perform operation) →
              property batcher ∨ cause batcher operation)
    (initially : invariant batcher)
    {operations : List Operation}
    (holds : property (batcher.after operations)) :
    property batcher ∨
      ∃ earlier operation later,
        operations = earlier ++ operation :: later ∧ cause (batcher.after earlier) operation := by
  induction operations generalizing batcher with
  | nil => exact Or.inl holds
  | cons operation operations inductionHypothesis =>
      rcases inductionHypothesis (kept initially operation) holds with
        performed | ⟨earlier, causing, later, isSplit, caused⟩
      · rcases step initially performed with before | caused
        · exact Or.inl before
        · exact Or.inr ⟨[], operation, operations, rfl, caused⟩
      · exact Or.inr ⟨operation :: earlier, causing, later, by rw [isSplit]; rfl, caused⟩

/-- What holds before a run holds after it, or was brought to an end by an operation of the run. -/
theorem after_or_ended
    (kept :
      ∀ {batcher : SequenceBatcher},
        invariant batcher → ∀ operation, invariant (batcher.perform operation))
    (property : SequenceBatcher → Prop)
    (ending : SequenceBatcher → Operation → Prop)
    (step :
      ∀ {batcher : SequenceBatcher},
        invariant batcher →
        property batcher →
          ∀ operation, property (batcher.perform operation) ∨ ending batcher operation)
    (initially : invariant batcher)
    (holds : property batcher)
    (operations : List Operation) :
    property (batcher.after operations) ∨
      ∃ earlier operation later,
        operations = earlier ++ operation :: later ∧ ending (batcher.after earlier) operation := by
  by_cases still : property (batcher.after operations)
  · exact Or.inl still
  · refine Or.inr ?_
    have lost :=
      before_or_caused invariant kept (fun reached => ¬ property reached) ending ?_ initially still
    · exact lost.resolve_left (not_not_intro holds)
    · intro reached invariantly operation gone
      by_cases before : property reached
      · exact Or.inr ((step invariantly before operation).resolve_left gone)
      · exact Or.inl before

end Tracing

end SequenceBatcher

end InferenceBatching
