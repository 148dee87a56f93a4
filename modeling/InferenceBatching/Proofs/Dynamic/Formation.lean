import InferenceBatching.Proofs.Run.Operation

namespace InferenceBatching

/-!
# Formations step by step

A formation takes out what has expired. Then either no batch is due, and it notes what
the instance is doing, or it closes a batch of some size. An attempt may be broken off
between the two. So what holds of each of these outcomes holds of every formation.
-/

namespace DynamicBatcher

variable {batcher : DynamicBatcher}
variable {instanceIndex now : Nat}

/-- When room for a batch cannot be made, what has expired has been taken out and no more. -/
theorem takeExpired_of_overreach
    {lost : Handover DynamicBatcher}
    (overreaches : batcher.overreach? now = some lost) :
    batcher.takeExpired now = lost := by
  unfold overreach? at overreaches
  dsimp only at overreaches
  split at overreaches
  · contradiction
  · split at overreaches
    · contradiction
    · split at overreaches
      · exact Option.some.inj overreaches
      · contradiction

section Cases

variable {motive : Formation DynamicBatcher → Prop}
variable
  (idle :
    ∀ phase wakeAt?,
      motive (.idle ((batcher.takeExpired now).batcher.enterPhase instanceIndex phase)
        (Failure.all (batcher.takeExpired now).requests .timeoutExpired) wakeAt?))
variable
  (closes :
    ∀ limit,
      motive ((batcher.takeExpired now).batcher.close instanceIndex limit
        (Failure.all (batcher.takeExpired now).requests .timeoutExpired) now))

include idle closes

/-- A formation has no batch or closes one, after it took out what has expired. -/
theorem formBatch_cases :
    motive (batcher.formBatch instanceIndex now) := by
  simp only [formBatch]
  split
  · exact idle .idle none
  · split
    · next limit _ => exact closes limit
    · exact idle .accumulating _

/-- An attempt is broken off with what has expired taken out, or is a formation. -/
theorem attempt_cases
    (brokenOff : motive (.idle (batcher.takeExpired now).batcher [] none)) :
    motive (batcher.attempt instanceIndex now) := by
  rw [attempt]
  cases overreaches : batcher.overreach? now with
  | some lost => exact takeExpired_of_overreach overreaches ▸ brokenOff
  | none => exact formBatch_cases idle closes

end Cases

end DynamicBatcher

end InferenceBatching
