import InferenceBatching.Proofs.Sequence.Run

namespace InferenceBatching

/-!
# Settings of a sequence batcher

What a configuration says of inputs, queueing and times is settled when a batcher is
made. No operation changes it.
-/

namespace SequenceBatcher

/-- Another batcher has the settings of a batcher. -/
structure SharesSettings
    (batcher other : SequenceBatcher) :
    Prop where
  inputs : other.inputs = batcher.inputs
  timedOutRetention : other.timedOutRetention = batcher.timedOutRetention
  policy : other.policy = batcher.policy
  blocking : other.blocking = batcher.blocking
  idleLimit : other.idleLimit? = batcher.idleLimit?
  controlNames : other.controlNames = batcher.controlNames

namespace SharesSettings

variable {batcher other another : SequenceBatcher}

theorem refl
    (batcher : SequenceBatcher) :
    batcher.SharesSettings batcher :=
  ⟨rfl, rfl, rfl, rfl, rfl, rfl⟩

theorem trans
    (first : batcher.SharesSettings other)
    (second : other.SharesSettings another) :
    batcher.SharesSettings another where
  inputs := second.inputs.trans first.inputs
  timedOutRetention := second.timedOutRetention.trans first.timedOutRetention
  policy := second.policy.trans first.policy
  blocking := second.blocking.trans first.blocking
  idleLimit := second.idleLimit.trans first.idleLimit
  controlNames := second.controlNames.trans first.controlNames

theorem halt
    (batcher : SequenceBatcher)
    (instanceIndex : Nat) :
    batcher.SharesSettings (batcher.halt instanceIndex).batcher := by
  rw [halt_eq]
  exact ⟨rfl, rfl, rfl, rfl, rfl, rfl⟩

theorem drain
    (batcher : SequenceBatcher) :
    batcher.SharesSettings batcher.drain.batcher :=
  ⟨rfl, rfl, rfl, rfl, rfl, rfl⟩

theorem move
    {now : Nat}
    {activity : Activity}
    {events : List Event}
    (move : Move now batcher activity events other) :
    batcher.SharesSettings other := by
  cases move <;> exact ⟨rfl, rfl, rfl, rfl, rfl, rfl⟩

/-- No operation changes the settings. -/
theorem perform
    (coherent : batcher.Coherent)
    (operation : Operation) :
    batcher.SharesSettings (batcher.perform operation) :=
  related_perform SharesSettings refl trans (fun _ made => move made) coherent
    (fun instanceIndex _ => halt batcher instanceIndex) (fun _ => drain batcher)

theorem after
    (coherent : batcher.Coherent)
    (operations : List Operation) :
    batcher.SharesSettings (batcher.after operations) :=
  related_after SharesSettings refl trans (fun _ made => move made) halt drain coherent operations

end SharesSettings

end SequenceBatcher

end InferenceBatching
