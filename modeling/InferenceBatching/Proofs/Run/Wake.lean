import InferenceBatching.Proofs.Run.Deadlines
import InferenceBatching.Proofs.Run.Settings
import InferenceBatching.Proofs.Sequence.Rest

namespace InferenceBatching

/-!
# Wake times

An instance that gets no batch is told when to try again if nothing else happens,
and what other instances try in the meantime does not count as happening. Until the
wake time it would get no batch and find nothing to fail, so no sleep is too long.
-/

namespace Batcher

variable {batcher : Batcher}

/-- A dynamic batcher fills its batches with at least one request. -/
def FillsSome :
    Batcher →
    Prop
  | .dynamic batcher => batcher.FillsSome
  | .sequence _ => True

theorem FillsSome.perform
    (fillsSome : batcher.FillsSome)
    (operation : Operation) :
    (batcher.perform operation).FillsSome := by
  cases batcher with
  | sequence batcher => cases operation <;> trivial
  | dynamic batcher =>
      rw [perform_dynamic_eq]
      exact (DynamicBatcher.SharesSettings.perform batcher operation).fillsSome fillsSome

theorem FillsSome.after
    (fillsSome : batcher.FillsSome)
    (operations : List Operation) :
    (batcher.after operations).FillsSome := by
  induction operations generalizing batcher with
  | nil => exact fillsSome
  | cons operation operations inductionHypothesis =>
      exact inductionHypothesis (fillsSome.perform operation)

theorem fillsSome_ofConfig
    {config : ModelConfig}
    (valid : config.validate = .ok ())
    (start : Nat) :
    (ofConfig config start).FillsSome := by
  unfold ofConfig
  cases config.kind with
  | sequence => trivial
  | dynamic => exact DynamicBatcher.fillsSome_ofConfig valid _

/-- An instance has nothing to do during a window. -/
def Resting
    (batcher : Batcher)
    (instanceIndex : Nat)
    (window : Nat → Prop) :
    Prop :=
  match batcher with
  | .dynamic batcher => batcher.Resting window
  | .sequence batcher => batcher.lanes.Resting instanceIndex window

section Resting

variable {instanceIndex other now : Nat}
variable {window : Nat → Prop}

/-- What another instance tries within the window leaves an instance at rest. -/
theorem Resting.attempt
    (coherent : batcher.Coherent)
    (resting : batcher.Resting instanceIndex window)
    (distinct : other ≠ instanceIndex)
    (inWindow : window now) :
    (batcher.attempt other now).batcher.Resting instanceIndex window := by
  cases batcher with
  | sequence batcher =>
      have held : batcher.Coherent := coherent
      have rests := SequenceBatcher.Resting.form resting held.lanes distinct.symm inWindow
      rwa [← (held.formBatch other now).batcher.lanes_eq] at rests
  | dynamic batcher =>
      rw [attempt_of_room (DynamicBatcher.Resting.formBatch_idle resting other inWindow).1]
      exact DynamicBatcher.Resting.form resting other inWindow

/-- An instance at rest gets no batch, fails nothing, and is not short of room. -/
theorem Resting.formBatch_idle
    (coherent : batcher.Coherent)
    (resting : batcher.Resting instanceIndex window)
    (inWindow : window now) :
    batcher.overreach? now = none ∧
      (batcher.formBatch instanceIndex now).batch? = none ∧
      (batcher.formBatch instanceIndex now).failed = [] := by
  cases batcher with
  | sequence batcher =>
      have held : batcher.Coherent := coherent
      have mirrors := held.formBatch instanceIndex now
      obtain ⟨noBatch, noFailure⟩ := SequenceBatcher.Resting.formBatch_idle resting inWindow
      have sameFailed := mirrors.failed
      rw [noFailure] at sameFailed
      exact ⟨rfl, mirrors.batch.trans noBatch, sameFailed.eq_nil⟩
  | dynamic batcher =>
      obtain ⟨room, phase, wakeAt?, isIdle⟩ :=
        DynamicBatcher.Resting.formBatch_idle resting instanceIndex inWindow
      simp only [overreach?, room, formBatch, isIdle]
      exact ⟨rfl, rfl, rfl⟩

/-- An instance stays at rest through whatever others try within the window. -/
theorem Resting.after
    (coherent : batcher.Coherent)
    (resting : batcher.Resting instanceIndex window)
    {calls : List (Nat × Nat)}
    (elsewhere : ∀ call ∈ calls, call.1 ≠ instanceIndex ∧ window call.2) :
    (batcher.after (calls.map (fun call => .form call.1 call.2))).Resting instanceIndex
      window := by
  induction calls generalizing batcher with
  | nil => exact resting
  | cons call calls inductionHypothesis =>
      obtain ⟨distinct, inWindow⟩ := elsewhere call List.mem_cons_self
      exact inductionHypothesis (coherent.perform (.form call.1 call.2))
        (resting.attempt coherent distinct inWindow)
        (fun later member => elsewhere later (List.mem_cons_of_mem call member))

/-- An instance that gets no batch is at rest until the wake time, which is to come. -/
theorem resting_formBatch
    (coherent : batcher.Coherent)
    (fillsSome : batcher.FillsSome)
    (live : batcher.isLive instanceIndex = true)
    (noBatch : (batcher.formBatch instanceIndex now).batch? = none) :
    let formation := batcher.formBatch instanceIndex now
    (∀ wakeAt ∈ formation.wakeAt?, now < wakeAt) ∧
      formation.batcher.Coherent ∧
      formation.batcher.Resting instanceIndex (fun instant =>
        ∀ wakeAt ∈ formation.wakeAt?, instant < wakeAt) := by
  cases batcher with
  | sequence batcher =>
      have held : batcher.Coherent := coherent
      have mirrors := held.formBatch instanceIndex now
      have sameWake : (batcher.formBatch instanceIndex now).wakeAt? = _ := mirrors.wakeAt
      obtain ⟨toCome, resting⟩ :=
        SequenceBatcher.resting_formBatch held.lanes live (mirrors.batch.symm.trans noBatch)
      rw [← mirrors.batcher.lanes_eq] at resting
      rw [← sameWake] at toCome resting
      exact ⟨toCome, coherent.perform (.form instanceIndex now), resting⟩
  | dynamic batcher =>
      obtain ⟨toCome, resting⟩ :=
        DynamicBatcher.resting_formBatch fillsSome noBatch
      exact ⟨toCome, trivial, resting⟩

end Resting

/--
Take any batcher that a run of an accepted configuration reaches, and a live
instance that gets no batch at some instant. The wake time, if there is one, is
still to come. Whatever other instances try before the wake time, in any number and
at any instants, the instance would get no batch at any instant before it either,
nothing would fail, and the attempt would not be broken off for want of room.
-/
theorem no_lost_wake_up
    (config : ModelConfig)
    (valid : config.validate = .ok ())
    (start : Nat)
    (operations : List Operation)
    (instanceIndex now : Nat)
    (live : ((ofConfig config start).after operations).isLive instanceIndex = true)
    (noBatch :
      (((ofConfig config start).after operations).formBatch instanceIndex now).batch? = none) :
    let formation := ((ofConfig config start).after operations).formBatch instanceIndex now
    let beforeWake := fun instant => ∀ wakeAt ∈ formation.wakeAt?, instant < wakeAt
    (∀ wakeAt ∈ formation.wakeAt?, now < wakeAt) ∧
      ∀ calls : List (Nat × Nat),
        (∀ call ∈ calls, call.1 ≠ instanceIndex ∧ beforeWake call.2) →
          ∀ instant, beforeWake instant →
            let later :=
              formation.batcher.after (calls.map (fun call => .form call.1 call.2))
            later.overreach? instant = none ∧
              (later.formBatch instanceIndex instant).batch? = none ∧
              (later.formBatch instanceIndex instant).failed = [] := by
  intro formation beforeWake
  have coherent : ((ofConfig config start).after operations).Coherent := by
    rw [ofConfig_eq_ofKind]
    exact (coherent_ofKind config start config.kind _).after operations
  have fillsSome : ((ofConfig config start).after operations).FillsSome :=
    (fillsSome_ofConfig valid start).after operations
  obtain ⟨toCome, formed, resting⟩ := resting_formBatch coherent fillsSome live noBatch
  refine ⟨toCome, ?_⟩
  intro calls elsewhere instant before later
  exact (resting.after formed elsewhere).formBatch_idle (formed.after _) before

/-- One request of four waits out its delay, also past a try of the other instance. -/
theorem no_lost_wake_up_of_two_instances :
    let config : ModelConfig :=
      { name := "model"
        maxBatchSize := 4
        instanceCount := 2
        dynamicBatching? := some { maxQueueDelay := 10 } }
    let operations : List Operation := [.enqueue { id := 1 } 0]
    let formation := ((ofConfig config 0).after operations).formBatch 0 1
    let later := formation.batcher.after [.form 1 5]
    formation.wakeAt? = some 10 ∧
      (later.formBatch 0 9).batch? = none ∧
      (later.formBatch 0 9).failed = [] ∧
      ((later.formBatch 0 10).batch?.toList.flatMap Batch.queueEntries).map
          (fun entry => entry.request.id) = [1] := by
  intro config operations formation later
  have isWake : formation.wakeAt? = some 10 := by decide
  have rests :=
    (no_lost_wake_up config (by decide) 0 operations 0 1 (by decide) (by decide)).2
      [(1, 5)] (by decide) 9 (by decide)
  exact ⟨isWake, rests.2.1, rests.2.2, by decide⟩

end Batcher

end InferenceBatching
