import InferenceBatching.Proofs.Run.Deadlines
import InferenceBatching.Proofs.Sequence.Reports
import InferenceBatching.Service.Step

namespace InferenceBatching

/-!
# Workers and their instances

The worker of an instance and the batcher agree on whether the instance is in
service and on the batch that is out on it. So no report of a worker is ever
refused. Once requests are turned away for good, nothing waits in the batcher.
-/

namespace Batcher

variable {batcher : Batcher}

theorem isLive_perform
    (coherent : batcher.Coherent)
    {operation : Operation}
    {instanceIndex : Nat}
    (notHalted : operation ≠ .halt instanceIndex) :
    (batcher.perform operation).isLive instanceIndex = batcher.isLive instanceIndex := by
  cases batcher with
  | sequence batcher =>
      rw [perform_sequence]
      have sameLive := SequenceBatcher.live?_isSome_perform coherent.lanes notHalted
      rwa [← coherent.lanes_perform] at sameLive
  | dynamic batcher =>
      obtain ⟨last, isLast⟩ := perform_dynamic batcher operation
      rw [isLast]
      rfl

/-- Nothing waits again unless it is let in. -/
theorem pendingEntries_perform
    (coherent : batcher.Coherent)
    (nothing : batcher.pendingEntries = [])
    {operation : Operation}
    (letsIn : batcher.admittedBy operation = []) :
    (batcher.perform operation).pendingEntries = [] := by
  obtain ⟨gone, isSplit⟩ := perform_perm coherent operation
  rw [nothing, letsIn, List.append_nil] at isSplit
  exact (List.append_eq_nil_iff.mp (List.append_eq_nil_iff.mp isSplit.nil_eq.symm).1).1

theorem isLive_ofConfig
    (config : ModelConfig)
    (start entryBytes : Nat)
    {instanceIndex : Nat}
    (inRange : instanceIndex < config.instanceCount) :
    (ofConfig config start entryBytes).isLive instanceIndex = true := by
  unfold ofConfig
  cases config.kind with
  | dynamic => rfl
  | sequence =>
      have inInstances : instanceIndex < max config.instanceCount 1 := by omega
      simp [isLive, SequenceBatcher.live?, BacklogBatcher.ofConfig, SequenceBatcher.ofConfigWith,
        inInstances, Option.filter]

/-- A batch is out on an instance. Dynamic batchers keep no account of it. -/
def Awaits
    (batcher : Batcher)
    (instanceIndex : Nat)
    (batch : Batch) :
    Prop :=
  match batcher with
  | .dynamic _ => True
  | .sequence batcher => batch.instanceIndex = instanceIndex ∧ batcher.lanes.Awaits batch

section Awaits

variable {instanceIndex now : Nat}
variable {batch : Batch}

theorem Awaits.perform
    (awaits : batcher.Awaits instanceIndex batch)
    (coherent : batcher.Coherent)
    {operation : Operation}
    (notReported : ∀ records now, operation ≠ .complete instanceIndex records now) :
    (batcher.perform operation).Awaits instanceIndex batch := by
  cases batcher with
  | sequence batcher =>
      obtain ⟨isInstance, awaits⟩ := awaits
      rw [perform_sequence]
      refine ⟨isInstance, ?_⟩
      rw [BacklogBatcher.Coherent.lanes_perform coherent]
      refine awaits.perform coherent.lanes operation ?_
      intro reported records now isReport same
      rw [same, isInstance] at isReport
      exact notReported records now isReport
  | dynamic batcher =>
      obtain ⟨last, isLast⟩ := perform_dynamic batcher operation
      rw [isLast]
      trivial

theorem awaits_attempt
    (coherent : batcher.Coherent)
    (formed : batch ∈ (batcher.attempt instanceIndex now).batch?) :
    (batcher.attempt instanceIndex now).batcher.Awaits instanceIndex batch := by
  cases batcher with
  | sequence batcher =>
      have mirrors := BacklogBatcher.Coherent.formBatch coherent instanceIndex now
      have formedByLanes : batch ∈ (batcher.lanes.formBatch instanceIndex now).batch? :=
        mirrors.batch ▸ formed
      refine ⟨(SequenceBatcher.formBatch_placed coherent.lanes formedByLanes).1, ?_⟩
      rw [mirrors.batcher.lanes_eq]
      exact SequenceBatcher.awaits_formed coherent.lanes formedByLanes
  | dynamic batcher =>
      obtain ⟨last, isLast⟩ := perform_dynamic batcher (.form instanceIndex now)
      simp only [Batcher.perform] at isLast
      rw [isLast]
      trivial

/-- No report of a batch that is out on a live instance is refused. -/
theorem Awaits.settled
    (awaits : batcher.Awaits instanceIndex batch)
    (coherent : batcher.Coherent)
    (live : batcher.isLive instanceIndex = true)
    (now : Nat) :
    ∃ failures,
      (batcher.complete instanceIndex batch.records now).verdict = .settled failures := by
  cases batcher with
  | dynamic batcher => exact ⟨[], rfl⟩
  | sequence batcher =>
      obtain ⟨isInstance, awaits⟩ := awaits
      subst isInstance
      obtain ⟨failures, isSettled⟩ := awaits.settled coherent.lanes live now
      refine ⟨failures, ?_⟩
      rw [← isSettled]
      exact
        (BacklogBatcher.Coherent.complete coherent batch.instanceIndex batch.records now).verdict

end Awaits

end Batcher

namespace Activity

/-- The batch with which a worker is entrusted. -/
def batch? :
    Activity →
    Option Batch
  | .failing _ batch? => batch?
  | .executing batch _ => some batch
  | .returned batch _ _ => some batch
  | _ => none

/-- The batch that the backend of a worker has to answer. -/
def executing? :
    Activity →
    Option Batch
  | .executing batch _ => some batch
  | _ => none

/-- Whether a worker takes no more work. -/
def isLeaving :
    Activity →
    Bool
  | .abandoning _ => true
  | .stopped => true
  | _ => false

end Activity

/-- A worker agrees with the batcher on its instance. -/
structure Worker.Fits
    (worker : Worker)
    (batcher : Batcher)
    (instanceIndex : Nat) :
    Prop where
  live : worker.isHalted = false → batcher.isLive instanceIndex = true
  leaving : worker.isHalted = true → worker.activity.isLeaving = true
  entrusted : ∀ batch ∈ worker.activity.batch?, batcher.Awaits instanceIndex batch

/-- A worker goes on agreeing through operations that are not its own. -/
theorem Worker.Fits.perform
    {worker : Worker}
    {batcher : Batcher}
    {instanceIndex : Nat}
    (fits : worker.Fits batcher instanceIndex)
    (coherent : batcher.Coherent)
    {operation : Operation}
    (notHalted : operation ≠ .halt instanceIndex)
    (notReported : ∀ records now, operation ≠ .complete instanceIndex records now) :
    worker.Fits (batcher.perform operation) instanceIndex where
  live inService := by
    rw [Batcher.isLive_perform coherent notHalted]
    exact fits.live inService
  leaving := fits.leaving
  entrusted batch isBatch := (fits.entrusted batch isBatch).perform coherent notReported

namespace Service

variable {service changed : Service}
variable {instanceIndex now : Nat}
variable {old new : Activity}

/-- A worker that has not stopped is one of the workers. -/
theorem worker_of_activity
    (isOld : service.activity instanceIndex = old)
    (working : old ≠ .stopped) :
    ∃ worker, service.workers[instanceIndex]? = some worker ∧ worker.activity = old := by
  unfold activity at isOld
  split at isOld
  · next worker isWorker => exact ⟨worker, isWorker, isOld⟩
  · exact absurd isOld.symm working

theorem getElem?_withActivity
    (service : Service)
    (instanceIndex : Nat)
    (new : Activity)
    (other : Nat) :
    (service.withActivity instanceIndex new).workers[other]? =
      if other = instanceIndex then
        service.workers[other]?.map (fun worker => { worker with activity := new })
      else
        service.workers[other]? := by
  simp only [withActivity, List.getElem?_modify]
  by_cases same : instanceIndex = other
  · simp [same]
  · simp [same, Ne.symm same]

theorem liveCount_eq
    (service : Service) :
    service.liveCount = (service.workers.map Worker.isHalted).count false := by
  rw [liveCount, ← List.countP_eq_length_filter, List.count, List.countP_map]
  apply List.countP_congr
  intro worker _
  simp

@[simp]
theorem liveCount_withActivity
    (service : Service)
    (instanceIndex : Nat)
    (new : Activity) :
    (service.withActivity instanceIndex new).liveCount = service.liveCount := by
  simp only [liveCount_eq, withActivity]
  congr 1
  apply List.ext_getElem?
  intro other
  simp only [List.getElem?_map, List.getElem?_modify]
  split <;> cases service.workers[other]? <;> rfl

theorem isReady_eq_false :
    service.isReady = false ↔ service.isShutDown = true ∨ service.liveCount = 0 := by
  simp only [isReady, Bool.and_eq_false_iff, Bool.not_eq_false', decide_eq_false_iff_not,
    Nat.not_lt, Nat.le_zero_eq]

@[simp]
theorem isReady_withActivity
    (service : Service)
    (instanceIndex : Nat)
    (new : Activity) :
    (service.withActivity instanceIndex new).isReady = service.isReady := by
  simp only [isReady, liveCount_withActivity]
  rfl

/-- Taking an instance out of service brings none back. -/
theorem liveCount_markHalted_le
    (service : Service)
    (instanceIndex : Nat) :
    (service.markHalted instanceIndex).liveCount ≤ service.liveCount := by
  simp only [liveCount, markHalted]
  generalize service.workers = workers
  induction workers generalizing instanceIndex with
  | nil => simp
  | cons worker workers inductionHypothesis =>
      cases instanceIndex with
      | zero =>
          simp only [List.modify_zero_cons, List.filter_cons]
          cases worker.isHalted <;> simp
      | succ instanceIndex =>
          have fewer := inductionHypothesis instanceIndex
          simp only [List.modify_succ_cons, List.filter_cons]
          split <;> simp [fewer]

/-- Every worker agrees with the batcher, and nothing waits that nobody could ever run. -/
structure Sound
    (service : Service) :
    Prop where
  coherent : service.batcher.Coherent
  workers :
    ∀ (index : Nat) (worker : Worker),
      service.workers[index]? = some worker → worker.Fits service.batcher index
  closed : service.isReady = false → service.batcher.pendingEntries = []

namespace Sound

/-- A worker that takes work is not halted. -/
theorem inService
    (sound : service.Sound)
    (working : (service.activity instanceIndex).isLeaving = false)
    {worker : Worker}
    (isWorker : service.workers[instanceIndex]? = some worker) :
    worker.isHalted = false := by
  simp only [activity, isWorker] at working
  cases isHalted : worker.isHalted with
  | false => rfl
  | true =>
      rw [(sound.workers _ worker isWorker).leaving isHalted] at working
      contradiction

/-- What is not said of the batcher, the workers and the shutdown does not matter. -/
theorem finish
    (sound : service.Sound)
    (delivery : Delivery) :
    (service.finish delivery).Sound :=
  ⟨sound.coherent, sound.workers, sound.closed⟩

theorem withCompletions
    (sound : service.Sound)
    (completions : List Completion) :
    { service with completions := completions }.Sound :=
  ⟨sound.coherent, sound.workers, sound.closed⟩

/-- A worker goes on without the batcher, with the batch it has or with none. -/
theorem withActivity
    (sound : service.Sound)
    (isOld : service.activity instanceIndex = old)
    (sameBatch : ∀ batch ∈ new.batch?, batch ∈ old.batch?)
    (stillLeaving : old.isLeaving = true → new.isLeaving = true) :
    (service.withActivity instanceIndex new).Sound where
  coherent := sound.coherent
  workers := by
    intro index worker isWorker
    rw [getElem?_withActivity] at isWorker
    split at isWorker
    · next isOwn =>
        subst isOwn
        obtain ⟨before, isBefore, isAfter⟩ := Option.map_eq_some_iff.mp isWorker
        subst isAfter
        have fits := sound.workers index before isBefore
        simp only [activity, isBefore] at isOld
        exact {
          live := fits.live
          leaving := fun isHalted => stillLeaving (isOld ▸ fits.leaving isHalted)
          entrusted := fun batch isBatch =>
            fits.entrusted batch (isOld ▸ sameBatch batch isBatch) }
    · exact sound.workers index worker isWorker
  closed := by
    intro notReady
    rw [isReady_withActivity] at notReady
    exact sound.closed notReady

/-- An operation on behalf of no worker leaves every worker in agreement. -/
theorem perform
    (sound : service.Sound)
    {operation : Operation}
    (isBatcher : changed.batcher = service.batcher.perform operation)
    (sameWorkers : changed.workers = service.workers)
    (notHalted : ∀ index, operation ≠ .halt index)
    (notReported : ∀ index records now, operation ≠ .complete index records now)
    (closed : changed.isReady = false → changed.batcher.pendingEntries = []) :
    changed.Sound where
  coherent := isBatcher ▸ sound.coherent.perform operation
  workers := by
    intro index worker isWorker
    rw [sameWorkers] at isWorker
    rw [isBatcher]
    exact (sound.workers index worker isWorker).perform sound.coherent (notHalted index)
      (notReported index)
  closed := closed

/-- A worker that takes work has the batcher form a batch, or reports one. -/
theorem act
    (sound : service.Sound)
    (working : (service.activity instanceIndex).isLeaving = false)
    {operation : Operation}
    (isBatcher : changed.batcher = service.batcher.perform operation)
    (sameWorkers : changed.workers = service.workers)
    (sameShutDown : changed.isShutDown = service.isShutDown)
    (letsIn : service.batcher.admittedBy operation = [])
    (notHalted : ∀ index, operation ≠ .halt index)
    (ownReport :
      ∀ index records now,
        operation = .complete index records now → index = instanceIndex)
    (entrusted : ∀ batch ∈ new.batch?, changed.batcher.Awaits instanceIndex batch) :
    (changed.withActivity instanceIndex new).Sound where
  coherent := by
    change changed.batcher.Coherent
    exact isBatcher ▸ sound.coherent.perform operation
  workers := by
    intro index worker isWorker
    rw [getElem?_withActivity, sameWorkers] at isWorker
    change worker.Fits changed.batcher index
    split at isWorker
    · next isOwn =>
        subst isOwn
        obtain ⟨before, isBefore, isAfter⟩ := Option.map_eq_some_iff.mp isWorker
        subst isAfter
        have inService := sound.inService working isBefore
        refine ⟨?_, ?_, entrusted⟩
        · intro _
          rw [isBatcher, Batcher.isLive_perform sound.coherent (notHalted index)]
          exact (sound.workers index before isBefore).live inService
        · intro isHalted
          exact absurd (isHalted.symm.trans inService) (by decide)
    · next elsewhere =>
        rw [isBatcher]
        exact (sound.workers index worker isWorker).perform sound.coherent (notHalted index)
          (fun records now isReport => elsewhere (ownReport index records now isReport))
  closed := by
    intro notReady
    have stillNotReady : service.isReady = false := by
      rw [isReady_withActivity] at notReady
      unfold isReady liveCount at notReady ⊢
      rw [← sameShutDown, ← sameWorkers]
      exact notReady
    change changed.batcher.pendingEntries = []
    rw [isBatcher]
    exact Batcher.pendingEntries_perform sound.coherent (sound.closed stillNotReady) letsIn

/-- A look for work that panics, or fails, or finds a batch. -/
theorem look
    (sound : service.Sound)
    (working : (service.activity instanceIndex).isLeaving = false)
    (now : Nat) :
    (service.look instanceIndex now).Sound := by
  unfold Service.look
  split
  · exact sound.withActivity rfl (by simp [Activity.batch?]) (fun _ => rfl)
  · have forms :
        ∀ (changed : Service) (new : Activity),
          changed.batcher = service.batcher.perform (.form instanceIndex now) →
          changed.workers = service.workers →
          changed.isShutDown = service.isShutDown →
          (∀ batch ∈ new.batch?, changed.batcher.Awaits instanceIndex batch) →
          (changed.withActivity instanceIndex new).Sound :=
      fun changed new isBatcher sameWorkers sameShutDown entrusted =>
        sound.act working isBatcher sameWorkers sameShutDown rfl (by simp) (by simp) entrusted
    split
    · next lost overreaches =>
        refine forms _ _ ?_ rfl rfl (by simp [Activity.batch?])
        simp [Batcher.perform, Batcher.attempt, overreaches, Formation.idle, lose]
    · next room =>
        have isAttempt :
            service.batcher.attempt instanceIndex now =
              service.batcher.formBatch instanceIndex now := by
          simp [Batcher.attempt, room]
        dsimp only
        refine forms _ _ ?_ rfl rfl ?_
        · simp [Batcher.perform, isAttempt]
        · intro batch isBatch
          change (service.batcher.formBatch instanceIndex now).batcher.Awaits _ _
          rw [← isAttempt]
          apply Batcher.awaits_attempt sound.coherent
          rw [isAttempt]
          split at isBatch
          · exact isBatch
          · contradiction

theorem report
    (sound : service.Sound)
    (working : (service.activity instanceIndex).isLeaving = false)
    (batch : Batch)
    (answer : BackendAnswer)
    (computed now : Nat) :
    (service.report instanceIndex batch answer computed now).Sound := by
  have isReported :
      (service.batcher.complete instanceIndex batch.records now).batcher =
        service.batcher.perform (.complete instanceIndex batch.records now) :=
    rfl
  refine sound.act working isReported rfl rfl rfl (by simp) ?_ ?_
  · intro index records instant isReport
    cases isReport
    rfl
  · intro other isBatch
    split at isBatch <;> contradiction

/-- A worker retires and leaves a batcher in which the others find their instances as before. -/
private theorem retire
    (sound : service.Sound)
    {last : Batcher}
    (coherent : last.Coherent)
    (othersFit :
      ∀ (index : Nat) (worker : Worker),
        index ≠ instanceIndex → worker.Fits service.batcher index → worker.Fits last index)
    (closed : (service.markHalted instanceIndex).isReady = false → last.pendingEntries = [])
    {failures : List Failure} :
    ({ service.markHalted instanceIndex with batcher := last }.withActivity instanceIndex
      (.abandoning failures)).Sound where
  coherent := coherent
  workers := by
    intro index worker isWorker
    rw [getElem?_withActivity] at isWorker
    simp only [markHalted, List.getElem?_modify] at isWorker
    change worker.Fits last index
    split at isWorker
    · next isOwn =>
        subst isOwn
        obtain ⟨marked, isMarked, isAfter⟩ := Option.map_eq_some_iff.mp isWorker
        obtain ⟨before, _, isBefore⟩ := Option.map_eq_some_iff.mp isMarked
        subst isAfter isBefore
        exact ⟨by simp, fun _ => rfl, by simp [Activity.batch?]⟩
    · next elsewhere =>
        have isBefore : service.workers[index]? = some worker := by
          simpa [Ne.symm elsewhere] using isWorker
        exact othersFit index worker elsewhere (sound.workers index worker isBefore)
  closed := by
    intro notReady
    rw [isReady_withActivity] at notReady
    exact closed notReady

theorem haltInstance
    (sound : service.Sound)
    (instanceIndex : Nat)
    (fault : Fault) :
    (service.haltInstance instanceIndex fault).Sound := by
  have orphans := sound.coherent.perform (.halt instanceIndex)
  have othersFit :
      ∀ (index : Nat) (worker : Worker),
        index ≠ instanceIndex →
          worker.Fits service.batcher index →
            worker.Fits (service.batcher.perform (.halt instanceIndex)) index := by
    intro index worker elsewhere fits
    apply fits.perform sound.coherent
    · intro same
      cases same
      exact elsewhere rfl
    · intro records now isReport
      contradiction
  unfold Service.haltInstance
  dsimp only
  split
  · -- The last instance takes along what waits for any of them.
    refine sound.retire (orphans.perform .drain) ?_ (fun _ => (Batcher.drain_pending orphans).2)
    intro index worker elsewhere fits
    exact (othersFit index worker elsewhere fits).perform orphans (by simp) (by simp)
  · next live =>
      refine sound.retire orphans othersFit ?_
      intro notReady
      apply Batcher.pendingEntries_perform sound.coherent _ rfl
      apply sound.closed
      exact isReady_eq_false.mpr (Or.inl ((isReady_eq_false.mp notReady).resolve_right live))

theorem advance
    (sound : service.Sound)
    (instanceIndex now : Nat) :
    (service.advance instanceIndex now).Sound := by
  unfold Service.advance
  split
  · next isOld => exact sound.look (by rw [isOld]; rfl) now
  · next failure rest batch? isOld =>
      exact (sound.finish failure.toDelivery).withActivity isOld (fun _ => id) id
  · next batch isOld => exact sound.withActivity isOld (fun _ => id) id
  · next isOld => exact sound.withActivity isOld (fun _ => id) id
  · exact sound
  · next batch answer computed isOld =>
      exact sound.report (by rw [isOld]; rfl) batch answer computed now
  · next delivery rest fault? isOld =>
      exact (sound.finish delivery).withActivity isOld (fun _ => id) id
  · next fault isOld => exact sound.withActivity isOld (fun _ => id) id
  · next isOld => exact sound.withActivity isOld (fun _ => id) id
  · next fault isOld => exact sound.haltInstance instanceIndex fault
  · next failure rest isOld =>
      exact (sound.finish failure.toDelivery).withActivity isOld (fun _ => id) id
  · next isOld => exact sound.withActivity isOld (fun _ => id) id
  · exact sound

theorem answer
    (sound : service.Sound)
    (instanceIndex : Nat)
    (answer : BackendAnswer)
    (now : Nat) :
    (service.answer instanceIndex answer now).Sound := by
  unfold Service.answer
  split
  · next batch since isOld =>
      have counted :
          Sound { service with
            statistics := service.statistics.countBatch batch.requestCount (elapsed since now) } :=
        ⟨sound.coherent, sound.workers, sound.closed⟩
      exact counted.withActivity isOld (fun _ => id) id
  · exact sound

theorem submit
    (sound : service.Sound)
    (request : Request)
    (now : Nat) :
    (service.submit request now).1.Sound := by
  unfold Service.submit
  split
  · exact ⟨sound.coherent, sound.workers, sound.closed⟩
  · split
    · next ready =>
        have letIn :
            ∀ changed : Service,
              changed.batcher = service.batcher.perform (.enqueue request now) →
              changed.workers = service.workers →
              changed.isReady = service.isReady →
              changed.Sound := by
          intro changed isBatcher sameWorkers sameReady
          refine sound.perform isBatcher sameWorkers (by simp) (by simp) ?_
          intro notReady
          rw [sameReady, ready] at notReady
          contradiction
        dsimp only
        split
        · exact letIn _ rfl rfl rfl
        · exact letIn _ rfl rfl rfl
    · exact ⟨sound.coherent, sound.workers, sound.closed⟩

theorem shutDown
    (sound : service.Sound) :
    service.shutDown.Sound := by
  unfold Service.shutDown
  split
  · exact sound
  · have isDrained : service.batcher.drain.batcher = service.batcher.perform .drain := rfl
    exact sound.perform isDrained rfl (by simp) (by simp)
      (fun _ => (Batcher.drain_pending sound.coherent).2)

theorem finishCaller
    (sound : service.Sound)
    (position : Nat) :
    (service.finishCaller position).Sound := by
  unfold Service.finishCaller
  split
  · exact sound
  · exact ⟨sound.coherent, sound.workers, sound.closed⟩

end Sound

/-- A new service has all its workers waiting and nothing else. -/
theorem sound_start
    {config : ModelConfig}
    {start entryBytes : Nat}
    (started : Service.start config start entryBytes = .ok service) :
    service.Sound := by
  unfold Service.start at started
  split at started
  · contradiction
  · cases started
    have isNew := Batcher.ofConfig_eq_ofKind config start entryBytes
    refine ⟨?_, ?_, ?_⟩
    · rw [isNew]
      exact Batcher.coherent_ofKind config start config.kind entryBytes
    · intro index worker isWorker
      obtain ⟨inRange, isNewWorker⟩ := List.getElem?_eq_some_iff.mp isWorker
      rw [List.getElem_replicate] at isNewWorker
      rw [List.length_replicate] at inRange
      subst isNewWorker
      refine ⟨fun _ => ?_, by simp, by simp [Activity.batch?]⟩
      exact Batcher.isLive_ofConfig config start entryBytes inRange
    · intro _
      rw [isNew]
      exact Batcher.pendingEntries_ofKind config start config.kind entryBytes

section Closed

variable (service)

theorem isReady_haltInstance
    (instanceIndex : Nat)
    (fault : Fault)
    (notReady : service.isReady = false) :
    (service.haltInstance instanceIndex fault).isReady = false := by
  have fewer := liveCount_markHalted_le service instanceIndex
  rw [haltInstance, isReady_withActivity]
  change (service.markHalted instanceIndex).isReady = false
  rw [isReady_eq_false] at notReady ⊢
  rcases notReady with isShutDown | nobody
  · exact Or.inl isShutDown
  · exact Or.inr (by omega)

/-- A service that takes no more requests never takes any again. -/
theorem isReady_advance
    (instanceIndex now : Nat)
    (notReady : service.isReady = false) :
    (service.advance instanceIndex now).isReady = false := by
  have goesOn :
      ∀ (changed : Service) (new : Activity),
        changed.isReady = service.isReady →
        (changed.withActivity instanceIndex new).isReady = false := by
    intro changed new sameReady
    rw [isReady_withActivity, sameReady, notReady]
  unfold advance
  split
  · unfold look
    split
    · exact goesOn _ _ rfl
    · split <;> exact goesOn _ _ rfl
  · exact goesOn _ _ rfl
  · exact goesOn _ _ rfl
  · exact goesOn _ _ rfl
  · exact notReady
  · exact goesOn _ _ rfl
  · exact goesOn _ _ rfl
  · exact goesOn _ _ rfl
  · exact goesOn _ _ rfl
  · exact service.isReady_haltInstance instanceIndex _ notReady
  · exact goesOn _ _ rfl
  · exact goesOn _ _ rfl
  · exact notReady

theorem isReady_submit
    (request : Request)
    (now : Nat)
    (notReady : service.isReady = false) :
    (service.submit request now).1.isReady = false := by
  unfold submit
  split
  · exact notReady
  · simp only [notReady]
    exact notReady

theorem isReady_finishCaller
    (position : Nat)
    (notReady : service.isReady = false) :
    (service.finishCaller position).isReady = false := by
  unfold finishCaller
  split <;> exact notReady

theorem isReady_answer
    (instanceIndex : Nat)
    (answer : BackendAnswer)
    (now : Nat)
    (notReady : service.isReady = false) :
    (service.answer instanceIndex answer now).isReady = false := by
  unfold Service.answer
  split
  · rw [isReady_withActivity]
    exact notReady
  · exact notReady

theorem isReady_shutDown :
    service.shutDown.isReady = false := by
  unfold shutDown
  split
  · next isShutDown => simp [isReady, isShutDown]
  · rfl

end Closed

end Service

end InferenceBatching
