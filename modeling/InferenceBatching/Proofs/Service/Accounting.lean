import InferenceBatching.Proofs.Run.Sizes
import InferenceBatching.Proofs.Service.Delivery
import InferenceBatching.Proofs.Service.Tally

namespace InferenceBatching

/-!
# What the statistics account for

Whoever ends a request counts its end, and whoever has an answer from a backend counts the
batch. So the counters account for all ends and all batches, however the parties
interleave. There is one exception: a look for work that panics over a batch too large to
make room for loses what it found expired, and these ends are not counted.
-/

theorem Activity.executing?_eq_none
    {activity : Activity}
    (notExecuting : ∀ batch since, activity ≠ .executing batch since) :
    activity.executing? = none := by
  cases activity with
  | executing batch since => exact absurd rfl (notExecuting batch since)
  | waiting | failing | returned | delivering | faulted | abandoning | stopped => rfl

/-- A batch carries a request, and no more of them than a configuration has room for. -/
def Batch.Sized
    (batch : Batch)
    (config : ModelConfig) :
    Prop :=
  1 ≤ batch.requestCount ∧ batch.requestCount ≤ max config.maxBatchSize 1

namespace Service

/-- The batches whose backends have not answered yet. -/
def executing
    (service : Service) :
    List Batch :=
  service.workers.flatMap (fun worker => worker.activity.executing?.toList)

/-- The requests that the next step of a worker loses. -/
def lostBy
    (service : Service)
    (instanceIndex : Nat)
    (now : Nat) :
    List Request :=
  match service.activity instanceIndex with
  | .waiting _ =>
      if service.isShutDown then
        []
      else
        ((service.batcher.overreach? now).map Handover.requests).getD []
  | _ => []

/-- The batch that the next step of a worker hands to its backend. -/
def handedBy
    (service : Service)
    (instanceIndex : Nat) :
    List Batch :=
  match service.activity instanceIndex with
  | .failing [] batch? => batch?.toList
  | _ => []

/-- The ends of lost requests. -/
def lostEnds
    (lost : List Request) :
    List Delivery :=
  (Failure.all lost Completion.droppedError).map Failure.toDelivery

/-- The counters stand for the batches answered and for all ends but those of lost requests. -/
def Counts
    (service : Service)
    (lost : List Request)
    (answered : List Batch) :
    Prop :=
  ∃ counted : List Delivery,
    service.ended.Perm (counted ++ lostEnds lost) ∧
      service.statistics.Tallies (counted.map Delivery.outcome)
        (answered.map Batch.requestCount)

namespace Counts

variable {service : Service}
variable {lost : List Request}
variable {answered : List Batch}

theorem finish
    (counts : service.Counts lost answered)
    (delivery : Delivery) :
    (service.finish delivery).Counts lost answered := by
  obtain ⟨counted, ends, tallies⟩ := counts
  refine ⟨counted ++ [delivery], ?_, ?_⟩
  · refine (ends.append_right [delivery]).trans ?_
    rw [List.append_assoc, List.append_assoc]
    exact List.perm_append_comm.append_left counted
  · rw [List.map_append]
    exact tallies.countEnd delivery.outcome

theorem lose
    (counts : service.Counts lost answered)
    (requests : List Request) :
    (service.lose requests).Counts (lost ++ requests) answered := by
  obtain ⟨counted, ends, tallies⟩ := counts
  refine ⟨counted, ?_, tallies⟩
  have allLost : lostEnds (lost ++ requests) = lostEnds lost ++ lostEnds requests := by
    simp [lostEnds, Failure.all]
  rw [allLost, ← List.append_assoc]
  exact ends.append_right _

theorem look
    (counts : service.Counts lost answered)
    {wakeAt? : Option Nat}
    {instanceIndex : Nat}
    (isOld : service.activity instanceIndex = .waiting wakeAt?)
    (now : Nat) :
    (service.look instanceIndex now).Counts (lost ++ service.lostBy instanceIndex now)
      answered := by
  simp only [Service.look, lostBy, isOld]
  split
  · rw [List.append_nil]
    exact counts
  · cases overreaches : service.batcher.overreach? now with
    | some handover => exact counts.lose handover.requests
    | none =>
        simp only [Option.map_none, Option.getD_none, List.append_nil]
        exact counts

/-- A step of a worker counts one end, or none, and loses requests only as it looks for work. -/
theorem advance
    (counts : service.Counts lost answered)
    (instanceIndex now : Nat) :
    (service.advance instanceIndex now).Counts (lost ++ service.lostBy instanceIndex now)
      answered := by
  have losesNothing :
      ∀ {old : Activity} {changed : Service},
        service.activity instanceIndex = old →
        (∀ wakeAt?, old ≠ .waiting wakeAt?) →
        changed.Counts lost answered →
        changed.Counts (lost ++ service.lostBy instanceIndex now) answered := by
    intro old changed isOld notWaiting stillCounts
    have nothing : service.lostBy instanceIndex now = [] := by
      unfold lostBy
      split
      · next wakeAt? isWaiting => exact absurd (isOld.symm.trans isWaiting) (notWaiting wakeAt?)
      · rfl
    rw [nothing, List.append_nil]
    exact stillCounts
  unfold Service.advance
  split
  · next isOld => exact counts.look isOld now
  · next failure _ _ isOld => exact losesNothing isOld (by simp) (counts.finish failure.toDelivery)
  · next isOld => exact losesNothing isOld (by simp) counts
  · next isOld => exact losesNothing isOld (by simp) counts
  · next isOld => exact losesNothing isOld (by simp) counts
  · next isOld => exact losesNothing isOld (by simp) counts
  · next delivery _ _ isOld => exact losesNothing isOld (by simp) (counts.finish delivery)
  · next isOld => exact losesNothing isOld (by simp) counts
  · next isOld => exact losesNothing isOld (by simp) counts
  · next isOld => exact losesNothing isOld (by simp) counts
  · next failure _ isOld => exact losesNothing isOld (by simp) (counts.finish failure.toDelivery)
  · next isOld => exact losesNothing isOld (by simp) counts
  · next isOld => exact losesNothing isOld (by simp) counts

theorem answer
    (counts : service.Counts lost answered)
    (instanceIndex : Nat)
    (answer : BackendAnswer)
    (now : Nat) :
    (service.answer instanceIndex answer now).Counts lost
      (answered ++ (service.activity instanceIndex).executing?.toList) := by
  obtain ⟨counted, ends, tallies⟩ := counts
  unfold Service.answer
  split
  · next batch since isExecuting =>
      refine ⟨counted, ends, ?_⟩
      rw [isExecuting, List.map_append]
      exact tallies.countBatch batch.requestCount (elapsed since now)
  · next notExecuting =>
      rw [Activity.executing?_eq_none notExecuting, Option.toList_none, List.append_nil]
      exact ⟨counted, ends, tallies⟩

theorem submit
    (counts : service.Counts lost answered)
    (request : Request)
    (now : Nat) :
    (service.submit request now).1.Counts lost answered := by
  unfold Service.submit
  split
  · exact counts
  · split
    · dsimp only
      split <;> exact counts
    · exact counts

theorem finishCaller
    (counts : service.Counts lost answered)
    (position : Nat) :
    (service.finishCaller position).Counts lost answered := by
  unfold Service.finishCaller
  split
  · exact counts
  · next failure _ =>
      have taken :
          { service with callers := service.callers.eraseIdx position }.Counts lost answered :=
        counts
      exact taken.finish failure.toDelivery

theorem shutDown
    (counts : service.Counts lost answered) :
    service.shutDown.Counts lost answered := by
  unfold Service.shutDown
  split <;> exact counts

end Counts

/-- With a new activity a worker gives up the batch that it had out and takes on another. -/
theorem executing_withActivity
    {service changed : Service}
    {instanceIndex : Nat}
    {old : Activity}
    (new : Activity)
    (sameWorkers : changed.workers.map Worker.activity = service.workers.map Worker.activity)
    (isOld : service.activity instanceIndex = old)
    (working : old ≠ .stopped) :
    ((changed.withActivity instanceIndex new).executing ++ old.executing?.toList).Perm
      (service.executing ++ new.executing?.toList) := by
  have isSame : changed.activity instanceIndex = old := by
    rw [activity_eq, sameWorkers, ← activity_eq, isOld]
  have sameExecuting : changed.executing = service.executing := by
    simp only [executing, ← List.flatMap_map Worker.activity (fun held => held.executing?.toList),
      sameWorkers]
  obtain ⟨worker, isWorker, isActivity⟩ := worker_of_activity isSame working
  rw [← sameExecuting, ← isActivity]
  exact perm_flatMap_modify isWorker (fun worker => { worker with activity := new })
    (fun worker => worker.activity.executing?.toList)

/-- A step of a worker hands a batch to a backend, or none. -/
theorem executing_advance
    (service : Service)
    (instanceIndex now : Nat) :
    (service.advance instanceIndex now).executing.Perm
      (service.executing ++ service.handedBy instanceIndex) := by
  have handsNothing :
      ∀ {old new : Activity} {changed : Service},
        changed.workers.map Worker.activity = service.workers.map Worker.activity →
        service.activity instanceIndex = old →
        old ≠ .stopped →
        old.executing? = none →
        (∀ batch, old ≠ .failing [] (some batch)) →
        new.executing? = none →
        (changed.withActivity instanceIndex new).executing.Perm
          (service.executing ++ service.handedBy instanceIndex) := by
    intro old new changed sameWorkers isOld working notExecuting notHanding stillNot
    have nothing : service.handedBy instanceIndex = [] := by
      unfold handedBy
      split
      · next batch? isFailing =>
          cases batch? with
          | none => rfl
          | some batch => exact absurd (isOld.symm.trans isFailing) (notHanding batch)
      · rfl
    have same := executing_withActivity new sameWorkers isOld working
    simpa [notExecuting, stillNot, nothing] using same
  unfold advance
  split
  · next isOld =>
      unfold look
      split
      · exact handsNothing rfl isOld (by simp) rfl (by simp) rfl
      · split
        · exact handsNothing rfl isOld (by simp) rfl (by simp) rfl
        · dsimp only
          refine handsNothing rfl isOld (by simp) rfl (by simp) ?_
          split <;> rfl
  · next isOld => exact handsNothing rfl isOld (by simp) rfl (by simp) rfl
  · next batch isOld =>
      have handed : service.handedBy instanceIndex = [batch] := by simp [handedBy, isOld]
      rw [handed]
      simpa [Activity.executing?] using
        executing_withActivity (.executing batch now) rfl isOld (by simp)
  · next isOld => exact handsNothing rfl isOld (by simp) rfl (by simp) rfl
  · next isOld => simp [handedBy, isOld]
  · next isOld =>
      unfold report
      dsimp only
      refine handsNothing rfl isOld (by simp) rfl (by simp) ?_
      split <;> rfl
  · next isOld => exact handsNothing rfl isOld (by simp) rfl (by simp) rfl
  · next isOld => exact handsNothing rfl isOld (by simp) rfl (by simp) rfl
  · next isOld => exact handsNothing rfl isOld (by simp) rfl (by simp) rfl
  · next isOld =>
      exact handsNothing (service.activities_markHalted instanceIndex) isOld (by simp) rfl
        (by simp) rfl
  · next isOld => exact handsNothing rfl isOld (by simp) rfl (by simp) rfl
  · next isOld => exact handsNothing rfl isOld (by simp) rfl (by simp) rfl
  · next isOld => simp [handedBy, isOld]

/-- A backend that answers has its batch no longer. -/
theorem executing_answer
    (service : Service)
    (instanceIndex : Nat)
    (answer : BackendAnswer)
    (now : Nat) :
    ((service.answer instanceIndex answer now).executing ++
        (service.activity instanceIndex).executing?.toList).Perm
      service.executing := by
  unfold Service.answer
  split
  · next batch since isOld =>
      have exchanged :=
        executing_withActivity (.returned batch answer (elapsed since now)) rfl isOld (by simp)
      rw [isOld]
      simp only [Activity.executing?, Option.toList_none, List.append_nil] at exchanged
      exact exchanged
  · next notExecuting =>
      rw [Activity.executing?_eq_none notExecuting, Option.toList_none, List.append_nil]

/-- The batcher is one that a run reaches, and the batches of all workers have their size. -/
structure Confined
    (service : Service)
    (config : ModelConfig)
    (start entryBytes : Nat) :
    Prop where
  reached :
    ∃ operations, service.batcher = (Batcher.ofConfig config start entryBytes).after operations
  sized : ∀ index, ∀ batch ∈ (service.activity index).batch?, batch.Sized config

namespace Confined

variable {service changed : Service}
variable {config : ModelConfig}
variable {start entryBytes instanceIndex : Nat}

/-- Further operations on the batcher make its run longer. -/
theorem perform
    (confined : service.Confined config start entryBytes)
    (operations : List Operation)
    (isBatcher : changed.batcher = service.batcher.after operations)
    (sameActivities :
      changed.workers.map Worker.activity = service.workers.map Worker.activity) :
    changed.Confined config start entryBytes where
  reached := by
    obtain ⟨earlier, isReached⟩ := confined.reached
    refine ⟨earlier ++ operations, ?_⟩
    rw [isBatcher, isReached]
    simp only [Batcher.after, List.foldl_append]
  sized index := by
    rw [activity_eq, sameActivities, ← activity_eq]
    exact confined.sized index

theorem withActivity
    (confined : service.Confined config start entryBytes)
    {new : Activity}
    (sized : ∀ batch ∈ new.batch?, batch.Sized config) :
    (service.withActivity instanceIndex new).Confined config start entryBytes where
  reached := confined.reached
  sized index := by
    rcases service.activity_withActivity_or instanceIndex new index with isNew | isOld
    · rw [isNew]
      exact sized
    · rw [isOld]
      exact confined.sized index

/-- The batch that a worker finds is one that a batcher forms in a run. -/
theorem look
    (confined : service.Confined config start entryBytes)
    (accepted : config.problem? = none)
    (instanceIndex now : Nat) :
    (service.look instanceIndex now).Confined config start entryBytes := by
  unfold Service.look
  split
  · exact confined.withActivity (by simp [Activity.batch?])
  · split
    · next lost overreaches =>
        have broken : ({ service with batcher := lost.batcher }.lose lost.requests).Confined
            config start entryBytes := by
          refine confined.perform [.form instanceIndex now] ?_ rfl
          simp [Batcher.after, Batcher.perform, Batcher.attempt, overreaches, Formation.idle, lose]
        exact broken.withActivity (by simp [Activity.batch?])
    · next room =>
        have isAttempt :
            service.batcher.attempt instanceIndex now =
              service.batcher.formBatch instanceIndex now := by
          simp [Batcher.attempt, room]
        have formed :
            { service with
              batcher := (service.batcher.formBatch instanceIndex now).batcher }.Confined
                config start entryBytes := by
          refine confined.perform [.form instanceIndex now] ?_ rfl
          simp [Batcher.after, Batcher.perform, isAttempt]
        dsimp only
        refine formed.withActivity ?_
        intro batch isBatch
        split at isBatch
        · obtain ⟨operations, isReached⟩ := confined.reached
          change batch ∈ (service.batcher.formBatch instanceIndex now).batch? at isBatch
          rw [← isAttempt, isReached] at isBatch
          exact Batcher.requestCount_attempt accepted start entryBytes operations isBatch
        · contradiction

theorem haltInstance
    (confined : service.Confined config start entryBytes)
    (instanceIndex : Nat)
    (fault : Fault) :
    (service.haltInstance instanceIndex fault).Confined config start entryBytes := by
  have sameActivities := service.activities_markHalted instanceIndex
  unfold Service.haltInstance
  dsimp only
  split
  · have drained :
        { service.markHalted instanceIndex with
          batcher := (service.batcher.halt instanceIndex).batcher.drain.batcher }.Confined
            config start entryBytes :=
      confined.perform [.halt instanceIndex, .drain] rfl sameActivities
    exact drained.withActivity (by simp [Activity.batch?])
  · have halted :
        { service.markHalted instanceIndex with
          batcher := (service.batcher.halt instanceIndex).batcher }.Confined
            config start entryBytes :=
      confined.perform [.halt instanceIndex] rfl sameActivities
    exact halted.withActivity (by simp [Activity.batch?])

/-- A step of a worker goes on with the batch that it has, or finds one. -/
theorem advance
    (confined : service.Confined config start entryBytes)
    (accepted : config.problem? = none)
    (instanceIndex now : Nat) :
    (service.advance instanceIndex now).Confined config start entryBytes := by
  have own := confined.sized instanceIndex
  have ends : ∀ delivery, (service.finish delivery).Confined config start entryBytes :=
    fun _ => ⟨confined.reached, confined.sized⟩
  unfold Service.advance
  split
  · exact confined.look accepted instanceIndex now
  · next failure _ _ isOld =>
      rw [isOld] at own
      exact (ends failure.toDelivery).withActivity own
  · next isOld =>
      rw [isOld] at own
      exact confined.withActivity own
  · exact confined.withActivity (by simp [Activity.batch?])
  · exact confined
  · next batch answer computed _ =>
      have reported :
          { service with
            batcher := (service.batcher.complete instanceIndex batch.records now).batcher
          }.Confined config start entryBytes :=
        confined.perform [.complete instanceIndex batch.records now] rfl rfl
      refine reported.withActivity ?_
      intro other isBatch
      split at isBatch <;> contradiction
  · next delivery _ _ _ => exact (ends delivery).withActivity (by simp [Activity.batch?])
  · exact confined.withActivity (by simp [Activity.batch?])
  · exact confined.withActivity (by simp [Activity.batch?])
  · exact confined.haltInstance instanceIndex _
  · next failure _ _ => exact (ends failure.toDelivery).withActivity (by simp [Activity.batch?])
  · exact confined.withActivity (by simp [Activity.batch?])
  · exact confined

theorem answer
    (confined : service.Confined config start entryBytes)
    (instanceIndex : Nat)
    (answer : BackendAnswer)
    (now : Nat) :
    (service.answer instanceIndex answer now).Confined config start entryBytes := by
  have own := confined.sized instanceIndex
  unfold Service.answer
  split
  · next batch since isOld =>
      have counted :
          Confined { service with
            statistics := service.statistics.countBatch batch.requestCount (elapsed since now) }
            config start entryBytes :=
        ⟨confined.reached, confined.sized⟩
      rw [isOld] at own
      exact counted.withActivity own
  · exact confined

theorem submit
    (confined : service.Confined config start entryBytes)
    (request : Request)
    (now : Nat) :
    (service.submit request now).1.Confined config start entryBytes := by
  unfold Service.submit
  split
  · exact ⟨confined.reached, confined.sized⟩
  · split
    · dsimp only
      split <;> exact confined.perform [.enqueue request now] rfl rfl
    · exact ⟨confined.reached, confined.sized⟩

theorem finishCaller
    (confined : service.Confined config start entryBytes)
    (position : Nat) :
    (service.finishCaller position).Confined config start entryBytes := by
  unfold Service.finishCaller
  split
  · exact confined
  · exact ⟨confined.reached, confined.sized⟩

theorem shutDown
    (confined : service.Confined config start entryBytes) :
    service.shutDown.Confined config start entryBytes := by
  unfold Service.shutDown
  split
  · exact confined
  · exact confined.perform [.drain] rfl rfl

/-- A look loses nothing if room can be made for the largest batch. -/
theorem lostBy_eq_nil
    (confined : service.Confined config start entryBytes)
    (addressable :
      config.kind = .sequence ∨
        max config.maxBatchSize 1 * entryBytes ≤ DynamicBatcher.addressableBytes)
    (instanceIndex now : Nat) :
    service.lostBy instanceIndex now = [] := by
  obtain ⟨operations, isReached⟩ := confined.reached
  unfold lostBy
  split
  · rw [isReached, Batcher.overreach?_of_addressable addressable start operations now]
    simp
  · rfl

end Confined

end Service

namespace Traffic

/-- The requests that an action loses. -/
def lostBy
    (traffic : Traffic) :
    Action →
    List Request
  | .advance instanceIndex now => traffic.service.lostBy instanceIndex now
  | _ => []

/-- The batches that an action hands to a backend. -/
def handedBy
    (traffic : Traffic) :
    Action →
    List Batch
  | .advance instanceIndex _ => traffic.service.handedBy instanceIndex
  | _ => []

/-- The batches that a backend is done with by an action. -/
def answeredBy
    (traffic : Traffic) :
    Action →
    List Batch
  | .answer instanceIndex _ _ =>
      (traffic.service.activity instanceIndex).executing?.toList
  | _ => []

/-- What some actions come to, one after the other. -/
def during
    {Item : Type}
    (part : Traffic → Action → List Item) :
    Traffic →
    List Action →
    List Item
  | _, [] => []
  | traffic, action :: actions =>
      part traffic action ++ during part (traffic.perform action) actions

/-- The counters account for what has ended, but for what was lost, and for what was answered. -/
structure Accounted
    (traffic : Traffic)
    (config : ModelConfig)
    (start entryBytes : Nat)
    (lost : List Request)
    (handed answered : List Batch) :
    Prop where
  counts : traffic.service.Counts lost answered
  handed : handed.Perm (answered ++ traffic.service.executing)
  confined : traffic.service.Confined config start entryBytes
  sized : ∀ batch ∈ answered, batch.Sized config
  lostNothing :
    config.kind = .sequence ∨
        max config.maxBatchSize 1 * entryBytes ≤
          DynamicBatcher.addressableBytes →
      lost = []

variable {traffic : Traffic}

namespace Accounted

variable {config : ModelConfig}
variable {start entryBytes : Nat}
variable {lost : List Request}
variable {handed answered : List Batch}

/-- An action that is no worker's and no backend's changes no worker and loses nothing. -/
private theorem quiet
    (accounted : traffic.Accounted config start entryBytes lost handed answered)
    {changed : Traffic}
    (counts : changed.service.Counts lost answered)
    (sameWorkers : changed.service.workers = traffic.service.workers)
    (confined : changed.service.Confined config start entryBytes) :
    changed.Accounted config start entryBytes (lost ++ []) (handed ++ []) (answered ++ []) := by
  have sameExecuting : changed.service.executing = traffic.service.executing := by
    rw [Service.executing, sameWorkers, Service.executing]
  simp only [List.append_nil]
  exact ⟨counts, sameExecuting ▸ accounted.handed, confined, accounted.sized,
    accounted.lostNothing⟩

/-- Every action is accounted for. -/
theorem perform
    (accounted : traffic.Accounted config start entryBytes lost handed answered)
    (accepted : config.problem? = none)
    (action : Action) :
    (traffic.perform action).Accounted config start entryBytes
      (lost ++ traffic.lostBy action)
      (handed ++ traffic.handedBy action)
      (answered ++ traffic.answeredBy action) := by
  have ⟨counts, isHanded, confined, sized, lostNothing⟩ := accounted
  cases action with
  | call | receive => exact accounted.quiet counts rfl (confined.perform [] rfl rfl)
  | enter position now =>
      simp only [Traffic.perform]
      split
      · exact accounted.quiet counts rfl confined
      · exact accounted.quiet (counts.submit _ now) (traffic.service.workers_submit _ now)
          (confined.submit _ now)
  | finishCaller position =>
      simp only [Traffic.perform]
      split
      · exact accounted.quiet counts rfl confined
      · exact accounted.quiet (counts.finishCaller position)
          (traffic.service.workers_finishCaller position) (confined.finishCaller position)
  | shutDown =>
      exact accounted.quiet counts.shutDown traffic.service.workers_shutDown confined.shutDown
  | advance instanceIndex now =>
      have noAnswer : traffic.answeredBy (.advance instanceIndex now) = [] := rfl
      rw [noAnswer, List.append_nil]
      refine ⟨counts.advance instanceIndex now, ?_, confined.advance accepted instanceIndex now,
        sized, ?_⟩
      · have advanced := traffic.service.executing_advance instanceIndex now
        refine (isHanded.append_right _).trans ?_
        rw [List.append_assoc]
        exact advanced.symm.append_left answered
      · intro addressable
        rw [lostNothing addressable, List.nil_append]
        exact confined.lostBy_eq_nil addressable instanceIndex now
  | answer instanceIndex answer now =>
      have noLoss : traffic.lostBy (.answer instanceIndex answer now) = [] := rfl
      have noHandover : traffic.handedBy (.answer instanceIndex answer now) = [] := rfl
      rw [noLoss, noHandover, List.append_nil, List.append_nil]
      refine ⟨counts.answer instanceIndex answer now, ?_,
        confined.answer instanceIndex answer now, ?_, lostNothing⟩
      · have returned := traffic.service.executing_answer instanceIndex answer now
        refine isHanded.trans ?_
        rw [answeredBy, List.append_assoc]
        exact (List.perm_append_comm.trans returned).symm.append_left answered
      · intro batch member
        rcases List.mem_append.mp member with before | isNew
        · exact sized batch before
        · apply confined.sized instanceIndex
          cases isOld : traffic.service.activity instanceIndex <;>
            simp_all [answeredBy, Activity.executing?, Activity.batch?]

theorem after
    (accounted : traffic.Accounted config start entryBytes lost handed answered)
    (accepted : config.problem? = none)
    (actions : List Action) :
    (traffic.after actions).Accounted config start entryBytes
      (lost ++ traffic.during lostBy actions)
      (handed ++ traffic.during handedBy actions)
      (answered ++ traffic.during answeredBy actions) := by
  induction actions generalizing traffic lost handed answered with
  | nil =>
      simp only [during, List.append_nil]
      exact accounted
  | cons action actions inductionHypothesis =>
      have performed := inductionHypothesis (accounted.perform accepted action)
      simp only [List.append_assoc] at performed
      exact performed

end Accounted

/-- Nothing has ended and nothing has been handed to anybody when a service starts. -/
theorem accounted_start
    {config : ModelConfig}
    {start entryBytes : Nat}
    {service : Service}
    (started : Service.start config start entryBytes = .ok service) :
    config.problem? = none ∧
      ({ service := service } : Traffic).Accounted config start entryBytes [] [] [] := by
  unfold Service.start at started
  split at started
  · contradiction
  · next valid =>
      cases started
      refine ⟨ModelConfig.problem?_of_valid valid, ⟨[], ?_, Statistics.Tallies.new⟩, ?_, ?_, ?_, ?_⟩
      · exact List.Perm.refl _
      · simp [Service.executing, Activity.executing?]
      · refine ⟨⟨[], rfl⟩, fun index => ?_⟩
        simp only [Service.activity, List.getElem?_replicate]
        split
        · next worker isWorker =>
            split at isWorker
            · cases isWorker
              simp [Activity.batch?]
            · contradiction
        · simp [Activity.batch?]
      · simp
      · simp

/-- When all is over, no backend has a batch. -/
theorem IsOver.executing_eq_nil
    (isOver : traffic.IsOver) :
    traffic.service.executing = [] := by
  simp only [Service.executing, List.flatMap_eq_nil_iff]
  intro worker member
  rw [isOver.stopped worker member]
  rfl

/-- When all is over and nothing waits, as many completions have been fired as were brought. -/
theorem IsOver.length_firings
    (isOver : traffic.IsOver)
    (sound : traffic.Sound)
    (notReady : traffic.service.isReady = false) :
    traffic.firings.length = traffic.submitted.length := by
  have accounts := sound.accounts.length_eq
  rw [← sound.inHand_append_fired, isOver.inHand_eq_nil (sound.service.closed notReady)] at accounts
  simpa [fired] using accounts.symm

/--
Start the service of a valid configuration, let backends answer anything, and take any
actions in any order. Then the counters account for every completion that has been fired,
once each and under its outcome, but for those of requests that a look has lost. They account
for every batch that was handed to a backend and that no backend still has, once each and
under its size, which is positive and within the maximum. And when no more requests are
taken and all have returned, they account for every request that was submitted, but for
those lost; none is lost if room can be made for the largest batch.
-/
theorem statistics_account
    {config : ModelConfig}
    {start entryBytes : Nat}
    {service : Service}
    (started : Service.start config start entryBytes = .ok service)
    (actions : List Action) :
    let first : Traffic := { service := service }
    let traffic := first.after actions
    let statistics := traffic.service.statistics
    let lost := first.during lostBy actions
    let handed := first.during handedBy actions
    let isClosed := traffic.service.isShutDown = true ∨ traffic.service.liveCount = 0
    (∃ counted : List Delivery,
        (traffic.firings.map Firing.delivery).Perm
          (counted ++ (Failure.all lost Completion.droppedError).map Failure.toDelivery) ∧
        statistics.successCount + statistics.failureCount = counted.length ∧
        statistics.successCount =
          counted.countP (fun delivery => delivery.outcome.code?.isNone) ∧
        statistics.failureCount =
          counted.countP (fun delivery => delivery.outcome.code?.isSome) ∧
        (∀ error,
          statistics.failuresFor error =
            counted.countP (fun delivery => delivery.outcome.code? = some error.code)) ∧
        statistics.failuresByCode.total (fun _ => 1) = statistics.failureCount) ∧
      (∃ answered : List Batch,
        handed.Perm (answered ++ traffic.service.executing) ∧
          statistics.batchCount = answered.length ∧
          statistics.batchSizes.total (fun _ => 1) = statistics.batchCount ∧
          statistics.executionCount = (answered.map Batch.requestCount).sum ∧
          statistics.batchSizes.total id = statistics.executionCount ∧
          (∀ size,
            (statistics.batchSizes.find? size).getD 0 =
              (answered.map Batch.requestCount).count size) ∧
          ∀ size ∈ statistics.batchSizes.keys, 1 ≤ size ∧ size ≤ max config.maxBatchSize 1) ∧
      (isClosed → traffic.IsOver →
        traffic.service.executing = [] ∧
          statistics.successCount + statistics.failureCount + lost.length =
            traffic.submitted.length ∧
          (traffic.submitted.length < 2 ^ 64 →
            statistics.completedCount + lost.length = traffic.submitted.length)) ∧
      (config.kind = .sequence ∨
          max config.maxBatchSize 1 * entryBytes ≤
            DynamicBatcher.addressableBytes →
        lost = []) := by
  intro first traffic statistics lost handed isClosed
  have sound : traffic.Sound := (sound_start started).after actions
  obtain ⟨accepted, atStart⟩ := accounted_start started
  have accounted := atStart.after accepted actions
  simp only [List.nil_append] at accounted
  obtain ⟨⟨counted, ends, tallies⟩, isHanded, _, sized, lostNothing⟩ := accounted
  have isSplit :
      (traffic.firings.map Firing.delivery).Perm (counted ++ Service.lostEnds lost) := by
    rw [← sound.ended]
    exact ends
  have completed : statistics.successCount + statistics.failureCount = counted.length :=
    tallies.completed.trans (List.length_map _)
  refine ⟨⟨counted, isSplit, completed, ?_, ?_, ?_, tallies.allCodes⟩,
    ⟨first.during answeredBy actions, isHanded, ?_, tallies.allSizes, tallies.executions,
      tallies.allExecutions, tallies.bySize, ?_⟩, ?_, lostNothing⟩
  · rw [tallies.successes, List.countP_map]
    rfl
  · rw [tallies.failures, List.countP_map]
    rfl
  · intro error
    rw [Statistics.failuresFor, tallies.byCode, List.countP_map]
    rfl
  · rw [tallies.batches, List.length_map]
  · intro size listed
    obtain ⟨batch, member, isSize⟩ := List.mem_map.mp (tallies.listed size listed)
    exact isSize ▸ sized batch member
  · intro closed isOver
    have sameLength := isOver.length_firings sound (Service.isReady_eq_false.mpr closed)
    have parts : traffic.firings.length = counted.length + lost.length := by
      simpa [Service.lostEnds, Failure.all] using isSplit.length_eq
    have all :
        statistics.successCount + statistics.failureCount + lost.length =
          traffic.submitted.length := by
      omega
    refine ⟨isOver.executing_eq_nil, all, fun few => ?_⟩
    have noWrap : statistics.successCount + statistics.failureCount < 2 ^ 64 :=
      Nat.lt_of_le_of_lt (Nat.le.intro all) few
    rw [Statistics.completedCount, Nat.mod_eq_of_lt noWrap]
    exact all

/--
Of two requests the first is lost, because the second forces a batch for which no room can be
made. The instance halts, and only the second is counted.
-/
theorem statistics_account_of_lost :
    let batching : DynamicBatching :=
      { priorityLevels := 2
        defaultPriorityLevel := 1
        maxQueueDelay := 60
        defaultPolicy := { timeout := 1 }
        levelPolicies := Directory.empty.insert 2 { timeout := 1, timeoutAction := .delay } }
    let config : ModelConfig :=
      { name := "model", maxBatchSize := 2 ^ 63, dynamicBatching? := some batching }
    let service : Service :=
      { model := "model", batcher := .ofConfig config 0, workers := [{}] }
    let actions : List Action :=
      [.call { id := 1 }, .enter 0 0, .call { id := 2, priority := 2 }, .enter 0 0,
        .advance 0 5, .advance 0 5, .advance 0 5, .advance 0 5]
    let first : Traffic := { service := service }
    let traffic := first.after actions
    traffic.IsOver ∧
      (first.during lostBy actions).map Request.id = [1] ∧
      traffic.submitted.length = 2 ∧
      traffic.service.statistics.completedCount = 1 := by
  intro batching config service actions first traffic
  have started : Service.start config 0 = .ok service := by decide
  have isOver : traffic.IsOver := ⟨by decide, by decide, by decide⟩
  have nobody : traffic.service.liveCount = 0 := by decide
  have isLost : (first.during lostBy actions).map Request.id = [1] := by decide
  have isSubmitted : traffic.submitted.length = 2 := by decide
  obtain ⟨_, _, completes, _⟩ := statistics_account started actions
  obtain ⟨_, _, counts⟩ := completes (Or.inr nobody) isOver
  have onlyOne : (first.during lostBy actions).length = 1 := by
    simpa using congrArg List.length isLost
  have counted :
      traffic.service.statistics.completedCount + (first.during lostBy actions).length =
        traffic.submitted.length :=
    counts (by rw [isSubmitted]; decide)
  rw [onlyOne, isSubmitted] at counted
  exact ⟨isOver, isLost, isSubmitted, Nat.succ.inj counted⟩

end Traffic

end InferenceBatching
