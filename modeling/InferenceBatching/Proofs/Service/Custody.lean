import InferenceBatching.Proofs.Batch.Order
import InferenceBatching.Proofs.Service.Completion
import InferenceBatching.Proofs.Service.Workers
import Mathlib.Data.List.Perm.Basic

namespace InferenceBatching

/-!
# Custody

A service answers for every request it was given: somebody holds it and has to end
it, or it has ended. A step passes requests on and ends some; it loses none and ends
none twice.
-/

theorem Failure.map_request_all
    (requests : List Request)
    (error : RequestError) :
    (Failure.all requests error).map Failure.request = requests := by
  simp [Failure.all, Function.comp_def]

/-- A batch that has run ends each of its requests once, in order. -/
theorem BatchRun.map_request_deliveries
    (run : BatchRun)
    (entries : List QueueEntry)
    (answer : BackendAnswer) :
    (run.deliveries entries answer).map Delivery.request = requestsOf entries := by
  cases answer with
  | rows rows =>
      simp only [deliveries]
      induction entries generalizing rows with
      | nil => rfl
      | cons entry entries inductionHypothesis =>
          simp [deliverRows, requestsOf] at inductionHypothesis ⊢
          exact inductionHypothesis rows.tail
  | failed | panicked =>
      simp [deliveries, failBatch, Failure.toDelivery, Failure.all, requestsOf]

theorem Batcher.request_entryFor
    (batcher : Batcher)
    (request : Request)
    (now : Nat) :
    (batcher.entryFor request now).request = request.arriveAt now := by
  cases batcher <;> rfl

/-- What is taken out of a list is what is missing from it then. -/
theorem perm_cons_eraseIdx
    {Item : Type}
    {items : List Item}
    {item : Item}
    {position : Nat}
    (found : items[position]? = some item) :
    items.Perm (item :: items.eraseIdx position) := by
  obtain ⟨inRange, isItem⟩ := List.getElem?_eq_some_iff.mp found
  rw [← isItem]
  exact (List.getElem_cons_eraseIdx_perm inRange).symm

namespace Activity

/-- The requests that a worker holds and has to end. -/
def held :
    Activity →
    List Request
  | .waiting _ => []
  | .failing failures batch? =>
      failures.map Failure.request ++ batch?.toList.flatMap Batch.requests
  | .executing batch _ => batch.requests
  | .returned batch _ _ => batch.requests
  | .delivering deliveries _ => deliveries.map Delivery.request
  | .faulted _ => []
  | .abandoning failures => failures.map Failure.request
  | .stopped => []

end Activity

namespace Service

/-- The requests that have not ended, each in the place where it is held. -/
def inHand
    (service : Service) :
    List Request :=
  service.callers.map Failure.request ++ requestsOf service.batcher.pendingEntries ++
    service.workers.flatMap (fun worker => worker.activity.held)

/-- The requests that a service answers for. -/
def accounts
    (service : Service) :
    List Request :=
  service.inHand ++ service.ended.map Delivery.request

variable {service changed : Service}
variable {instanceIndex now : Nat}
variable {old new : Activity}

theorem activity_eq
    (service : Service)
    (instanceIndex : Nat) :
    service.activity instanceIndex =
      ((service.workers.map Worker.activity)[instanceIndex]?).getD .stopped := by
  simp only [activity, List.getElem?_map]
  cases service.workers[instanceIndex]? <;> rfl

theorem activities_markHalted
    (service : Service)
    (instanceIndex : Nat) :
    (service.markHalted instanceIndex).workers.map Worker.activity =
      service.workers.map Worker.activity := by
  apply List.ext_getElem?
  intro other
  simp only [markHalted, List.getElem?_map, List.getElem?_modify]
  cases service.workers[other]? with
  | none => rfl
  | some worker => split <;> rfl

theorem accounts_markHalted
    (service : Service)
    (instanceIndex : Nat) :
    (service.markHalted instanceIndex).accounts = service.accounts := by
  simp only [accounts, inHand, ← List.flatMap_map Worker.activity Activity.held,
    activities_markHalted]
  rfl

@[simp]
theorem accounts_finish
    (service : Service)
    (delivery : Delivery) :
    (service.finish delivery).accounts = service.accounts ++ [delivery.request] := by
  simp [accounts, inHand, finish]

/-- What a worker takes on or gives away changes hands with the rest of the service. -/
theorem accounts_withActivity
    (isOld : changed.activity instanceIndex = old)
    (working : old ≠ .stopped)
    (exchange : (changed.accounts ++ new.held).Perm (service.accounts ++ old.held)) :
    (changed.withActivity instanceIndex new).accounts.Perm service.accounts := by
  obtain ⟨worker, isWorker, isActivity⟩ := worker_of_activity isOld working
  have exchanged :
      ((changed.withActivity instanceIndex new).accounts ++ old.held).Perm
        (changed.accounts ++ new.held) := by
    have inWorkers := List.perm_iff_count.mp
      (perm_flatMap_modify isWorker (fun worker => { worker with activity := new })
        (fun worker => worker.activity.held))
    rw [List.perm_iff_count]
    intro request
    have counted := inWorkers request
    simp only [accounts, inHand, withActivity, List.count_append, isActivity] at counted ⊢
    omega
  exact (List.perm_append_right_iff _).mp (exchanged.trans exchange)

/-- What the batcher no longer holds has been taken from it. -/
theorem accounts_withBatcher
    {last : Batcher}
    {taken : List Request}
    (isSplit :
      (requestsOf service.batcher.pendingEntries).Perm
        (requestsOf last.pendingEntries ++ taken)) :
    ({ service with batcher := last }.accounts ++ taken).Perm service.accounts := by
  rw [List.perm_iff_count] at isSplit ⊢
  intro request
  have counted := isSplit request
  simp only [accounts, inHand, List.count_append] at counted ⊢
  omega

/-- A worker takes from the batcher what it holds from then on. -/
theorem accounts_act
    (isOld : service.activity instanceIndex = old)
    (working : old ≠ .stopped)
    {last : Batcher}
    {taken : List Request}
    (isSplit :
      (requestsOf service.batcher.pendingEntries).Perm
        (requestsOf last.pendingEntries ++ taken))
    (takes : new.held.Perm (old.held ++ taken)) :
    ({ service with batcher := last }.withActivity instanceIndex new).accounts.Perm
      service.accounts := by
  refine accounts_withActivity isOld working ?_
  have taking := accounts_withBatcher isSplit
  rw [List.perm_iff_count] at taking takes ⊢
  intro request
  have fromBatcher := taking request
  have byWorker := takes request
  simp only [List.count_append] at fromBatcher byWorker ⊢
  omega

/-- What an attempt takes from the batcher: failures, a batch, and what is lost. -/
theorem requests_attempt
    {batcher : Batcher}
    (coherent : batcher.Coherent)
    (instanceIndex now : Nat) :
    let formation := batcher.attempt instanceIndex now
    (requestsOf batcher.pendingEntries).Perm
      (requestsOf formation.batcher.pendingEntries ++
        (formation.failed.map Failure.request ++
          formation.batch?.toList.flatMap Batch.requests ++
          ((batcher.overreach? now).map Handover.requests).getD [])) := by
  obtain ⟨failed, lost, isFailed, isLost, isSplit⟩ :=
    Batcher.attempt_perm coherent instanceIndex now
  generalize batcher.attempt instanceIndex now = formation at isFailed isSplit ⊢
  have isBatch :
      requestsOf (formation.batch?.toList.flatMap Batch.queueEntries) =
        formation.batch?.toList.flatMap Batch.requests := by
    cases formation.batch? <;> simp [Batch.requests_eq, requestsOf]
  dsimp only
  rw [← isLost, ← isBatch, isFailed]
  have requestsSplit := List.perm_iff_count.mp (isSplit.map QueueEntry.request)
  rw [List.perm_iff_count]
  intro request
  have counted := requestsSplit request
  simp only [requestsOf, List.map_append, List.count_append] at counted ⊢
  omega

/-- What submitting a request comes to: it is let in, or its caller is left with it. -/
inductive Submission
    (service : Service)
    (request : Request)
    (now : Nat) :
    Service × Option RequestError → Prop where
  | accepted
      {last : Batcher}
      (isSplit :
        last.pendingEntries.Perm
          (service.batcher.pendingEntries ++ [service.batcher.entryFor request now])) :
      Submission service request now ({ service with batcher := last }, none)
  | rejected
      {last : Batcher}
      (sameWaiting : last.pendingEntries.Perm service.batcher.pendingEntries)
      (error : RequestError) :
      Submission service request now
        ({ service with
            batcher := last
            callers := service.callers ++ [{ request := request, error := error }] },
          some error)

theorem submit_submission
    (coherent : service.batcher.Coherent)
    (request : Request)
    (now : Nat) :
    Submission service request now (service.submit request now) := by
  unfold submit
  split
  · exact .rejected (List.Perm.refl _) _
  · split
    · dsimp only
      split
      · next answered => exact .accepted (Batcher.enqueue_accepted coherent answered)
      · next failure answered =>
          obtain ⟨isRequest, sameWaiting⟩ := Batcher.enqueue_rejected coherent answered
          simp only [reject, isRequest]
          exact .rejected sameWaiting _
    · exact .rejected (List.Perm.refl _) _

section Steps

variable (sound : service.Sound)

include sound

/-- What a look takes from the batcher stays with the worker, or ends. -/
theorem accounts_look
    {wakeAt? : Option Nat}
    (isOld : service.activity instanceIndex = .waiting wakeAt?)
    (now : Nat) :
    (service.look instanceIndex now).accounts.Perm service.accounts := by
  have isSplit := requests_attempt sound.coherent instanceIndex now
  unfold look
  split
  · exact accounts_withActivity isOld (by simp) (List.Perm.refl _)
  · split
    · next lost overreaches =>
        simp only [Batcher.attempt, overreaches, Formation.idle, List.map_nil, Option.toList_none,
          List.flatMap_nil, List.nil_append, Option.map_some, Option.getD_some] at isSplit
        have isLost :
            ({ service with batcher := lost.batcher }.lose lost.requests).accounts =
              { service with batcher := lost.batcher }.accounts ++ lost.requests := by
          simp [accounts, inHand, lose, Failure.all, Failure.toDelivery, Function.comp_def]
        refine accounts_withActivity isOld (by simp) ?_
        rw [isLost]
        simpa [Activity.held] using accounts_withBatcher isSplit
    · next room =>
        simp only [Batcher.attempt, room, Option.map_none, Option.getD_none,
          List.append_nil] at isSplit
        refine accounts_act isOld (by simp) isSplit ?_
        split
        · exact List.Perm.refl _
        · next idle =>
            simp [Formation.hasWork] at idle
            simp [Activity.held, idle]

/-- A worker that reports its batch goes on to end its requests, and those that fail with it. -/
theorem accounts_report
    {batch : Batch}
    {answer : BackendAnswer}
    {computed : Nat}
    (isOld : service.activity instanceIndex = .returned batch answer computed)
    (now : Nat) :
    (service.report instanceIndex batch answer computed now).accounts.Perm
      service.accounts := by
  obtain ⟨worker, isWorker, isActivity⟩ := worker_of_activity isOld (by simp)
  have fits := sound.workers instanceIndex worker isWorker
  have live := fits.live (sound.inService (by rw [isOld]; rfl) isWorker)
  have awaits := fits.entrusted batch (by rw [isActivity]; rfl)
  obtain ⟨failures, isSettled⟩ := awaits.settled sound.coherent live now
  obtain ⟨failed, isSplit, fails⟩ :=
    Batcher.complete_perm sound.coherent instanceIndex batch.records now
  have requestsSplit := isSplit.map QueueEntry.request
  rw [List.map_append] at requestsSplit
  have isFailed : failures.map Failure.request = failed.map QueueEntry.request :=
    fails failures isSettled
  unfold report
  dsimp only
  refine accounts_act isOld (by simp) requestsSplit ?_
  rw [isSettled]
  simp [Activity.held, BatchRun.map_request_deliveries, ← batch.requests_eq,
    Failure.toDelivery, Function.comp_def, ← isFailed]

/-- An instance that is halted hands over what only it could run, the last one everything. -/
theorem accounts_haltInstance
    {fault : Fault}
    (isOld : service.activity instanceIndex = .faulted fault) :
    (service.haltInstance instanceIndex fault).accounts.Perm service.accounts := by
  have isMarked : (service.markHalted instanceIndex).activity instanceIndex = .faulted fault := by
    rw [activity_eq, activities_markHalted, ← activity_eq, isOld]
  have takes :
      ∀ (last : Batcher) (taken : List Request) (error : RequestError),
        (requestsOf service.batcher.pendingEntries).Perm
          (requestsOf last.pendingEntries ++ taken) →
        ({ service.markHalted instanceIndex with batcher := last }.withActivity instanceIndex
          (.abandoning (Failure.all taken error))).accounts.Perm service.accounts := by
    intro last taken error isSplit
    rw [← accounts_markHalted service instanceIndex]
    refine accounts_act isMarked (by simp) isSplit ?_
    simp [Activity.held, Failure.map_request_all]
  obtain ⟨returned, isReturned, isSplit⟩ := Batcher.halt_perm sound.coherent instanceIndex
  have orphaned :
      (requestsOf service.batcher.pendingEntries).Perm
        (requestsOf (service.batcher.halt instanceIndex).batcher.pendingEntries ++
          (service.batcher.halt instanceIndex).requests) := by
    have requestsSplit := isSplit.map QueueEntry.request
    rw [List.map_append] at requestsSplit
    rw [isReturned]
    exact requestsSplit
  unfold haltInstance
  dsimp only
  split
  · have orphans : (service.batcher.halt instanceIndex).batcher.Coherent :=
      sound.coherent.perform (.halt instanceIndex)
    obtain ⟨isDrained, nothingLeft⟩ := Batcher.drain_pending orphans
    apply takes
    change (requestsOf service.batcher.pendingEntries).Perm
      (requestsOf (service.batcher.halt instanceIndex).batcher.drain.batcher.pendingEntries ++
        ((service.batcher.halt instanceIndex).requests ++
          (service.batcher.halt instanceIndex).batcher.drain.requests))
    rw [isDrained, nothingLeft]
    exact orphaned.trans List.perm_append_comm
  · exact takes _ _ _ orphaned

/-- No step of a worker loses a request, and none ends one twice. -/
theorem accounts_advance
    (instanceIndex now : Nat) :
    (service.advance instanceIndex now).accounts.Perm service.accounts := by
  have ends :
      ∀ (delivery : Delivery) (old new : Activity),
        service.activity instanceIndex = old →
        old ≠ .stopped →
        old.held = delivery.request :: new.held →
        ((service.finish delivery).withActivity instanceIndex new).accounts.Perm
          service.accounts := by
    intro delivery old new isOld working isHeld
    refine accounts_withActivity isOld working ?_
    rw [accounts_finish, isHeld, List.append_assoc]
    rfl
  unfold advance
  split
  · next isOld => exact accounts_look sound isOld now
  · next isOld => exact ends _ _ _ isOld (by simp) rfl
  · next isOld => exact accounts_withActivity isOld (by simp) (by simp [Activity.held])
  · next isOld => exact accounts_withActivity isOld (by simp) (List.Perm.refl _)
  · exact List.Perm.refl _
  · next isOld => exact accounts_report sound isOld now
  · next isOld => exact ends _ _ _ isOld (by simp) rfl
  · next isOld => exact accounts_withActivity isOld (by simp) (List.Perm.refl _)
  · next isOld => exact accounts_withActivity isOld (by simp) (List.Perm.refl _)
  · next isOld => exact accounts_haltInstance sound isOld
  · next isOld => exact ends _ _ _ isOld (by simp) rfl
  · next isOld => exact accounts_withActivity isOld (by simp) (List.Perm.refl _)
  · exact List.Perm.refl _

/-- Whoever shuts the service down is left with everything that waits. -/
theorem accounts_shutDown :
    service.shutDown.accounts.Perm service.accounts := by
  unfold shutDown
  split
  · exact List.Perm.refl _
  · obtain ⟨isDrained, nothingLeft⟩ := Batcher.drain_pending sound.coherent
    simp only [accounts, inHand, isDrained, nothingLeft, List.map_append,
      Failure.map_request_all]
    rw [List.perm_iff_count]
    intro request
    simp only [requestsOf, List.map_nil, List.count_append, List.count_nil]
    omega

/-- A submission adds its request to the accounts, stamped if it has been let in. -/
theorem accounts_submit
    (request : Request)
    (now : Nat) :
    ∃ stamp,
      (service.submit request now).1.accounts.Perm
        (service.accounts ++ [request.arriveAt stamp]) := by
  have submission := submit_submission sound.coherent request now
  generalize service.submit request now = answer at submission
  cases submission with
  | accepted isSplit =>
      refine ⟨now, ?_⟩
      have requestsSplit := List.perm_iff_count.mp (isSplit.map QueueEntry.request)
      rw [List.perm_iff_count]
      intro other
      have counted := requestsSplit other
      simp only [List.map_append, List.map_singleton, Batcher.request_entryFor] at counted
      simp only [accounts, inHand, requestsOf, List.count_append] at counted ⊢
      omega
  | rejected sameWaiting error =>
      have isRequest : request.arriveAt request.arrival = request := rfl
      refine ⟨request.arrival, ?_⟩
      rw [isRequest]
      have requestsSplit := List.perm_iff_count.mp (sameWaiting.map QueueEntry.request)
      rw [List.perm_iff_count]
      intro other
      have counted := requestsSplit other
      simp only [accounts, inHand, requestsOf, List.map_append, List.map_singleton,
        List.count_append] at counted ⊢
      omega

end Steps

/-- The batch stays with the worker when the backend answers. -/
theorem accounts_answer
    (service : Service)
    (instanceIndex : Nat)
    (answer : BackendAnswer)
    (now : Nat) :
    (service.answer instanceIndex answer now).accounts.Perm service.accounts := by
  unfold Service.answer
  split
  · next isOld => exact accounts_withActivity isOld (by simp) (List.Perm.refl _)
  · exact List.Perm.refl _

/-- A caller ends what it was left with. -/
theorem accounts_finishCaller
    (service : Service)
    (position : Nat) :
    (service.finishCaller position).accounts.Perm service.accounts := by
  unfold finishCaller
  split
  · exact List.Perm.refl _
  · next failure isCaller =>
      have taken := (perm_cons_eraseIdx isCaller).map Failure.request
      rw [accounts_finish]
      rw [List.perm_iff_count] at taken ⊢
      intro request
      have counted := taken request
      simp only [accounts, inHand, List.map_cons, List.count_append, List.count_cons,
        List.count_nil, Failure.toDelivery] at counted ⊢
      omega

/-- A new service answers for nothing. -/
theorem accounts_start
    {config : ModelConfig}
    {start entryBytes : Nat}
    (started : Service.start config start entryBytes = .ok service) :
    service.accounts = [] := by
  unfold Service.start at started
  split at started
  · contradiction
  · cases started
    simp [accounts, inHand, Batcher.ofConfig_eq_ofKind, Batcher.pendingEntries_ofKind, requestsOf,
      Activity.held]

section Outside

variable (service)

/-- A worker leaves the callers alone, and tells what it ends. -/
theorem advance_outside
    (instanceIndex now : Nat) :
    (service.advance instanceIndex now).callers = service.callers ∧
      ∃ ends, service.Tells (service.advance instanceIndex now) ends := by
  have quiet :
      ∀ changed : Service,
        changed.callers = service.callers →
        changed.ended = service.ended →
        changed.completions = service.completions →
        changed.callers = service.callers ∧ ∃ ends, service.Tells changed ends :=
    fun changed sameCallers sameEnded sameCompletions =>
      ⟨sameCallers, [], service.tells_nothing sameEnded sameCompletions⟩
  have ends :
      ∀ (delivery : Delivery) (new : Activity),
        ((service.finish delivery).withActivity instanceIndex new).callers = service.callers ∧
          ∃ ends, service.Tells ((service.finish delivery).withActivity instanceIndex new) ends :=
    fun delivery new => ⟨rfl, [delivery], rfl, rfl⟩
  unfold advance
  split
  · unfold look
    split
    · exact quiet _ rfl rfl rfl
    · split
      · next lost overreaches =>
          have tells := service.tells_lose lost.requests
          exact ⟨rfl, _, tells.ended, tells.completions⟩
      · exact quiet _ rfl rfl rfl
  · exact ends _ _
  · exact quiet _ rfl rfl rfl
  · exact quiet _ rfl rfl rfl
  · exact quiet _ rfl rfl rfl
  · exact quiet _ rfl rfl rfl
  · exact ends _ _
  · exact quiet _ rfl rfl rfl
  · exact quiet _ rfl rfl rfl
  · unfold haltInstance
    dsimp only
    split <;> exact quiet _ rfl rfl rfl
  · exact ends _ _
  · exact quiet _ rfl rfl rfl
  · exact quiet _ rfl rfl rfl

theorem answer_outside
    (instanceIndex : Nat)
    (answer : BackendAnswer)
    (now : Nat) :
    (service.answer instanceIndex answer now).callers = service.callers ∧
      service.Tells (service.answer instanceIndex answer now) [] := by
  unfold Service.answer
  split <;> exact ⟨rfl, service.tells_nothing rfl rfl⟩

/-- Shutting down ends nothing by itself. -/
theorem shutDown_outside :
    (∃ left, service.shutDown.callers = service.callers ++ left) ∧
      service.Tells service.shutDown [] := by
  unfold shutDown
  split
  · exact ⟨⟨[], (List.append_nil _).symm⟩, service.tells_nothing rfl rfl⟩
  · exact ⟨⟨_, rfl⟩, service.tells_nothing rfl rfl⟩

theorem finishCaller_tells
    (position : Nat) :
    ∃ ends, service.Tells (service.finishCaller position) ends := by
  unfold finishCaller
  split
  · exact ⟨[], service.tells_nothing rfl rfl⟩
  · exact ⟨_, rfl, rfl⟩

/-- Letting a request in, or turning it away, ends nothing by itself. -/
theorem submit_tells
    (request : Request)
    (now : Nat) :
    service.Tells (service.submit request now).1 [] := by
  unfold submit reject
  split
  · exact service.tells_nothing rfl rfl
  · split
    · dsimp only
      split <;> exact service.tells_nothing rfl rfl
    · exact service.tells_nothing rfl rfl

end Outside

end Service

end InferenceBatching
