import InferenceBatching.Proofs.Service.Delivery

namespace InferenceBatching

/-!
# Backends that return the inputs

If all backends return the inputs of the requests as their outputs, nothing that
happens to a batch between its formation and the last of its completions can give the
inputs of one request to another.
-/

/-- What a request is due from a backend that returns its inputs. -/
def Request.echoed
    (request : Request) :
    List NamedTensor :=
  if request.requestedOutputs = [] then
    request.inputs
  else
    request.inputs.filter (fun input => input.name ∈ request.requestedOutputs)

/-- A request that succeeds has got what it is due, under its own id. -/
def Delivery.Echoes
    (delivery : Delivery) :
    Prop :=
  ∀ response,
    delivery.outcome = .succeeded response →
      response.request = delivery.request.id ∧ response.outputs = delivery.request.echoed

/-- What a worker has from its backend is what is due. -/
def Activity.Echoes :
    Activity →
    Prop
  | .returned batch answer _ => answer = echo batch
  | .delivering deliveries _ => ∀ delivery ∈ deliveries, delivery.Echoes
  | _ => True

theorem Failure.echoes
    (failure : Failure) :
    failure.toDelivery.Echoes := by
  intro response succeeded
  contradiction

/-- The k-th request gets the k-th inputs, which are its own. -/
theorem Batch.echoes_endings
    (batch : Batch)
    (computed : Nat) :
    ∀ delivery ∈ batch.endings (echo batch) computed, delivery.Echoes := by
  intro delivery member response succeeded
  obtain ⟨index, isDelivery⟩ := List.mem_iff_getElem?.mp member
  have inRange : index < batch.queueEntries.length := by
    rw [batch.length_queueEntries, ← (batch.inStep _ (echo batch)).deliveries]
    exact (List.getElem?_eq_some_iff.mp isDelivery).1
  have isEntry := List.getElem?_eq_getElem inRange
  obtain ⟨outcome, isEnded, ending⟩ := BatchRun.ending_deliveries isEntry (echo batch)
  have same := Option.some.inj (isDelivery.symm.trans isEnded)
  subst same
  have isRequest : batch.requests[index]? = some batch.queueEntries[index].request := by
    rw [batch.requests_eq, requestsOf, List.getElem?_map, isEntry, Option.map_some]
  subst succeeded
  cases ending with
  | succeeded answered isRow selected =>
      cases answered
      rw [List.getElem?_map, isRequest] at isRow
      cases isRow
      exact ⟨rfl, selected⟩

namespace Service

/-- Whoever has succeeded or is about to has got what is due. -/
structure Echoes
    (service : Service) :
    Prop where
  workers : ∀ index, (service.activity index).Echoes
  ended : ∀ delivery ∈ service.ended, delivery.Echoes

namespace Echoes

variable {service : Service}
variable {instanceIndex : Nat}

theorem withActivity
    (echoes : service.Echoes)
    {new : Activity}
    (isDue : new.Echoes) :
    (service.withActivity instanceIndex new).Echoes where
  workers index := by
    rcases service.activity_withActivity_or instanceIndex new index with isNew | isOld
    · rw [isNew]
      exact isDue
    · rw [isOld]
      exact echoes.workers index
  ended := echoes.ended

theorem finish
    (echoes : service.Echoes)
    {delivery : Delivery}
    (isDue : delivery.Echoes) :
    (service.finish delivery).Echoes where
  workers := echoes.workers
  ended other member := by
    rcases List.mem_append.mp member with before | isLast
    · exact echoes.ended other before
    · exact List.mem_singleton.mp isLast ▸ isDue

theorem look
    (echoes : service.Echoes)
    (instanceIndex now : Nat) :
    (service.look instanceIndex now).Echoes := by
  unfold Service.look
  split
  · exact echoes.withActivity trivial
  · split
    · next lost _ =>
        have afterLoss :
            ({ service with batcher := lost.batcher }.lose lost.requests).Echoes := by
          refine ⟨echoes.workers, ?_⟩
          intro delivery member
          rcases List.mem_append.mp member with before | isLost
          · exact echoes.ended delivery before
          · obtain ⟨failure, _, isDelivery⟩ := List.mem_map.mp isLost
            exact isDelivery ▸ failure.echoes
        exact afterLoss.withActivity trivial
    · have stillEchoes :
          ∀ last : Batcher, { service with batcher := last }.Echoes :=
        fun _ => ⟨echoes.workers, echoes.ended⟩
      dsimp only
      refine (stillEchoes _).withActivity ?_
      split <;> trivial

/-- The report of a batch that was answered with its inputs makes everybody get their own. -/
theorem report
    (echoes : service.Echoes)
    (instanceIndex : Nat)
    (batch : Batch)
    (computed now : Nat) :
    (service.report instanceIndex batch (echo batch) computed now).Echoes := by
  have own := batch.echoes_endings computed
  have stillEchoes :
      ∀ last : Batcher, { service with batcher := last }.Echoes :=
    fun _ => ⟨echoes.workers, echoes.ended⟩
  unfold Service.report
  dsimp only
  refine (stillEchoes _).withActivity ?_
  split
  · intro delivery member
    rcases List.mem_append.mp member with ofBatch | ofOthers
    · exact own delivery ofBatch
    · obtain ⟨failure, _, isDelivery⟩ := List.mem_map.mp ofOthers
      exact isDelivery ▸ failure.echoes
  · exact own

theorem advance
    (echoes : service.Echoes)
    (instanceIndex now : Nat) :
    (service.advance instanceIndex now).Echoes := by
  have isDue := echoes.workers instanceIndex
  unfold Service.advance
  split
  · exact echoes.look instanceIndex now
  · next failure rest batch? _ => exact (echoes.finish failure.echoes).withActivity trivial
  · exact echoes.withActivity trivial
  · exact echoes.withActivity trivial
  · exact echoes
  · next batch answer computed isReturned =>
      rw [isReturned] at isDue
      have isEcho : answer = echo batch := isDue
      exact isEcho ▸ echoes.report instanceIndex batch computed now
  · next delivery rest fault? isDelivering =>
      rw [isDelivering] at isDue
      exact (echoes.finish (isDue delivery List.mem_cons_self)).withActivity
        (fun other member => isDue other (List.mem_cons_of_mem delivery member))
  · exact echoes.withActivity trivial
  · exact echoes.withActivity trivial
  · next fault _ =>
      have marked : (service.markHalted instanceIndex).Echoes :=
        ⟨fun index => service.activity_markHalted instanceIndex index ▸ echoes.workers index,
          echoes.ended⟩
      have stillEchoes :
          ∀ last : Batcher, { service.markHalted instanceIndex with batcher := last }.Echoes :=
        fun _ => ⟨marked.workers, marked.ended⟩
      exact (stillEchoes _).withActivity trivial
  · next failure rest _ => exact (echoes.finish failure.echoes).withActivity trivial
  · exact echoes.withActivity trivial
  · exact echoes

theorem answer
    (echoes : service.Echoes)
    {answer : BackendAnswer}
    (isEcho : ∀ batch ∈ (service.activity instanceIndex).executing?, answer = echo batch)
    (now : Nat) :
    (service.answer instanceIndex answer now).Echoes := by
  unfold Service.answer
  split
  · next batch since isExecuting =>
      have counted :
          Echoes { service with
            statistics := service.statistics.countBatch batch.requestCount (elapsed since now) } :=
        ⟨echoes.workers, echoes.ended⟩
      exact counted.withActivity (isEcho batch (by rw [isExecuting]; rfl))
  · exact echoes

theorem submit
    (echoes : service.Echoes)
    (request : Request)
    (now : Nat) :
    (service.submit request now).1.Echoes := by
  unfold Service.submit
  split
  · exact ⟨echoes.workers, echoes.ended⟩
  · split
    · dsimp only
      split <;> exact ⟨echoes.workers, echoes.ended⟩
    · exact ⟨echoes.workers, echoes.ended⟩

theorem finishCaller
    (echoes : service.Echoes)
    (position : Nat) :
    (service.finishCaller position).Echoes := by
  unfold Service.finishCaller
  split
  · exact echoes
  · next failure _ =>
      have taken :
          { service with callers := service.callers.eraseIdx position }.Echoes :=
        ⟨echoes.workers, echoes.ended⟩
      exact taken.finish failure.echoes

theorem shutDown
    (echoes : service.Echoes) :
    service.shutDown.Echoes := by
  unfold Service.shutDown
  split
  · exact echoes
  · exact ⟨echoes.workers, echoes.ended⟩

end Echoes

/-- A new service has ended nothing and is about to end nothing. -/
theorem echoes_start
    {config : ModelConfig}
    {start entryBytes : Nat}
    {service : Service}
    (started : Service.start config start entryBytes = .ok service) :
    service.Echoes := by
  unfold Service.start at started
  split at started
  · contradiction
  · cases started
    refine ⟨fun index => ?_, by simp⟩
    simp only [activity, List.getElem?_replicate]
    split
    · next isWorker =>
        split at isWorker
        · cases isWorker
          trivial
        · contradiction
    · trivial

end Service

namespace Traffic

/-- Whether a backend that answers returns the inputs of its batch. -/
def IsEcho
    (traffic : Traffic) :
    Action →
    Prop
  | .answer instanceIndex answer _ =>
      ∀ batch ∈ (traffic.service.activity instanceIndex).executing?, answer = echo batch
  | .call _ _ | .enter _ _ | .finishCaller _ | .advance _ _ | .shutDown | .receive _ _ => True

instance decidableIsEcho
    (traffic : Traffic)
    (action : Action) :
    Decidable (traffic.IsEcho action) :=
  match action with
  | .answer _ _ _ => inferInstanceAs (Decidable (∀ _ ∈ Activity.executing? _, _))
  | .call _ _ | .enter _ _ | .finishCaller _ | .advance _ _ | .shutDown | .receive _ _ =>
      inferInstanceAs (Decidable True)

/-- Whether all backends that answer in the course of some actions return the inputs. -/
def Echoing :
    Traffic →
    List Action →
    Prop
  | _, [] => True
  | traffic, action :: actions => traffic.IsEcho action ∧ (traffic.perform action).Echoing actions

instance decidableEchoing :
    (traffic : Traffic) →
    (actions : List Action) →
    Decidable (traffic.Echoing actions)
  | _, [] => inferInstanceAs (Decidable True)
  | traffic, action :: actions =>
      have := decidableEchoing (traffic.perform action) actions
      inferInstanceAs (Decidable (_ ∧ _))

variable {traffic : Traffic}

theorem echoes_perform
    (echoes : traffic.service.Echoes)
    {action : Action}
    (isEcho : traffic.IsEcho action) :
    (traffic.perform action).service.Echoes := by
  cases action with
  | call | receive => exact ⟨echoes.workers, echoes.ended⟩
  | enter position now =>
      simp only [perform]
      split
      · exact echoes
      · exact echoes.submit _ now
  | finishCaller position =>
      simp only [perform]
      split
      · exact echoes
      · exact echoes.finishCaller position
  | advance instanceIndex now => exact echoes.advance instanceIndex now
  | answer instanceIndex answer now => exact echoes.answer isEcho now
  | shutDown => exact echoes.shutDown

theorem echoes_after
    (echoes : traffic.service.Echoes)
    {actions : List Action}
    (echoing : traffic.Echoing actions) :
    (traffic.after actions).service.Echoes := by
  induction actions generalizing traffic with
  | nil => exact echoes
  | cons action actions inductionHypothesis =>
      exact inductionHypothesis (echoes_perform echoes echoing.1) echoing.2

/-- Whoever has ended was submitted. -/
theorem Sound.submitted_of_firing
    (sound : traffic.Sound)
    {firing : Firing}
    (fired : firing ∈ traffic.firings) :
    ∃ request ∈ traffic.submitted,
      firing.delivery.request.unstamped = request.unstamped := by
  have isEnded : firing.delivery ∈ traffic.service.ended := by
    rw [sound.ended]
    exact List.mem_map_of_mem fired
  have inAccounts : firing.delivery.request ∈ traffic.arriving ++ traffic.service.accounts :=
    List.mem_append_right _ (List.mem_append_right _ (List.mem_map_of_mem isEnded))
  have isSubmitted := sound.accounts.mem_iff.mpr (List.mem_map_of_mem inAccounts)
  obtain ⟨request, member, same⟩ := List.mem_map.mp isSubmitted
  exact ⟨request, member, same.symm⟩

/--
Requests get their own outcomes. The k-th request of any batch, padding left out, is the
k-th in each of its lists, and ends as any answer of the backend has it at its k-th place.
When the backend of a batch in execution answers, its worker ends just these requests in
this order, one with each of its steps after the report, whatever the others do. And when
all backends return the inputs, every request that has succeeded has got its own.
-/
theorem own_outcomes
    {config : ModelConfig}
    {start entryBytes : Nat}
    {service : Service}
    (started : Service.start config start entryBytes = .ok service)
    (actions : List Action) :
    let traffic := ({ service := service } : Traffic).after actions
    (∀ (batch : Batch) (answer : BackendAnswer) (dispatchedAt computed : Nat),
      batch.InStep
        { dispatchedAt := dispatchedAt, computed := computed, size := batch.requestCount }
        answer) ∧
      (∀ instanceIndex batch since,
        traffic.service.activity instanceIndex = .executing batch since →
          ∀ answer now later,
            let run : BatchRun :=
              { dispatchedAt := batch.formedAt
                computed := now - since
                size := batch.requestCount }
            ∃ own,
              (traffic.after (.answer instanceIndex answer now :: later)).deliveredBy
                  instanceIndex =
                traffic.deliveredBy instanceIndex ++ own ∧
              own.take batch.requestCount =
                (run.deliveries batch.queueEntries answer).take
                  (later.countP (Action.advances instanceIndex) - 1)) ∧
      (Echoing { service := service } actions →
        ∀ firing ∈ traffic.firings, ∀ response,
          firing.delivery.outcome = .succeeded response →
            ∃ request ∈ traffic.submitted,
              firing.delivery.request.unstamped = request.unstamped ∧
                response.request = request.id ∧
                response.outputs = request.echoed) := by
  intro traffic
  have sound : traffic.Sound := (sound_start started).after actions
  refine ⟨fun batch answer _ _ => batch.inStep _ answer, ?_, ?_⟩
  · intro instanceIndex batch since isExecuting answer now later
    obtain ⟨nothing, isReturned⟩ := answer_next sound isExecuting answer now
    obtain ⟨own, isLater, inOrder⟩ :=
      delivered_of_returned (sound.perform (.answer instanceIndex answer now)) isReturned later
    exact ⟨own, nothing ▸ isLater, inOrder⟩
  · intro echoing firing fired response succeeded
    have echoes : traffic.service.Echoes :=
      echoes_after (Service.echoes_start started) echoing
    have isEnded : firing.delivery ∈ traffic.service.ended := by
      rw [sound.ended]
      exact List.mem_map_of_mem fired
    obtain ⟨request, submitted, same⟩ := sound.submitted_of_firing fired
    obtain ⟨ownId, ownOutputs⟩ := echoes.ended firing.delivery isEnded response succeeded
    have sameId := congrArg Request.id same
    have sameOutputs := congrArg Request.echoed same
    exact ⟨request, submitted, same, ownId.trans sameId, ownOutputs.trans sameOutputs⟩

/--
Of three sequences the second has another shape and leaves a gap in the batch. The third
request gets its own input all the same, and only that which it asked for.
-/
theorem own_outcomes_of_gap :
    let config : ModelConfig :=
      { name := "model", sequenceBatching? := some { maxSequences := 3 }, maxBatchSize := 3 }
    let service : Service :=
      { model := "model", batcher := .ofConfig config 0, workers := [{}] }
    let sends := fun (name : String) (elements : List Int) =>
      ({ name := name, tensor := .ofElements [elements.length] .int64 elements } : NamedTensor)
    let first : Request :=
      { id := 1, sequence? := some 7, starts := true, inputs := [sends "x" [5]] }
    let misfit : Request :=
      { id := 2, sequence? := some 8, starts := true, inputs := [sends "x" [1, 2]] }
    let third : Request :=
      { id := 3
        sequence? := some 9
        starts := true
        inputs := [sends "y" [4], sends "x" [6]]
        requestedOutputs := ["x"] }
    let actions : List Action :=
      [.call first, .enter 0 0, .call misfit, .enter 0 0, .call third, .enter 0 0,
        .advance 0 1, .advance 0 1]
    let answer : BackendAnswer :=
      .rows [.outputs [sends "x" [5]], .outputs [sends "y" [4], sends "x" [6]]]
    let later : List Action := [.advance 0 3, .advance 0 3, .advance 0 3]
    let traffic := ({ service := service } : Traffic).after (actions ++ .answer 0 answer 2 :: later)
    ((traffic.deliveredBy 0).take 2).map (fun delivery => delivery.request.id) = [1, 3] ∧
      ∃ firing ∈ traffic.firings,
        ∃ response,
          firing.delivery.outcome = .succeeded response ∧
            response.request = 3 ∧
            response.outputs = [sends "x" [6]] := by
  intro config service sends first misfit third actions answer later traffic
  have started : Service.start config 0 = .ok service := by decide
  let batch : Batch :=
    { form := .sequence {}
      instanceIndex := 0
      formedAt := 1
      entries :=
        [.seated 0 (.enter first {} 0), .padding 1 (some 8),
          .seated 2 (.enter { third with completion := 2 } {} 0)] }
  obtain ⟨_, inOrder, _⟩ := own_outcomes started actions
  have isExecuting :
      (({ service := service } : Traffic).after actions).service.activity 0 =
        .executing batch 1 := by
    decide
  obtain ⟨own, isOwn, isCut⟩ := inOrder 0 batch 1 isExecuting answer 2 later
  have isTraffic :
      traffic = (({ service := service } : Traffic).after actions).after
        (.answer 0 answer 2 :: later) :=
    List.foldl_append
  have noneBefore : (({ service := service } : Traffic).after actions).deliveredBy 0 = [] := by
    decide
  rw [← isTraffic, noneBefore, List.nil_append] at isOwn
  refine ⟨?_, ?_⟩
  · rw [isOwn]
    refine (congrArg (List.map fun delivery => delivery.request.id) isCut).trans ?_
    decide
  · have echoing : Echoing { service := service } (actions ++ .answer 0 answer 2 :: later) := by
      decide
    let firing : Firing :=
      { agent := .worker 0
        delivery :=
          { request := { third with completion := 2 }
            outcome :=
              .succeeded
                { request := 3
                  outputs := [sends "x" [6]]
                  queued := 1
                  computed := 1
                  batchSize := 2 } } }
    have fired : firing ∈ traffic.firings := by decide
    obtain ⟨_, _, echoes⟩ := own_outcomes started (actions ++ .answer 0 answer 2 :: later)
    obtain ⟨request, _, same, isId, isOutputs⟩ := echoes echoing firing fired _ rfl
    exact ⟨firing, fired, _, rfl, isId.trans (congrArg Request.id same).symm,
      isOutputs.trans (congrArg Request.echoed same).symm⟩

end Traffic

end InferenceBatching
