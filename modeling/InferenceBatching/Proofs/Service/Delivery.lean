import InferenceBatching.Proofs.Service.ExactlyOnce
import InferenceBatching.Proofs.Service.Outcomes

namespace InferenceBatching

/-!
# Each request gets its own outcome

Once its backend has answered, a worker ends the requests of the batch one by one, in
the order of the batch and each as the answer says, whatever the others do meanwhile.
So with a backend that returns the inputs, every request that succeeds gets its own.
-/

/-- The ends of the requests of a batch, in order, once its backend has answered. -/
def Batch.endings
    (batch : Batch)
    (answer : BackendAnswer)
    (computed : Nat) :
    List Delivery :=
  BatchRun.deliveries
    { dispatchedAt := batch.formedAt, computed := computed, size := batch.requestCount }
    batch.queueEntries answer

/-- Whether an action is a step of the worker of an instance. -/
def Action.advances
    (instanceIndex : Nat) :
    Action →
    Bool
  | .advance other _ => other = instanceIndex
  | _ => false

theorem Action.advances_iff
    {instanceIndex : Nat}
    {action : Action} :
    action.advances instanceIndex = true ↔ ∃ now, action = .advance instanceIndex now := by
  cases action <;> simp [advances]

namespace Service

variable {service : Service}
variable {instanceIndex other : Nat}

theorem activity_withActivity_self
    (working : service.activity instanceIndex ≠ .stopped)
    (new : Activity) :
    (service.withActivity instanceIndex new).activity instanceIndex = new := by
  obtain ⟨worker, isWorker, _⟩ := worker_of_activity rfl working
  simp [activity, getElem?_withActivity, isWorker]

theorem activity_withActivity_of_ne
    (elsewhere : other ≠ instanceIndex)
    (new : Activity) :
    (service.withActivity instanceIndex new).activity other = service.activity other := by
  simp only [activity, getElem?_withActivity, if_neg elsewhere]

/-- A worker is doing what it was set to do, or what it did before. -/
theorem activity_withActivity_or
    (service : Service)
    (instanceIndex : Nat)
    (new : Activity)
    (other : Nat) :
    (service.withActivity instanceIndex new).activity other = new ∨
      (service.withActivity instanceIndex new).activity other = service.activity other := by
  by_cases own : other = instanceIndex
  · subst own
    simp only [activity, getElem?_withActivity, if_pos]
    cases service.workers[other]? with
    | none => exact .inr rfl
    | some worker => exact .inl rfl
  · exact .inr (activity_withActivity_of_ne own new)

theorem activity_markHalted
    (service : Service)
    (instanceIndex other : Nat) :
    (service.markHalted instanceIndex).activity other = service.activity other := by
  rw [activity_eq, activity_eq, activities_markHalted]

/-- A step of a worker is none of the others'. -/
theorem activity_advance_of_ne
    (elsewhere : other ≠ instanceIndex)
    (now : Nat) :
    (service.advance instanceIndex now).activity other = service.activity other := by
  have goesOn :
      ∀ (changed : Service) (new : Activity),
        changed.activity other = service.activity other →
        (changed.withActivity instanceIndex new).activity other = service.activity other := by
    intro changed new same
    rw [activity_withActivity_of_ne elsewhere, same]
  unfold advance
  split
  · unfold look
    split
    · exact goesOn _ _ rfl
    · split <;> exact goesOn _ _ rfl
  · exact goesOn _ _ rfl
  · exact goesOn _ _ rfl
  · exact goesOn _ _ rfl
  · rfl
  · exact goesOn _ _ rfl
  · exact goesOn _ _ rfl
  · exact goesOn _ _ rfl
  · exact goesOn _ _ rfl
  · exact goesOn _ _ (service.activity_markHalted instanceIndex other)
  · exact goesOn _ _ rfl
  · exact goesOn _ _ rfl
  · rfl

/-- A backend's answer is for the worker that waits for it. -/
theorem activity_answer_of_idle
    (idle : ∀ batch since, service.activity other ≠ .executing batch since)
    (instanceIndex : Nat)
    (answer : BackendAnswer)
    (now : Nat) :
    (service.answer instanceIndex answer now).activity other = service.activity other := by
  unfold Service.answer
  split
  · next batch since isExecuting =>
      have elsewhere : other ≠ instanceIndex := by
        intro same
        exact idle batch since (same ▸ isExecuting)
      rw [activity_withActivity_of_ne elsewhere]
      rfl
  · rfl

theorem workers_submit
    (service : Service)
    (request : Request)
    (now : Nat) :
    (service.submit request now).1.workers = service.workers := by
  unfold submit
  split
  · rfl
  · split
    · dsimp only
      split <;> rfl
    · rfl

theorem workers_finishCaller
    (service : Service)
    (position : Nat) :
    (service.finishCaller position).workers = service.workers := by
  unfold finishCaller
  split <;> rfl

theorem workers_shutDown
    (service : Service) :
    service.shutDown.workers = service.workers := by
  unfold shutDown
  split <;> rfl

end Service

namespace Traffic

variable {traffic : Traffic}
variable {changed : Service}
variable {instanceIndex : Nat}

/-- What the worker of an instance has delivered, in order. -/
def deliveredBy
    (traffic : Traffic)
    (instanceIndex : Nat) :
    List Delivery :=
  (traffic.firings.filter (fun firing => firing.agent = .worker instanceIndex)).map
    Firing.delivery

theorem deliveredBy_become_of_ne
    {agent : Agent}
    (elsewhere : agent ≠ .worker instanceIndex)
    (changed : Service)
    (reply? : Option Reply) :
    (traffic.become changed agent reply?).deliveredBy instanceIndex =
      traffic.deliveredBy instanceIndex := by
  have others :
      ∀ firing ∈ (changed.ended.drop traffic.firings.length).map (fun delivery =>
          ({ agent := agent, delivery := delivery } : Firing)),
        ¬decide (firing.agent = .worker instanceIndex) = true := by
    intro firing member
    obtain ⟨delivery, _, isFiring⟩ := List.mem_map.mp member
    simp [← isFiring, elsewhere]
  simp only [deliveredBy, become, List.filter_append, List.filter_eq_nil_iff.mpr others,
    List.append_nil]

/-- What the step of a worker ends has been delivered by it. -/
theorem deliveredBy_become_self
    (recorded : traffic.service.ended = traffic.firings.map Firing.delivery)
    {ends : List Delivery}
    (isEnded : changed.ended = traffic.service.ended ++ ends)
    (reply? : Option Reply) :
    (traffic.become changed (.worker instanceIndex) reply?).deliveredBy instanceIndex =
      traffic.deliveredBy instanceIndex ++ ends := by
  have fresh : changed.ended.drop traffic.firings.length = ends := by
    rw [isEnded, recorded, List.drop_left' (List.length_map _)]
  simp [deliveredBy, become, fresh, List.filter_append, List.filter_map, Function.comp_def]

theorem deliveredBy_advance
    (sound : traffic.Sound)
    {now : Nat}
    {ends : List Delivery}
    (isEnded :
      (traffic.service.advance instanceIndex now).ended = traffic.service.ended ++ ends) :
    (traffic.perform (.advance instanceIndex now)).deliveredBy instanceIndex =
      traffic.deliveredBy instanceIndex ++ ends :=
  deliveredBy_become_self sound.ended isEnded none

/-- Only its own steps make a worker deliver anything. -/
theorem deliveredBy_perform
    (sound : traffic.Sound)
    {action : Action}
    (notOwn : action.advances instanceIndex = false) :
    (traffic.perform action).deliveredBy instanceIndex = traffic.deliveredBy instanceIndex := by
  cases action with
  | call | receive => rfl
  | enter position now =>
      simp only [perform]
      split
      · rfl
      · rw [deliveredBy_become_of_ne (by simp)]
        rfl
  | finishCaller position =>
      simp only [perform]
      split
      · rfl
      · rw [deliveredBy_become_of_ne (by split <;> simp)]
        rfl
  | advance other now =>
      have elsewhere : other ≠ instanceIndex := by simpa [Action.advances] using notOwn
      exact deliveredBy_become_of_ne (by simpa using elsewhere) _ _
  | answer other answer now =>
      by_cases own : other = instanceIndex
      · subst own
        have tells := (traffic.service.answer_outside other answer now).2
        exact (deliveredBy_become_self sound.ended tells.ended none).trans (List.append_nil _)
      · exact deliveredBy_become_of_ne (by simpa using own) _ _
  | shutDown => exact deliveredBy_become_of_ne (by simp) _ _

/-- A worker that does not wait for its backend goes on by its own steps only. -/
theorem activity_perform
    (idle : ∀ batch since, traffic.service.activity instanceIndex ≠ .executing batch since)
    {action : Action}
    (notOwn : action.advances instanceIndex = false) :
    (traffic.perform action).service.activity instanceIndex =
      traffic.service.activity instanceIndex := by
  have sameWorkers :
      ∀ changed : Service,
        changed.workers = traffic.service.workers →
        changed.activity instanceIndex = traffic.service.activity instanceIndex := by
    intro changed same
    simp only [Service.activity, same]
  cases action with
  | call | receive => rfl
  | enter position now =>
      simp only [perform]
      split
      · rfl
      · exact sameWorkers _ (traffic.service.workers_submit _ now)
  | finishCaller position =>
      simp only [perform]
      split
      · rfl
      · exact sameWorkers _ (traffic.service.workers_finishCaller position)
  | advance other now =>
      have elsewhere : other ≠ instanceIndex := by simpa [Action.advances] using notOwn
      exact Service.activity_advance_of_ne (Ne.symm elsewhere) now
  | answer other answer now => exact Service.activity_answer_of_idle idle other answer now
  | shutDown => exact sameWorkers _ traffic.service.workers_shutDown

/-- What a worker has delivered stays delivered. -/
theorem deliveredBy_after
    (sound : traffic.Sound)
    (actions : List Action)
    (instanceIndex : Nat) :
    ∃ own,
      (traffic.after actions).deliveredBy instanceIndex =
        traffic.deliveredBy instanceIndex ++ own := by
  induction actions generalizing traffic with
  | nil => exact ⟨[], (List.append_nil _).symm⟩
  | cons action actions inductionHypothesis =>
      obtain ⟨later, isLater⟩ := inductionHypothesis (sound.perform action)
      cases own : action.advances instanceIndex with
      | false => exact ⟨later, by rw [← deliveredBy_perform sound own]; exact isLater⟩
      | true =>
          obtain ⟨now, isAdvance⟩ := Action.advances_iff.mp own
          subst isAdvance
          obtain ⟨_, ends, tells⟩ := traffic.service.advance_outside instanceIndex now
          refine ⟨ends ++ later, ?_⟩
          rw [← List.append_assoc, ← deliveredBy_advance sound tells.ended]
          exact isLater

/-- A worker that delivers ends the request that is next with a step of its own. -/
theorem deliver_next
    (sound : traffic.Sound)
    {delivery : Delivery}
    {due : List Delivery}
    {fault? : Option Fault}
    (isDelivering :
      traffic.service.activity instanceIndex = .delivering (delivery :: due) fault?)
    (now : Nat) :
    (traffic.perform (.advance instanceIndex now)).deliveredBy instanceIndex =
        traffic.deliveredBy instanceIndex ++ [delivery] ∧
      (traffic.perform (.advance instanceIndex now)).service.activity instanceIndex =
        .delivering due fault? := by
  have isNext :
      traffic.service.advance instanceIndex now =
        (traffic.service.finish delivery).withActivity instanceIndex
          (.delivering due fault?) := by
    simp only [Service.advance, isDelivering]
  have working : (traffic.service.finish delivery).activity instanceIndex ≠ .stopped := by
    intro stopped
    exact Activity.noConfusion (isDelivering.symm.trans stopped)
  exact ⟨deliveredBy_advance sound (congrArg Service.ended isNext),
    (congrArg (Service.activity · instanceIndex) isNext).trans
      (Service.activity_withActivity_self working _)⟩

/-- A worker that delivers ends one request after the other, each with a step of its own. -/
theorem delivered_of_delivering
    (sound : traffic.Sound)
    {due : List Delivery}
    {fault? : Option Fault}
    (isDelivering : traffic.service.activity instanceIndex = .delivering due fault?)
    (actions : List Action) :
    ∃ own,
      (traffic.after actions).deliveredBy instanceIndex =
          traffic.deliveredBy instanceIndex ++ own ∧
        own.take due.length = due.take (actions.countP (Action.advances instanceIndex)) := by
  induction actions generalizing traffic due with
  | nil => exact ⟨[], (List.append_nil _).symm, by simp⟩
  | cons action actions inductionHypothesis =>
      cases own : action.advances instanceIndex with
      | false =>
          have idle : ∀ batch since,
              traffic.service.activity instanceIndex ≠ .executing batch since := by
            simp [isDelivering]
          have stillDelivering := (activity_perform idle own).trans isDelivering
          rw [List.countP_cons_of_neg (by simp [own]), ← deliveredBy_perform sound own]
          exact inductionHypothesis (sound.perform action) stillDelivering
      | true =>
          obtain ⟨now, isAdvance⟩ := Action.advances_iff.mp own
          rw [List.countP_cons_of_pos own]
          cases due with
          | nil =>
              obtain ⟨later, isLater⟩ := deliveredBy_after sound (action :: actions) instanceIndex
              exact ⟨later, isLater, by simp⟩
          | cons delivery due =>
              subst isAdvance
              obtain ⟨delivered, stillDelivering⟩ := deliver_next sound isDelivering now
              obtain ⟨later, isLater, inOrder⟩ :=
                inductionHypothesis (sound.perform (.advance instanceIndex now)) stillDelivering
              refine ⟨delivery :: later, ?_, ?_⟩
              · rw [delivered, List.append_assoc] at isLater
                exact isLater
              · rw [List.length_cons, List.take_succ_cons, List.take_succ_cons, inOrder]

/-- A worker that reports its batch goes on to end its requests first. -/
theorem report_next
    (sound : traffic.Sound)
    {batch : Batch}
    {answer : BackendAnswer}
    {computed : Nat}
    (isReturned : traffic.service.activity instanceIndex = .returned batch answer computed)
    (now : Nat) :
    (traffic.perform (.advance instanceIndex now)).deliveredBy instanceIndex =
        traffic.deliveredBy instanceIndex ∧
      ∃ others fault?,
        (traffic.perform (.advance instanceIndex now)).service.activity instanceIndex =
          .delivering (batch.endings answer computed ++ others) fault? := by
  have isReport :
      traffic.service.advance instanceIndex now =
        traffic.service.report instanceIndex batch answer computed now := by
    simp only [Service.advance, isReturned]
  have nothing :
      (traffic.service.advance instanceIndex now).ended = traffic.service.ended ++ [] := by
    rw [isReport, List.append_nil]
    rfl
  refine ⟨by rw [deliveredBy_advance sound nothing, List.append_nil], ?_⟩
  change ∃ others fault?,
    (traffic.service.advance instanceIndex now).activity instanceIndex = _
  rw [isReport]
  unfold Service.report
  dsimp only
  generalize traffic.service.batcher.complete instanceIndex batch.records now = settlement
  have working :
      { traffic.service with batcher := settlement.batcher }.activity instanceIndex ≠
        .stopped := by
    intro stopped
    exact Activity.noConfusion (isReturned.symm.trans stopped)
  rw [Service.activity_withActivity_self working]
  cases settlement.verdict with
  | settled failures => exact ⟨_, _, rfl⟩
  | refused fault => exact ⟨[], _, by rw [List.append_nil]; rfl⟩

/-- Once a batch has returned, its requests are ended in order, the first step being the report. -/
theorem delivered_of_returned
    (sound : traffic.Sound)
    {batch : Batch}
    {answer : BackendAnswer}
    {computed : Nat}
    (isReturned : traffic.service.activity instanceIndex = .returned batch answer computed)
    (actions : List Action) :
    ∃ own,
      (traffic.after actions).deliveredBy instanceIndex =
          traffic.deliveredBy instanceIndex ++ own ∧
        own.take batch.requestCount =
          (batch.endings answer computed).take
            (actions.countP (Action.advances instanceIndex) - 1) := by
  induction actions generalizing traffic with
  | nil => exact ⟨[], (List.append_nil _).symm, by simp⟩
  | cons action actions inductionHypothesis =>
      cases own : action.advances instanceIndex with
      | false =>
          have idle : ∀ batch since,
              traffic.service.activity instanceIndex ≠ .executing batch since := by
            simp [isReturned]
          have stillReturned := (activity_perform idle own).trans isReturned
          rw [List.countP_cons_of_neg (by simp [own]), ← deliveredBy_perform sound own]
          exact inductionHypothesis (sound.perform action) stillReturned
      | true =>
          obtain ⟨now, isAdvance⟩ := Action.advances_iff.mp own
          subst isAdvance
          rw [List.countP_cons_of_pos own, Nat.add_sub_cancel]
          obtain ⟨nothing, others, fault?, isDelivering⟩ := report_next sound isReturned now
          obtain ⟨later, isLater, inOrder⟩ :=
            delivered_of_delivering (sound.perform (.advance instanceIndex now)) isDelivering
              actions
          refine ⟨later, nothing ▸ isLater, ?_⟩
          have isCount : (batch.endings answer computed).length = batch.requestCount :=
            (batch.inStep _ answer).deliveries
          have cut := congrArg (List.take batch.requestCount) inOrder
          rw [List.take_take, List.length_append, isCount, Nat.min_eq_left (by omega),
            List.take_take, Nat.min_comm, ← List.take_take, ← isCount, List.take_left] at cut
          rw [← isCount]
          exact cut

/-- A worker whose backend answers has its batch back, and has ended nothing by that. -/
theorem answer_next
    (sound : traffic.Sound)
    {batch : Batch}
    {since : Nat}
    (isExecuting : traffic.service.activity instanceIndex = .executing batch since)
    (answer : BackendAnswer)
    (now : Nat) :
    (traffic.perform (.answer instanceIndex answer now)).deliveredBy instanceIndex =
        traffic.deliveredBy instanceIndex ∧
      (traffic.perform (.answer instanceIndex answer now)).service.activity instanceIndex =
        .returned batch answer (elapsed since now) := by
  refine ⟨deliveredBy_perform sound rfl, ?_⟩
  have working : traffic.service.activity instanceIndex ≠ .stopped := by simp [isExecuting]
  change (traffic.service.answer instanceIndex answer now).activity instanceIndex = _
  simp only [Service.answer, isExecuting]
  exact Service.activity_withActivity_self working _

end Traffic

end InferenceBatching
