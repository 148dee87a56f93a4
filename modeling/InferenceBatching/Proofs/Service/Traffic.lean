import InferenceBatching.Proofs.Service.Custody

namespace InferenceBatching

/-!
# Traffic

Submitters, workers and whoever shuts the service down take turns in any order. An
action is a critical section of one of them or the firing of one completion, or the
receiver of a completion looks for its outcome. The traffic records which calls have
been made and have returned, and which completions have been fired by whom.
-/

/-- A request as its caller made it: without the stamp that it is given when it is let in. -/
def Request.unstamped
    (request : Request) :
    Request :=
  request.arriveAt 0

@[simp]
theorem Request.unstamped_arriveAt
    (request : Request)
    (stamp : Nat) :
    (request.arriveAt stamp).unstamped = request.unstamped :=
  rfl

/-- A call of submit that has returned: its request, and why it was turned away, if it was. -/
structure Reply where
  request : Request
  error? : Option RequestError
  deriving Repr, DecidableEq

/-- The completion that a call of submit fires before it returns an error. -/
def Reply.delivery?
    (reply : Reply) :
    Option Delivery :=
  reply.error?.map (fun error => { request := reply.request, outcome := .failed error })

/-- A completion that a caller has to fire; a call of submit returns its reply then. -/
structure Caller where
  failure : Failure
  reply? : Option Reply
  deriving Repr, DecidableEq

/-- Who fires a completion. -/
inductive Agent where
  | submitter
  | closer
  | worker (instanceIndex : Nat)
  deriving Repr, DecidableEq

/-- A completion that has been fired. -/
structure Firing where
  agent : Agent
  delivery : Delivery
  deriving Repr, DecidableEq

/-- Whether a completion was fired by the call of submit that brought it. -/
def Firing.isSynchronous
    (firing : Firing) :
    Bool :=
  firing.agent = .submitter

/-- What one of the parties does next. -/
inductive Action where
  | call (request : Request) (sink : CompletionSink := .channel)
  | enter (position : Nat) (now : Nat)
  | finishCaller (position : Nat)
  | advance (instanceIndex : Nat) (now : Nat)
  | answer (instanceIndex : Nat) (answer : BackendAnswer) (now : Nat)
  | shutDown
  | receive (completion : CompletionId) (action : ReceiverAction)
  deriving Repr, DecidableEq

/-- A service with the calls made to it and the completions fired so far. -/
structure Traffic where
  service : Service
  submitted : List Request := []
  arriving : List Request := []
  callers : List Caller := []
  replies : List Reply := []
  firings : List Firing := []
  deriving Repr, DecidableEq

namespace Traffic

/--
The traffic once its service has become another. What has ended that the record does
not show yet was fired by the agent, and what callers have been left with that it does
not show yet belongs to the reply.
-/
def become
    (traffic : Traffic)
    (service : Service)
    (agent : Agent)
    (reply? : Option Reply) :
    Traffic :=
  { traffic with
    service := service
    callers :=
      traffic.callers ++
        (service.callers.drop traffic.callers.length).map (fun failure =>
          { failure := failure, reply? := reply? })
    firings :=
      traffic.firings ++
        (service.ended.drop traffic.firings.length).map (fun delivery =>
          { agent := agent, delivery := delivery }) }

/-- The traffic after an action. An action that is not possible changes nothing. -/
def perform
    (traffic : Traffic) :
    Action →
    Traffic
  | .call request sink =>
      let equipped := traffic.service.equip request sink
      { traffic with
        service := equipped.1
        submitted := traffic.submitted ++ [equipped.2]
        arriving := traffic.arriving ++ [equipped.2] }
  | .enter position now =>
      match traffic.arriving[position]? with
      | none => traffic
      | some request =>
          let answer := traffic.service.submit request now
          let reply : Reply := { request := request, error? := answer.2 }
          { traffic with
            arriving := traffic.arriving.eraseIdx position
            replies := traffic.replies ++ if answer.2.isNone then [reply] else []
          }.become answer.1 .submitter (some reply)
  | .finishCaller position =>
      match traffic.callers[position]? with
      | none => traffic
      | some caller =>
          { traffic with
            callers := traffic.callers.eraseIdx position
            replies := traffic.replies ++ caller.reply?.toList
          }.become (traffic.service.finishCaller position)
            (if caller.reply?.isSome then .submitter else .closer) none
  | .advance instanceIndex now =>
      traffic.become (traffic.service.advance instanceIndex now) (.worker instanceIndex) none
  | .answer instanceIndex answer now =>
      traffic.become (traffic.service.answer instanceIndex answer now) (.worker instanceIndex)
        none
  | .shutDown => traffic.become traffic.service.shutDown .closer none
  | .receive completion action =>
      { traffic with
        service :=
          { traffic.service with
            completions := traffic.service.completions.modify completion
              (fun completion => completion.afterReceiver action) } }

/-- The traffic after several actions. -/
def after
    (traffic : Traffic)
    (actions : List Action) :
    Traffic :=
  actions.foldl perform traffic

/-- The requests whose completions have not been fired, each in the place where it is held. -/
def inHand
    (traffic : Traffic) :
    List Request :=
  traffic.arriving ++ traffic.service.inHand

/-- The requests whose completions have been fired. -/
def fired
    (traffic : Traffic) :
    List Request :=
  traffic.firings.map (fun firing => firing.delivery.request)

/-- All calls have returned and all workers have stopped. -/
structure IsOver
    (traffic : Traffic) :
    Prop where
  arriving : traffic.arriving = []
  callers : traffic.service.callers = []
  stopped : ∀ worker ∈ traffic.service.workers, worker.activity = .stopped

/-- The record agrees with the service. -/
structure Sound
    (traffic : Traffic) :
    Prop where
  service : traffic.service.Sound
  accounts :
    (traffic.submitted.map Request.unstamped).Perm
      ((traffic.arriving ++ traffic.service.accounts).map Request.unstamped)
  ended : traffic.service.ended = traffic.firings.map Firing.delivery
  left : traffic.service.callers = traffic.callers.map Caller.failure
  owed :
    ∀ caller ∈ traffic.callers, ∀ reply ∈ caller.reply?,
      reply.delivery? = some caller.failure.toDelivery
  calls :
    traffic.submitted.Perm
      (traffic.arriving ++ (traffic.callers.filterMap Caller.reply?).map Reply.request ++
        traffic.replies.map Reply.request)
  synchronous :
    traffic.replies.filterMap Reply.delivery? =
      (traffic.firings.filter Firing.isSynchronous).map Firing.delivery

variable {traffic : Traffic}
variable {changed : Service}

/--
The record agrees with a service that goes beyond what it shows by some callers and
some ends, if it agrees but for these.
-/
theorem sound_become
    {agent : Agent}
    {reply? : Option Reply}
    (left : List Failure)
    (ends : List Delivery)
    (service : changed.Sound)
    (accounts :
      (traffic.submitted.map Request.unstamped).Perm
        ((traffic.arriving ++ changed.accounts).map Request.unstamped))
    (isLeft : changed.callers = traffic.callers.map Caller.failure ++ left)
    (isEnded : changed.ended = traffic.firings.map Firing.delivery ++ ends)
    (owed :
      ∀ caller ∈ traffic.callers, ∀ reply ∈ caller.reply?,
        reply.delivery? = some caller.failure.toDelivery)
    (owes :
      ∀ failure ∈ left, ∀ reply ∈ reply?, reply.delivery? = some failure.toDelivery)
    (calls :
      traffic.submitted.Perm
        (traffic.arriving ++ (traffic.callers.filterMap Caller.reply?).map Reply.request ++
          (left.filterMap (fun _ => reply?)).map Reply.request ++
          traffic.replies.map Reply.request))
    (synchronous :
      traffic.replies.filterMap Reply.delivery? =
        (traffic.firings.filter Firing.isSynchronous).map Firing.delivery ++
          if agent = .submitter then ends else []) :
    (traffic.become changed agent reply?).Sound := by
  have callers :
      (traffic.become changed agent reply?).callers =
        traffic.callers ++
          left.map (fun failure => { failure := failure, reply? := reply? }) := by
    simp only [become, isLeft]
    rw [List.drop_left' (List.length_map _)]
  have firings :
      (traffic.become changed agent reply?).firings =
        traffic.firings ++
          ends.map (fun delivery => { agent := agent, delivery := delivery }) := by
    simp only [become, isEnded]
    rw [List.drop_left' (List.length_map _)]
  refine ⟨service, accounts, ?_, ?_, ?_, ?_, ?_⟩
  · rw [firings, List.map_append, List.map_map]
    simpa [become, Function.comp_def] using isEnded
  · rw [callers, List.map_append, List.map_map]
    simpa [become, Function.comp_def] using isLeft
  · intro caller member reply isReply
    rw [callers] at member
    rcases List.mem_append.mp member with before | isNew
    · exact owed caller before reply isReply
    · obtain ⟨failure, isFailure, isCaller⟩ := List.mem_map.mp isNew
      rw [← isCaller] at isReply ⊢
      exact owes failure isFailure reply isReply
  · rw [callers, List.filterMap_append, List.filterMap_map, List.map_append]
    simpa [become, Function.comp_def] using calls
  · rw [firings, List.filter_append, List.filter_map, List.map_append, List.map_map]
    apply synchronous.trans
    congr 1
    split
    · next isSubmitter => simp [isSubmitter, Firing.isSynchronous, Function.comp_def]
    · next isOther => simp [isOther, Firing.isSynchronous, Function.comp_def]

namespace Sound

/-- A step that is no call of submit adds what it ends and what it leaves callers with. -/
theorem become
    (sound : traffic.Sound)
    {agent : Agent}
    (left : List Failure)
    (ends : List Delivery)
    (notSubmitter : agent ≠ .submitter)
    (changedSound : changed.Sound)
    (sameAccounts : changed.accounts.Perm traffic.service.accounts)
    (isLeft : changed.callers = traffic.service.callers ++ left)
    (isEnded : changed.ended = traffic.service.ended ++ ends) :
    (traffic.become changed agent none).Sound := by
  refine sound_become left ends changedSound ?_ (sound.left ▸ isLeft) (sound.ended ▸ isEnded)
    sound.owed (by simp) ?_ ?_
  · apply sound.accounts.trans
    exact ((sameAccounts.symm.append_left traffic.arriving).map Request.unstamped)
  · simpa using sound.calls
  · rw [if_neg notSubmitter, List.append_nil]
    exact sound.synchronous

section Enter

variable {position : Nat}
variable {request : Request}

/-- A request that arrives passes from its caller to the service. -/
private theorem accounts_enter
    (sound : traffic.Sound)
    (isArriving : traffic.arriving[position]? = some request)
    (now : Nat) :
    (traffic.submitted.map Request.unstamped).Perm
      ((traffic.arriving.eraseIdx position ++
        (traffic.service.submit request now).1.accounts).map Request.unstamped) := by
  obtain ⟨stamp, sameAccounts⟩ := Service.accounts_submit sound.service request now
  calc traffic.submitted.map Request.unstamped
    _ |>.Perm ((traffic.arriving ++ traffic.service.accounts).map Request.unstamped) :=
      sound.accounts
    _ |>.Perm ((request :: traffic.arriving.eraseIdx position ++
          traffic.service.accounts).map Request.unstamped) :=
      ((perm_cons_eraseIdx isArriving).append_right _).map Request.unstamped
    _ |>.Perm ((traffic.arriving.eraseIdx position ++
          (traffic.service.accounts ++ [request.arriveAt stamp])).map Request.unstamped) := by
      simp only [← List.append_assoc, List.map_append, List.cons_append, List.map_cons,
        Request.unstamped_arriveAt, List.map_nil]
      exact (List.perm_append_singleton _ _).symm
    _ |>.Perm ((traffic.arriving.eraseIdx position ++
          (traffic.service.submit request now).1.accounts).map Request.unstamped) :=
      (sameAccounts.symm.append_left _).map Request.unstamped

/-- A call whose request has arrived is one that has to return. -/
private theorem calls_enter
    (sound : traffic.Sound)
    (isArriving : traffic.arriving[position]? = some request) :
    traffic.submitted.Perm
      (traffic.arriving.eraseIdx position ++
        (traffic.callers.filterMap Caller.reply?).map Reply.request ++ [request] ++
        traffic.replies.map Reply.request) := by
  have earlier := List.perm_iff_count.mp sound.calls
  have taken := List.perm_iff_count.mp (perm_cons_eraseIdx isArriving)
  rw [List.perm_iff_count]
  intro other
  have counted := earlier other
  have inArriving := taken other
  simp only [List.count_append, List.count_cons, List.count_nil] at counted inArriving ⊢
  omega

end Enter

/-- A call reaches the service: its request is let in, or it is left with its request. -/
theorem enter
    (sound : traffic.Sound)
    (position now : Nat) :
    (traffic.perform (.enter position now)).Sound := by
  simp only [Traffic.perform]
  split
  · exact sound
  · next request isArriving =>
      have accounts := sound.accounts_enter isArriving now
      have calls := sound.calls_enter isArriving
      have stillSound := sound.service.submit request now
      have submission := Service.submit_submission sound.service.coherent request now
      generalize traffic.service.submit request now = answer at accounts stillSound submission
      cases submission with
      | accepted isSplit =>
          refine sound_become [] [] stillSound accounts ?_ ?_ sound.owed (by simp) ?_ ?_
          · simpa using sound.left
          · simpa using sound.ended
          · apply calls.trans
            simpa using ((List.perm_append_singleton request _).symm.append_left _).append_left _
          · simpa [Reply.delivery?, List.filterMap_cons] using sound.synchronous
      | rejected sameWaiting error =>
          refine sound_become [{ request := request, error := error }] [] stillSound accounts ?_ ?_
            sound.owed ?_ ?_ ?_
          · simp [sound.left]
          · simpa using sound.ended
          · intro failure isFailure reply isReply
            cases List.mem_singleton.mp isFailure
            cases isReply
            rfl
          · simpa using calls
          · simpa [Reply.delivery?] using sound.synchronous

/-- A caller fires the completion that it was left with; a call of submit returns. -/
theorem finishCaller
    (sound : traffic.Sound)
    (position : Nat) :
    (traffic.perform (.finishCaller position)).Sound := by
  simp only [Traffic.perform]
  split
  · exact sound
  · next caller isCaller =>
      have isFailure : traffic.service.callers[position]? = some caller.failure := by
        rw [sound.left, List.getElem?_map, isCaller]
        rfl
      have finished :
          traffic.service.finishCaller position =
            { traffic.service with
              callers := traffic.service.callers.eraseIdx position
            }.finish caller.failure.toDelivery := by
        simp [Service.finishCaller, isFailure]
      have sameAccounts := Service.accounts_finishCaller traffic.service position
      refine sound_become [] [caller.failure.toDelivery] (sound.service.finishCaller position) ?_ ?_
        ?_ ?_ (by simp) ?_ ?_
      · apply sound.accounts.trans
        exact (sameAccounts.symm.append_left traffic.arriving).map Request.unstamped
      · rw [finished]
        simp [Service.finish, sound.left, List.eraseIdx_map]
      · rw [finished]
        simp [Service.finish, sound.ended]
      · intro other member
        exact sound.owed other (List.mem_of_mem_eraseIdx member)
      · have earlier := List.perm_iff_count.mp sound.calls
        have taken := List.perm_iff_count.mp
          (((perm_cons_eraseIdx isCaller).filterMap Caller.reply?).map Reply.request)
        rw [List.perm_iff_count]
        intro request
        have counted := earlier request
        have inCallers := taken request
        simp only [List.filterMap_cons, List.map_nil, List.filterMap_nil, List.map_append,
          List.count_append, List.count_nil] at counted inCallers ⊢
        cases isReply : caller.reply? with
        | none =>
            simp only [isReply, Option.toList_none, List.map_nil, List.count_nil] at inCallers ⊢
            omega
        | some reply =>
            simp only [isReply, Option.toList_some, List.map_cons, List.map_nil, List.count_cons,
              List.count_nil] at inCallers ⊢
            omega
      · cases isReply : caller.reply? with
        | none => simpa using sound.synchronous
        | some reply =>
            have isOwed := sound.owed caller (List.mem_of_getElem? isCaller) reply isReply
            simp [isOwed, sound.synchronous]

/-- Every action keeps the record in agreement with the service. -/
theorem perform
    (sound : traffic.Sound)
    (action : Action) :
    (traffic.perform action).Sound := by
  cases action with
  | call request sink =>
      let made := (traffic.service.equip request sink).2
      refine ⟨sound.service.withCompletions _, ?_, sound.ended, sound.left, sound.owed, ?_,
        sound.synchronous⟩
      · have step := sound.accounts.append_right [made.unstamped]
        simp only [Traffic.perform, List.map_append, List.append_assoc] at step ⊢
        exact step.trans (List.perm_append_comm.append_left _)
      · have step := sound.calls.append_right [made]
        simp only [Traffic.perform, List.append_assoc] at step ⊢
        rw [← List.append_assoc (List.map Reply.request _)] at step
        exact step.trans (List.perm_append_comm.append_left _)
  | enter position now => exact sound.enter position now
  | finishCaller position => exact sound.finishCaller position
  | advance instanceIndex now =>
      obtain ⟨sameCallers, ends, tells⟩ := traffic.service.advance_outside instanceIndex now
      exact sound.become [] ends (by simp) (sound.service.advance instanceIndex now)
        (Service.accounts_advance sound.service instanceIndex now) (by simp [sameCallers])
        tells.ended
  | answer instanceIndex answer now =>
      obtain ⟨sameCallers, tells⟩ := traffic.service.answer_outside instanceIndex answer now
      exact sound.become [] [] (by simp) (sound.service.answer instanceIndex answer now)
        (Service.accounts_answer traffic.service instanceIndex answer now) (by simp [sameCallers])
        tells.ended
  | shutDown =>
      obtain ⟨⟨left, isLeft⟩, tells⟩ := traffic.service.shutDown_outside
      exact sound.become left [] (by simp) sound.service.shutDown
        (Service.accounts_shutDown sound.service) isLeft tells.ended
  | receive completion action =>
      exact ⟨sound.service.withCompletions _, sound.accounts, sound.ended, sound.left,
        sound.owed, sound.calls, sound.synchronous⟩

theorem after
    (sound : traffic.Sound)
    (actions : List Action) :
    (traffic.after actions).Sound := by
  induction actions generalizing traffic with
  | nil => exact sound
  | cons action actions inductionHypothesis =>
      exact inductionHypothesis (sound.perform action)

end Sound

end Traffic

end InferenceBatching
