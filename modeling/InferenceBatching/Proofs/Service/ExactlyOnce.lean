import InferenceBatching.Proofs.Service.Informed

namespace InferenceBatching

/-!
# Every request is completed once

However the parties interleave, each completion is fired at most once, and once all
is over, exactly once. Nothing is stranded in the batcher by a shutdown or by the
end of the last instance, and a call of submit returns an error exactly if it has
fired the completion itself. What has been fired is what its submitter has been told,
and what has not been fired has told nobody anything.
-/

namespace Traffic

variable {traffic : Traffic}

/-- A service that takes no more requests takes none after any action. -/
theorem isReady_perform
    (notReady : traffic.service.isReady = false)
    (action : Action) :
    (traffic.perform action).service.isReady = false := by
  cases action with
  | call | receive => exact notReady
  | enter position now =>
      simp only [perform]
      split
      · exact notReady
      · exact traffic.service.isReady_submit _ now notReady
  | finishCaller position =>
      simp only [perform]
      split
      · exact notReady
      · exact traffic.service.isReady_finishCaller position notReady
  | advance instanceIndex now => exact traffic.service.isReady_advance instanceIndex now notReady
  | answer instanceIndex answer now =>
      exact traffic.service.isReady_answer instanceIndex answer now notReady
  | shutDown => exact traffic.service.isReady_shutDown

theorem isReady_after
    (notReady : traffic.service.isReady = false)
    (actions : List Action) :
    (traffic.after actions).service.isReady = false := by
  induction actions generalizing traffic with
  | nil => exact notReady
  | cons action actions inductionHypothesis =>
      exact inductionHypothesis (isReady_perform notReady action)

/-- When all is over, every completion that was brought has been fired. -/
theorem IsOver.inHand_eq_nil
    (isOver : traffic.IsOver)
    (nothing : traffic.service.batcher.pendingEntries = []) :
    traffic.inHand = [] := by
  simp only [Traffic.inHand, Service.inHand, isOver.arriving, isOver.callers, nothing]
  simp only [requestsOf, List.map_nil, List.nil_append, List.flatMap_eq_nil_iff]
  intro worker member
  rw [isOver.stopped worker member]
  rfl

/-- When all is over, every call of submit has returned once. -/
theorem IsOver.returned
    (isOver : traffic.IsOver)
    (sound : traffic.Sound) :
    traffic.submitted.Perm (traffic.replies.map Reply.request) := by
  have noCallers : traffic.callers = [] := by
    have left := sound.left
    rw [isOver.callers] at left
    exact List.map_eq_nil_iff.mp left.symm
  simpa [isOver.arriving, noCallers] using sound.calls

/-- The record of a new service is empty, and so it agrees with it. -/
theorem sound_start
    {config : ModelConfig}
    {start entryBytes : Nat}
    {service : Service}
    (started : Service.start config start entryBytes = .ok service) :
    ({ service := service } : Traffic).Sound := by
  have sound := Service.sound_start started
  have nothing := Service.accounts_start started
  unfold Service.start at started
  split at started
  · contradiction
  · cases started
    refine ⟨sound, ?_, rfl, rfl, by simp, by simp, rfl⟩
    simp [nothing]

/-- Nobody has made a completion when a service starts. -/
theorem informed_start
    {config : ModelConfig}
    {start entryBytes : Nat}
    {service : Service}
    (started : Service.start config start entryBytes = .ok service) :
    ({ service := service } : Traffic).Informed ∧ service.completions = [] := by
  have nothing := Service.accounts_start started
  have nothingInHand := (List.append_eq_nil_iff.mp nothing).1
  unfold Service.start at started
  split at started
  · contradiction
  · cases started
    refine ⟨⟨rfl, ?_, by simp⟩, rfl⟩
    simp [inHand, nothingInHand]

/-- The calls that returned an error are those whose completion was fired by themselves. -/
theorem Sound.request_of_synchronous
    (sound : traffic.Sound) :
    (traffic.replies.filter (fun reply => !reply.error?.isNone)).map Reply.request =
      (traffic.firings.filter Firing.isSynchronous).map (fun firing =>
        firing.delivery.request) := by
  have isReplied := congrArg (List.map Delivery.request) sound.synchronous
  rw [List.map_map] at isReplied
  refine Eq.trans ?_ isReplied
  induction traffic.replies with
  | nil => rfl
  | cons reply replies inductionHypothesis =>
      cases isError : reply.error? <;>
        simp_all [Reply.delivery?]

/-- The calls that returned without an error are those whose completion others fired. -/
theorem Sound.others_fired
    (sound : traffic.Sound)
    (returned : traffic.submitted.Perm (traffic.replies.map Reply.request))
    (completed :
      (traffic.submitted.map Request.unstamped).Perm
        (traffic.fired.map Request.unstamped)) :
    (((traffic.replies.filter (fun reply => reply.error?.isNone)).map Reply.request).map
        Request.unstamped).Perm
      (((traffic.firings.filter (fun firing => !firing.isSynchronous)).map
        (fun firing => firing.delivery.request)).map Request.unstamped) := by
  have ofReplies := ((List.filter_append_perm (fun reply : Reply => reply.error?.isNone)
    traffic.replies).map Reply.request).map Request.unstamped
  have ofFirings := ((List.filter_append_perm (fun firing : Firing => !firing.isSynchronous)
    traffic.firings).map (fun firing => firing.delivery.request)).map Request.unstamped
  simp only [List.map_append, Bool.not_not] at ofReplies ofFirings
  have same := ofReplies.trans ((returned.symm.map Request.unstamped).trans
    (completed.trans ofFirings.symm))
  rw [sound.request_of_synchronous] at same
  exact (List.perm_append_right_iff _).mp same

/--
Start the service of a valid configuration, let backends answer anything, and take any
actions in any order. Then every request that was submitted is in hand in one place,
or its completion has been fired once: one in hand has told nobody anything, and one that
has been fired has called its callback once, or has put its outcome once where a receiver
finds it that has not left. Once the service has shut down or no instance is live, nothing
waits in the batcher, whatever happens later; the calls of submit that returned an error
are those that fired their completion themselves, with that error; and when besides all
have returned, every call has returned once and every completion has been fired exactly
once, by others for the calls that returned no error.
-/
theorem completed_exactly_once
    {config : ModelConfig}
    {start entryBytes : Nat}
    {service : Service}
    (started : Service.start config start entryBytes = .ok service)
    (actions : List Action) :
    let traffic := ({ service := service } : Traffic).after actions
    let isClosed := traffic.service.isShutDown = true ∨ traffic.service.liveCount = 0
    ((traffic.submitted.map Request.unstamped).Perm
        ((traffic.inHand ++ traffic.fired).map Request.unstamped) ∧
      ((traffic.submitted.map Request.id).Nodup →
        ((traffic.inHand ++ traffic.fired).map Request.id).Nodup)) ∧
      (traffic.Informed ∧
        ((traffic.inHand ++ traffic.fired).map Request.completion).Perm
          (List.range traffic.service.completions.length) ∧
        traffic.service.completions.map Completion.sink = actions.filterMap Action.sink? ∧
        ∀ number, .receive number .leave ∉ actions →
          ∀ completion ∈ traffic.service.completions[number]?,
            completion.sink = .channel → completion.hasReceiver = true) ∧
      (isClosed → ∀ later, (traffic.after later).service.pendingCount = 0) ∧
      traffic.replies.filterMap Reply.delivery? =
        (traffic.firings.filter Firing.isSynchronous).map Firing.delivery ∧
      (isClosed → traffic.IsOver →
        (traffic.submitted.map Request.unstamped).Perm (traffic.fired.map Request.unstamped) ∧
          traffic.submitted.Perm (traffic.replies.map Reply.request) ∧
          (((traffic.replies.filter (fun reply => reply.error?.isNone)).map Reply.request).map
              Request.unstamped).Perm
            (((traffic.firings.filter (fun firing => !firing.isSynchronous)).map
              (fun firing => firing.delivery.request)).map Request.unstamped) ∧
          ∀ completion ∈ traffic.service.completions,
            ∃ firing ∈ traffic.firings, completion.Told firing.delivery.outcome) := by
  intro traffic isClosed
  have atStart := sound_start started
  have nothingMade := informed_start started
  have sound : traffic.Sound := atStart.after actions
  have informed : traffic.Informed := nothingMade.1.after atStart actions
  have accounts := sound.accounts
  rw [← sound.inHand_append_fired] at accounts
  refine ⟨⟨accounts, ?_⟩, ⟨informed, ?_, ?_, ?_⟩, ?_, sound.synchronous, ?_⟩
  · intro distinct
    have sameIds := accounts.map Request.id
    simp only [List.map_map] at sameIds
    exact sameIds.nodup_iff.mp distinct
  · rw [← informed.own]
    have numbers := accounts.map Request.completion
    rw [List.map_map, List.map_map] at numbers
    exact numbers.symm
  · rw [sinks_after, nothingMade.2]
    rfl
  · intro number stays
    have listens : ({ service := service } : Traffic).Listens number := by
      simp [Listens, nothingMade.2]
    exact listens.after stays
  · intro closed later
    have notReady := isReady_after (Service.isReady_eq_false.mpr closed) later
    rw [Service.pendingCount, Batcher.pendingCount_eq, (sound.after later).service.closed notReady]
    rfl
  · intro closed isOver
    have nothing := sound.service.closed (Service.isReady_eq_false.mpr closed)
    have nobody := isOver.inHand_eq_nil nothing
    rw [nobody, List.nil_append] at accounts
    have returned := isOver.returned sound
    exact ⟨accounts, returned, sound.others_fired returned accounts,
      informed.all_told sound nobody⟩

/--
One request runs through a shutdown, one is drained by it, and one comes too late. The second
one's receiver has left, and the third one calls back; all three completions have been fired.
-/
theorem completed_exactly_once_of_shutdown :
    let config : ModelConfig := { name := "model", instanceCount := 2 }
    let service : Service :=
      { model := "model", batcher := .ofConfig config 0, workers := [{}, {}] }
    let actions : List Action :=
      [.call { id := 1 }, .enter 0 0, .advance 0 1, .advance 0 1, .call { id := 2 }, .enter 0 2,
        .receive 1 .leave, .shutDown, .call { id := 3 } .callback, .enter 0 3, .finishCaller 1,
        .finishCaller 0, .answer 0 (.failed "no memory") 4, .receive 0 .poll, .advance 0 5,
        .advance 0 5, .receive 0 .receive, .advance 0 5, .advance 0 6, .advance 1 6]
    let traffic := ({ service := service } : Traffic).after actions
    traffic.IsOver ∧
      (traffic.submitted.map Request.unstamped).Perm (traffic.fired.map Request.unstamped) ∧
      traffic.firings.map (fun firing => (firing.agent, firing.delivery.request.id)) =
        [(.submitter, 3), (.closer, 2), (.worker 0, 1)] ∧
      traffic.service.completions.map (fun completion => completion.taken.length) = [1, 0, 0] ∧
      ∀ completion ∈ traffic.service.completions, completion.isPending = false := by
  intro config service actions traffic
  have started : Service.start config 0 = .ok service := by decide
  have isOver : traffic.IsOver := ⟨by decide, by decide, by decide⟩
  have isShutDown : traffic.service.isShutDown = true := by decide
  have completed := (completed_exactly_once started actions).2.2.2.2 (Or.inl isShutDown) isOver
  refine ⟨isOver, completed.1, by decide, by decide, ?_⟩
  intro completion member
  obtain ⟨_, _, told⟩ := completed.2.2.2 completion member
  exact told.fired

end Traffic

end InferenceBatching
