import InferenceBatching.Proofs.Service.Traffic

namespace InferenceBatching

/-!
# What submitters have been told

Every call makes a completion, which its request carries until somebody fires it. However
the parties interleave, a request in hand has a completion that has told nothing, and a
request that has ended has one that has told just this, whatever receivers do.
-/

/-- Where the completion goes that a call makes. -/
def Action.sink? :
    Action →
    Option CompletionSink
  | .call _ sink => some sink
  | _ => none

namespace Traffic

/--
Each call has made a completion of its own. Those of requests in hand have told nothing,
and those that have been fired have told the end of their request.
-/
structure Informed
    (traffic : Traffic) :
    Prop where
  own :
    traffic.submitted.map Request.completion =
      List.range traffic.service.completions.length
  untold :
    ∀ request ∈ traffic.inHand,
      ∃ completion ∈ traffic.service.completions[request.completion]?, completion.Untold
  told :
    ∀ firing ∈ traffic.firings,
      ∃ completion ∈ traffic.service.completions[firing.delivery.completion]?,
        completion.Told firing.delivery.outcome

variable {traffic : Traffic}

/-- What is in hand and what has been fired is what the service answers for. -/
theorem Sound.inHand_append_fired
    (sound : traffic.Sound) :
    traffic.inHand ++ traffic.fired = traffic.arriving ++ traffic.service.accounts := by
  simp [inHand, fired, Service.accounts, sound.ended, Function.comp_def]

/-- An action calls, or is a receiver's, or tells completions what the service ends by it. -/
theorem perform_cases
    (traffic : Traffic)
    (action : Action) :
    (∃ request sink, action = .call request sink) ∨
      (∃ number use, action = .receive number use) ∨
        action.sink? = none ∧
          (traffic.perform action).submitted = traffic.submitted ∧
            ∃ ends, traffic.service.Tells (traffic.perform action).service ends := by
  cases action with
  | call request sink => exact Or.inl ⟨request, sink, rfl⟩
  | receive number use => exact Or.inr (Or.inl ⟨number, use, rfl⟩)
  | enter position now =>
      refine Or.inr (Or.inr ⟨rfl, ?_⟩)
      simp only [perform]
      split
      · exact ⟨rfl, [], Service.tells_nothing _ rfl rfl⟩
      · exact ⟨rfl, [], traffic.service.submit_tells _ now⟩
  | finishCaller position =>
      refine Or.inr (Or.inr ⟨rfl, ?_⟩)
      simp only [perform]
      split
      · exact ⟨rfl, [], Service.tells_nothing _ rfl rfl⟩
      · exact ⟨rfl, traffic.service.finishCaller_tells position⟩
  | advance instanceIndex now =>
      exact Or.inr (Or.inr ⟨rfl, rfl, (traffic.service.advance_outside instanceIndex now).2⟩)
  | answer instanceIndex answer now =>
      exact Or.inr (Or.inr
        ⟨rfl, rfl, [], (traffic.service.answer_outside instanceIndex answer now).2⟩)
  | shutDown => exact Or.inr (Or.inr ⟨rfl, rfl, [], traffic.service.shutDown_outside.2⟩)

/-- The numbers of what is in hand and of what has been fired are those that calls were given. -/
theorem Sound.completions_perm
    (sound : traffic.Sound) :
    (traffic.submitted.map Request.completion).Perm
      (traffic.inHand.map Request.completion ++
        traffic.firings.map (fun firing => firing.delivery.completion)) := by
  have accounts := sound.accounts
  rw [← sound.inHand_append_fired] at accounts
  have numbers := accounts.map Request.completion
  rw [List.map_map, List.map_map, List.map_append, fired, List.map_map] at numbers
  exact numbers

namespace Informed

/-- Completions of their own have told what has ended, and nothing else, after a step. -/
theorem step
    (informed : traffic.Informed)
    (sound : traffic.Sound)
    {next : Traffic}
    (nextSound : next.Sound)
    (sameSubmitted : next.submitted = traffic.submitted)
    {ends : List Delivery}
    (tells : traffic.service.Tells next.service ends) :
    next.Informed := by
  have before := sound.completions_perm
  have afterwards := nextSound.completions_perm
  have fired :
      next.firings.map Firing.delivery = traffic.firings.map Firing.delivery ++ ends := by
    rw [← nextSound.ended, tells.ended, sound.ended]
  have firedNumbers :
      next.firings.map (fun firing => firing.delivery.completion) =
        traffic.firings.map (fun firing => firing.delivery.completion) ++
          ends.map Delivery.completion := by
    have numbers := congrArg (List.map Delivery.completion) fired
    rwa [List.map_append, List.map_map, List.map_map] at numbers
  have distinct := afterwards.nodup_iff.mp
    (sameSubmitted ▸ informed.own ▸ List.nodup_range)
  rw [firedNumbers] at afterwards distinct
  -- a completion of a request in hand stays in hand or is told, and not both
  have inHand :
      (traffic.inHand.map Request.completion).Perm
        (next.inHand.map Request.completion ++ ends.map Delivery.completion) := by
    rw [sameSubmitted] at afterwards
    have same := before.symm.trans afterwards
    rw [List.perm_iff_count] at same ⊢
    intro number
    have counted := same number
    simp only [List.count_append] at counted ⊢
    omega
  have untold :
      ∀ number ∈ next.inHand.map Request.completion ++ ends.map Delivery.completion,
        ∃ completion ∈ traffic.service.completions[number]?, completion.Untold := by
    intro number member
    obtain ⟨request, isInHand, isNumber⟩ := List.mem_map.mp (inHand.mem_iff.mpr member)
    exact isNumber ▸ informed.untold request isInHand
  rw [List.nodup_append, List.nodup_append] at distinct
  obtain ⟨_, ⟨_, endsDistinct, firedApart⟩, inHandApart⟩ := distinct
  refine ⟨?_, ?_, ?_⟩
  · rw [sameSubmitted, informed.own, tells.completions, Completion.length_tell]
  · intro request member
    have isNumber := List.mem_map_of_mem (f := Request.completion) member
    rw [tells.completions, Completion.getElem?_tell_of_notMem]
    · exact untold _ (List.mem_append_left _ isNumber)
    · intro ended
      exact inHandApart _ isNumber _ (List.mem_append_right _ ended) rfl
  · intro firing member
    have isFired := List.mem_map_of_mem (f := Firing.delivery) member
    rw [fired, List.mem_append] at isFired
    rw [tells.completions]
    rcases isFired with earlier | isNew
    · obtain ⟨other, isOther, isDelivery⟩ := List.mem_map.mp earlier
      rw [← isDelivery, Completion.getElem?_tell_of_notMem]
      · exact informed.told other isOther
      · intro ended
        exact firedApart _ (List.mem_map_of_mem isOther) _ ended rfl
    · refine Completion.told_tell endsDistinct ?_ _ isNew
      intro delivery isEnd
      exact untold _ (List.mem_append_right _ (List.mem_map_of_mem isEnd))

/-- A call makes a completion that has told nothing; the others keep their numbers. -/
theorem call
    (informed : traffic.Informed)
    (request : Request)
    (sink : CompletionSink) :
    (traffic.perform (.call request sink)).Informed := by
  have kept :
      ∀ {number : CompletionId} {holds : Completion → Prop},
        (∃ completion ∈ traffic.service.completions[number]?, holds completion) →
          ∃ completion ∈ (traffic.service.completions ++ [Completion.new sink])[number]?,
            holds completion := by
    rintro number holds ⟨completion, isCompletion, isHeld⟩
    obtain ⟨inRange, _⟩ := List.getElem?_eq_some_iff.mp isCompletion
    exact ⟨completion, (List.getElem?_append_left inRange).trans isCompletion, isHeld⟩
  refine ⟨?_, ?_, fun firing member => kept (informed.told firing member)⟩
  · simp [perform, Service.equip, informed.own, List.range_succ]
  · intro other member
    have parted :
        other ∈ traffic.arriving ++ [(traffic.service.equip request sink).2] ++
          traffic.service.inHand := member
    rw [List.mem_append, List.mem_append, List.mem_singleton] at parted
    rcases parted with (isArriving | rfl) | isHeld
    · exact kept (informed.untold other (List.mem_append_left _ isArriving))
    · exact ⟨.new sink, by simp [perform, Service.equip], Completion.untold_new sink⟩
    · exact kept (informed.untold other (List.mem_append_right _ isHeld))

/-- Whatever a receiver does, its completion has told what it had to. -/
theorem receive
    (informed : traffic.Informed)
    (number : CompletionId)
    (use : ReceiverAction) :
    (traffic.perform (.receive number use)).Informed := by
  have kept :
      ∀ {other : CompletionId} {holds : Completion → Prop},
        (∀ completion, holds completion → holds (completion.afterReceiver use)) →
        (∃ completion ∈ traffic.service.completions[other]?, holds completion) →
          ∃ completion ∈
            (traffic.service.completions.modify number (fun completion =>
              completion.afterReceiver use))[other]?, holds completion := by
    rintro other holds stays ⟨completion, isCompletion, isHeld⟩
    rw [List.getElem?_modify, Option.mem_def.mp isCompletion]
    refine ⟨_, rfl, ?_⟩
    split
    · exact stays completion isHeld
    · exact isHeld
  refine ⟨?_, ?_, ?_⟩
  · simpa [perform] using informed.own
  · intro request member
    exact kept (fun _ untold => untold.afterReceiver use) (informed.untold request member)
  · intro firing member
    exact kept (fun _ told => told.afterReceiver use) (informed.told firing member)

theorem perform
    (informed : traffic.Informed)
    (sound : traffic.Sound)
    (action : Action) :
    (traffic.perform action).Informed := by
  obtain ⟨request, sink, rfl⟩ | ⟨number, use, rfl⟩ | ⟨_, sameSubmitted, ends, tells⟩ :=
    traffic.perform_cases action
  · exact informed.call request sink
  · exact informed.receive number use
  · exact informed.step sound (sound.perform action) sameSubmitted tells

theorem after
    (informed : traffic.Informed)
    (sound : traffic.Sound)
    (actions : List Action) :
    (traffic.after actions).Informed := by
  induction actions generalizing traffic with
  | nil => exact informed
  | cons action actions inductionHypothesis =>
      exact inductionHypothesis (informed.perform sound action) (sound.perform action)

/-- When nothing is in hand, every completion has told the end of its request. -/
theorem all_told
    (informed : traffic.Informed)
    (sound : traffic.Sound)
    (nothing : traffic.inHand = []) :
    ∀ completion ∈ traffic.service.completions,
      ∃ firing ∈ traffic.firings, completion.Told firing.delivery.outcome := by
  intro completion member
  obtain ⟨number, inRange, isCompletion⟩ := List.mem_iff_getElem.mp member
  have numbers := sound.completions_perm
  rw [informed.own, nothing, List.map_nil, List.nil_append] at numbers
  obtain ⟨firing, isFiring, isNumber⟩ :=
    List.mem_map.mp (numbers.mem_iff.mp (List.mem_range.mpr inRange))
  obtain ⟨other, isOther, told⟩ := informed.told firing isFiring
  rw [isNumber, List.getElem?_eq_getElem inRange, isCompletion] at isOther
  exact ⟨firing, isFiring, Option.some.inj isOther ▸ told⟩

end Informed

/-- A call makes a completion that goes where the caller says, and nothing changes that. -/
theorem sinks_perform
    (traffic : Traffic)
    (action : Action) :
    (traffic.perform action).service.completions.map Completion.sink =
      traffic.service.completions.map Completion.sink ++ action.sink?.toList := by
  obtain ⟨request, sink, rfl⟩ | ⟨number, use, rfl⟩ | ⟨noCall, _, ends, tells⟩ :=
    traffic.perform_cases action
  · simp [perform, Service.equip, Action.sink?, Completion.new]
  · apply List.ext_getElem?
    intro other
    simp only [perform, Action.sink?, Option.toList_none, List.append_nil, List.getElem?_map,
      List.getElem?_modify]
    cases traffic.service.completions[other]? with
    | none => rfl
    | some completion =>
        simp only [Option.map_eq_map, Option.map_some]
        split
        · rw [Completion.sink_afterReceiver]
        · rfl
  · rw [noCall, Option.toList_none, List.append_nil, tells.completions]
    exact Completion.map_tell Completion.sink
      (fun completion outcome => (completion.channel_complete outcome).1) ..

/-- A channel has its receiver until the receiver leaves. -/
def Listens
    (traffic : Traffic)
    (number : CompletionId) :
    Prop :=
  ∀ completion ∈ traffic.service.completions[number]?,
    completion.sink = .channel → completion.hasReceiver = true

/-- Only what a receiver does by itself makes its channel deaf. -/
theorem Listens.perform
    {number : CompletionId}
    (listens : traffic.Listens number)
    {action : Action}
    (stays : action ≠ .receive number .leave) :
    (traffic.perform action).Listens number := by
  intro completion isCompletion isChannel
  obtain ⟨request, sink, rfl⟩ | ⟨other, use, rfl⟩ | ⟨_, _, ends, tells⟩ :=
    traffic.perform_cases action
  · change (traffic.service.completions ++ [Completion.new sink])[number]? = some completion
      at isCompletion
    rw [List.getElem?_append] at isCompletion
    split at isCompletion
    · exact listens completion isCompletion isChannel
    · obtain rfl := List.mem_singleton.mp (List.mem_of_getElem? isCompletion)
      simpa [Completion.new] using isChannel
  · change (traffic.service.completions.modify other (fun completion =>
      completion.afterReceiver use))[number]? = some completion at isCompletion
    rw [List.getElem?_modify] at isCompletion
    obtain ⟨earlier, isEarlier, isAfter⟩ := Option.map_eq_some_iff.mp isCompletion
    subst isAfter
    split at isChannel
    · next same =>
        have uses : use ≠ .leave := by
          rintro rfl
          exact stays (same ▸ rfl)
        rw [Completion.sink_afterReceiver] at isChannel
        rw [if_pos same, earlier.hasReceiver_afterReceiver uses]
        exact listens earlier isEarlier isChannel
    · next differs =>
        rw [if_neg differs]
        exact listens earlier isEarlier isChannel
  · rw [tells.completions] at isCompletion
    have channels := congrArg (fun channels => channels[number]?)
      (Completion.map_tell
        (fun completion => (completion.sink, completion.hasReceiver))
        (fun completion outcome =>
          Prod.ext (completion.channel_complete outcome).1 (completion.channel_complete outcome).2)
        traffic.service.completions ends)
    simp only [List.getElem?_map, Option.mem_def.mp isCompletion, Option.map_some] at channels
    obtain ⟨earlier, isEarlier, same⟩ := Option.map_eq_some_iff.mp channels.symm
    rw [Prod.mk.injEq] at same
    exact same.2 ▸ listens earlier isEarlier (same.1.trans isChannel)

theorem Listens.after
    {number : CompletionId}
    (listens : traffic.Listens number)
    {actions : List Action}
    (stays : .receive number .leave ∉ actions) :
    (traffic.after actions).Listens number := by
  induction actions generalizing traffic with
  | nil => exact listens
  | cons action actions inductionHypothesis =>
      rw [List.mem_cons, not_or] at stays
      exact inductionHypothesis (listens.perform (Ne.symm stays.1)) stays.2

theorem sinks_after
    (traffic : Traffic)
    (actions : List Action) :
    (traffic.after actions).service.completions.map Completion.sink =
      traffic.service.completions.map Completion.sink ++ actions.filterMap Action.sink? := by
  induction actions generalizing traffic with
  | nil => exact (List.append_nil _).symm
  | cons action actions inductionHypothesis =>
      refine (inductionHypothesis _).trans ?_
      rw [sinks_perform, List.append_assoc, List.filterMap_cons]
      cases action.sink? <;> rfl

end Traffic

end InferenceBatching
