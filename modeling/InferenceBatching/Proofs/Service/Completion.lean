import InferenceBatching.Service.Step

namespace InferenceBatching

/-!
# What completions tell

A completion tells whoever made it how its request has ended. Before that it has told
nothing, and from then on that one outcome, whatever its receiver does. A step of the
service that ends some requests fires their completions and no others.
-/

namespace Completion

/-- The completion has not fired, and nobody has been told anything. -/
structure Untold
    (completion : Completion) :
    Prop where
  pending : completion.isPending = true
  called : completion.called = []
  taken : completion.taken = []
  mailbox : completion.mailbox? = none
  listens : completion.hasReceiver = true → completion.sink = .channel

/--
The completion has fired with an outcome. A callback has been called with it once; a
receiver has taken it out of the channel once, or it is still there, once; and nothing
else has been told. A receiver that has left may have done so before it could take it.
-/
structure Told
    (completion : Completion)
    (outcome : Outcome) :
    Prop where
  fired : completion.isPending = false
  called : completion.called = if completion.sink = .callback then [outcome] else []
  received :
    completion.hasReceiver = true →
      completion.sink = .channel ∧
        completion.taken ++ completion.mailbox?.toList = [outcome]
  unheard :
    completion.hasReceiver = false →
      completion.mailbox? = none ∧
        (completion.taken = [] ∨
          completion.sink = .channel ∧ completion.taken = [outcome])

variable {completion : Completion}

theorem untold_new
    (sink : CompletionSink) :
    (new sink).Untold :=
  ⟨rfl, rfl, rfl, rfl, by simp [new]⟩

section Fire

variable (completion)
variable (outcome : Outcome)

@[simp]
theorem isPending_fire :
    (completion.fire outcome).isPending = false := by
  unfold fire
  split
  · split
    · split <;> rfl
    · rfl
    · rfl
  · next fired => exact Bool.not_eq_true _ ▸ fired

/-- A completion that has fired has nothing left to fire with when it is dropped. -/
theorem complete_eq_fire :
    completion.complete outcome = completion.fire outcome := by
  rw [complete, drop, fire, isPending_fire]
  rfl

/-- Where the outcome goes is up to whoever has made the completion. -/
theorem channel_complete :
    (completion.complete outcome).sink = completion.sink ∧
      (completion.complete outcome).hasReceiver = completion.hasReceiver := by
  rw [complete_eq_fire]
  unfold fire
  split
  · split
    · split <;> exact ⟨rfl, rfl⟩
    · exact ⟨rfl, rfl⟩
    · exact ⟨rfl, rfl⟩
  · exact ⟨rfl, rfl⟩

end Fire

/-- Using a completion up tells the outcome once, although it is dropped as well. -/
theorem Untold.complete
    (untold : completion.Untold)
    (outcome : Outcome) :
    (completion.complete outcome).Told outcome := by
  obtain ⟨pending, called, taken, mailbox, listens⟩ := untold
  rw [complete_eq_fire, fire, if_pos pending]
  cases isSink : completion.sink with
  | channel =>
      dsimp only
      split
      · next listens => exact ⟨rfl, by simp [called], by simp [taken], by simp [listens]⟩
      · next left => exact ⟨rfl, by simp [called], by simp [left], by simp [mailbox, taken]⟩
  | callback =>
      have noReceiver : completion.hasReceiver = false := by
        simpa [isSink] using listens
      exact ⟨rfl, by simp [called], by simp [noReceiver], by simp [mailbox, taken]⟩
  | detached =>
      have noReceiver : completion.hasReceiver = false := by
        simpa [isSink] using listens
      exact ⟨rfl, by simp [called], by simp [noReceiver], by simp [mailbox, taken]⟩

section Receiver

/-- A receiver takes out what is there, leaves, or changes nothing. -/
theorem afterReceiver_or
    (completion : Completion)
    (action : ReceiverAction) :
    completion.afterReceiver action = completion ∨
      completion.afterReceiver action = completion.takeOut ∨
      action = .leave ∧ completion.afterReceiver action = completion.dropReceiver := by
  cases action with
  | poll => exact Or.inr (Or.inl rfl)
  | leave => exact Or.inr (Or.inr ⟨rfl, rfl⟩)
  | receive =>
      simp only [afterReceiver, receive]
      split
      · split
        · exact Or.inr (Or.inl rfl)
        · split <;> exact Or.inl rfl
      · exact Or.inl rfl

theorem sink_afterReceiver
    (completion : Completion)
    (action : ReceiverAction) :
    (completion.afterReceiver action).sink = completion.sink := by
  rcases completion.afterReceiver_or action with same | takesOut | ⟨_, leaves⟩
  · rw [same]
  · rw [takesOut]
    rfl
  · rw [leaves]
    rfl

theorem hasReceiver_afterReceiver
    (completion : Completion)
    {action : ReceiverAction}
    (stays : action ≠ .leave) :
    (completion.afterReceiver action).hasReceiver = completion.hasReceiver := by
  rcases completion.afterReceiver_or action with same | takesOut | ⟨leaves, _⟩
  · rw [same]
  · rw [takesOut]
    rfl
  · exact absurd leaves stays

theorem Untold.afterReceiver
    (untold : completion.Untold)
    (action : ReceiverAction) :
    (completion.afterReceiver action).Untold := by
  obtain ⟨pending, called, taken, mailbox, listens⟩ := untold
  rcases completion.afterReceiver_or action with same | takesOut | ⟨_, leaves⟩
  · rw [same]
    exact ⟨pending, called, taken, mailbox, listens⟩
  · rw [takesOut]
    exact ⟨pending, called, by simp [takeOut, taken, mailbox], rfl, listens⟩
  · rw [leaves]
    exact ⟨pending, called, taken, rfl, by simp [dropReceiver]⟩

theorem Told.afterReceiver
    {outcome : Outcome}
    (told : completion.Told outcome)
    (action : ReceiverAction) :
    (completion.afterReceiver action).Told outcome := by
  obtain ⟨fired, called, received, unheard⟩ := told
  rcases completion.afterReceiver_or action with same | takesOut | ⟨_, leaves⟩
  · rw [same]
    exact ⟨fired, called, received, unheard⟩
  · rw [takesOut]
    refine ⟨fired, called, ?_, ?_⟩
    · simpa [takeOut] using received
    · intro left
      obtain ⟨empty, taken⟩ := unheard left
      exact ⟨rfl, by simpa [takeOut, empty] using taken⟩
  · rw [leaves]
    refine ⟨fired, called, by simp [dropReceiver], fun _ => ⟨rfl, ?_⟩⟩
    cases listens : completion.hasReceiver with
    | false => exact (unheard listens).2
    | true =>
        obtain ⟨isChannel, once⟩ := received listens
        rcases List.append_eq_singleton_iff.mp once with ⟨taken, _⟩ | ⟨taken, _⟩
        · exact Or.inl taken
        · exact Or.inr ⟨isChannel, taken⟩

end Receiver

end Completion

/-- The completion that is fired when a request ends. -/
def Delivery.completion
    (delivery : Delivery) :
    CompletionId :=
  delivery.request.completion

namespace Completion

/-- The completions once a request has ended. -/
def tellOne
    (completions : List Completion)
    (delivery : Delivery) :
    List Completion :=
  completions.modify delivery.completion (fun completion => completion.complete delivery.outcome)

/-- The completions once some requests have ended one after the other. -/
def tell
    (completions : List Completion)
    (ends : List Delivery) :
    List Completion :=
  ends.foldl tellOne completions

variable {completions : List Completion}
variable {ends : List Delivery}

theorem getElem?_tellOne
    (completions : List Completion)
    (delivery : Delivery)
    (number : CompletionId) :
    (tellOne completions delivery)[number]? =
      completions[number]?.map (fun completion =>
        if delivery.completion = number then completion.complete delivery.outcome
        else completion) :=
  List.getElem?_modify ..

theorem length_tell
    (completions : List Completion)
    (ends : List Delivery) :
    (tell completions ends).length = completions.length := by
  induction ends generalizing completions with
  | nil => rfl
  | cons delivery ends inductionHypothesis =>
      exact (inductionHypothesis _).trans (List.length_modify ..)

/-- What using a completion up leaves alone, telling leaves alone. -/
theorem map_tell
    {Item : Type}
    (part : Completion → Item)
    (kept : ∀ completion outcome, part (completion.complete outcome) = part completion)
    (completions : List Completion)
    (ends : List Delivery) :
    (tell completions ends).map part = completions.map part := by
  induction ends generalizing completions with
  | nil => rfl
  | cons delivery ends inductionHypothesis =>
      refine (inductionHypothesis _).trans (List.ext_getElem? fun number => ?_)
      rw [List.getElem?_map, List.getElem?_map, getElem?_tellOne, Option.map_map]
      congr 1
      funext completion
      simp only [Function.comp_apply]
      split
      · exact kept completion delivery.outcome
      · rfl

/-- The completions of other requests have nothing to tell. -/
theorem getElem?_tell_of_notMem
    {number : CompletionId}
    (spared : number ∉ ends.map Delivery.completion) :
    (tell completions ends)[number]? = completions[number]? := by
  induction ends generalizing completions with
  | nil => rfl
  | cons delivery ends inductionHypothesis =>
      rw [List.map_cons, List.mem_cons, not_or] at spared
      refine (inductionHypothesis spared.2).trans ?_
      simp [getElem?_tellOne, Ne.symm spared.1]

/-- Completions of their own are each told the end of their request. -/
theorem told_tell
    (distinct : (ends.map Delivery.completion).Nodup)
    (untold :
      ∀ delivery ∈ ends, ∃ completion ∈ completions[delivery.completion]?, completion.Untold) :
    ∀ delivery ∈ ends,
      ∃ completion ∈ (tell completions ends)[delivery.completion]?,
        completion.Told delivery.outcome := by
  induction ends generalizing completions with
  | nil => simp
  | cons first ends inductionHypothesis =>
      rw [List.map_cons, List.nodup_cons] at distinct
      obtain ⟨onlyFirst, distinct⟩ := distinct
      intro delivery member
      rcases List.mem_cons.mp member with rfl | later
      · obtain ⟨completion, isCompletion, isUntold⟩ := untold delivery List.mem_cons_self
        refine ⟨completion.complete delivery.outcome, ?_, isUntold.complete delivery.outcome⟩
        rw [Option.mem_def]
        refine (getElem?_tell_of_notMem onlyFirst).trans ?_
        simp [getElem?_tellOne, Option.mem_def.mp isCompletion]
      · refine inductionHypothesis distinct ?_ delivery later
        intro other isOther
        have differs : first.completion ≠ other.completion := fun same =>
          onlyFirst (same ▸ List.mem_map_of_mem isOther)
        have isUntold := untold other (List.mem_cons_of_mem first isOther)
        simpa [getElem?_tellOne, differs] using isUntold

end Completion

namespace Service

/-- What a service ends on becoming another, it tells. -/
structure Tells
    (service changed : Service)
    (ends : List Delivery) :
    Prop where
  ended : changed.ended = service.ended ++ ends
  completions : changed.completions = Completion.tell service.completions ends

variable (service : Service)

theorem tells_nothing
    {changed : Service}
    (sameEnded : changed.ended = service.ended)
    (sameCompletions : changed.completions = service.completions) :
    service.Tells changed [] :=
  ⟨sameEnded.trans (List.append_nil _).symm, sameCompletions⟩

/-- Dropping a completion tells that its request has been lost. -/
theorem tells_lose
    (requests : List Request) :
    service.Tells (service.lose requests)
      ((Failure.all requests Completion.droppedError).map Failure.toDelivery) := by
  refine ⟨rfl, ?_⟩
  simp only [lose, Completion.tell, Failure.all, List.map_map, List.foldl_map]
  congr
  funext completions request
  congr
  funext completion
  exact (completion.complete_eq_fire _).symm

end Service

end InferenceBatching
