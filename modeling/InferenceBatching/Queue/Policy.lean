import InferenceBatching.Time

namespace InferenceBatching

/-!
# Queue policies

A policy bounds how many requests may wait in one queue and says how long each
may wait, whether a request may ask for a shorter time, and what happens when
the time is over.
-/

/-- What happens to a request that is still waiting at its deadline. -/
inductive TimeoutAction where
  | reject
  | delay
  deriving Repr, DecidableEq

/-- The written name of a timeout action. -/
def TimeoutAction.name :
    TimeoutAction →
    String
  | .reject => "REJECT"
  | .delay => "DELAY"

/--
Waiting rules of one queue. A capacity of zero sets no bound, and a timeout of
zero sets no deadline.
-/
structure QueuePolicy where
  capacity : Nat := 0
  timeoutAction : TimeoutAction := .reject
  timeout : Nat := 0
  allowsOverride : Bool := false
  deriving Repr, DecidableEq

namespace QueuePolicy

/-- Whether a queue that holds `count` requests may take one more. -/
def hasRoom
    (policy : QueuePolicy)
    (count : Nat) :
    Bool :=
  policy.capacity = 0 || count < policy.capacity

/-- The requested time, when the policy honours it: it must not exceed the policy's own. -/
def honoured?
    (policy : QueuePolicy)
    (requested? : Option Nat) :
    Option Nat :=
  requested?.filter (fun requested =>
    0 < requested && policy.allowsOverride &&
      (policy.timeout = 0 || requested ≤ policy.timeout))

/-- How long a request may wait, if its waiting is limited at all. -/
def effectiveTimeout?
    (policy : QueuePolicy)
    (requested? : Option Nat) :
    Option Nat :=
  match policy.honoured? requested? with
  | some requested => some requested
  | none => if 0 < policy.timeout then some policy.timeout else none

/-- A waiting limit is positive and never longer than the policy's own limit. -/
theorem effectiveTimeout?_bounds
    {policy : QueuePolicy}
    {requested? : Option Nat}
    {limit : Nat}
    (limited : policy.effectiveTimeout? requested? = some limit) :
    0 < limit ∧ (0 < policy.timeout → limit ≤ policy.timeout) := by
  unfold effectiveTimeout? at limited
  split at limited
  · next requested honoured =>
      obtain ⟨_, accepted⟩ := Option.filter_eq_some_iff.mp honoured
      simp only [Bool.and_eq_true, Bool.or_eq_true, decide_eq_true_eq] at accepted
      have same : requested = limit := Option.some.inj limited
      omega
  · split at limited
    · have same : policy.timeout = limit := Option.some.inj limited
      omega
    · contradiction

end QueuePolicy

end InferenceBatching
