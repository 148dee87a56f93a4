import InferenceBatching.Queue.Policy
import InferenceBatching.RequestError

namespace InferenceBatching

/-!
# Waiting requests

An entry is a request that has been let in. Its deadline and what happens at the
deadline are fixed on entry and stay the same wherever the entry moves.
-/

/-- A waiting request with the terms under which it was let in. -/
structure QueueEntry where
  request : Request
  enqueuedAt : Nat
  deadline? : Option Nat
  timeoutAction : TimeoutAction
  deriving Repr, DecidableEq

namespace QueueEntry

/-- Let a request in under a policy, stamping its arrival. -/
def enter
    (request : Request)
    (policy : QueuePolicy)
    (now : Nat) :
    QueueEntry where
  request := request.arriveAt now
  enqueuedAt := now
  deadline? := (policy.effectiveTimeout? request.timeout?).map (now + ·)
  timeoutAction := policy.timeoutAction

/-- Whether the deadline has come. -/
def isExpired
    (entry : QueueEntry)
    (now : Nat) :
    Bool :=
  match entry.deadline? with
  | some deadline => deadline ≤ now
  | none => false

/-- Whether the entry has to be given up. -/
def isRejectable
    (entry : QueueEntry)
    (now : Nat) :
    Bool :=
  entry.timeoutAction = .reject && entry.isExpired now

/-- Whether the entry has to leave with the next batch. -/
def isUrgent
    (entry : QueueEntry)
    (now : Nat) :
    Bool :=
  entry.timeoutAction = .delay && entry.isExpired now

/-- How long the entry has waited. -/
def waited
    (entry : QueueEntry)
    (now : Nat) :
    Nat :=
  elapsed entry.enqueuedAt now

/-- An entry is never both to be given up and to be taken next. -/
theorem not_isRejectable_of_isUrgent
    {entry : QueueEntry}
    {now : Nat}
    (urgent : entry.isUrgent now = true) :
    entry.isRejectable now = false := by
  simp only [isUrgent, Bool.and_eq_true, decide_eq_true_eq] at urgent
  simp [isRejectable, urgent.1]

section Reached

variable {entry : QueueEntry}
variable {now instant : Nat}

/-- What is expired at an instant has been so before, if no deadline came in between. -/
theorem isExpired_of_noneReached
    (noneReached : ∀ deadline ∈ entry.deadline?, deadline ≤ instant → deadline ≤ now)
    (expired : entry.isExpired instant = true) :
    entry.isExpired now = true := by
  unfold isExpired at expired ⊢
  cases isDeadline : entry.deadline? with
  | none => simp [isDeadline] at expired
  | some deadline =>
      simp only [isDeadline, decide_eq_true_eq] at expired ⊢
      exact noneReached deadline isDeadline expired

/-- What has time left still has it at an instant, if no deadline came in between. -/
theorem isRejectable_of_noneReached
    (noneReached : ∀ deadline ∈ entry.deadline?, deadline ≤ instant → deadline ≤ now)
    (inTime : entry.isRejectable now = false) :
    entry.isRejectable instant = false := by
  simp only [isRejectable, Bool.and_eq_false_iff] at inTime ⊢
  refine inTime.imp id (fun notExpired => ?_)
  cases expired : entry.isExpired instant with
  | false => rfl
  | true =>
      rw [isExpired_of_noneReached noneReached expired] at notExpired
      contradiction

end Reached

end QueueEntry

/-- The requests of some entries, in order. -/
def requestsOf
    (entries : List QueueEntry) :
    List Request :=
  entries.map QueueEntry.request

/-- The first deadline of some entries that lies after `now`. -/
def nextDeadline?
    (entries : List QueueEntry)
    (now : Nat) :
    Option Nat :=
  earliestAfter? now (entries.filterMap QueueEntry.deadline?)

end InferenceBatching
