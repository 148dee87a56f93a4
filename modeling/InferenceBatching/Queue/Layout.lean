import InferenceBatching.Directory
import InferenceBatching.Queue.Policy

namespace InferenceBatching

/-!
# Queue layouts

A layout says how many priority levels there are, which of them takes requests
without a usable priority, and which policy governs each. Level 1 is the first
to be served.
-/

/-- The shape of a priority queue. -/
structure QueueLayout where
  levels : Nat := 1
  defaultLevel : Nat := 1
  defaultPolicy : QueuePolicy := {}
  levelPolicies : Directory Nat QueuePolicy := .empty
  deriving Repr, DecidableEq

namespace QueueLayout

/-- One level governed by one policy. -/
def single
    (policy : QueuePolicy) :
    QueueLayout :=
  { defaultPolicy := policy }

/-- The policy of a level. -/
def policyFor
    (layout : QueueLayout)
    (level : Nat) :
    QueuePolicy :=
  (layout.levelPolicies.find? level).getD layout.defaultPolicy

end QueueLayout

end InferenceBatching
