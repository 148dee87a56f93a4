import InferenceBatching.Sequence.Basic

namespace InferenceBatching

/-!
# Seating waiting sequences

Lanes get the free slots of an instance in the order of the backlog. A lane
whose sequence is still bound, because an earlier sequence of that id is coming
to its end, keeps its place and lets the lanes behind it pass.
-/

/-- Lanes being given the free slots of one instance. -/
structure Seating where
  table : SlotTable
  bindings : Directory CorrelationId Seat
  remaining : List Lane
  deriving Repr, DecidableEq

namespace Seating

/-- Give free slots to lanes in order. -/
def ofLanes
    (instanceIndex : Nat)
    (now : Nat) :
    List Lane →
    SlotTable →
    Directory CorrelationId Seat →
    Seating
  | [], table, bindings => { table := table, bindings := bindings, remaining := [] }
  | lane :: lanes, table, bindings =>
      if bindings.contains lane.sequence then
        let rest := ofLanes instanceIndex now lanes table bindings
        { rest with remaining := lane :: rest.remaining }
      else
        match table.bind? lane.sequence now with
        | none => { table := table, bindings := bindings, remaining := lane :: lanes }
        | some (slot, bound) =>
            ofLanes instanceIndex now lanes
              (bound.pushAll slot lane.entries now)
              (bindings.insert lane.sequence { instanceIndex := instanceIndex, slot := slot })

end Seating

namespace SequenceBatcher

/-- Move waiting sequences into the free slots of an instance. -/
def seatLanes
    (batcher : SequenceBatcher)
    (instanceIndex : Nat)
    (now : Nat) :
    SequenceBatcher :=
  match batcher.table? instanceIndex with
  | none => batcher
  | some table =>
      let seating :=
        Seating.ofLanes instanceIndex now batcher.backlog table batcher.bindings
      { batcher.withTable instanceIndex seating.table with
        bindings := seating.bindings
        backlog := seating.remaining }

end SequenceBatcher

end InferenceBatching
