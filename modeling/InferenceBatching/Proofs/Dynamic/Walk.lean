import Mathlib.Data.List.DropRight
import Mathlib.Data.List.Perm.Basic
import InferenceBatching.Model.Input
import InferenceBatching.Proofs.Batch.Shapes
import InferenceBatching.Proofs.Queue.Order

namespace InferenceBatching

/-!
# Walks along the entries of a queue

What a batch should take can be said without a queue that changes meanwhile: write
down the entries in the order in which they are to be looked at, those that must
leave first, and go along the list. An entry with wrong inputs is failed, one that
agrees with those taken is taken, and the walk ends at the first that does not, or
when enough are taken.
-/

namespace QueueEntry

/-- Whether nothing is wrong with the inputs of an entry's request. -/
def isValid
    (inputs : List InputSpec)
    (entry : QueueEntry) :
    Bool :=
  (inputMismatch? inputs entry.request).isNone

/-- The failure of an entry, if something is wrong with the inputs of its request. -/
def inputFailure?
    (inputs : List InputSpec)
    (entry : QueueEntry) :
    Option Failure :=
  (inputMismatch? inputs entry.request).map (fun mismatch =>
    { request := entry.request, error := .invalidRequest mismatch.message })

end QueueEntry

/-- The entries that a walk comes past, given those taken before. -/
def walked
    (inputs : List InputSpec)
    (limit : Nat) :
    List QueueEntry →
    List QueueEntry →
    List QueueEntry
  | _, [] => []
  | taken, entry :: order =>
      if limit ≤ taken.length then
        []
      else if entry.isValid inputs then
        if agrees (requestsOf taken) entry.request then
          entry :: walked inputs limit (taken ++ [entry]) order
        else
          []
      else
        entry :: walked inputs limit taken order

section Walk

variable {inputs : List InputSpec}
variable {limit : Nat}

theorem walked_isPrefix
    (inputs : List InputSpec)
    (limit : Nat)
    (taken order : List QueueEntry) :
    walked inputs limit taken order <+: order := by
  induction order generalizing taken with
  | nil => exact List.prefix_rfl
  | cons entry order inductionHypothesis =>
      unfold walked
      split
      · exact List.nil_prefix
      · split
        · split
          · exact List.cons_prefix_cons.mpr ⟨rfl, inductionHypothesis _⟩
          · exact List.nil_prefix
        · exact List.cons_prefix_cons.mpr ⟨rfl, inductionHypothesis _⟩

/-- A walk that comes past all of a first part goes on with the second, else it has ended. -/
theorem walked_append
    (taken first second : List QueueEntry) :
    walked inputs limit taken (first ++ second) =
      if walked inputs limit taken first = first then
        first ++ walked inputs limit (taken ++ first.filter (·.isValid inputs)) second
      else
        walked inputs limit taken first := by
  induction first generalizing taken with
  | nil => simp [walked]
  | cons entry first inductionHypothesis =>
      simp only [List.cons_append, walked]
      split
      · simp
      · split
        · next valid =>
            split
            · simp only [inductionHypothesis, List.cons.injEq, true_and, valid,
                List.filter_cons_of_pos, List.append_assoc, List.singleton_append]
              split <;> rfl
            · simp
        · next invalid =>
            simp only [inductionHypothesis, List.cons.injEq, true_and,
              List.filter_cons_of_neg invalid]
            split <;> rfl

/-- A walk takes no more than the limit. -/
theorem length_taken_le
    (taken : List QueueEntry)
    (mayTake : taken.length ≤ limit)
    (order : List QueueEntry) :
    (taken ++ (walked inputs limit taken order).filter (·.isValid inputs)).length ≤ limit := by
  induction order generalizing taken with
  | nil => simpa [walked] using mayTake
  | cons entry order inductionHypothesis =>
      unfold walked
      split
      · simpa using mayTake
      · next below =>
          split
          · next valid =>
              split
              · have longer : (taken ++ [entry]).length ≤ limit := by
                  simp only [List.length_append, List.length_singleton]
                  omega
                simpa [valid] using inductionHypothesis _ longer
              · simpa using mayTake
          · next invalid => simpa [invalid] using inductionHypothesis taken mayTake

/-- A walk that may take something takes nothing only if nothing on its way is valid. -/
theorem taken_eq_nil_iff
    (mayTake : 0 < limit)
    (order : List QueueEntry) :
    (walked inputs limit [] order).filter (·.isValid inputs) = [] ↔
      ∀ entry ∈ order, entry.isValid inputs = false := by
  induction order with
  | nil => simp [walked]
  | cons entry order inductionHypothesis =>
      have below : ¬ limit ≤ ([] : List QueueEntry).length := Nat.not_le.mpr mayTake
      have fits : agrees (requestsOf []) entry.request = true := agrees_nil entry.request
      simp only [walked, if_neg below, fits, if_true]
      cases isValid : entry.isValid inputs with
      | true => simp [isValid]
      | false => simp [isValid, inductionHypothesis]

end Walk

namespace PriorityQueue

/-- The entries of a level up to and including the last urgent one. -/
def urgentPart
    (entries : List QueueEntry)
    (now : Nat) :
    List QueueEntry :=
  entries.rdropWhile (fun entry => !entry.isUrgent now)

/-- The entries of a level behind the last urgent one. -/
def patientPart
    (entries : List QueueEntry)
    (now : Nat) :
    List QueueEntry :=
  entries.rtakeWhile (fun entry => !entry.isUrgent now)

/-- The order of a selection: on every level what must leave, and then on every level the rest. -/
def selectionOrder
    (queue : PriorityQueue)
    (now : Nat) :
    List QueueEntry :=
  queue.levels.flatMap (fun level => urgentPart level.entries now) ++
    queue.levels.flatMap (fun level => patientPart level.entries now)

theorem urgentPart_append_patientPart
    (entries : List QueueEntry)
    (now : Nat) :
    urgentPart entries now ++ patientPart entries now = entries :=
  List.rdropWhile_append_rtakeWhile

/-- As many entries as must leave are those up to the last urgent one. -/
theorem take_urgentCount
    (level : LevelQueue)
    (now : Nat) :
    level.entries.take (level.urgentCount now) = urgentPart level.entries now := by
  have isLength : level.urgentCount now = (urgentPart level.entries now).length :=
    List.length_reverse.symm
  have isPrefix : urgentPart level.entries now <+: level.entries := List.rdropWhile_prefix _ _
  rw [isLength]
  exact (List.prefix_iff_eq_take.mp isPrefix).symm

/-- From the head of each level in turn, as many entries as are given for it. -/
def heads
    (queue : PriorityQueue) :
    Nat →
    List Nat →
    List QueueEntry
  | _, [] => []
  | level, count :: counts =>
      (queue.entriesAt level).take count ++ queue.heads (level + 1) counts

theorem heads_congr
    {queue other : PriorityQueue}
    {level : Nat}
    (same : ∀ later, level ≤ later → other.entriesAt later = queue.entriesAt later)
    (counts : List Nat) :
    other.heads level counts = queue.heads level counts := by
  induction counts generalizing level with
  | nil => rfl
  | cons count counts inductionHypothesis =>
      have further : other.heads (level + 1) counts = queue.heads (level + 1) counts :=
        inductionHypothesis (fun later after => same later (by omega))
      rw [heads, heads, same level (Nat.le_refl level), further]

/-- The heads that must leave are what comes up to the last urgent entry on each level. -/
theorem heads_urgentCounts
    (queue : PriorityQueue)
    (now : Nat) :
    queue.heads 1 (queue.urgentCounts now) =
      queue.levels.flatMap (fun level => urgentPart level.entries now) := by
  have fromIndex :
      ∀ levels index,
        queue.levels.drop index = levels →
          queue.heads (index + 1) (levels.map (fun level => level.urgentCount now)) =
            levels.flatMap (fun level => urgentPart level.entries now) := by
    intro levels
    induction levels with
    | nil => exact fun _ _ => rfl
    | cons level levels inductionHypothesis =>
        intro index isDrop
        have isLevel : queue.levels[index]? = some level := by
          rw [← List.head?_drop, isDrop, List.head?_cons]
        have isRest : queue.levels.drop (index + 1) = levels := by
          rw [← List.tail_drop, isDrop, List.tail_cons]
        rw [List.map_cons, List.flatMap_cons, heads, inductionHypothesis (index + 1) isRest,
          entriesAt_succ, isLevel, ← take_urgentCount]
        rfl
  exact fromIndex queue.levels 0 rfl

/-- When all that must leave has left, what is left is the rest, level by level. -/
theorem entries_of_urgent_left
    {queue rest : PriorityQueue}
    {now : Nat}
    (filed : queue.Filed)
    (resolves : rest.resolveLevel = queue.resolveLevel)
    (leave :
      ∀ level,
        queue.entriesAt level =
          queue.ofLevel level
              (queue.levels.flatMap (fun level => urgentPart level.entries now)) ++
            rest.entriesAt level) :
    rest.entries = queue.levels.flatMap (fun level => patientPart level.entries now) := by
  have atLevel : ∀ level, rest.entriesAt level = patientPart (queue.entriesAt level) now := by
    intro level
    have within : ∀ level, urgentPart (queue.entriesAt level) now ⊆ queue.entriesAt level :=
      fun level => (List.rdropWhile_prefix _ _).subset
    have isSplit := leave level
    rw [flatMap_levels queue (urgentPart · now), ofLevel_flatMap filed within level] at isSplit
    exact List.append_cancel_left
      (isSplit.symm.trans (urgentPart_append_patientPart (queue.entriesAt level) now).symm)
  calc
    rest.entries
    _ = (List.range rest.levelCount).flatMap (fun index => rest.entriesAt (index + 1)) :=
      rest.flatMap_levels id
    _ = (List.range queue.levelCount).flatMap
          (fun index => patientPart (queue.entriesAt (index + 1)) now) := by
      rw [levelCount_congr resolves]
      simp only [atLevel]
    _ = queue.levels.flatMap (fun level => patientPart level.entries now) :=
      (queue.flatMap_levels (patientPart · now)).symm

/-- A selection has the entries of the queue on its way and no others. -/
theorem selectionOrder_perm
    (queue : PriorityQueue)
    (now : Nat) :
    (queue.selectionOrder now).Perm queue.entries := by
  refine (List.flatMap_append_perm queue.levels _ _).trans ?_
  simp only [urgentPart_append_patientPart]
  exact List.Perm.refl _

end PriorityQueue

end InferenceBatching
