import InferenceBatching.Service.Basic

namespace InferenceBatching

/-!
# Tallies

The counters of a model stand for two lists: the outcomes that have been counted and the
sizes of the batches that have been. Counting one more outcome or batch adds it to its
list, and each total over a table of counts grows by what has been added.
-/

namespace Directory

section Total

variable {Key : Type} [LT Key]

/-- The counts of a directory, each as often as its key weighs. -/
def total
    (weight : Key → Nat)
    (counts : Directory Key Nat) :
    Nat :=
  (counts.entries.map (fun count => weight count.1 * count.2)).sum

variable [DecidableEq Key] [DecidableLT Key]

omit [LT Key] [DecidableLT Key] in
private theorem lookUp_of_not_listed
    {Value : Type}
    {key : Key}
    {pairs : List (Key × Value)}
    (notListed : ∀ pair ∈ pairs, key ≠ pair.1) :
    lookUp key pairs = none := by
  induction pairs with
  | nil => rfl
  | cons pair pairs inductionHypothesis =>
      rw [lookUp, if_neg (notListed pair List.mem_cons_self)]
      exact inductionHypothesis (fun other member =>
        notListed other (List.mem_cons_of_mem pair member))

variable
  [Trans (α := Key) (β := Key) (γ := Key) (· < ·) (· < ·) (· < ·)]
  [Std.Trichotomous (α := Key) (· < ·)]
  [Std.Irrefl (α := Key) (· < ·)]

/-- What a key held is replaced by what it is given. -/
private theorem sum_place
    (weight : Key → Nat)
    (key : Key)
    (value : Nat)
    {counts : List (Key × Nat)}
    (ascending : (counts.map Prod.fst).Pairwise (· < ·)) :
    ((place key value counts).map (fun count => weight count.1 * count.2)).sum +
        weight key * (lookUp key counts).getD 0 =
      (counts.map (fun count => weight count.1 * count.2)).sum + weight key * value := by
  induction counts with
  | nil => simp [place, lookUp]
  | cons count counts inductionHypothesis =>
      simp only [List.map_cons, List.pairwise_cons] at ascending
      have irreflexive : ∀ other : Key, ¬ other < other := Std.Irrefl.irrefl (r := (· < ·))
      unfold place
      split
      · next before =>
          have notListed : ∀ pair ∈ count :: counts, key ≠ pair.1 := by
            intro pair member same
            rcases List.mem_cons.mp member with isFirst | inRest
            · rw [same, isFirst] at before
              exact irreflexive _ before
            · have after := ascending.1 pair.1 (List.mem_map_of_mem inRest)
              exact irreflexive _ (same ▸ Trans.trans before after)
          rw [lookUp_of_not_listed notListed]
          simp only [List.map_cons, List.sum_cons, Option.getD_none]
          omega
      · next notBefore =>
          split
          · next after =>
              have differs : key ≠ count.1 := fun same => irreflexive _ (same ▸ after)
              have rest := inductionHypothesis ascending.2
              rw [lookUp, if_neg differs]
              simp only [List.map_cons, List.sum_cons]
              omega
          · next notAfter =>
              have same : key = count.1 :=
                Std.Trichotomous.trichotomous (r := (· < ·)) key count.1 notBefore notAfter
              rw [lookUp, if_pos same]
              simp only [List.map_cons, List.sum_cons, Option.getD_some, same]
              omega

/-- Counting under a key adds its weight to the total. -/
theorem total_count
    (weight : Key → Nat)
    (counts : Directory Key Nat)
    (key : Key) :
    (counts.update key 0 (· + 1)).total weight = counts.total weight + weight key := by
  have placed := sum_place weight key ((counts.find? key).getD 0 + 1) counts.ascending
  rw [show lookUp key counts.entries = counts.find? key from rfl, Nat.mul_add] at placed
  simp only [total, update, insert]
  omega

theorem getD_find?_count
    (counts : Directory Key Nat)
    (key other : Key) :
    ((counts.update key 0 (· + 1)).find? other).getD 0 =
      (counts.find? other).getD 0 + if key = other then 1 else 0 := by
  rw [update, find?_insert]
  by_cases same : other = key
  · simp [same]
  · simp [same, Ne.symm same]

/-- Counting under a key lists no other key than it. -/
theorem mem_keys_count
    {counts : Directory Key Nat}
    {key other : Key}
    (listed : other ∈ (counts.update key 0 (· + 1)).keys) :
    other = key ∨ other ∈ counts.keys := by
  obtain ⟨⟨listedKey, value⟩, member, isOther⟩ := List.mem_map.mp listed
  subst isOther
  have found := (find?_eq_some_iff _).mpr member
  rw [update, find?_insert] at found
  split at found
  · next isKey => exact Or.inl isKey
  · exact Or.inr (List.mem_map.mpr ⟨_, (find?_eq_some_iff counts).mp found, rfl⟩)

end Total

end Directory

/-- The code under which an outcome is counted, if it is a failure. -/
def Outcome.code? :
    Outcome →
    Option String
  | .succeeded _ => none
  | .failed error => some error.code

/-- The counters stand for some outcomes and for some sizes of batches. -/
structure Statistics.Tallies
    (statistics : Statistics)
    (outcomes : List Outcome)
    (sizes : List Nat) :
    Prop where
  successes : statistics.successCount = outcomes.countP (fun outcome => outcome.code?.isNone)
  failures : statistics.failureCount = outcomes.countP (fun outcome => outcome.code?.isSome)
  byCode :
    ∀ code,
      (statistics.failuresByCode.find? code).getD 0 =
        outcomes.countP (fun outcome => outcome.code? = some code)
  allCodes : statistics.failuresByCode.total (fun _ => 1) = statistics.failureCount
  batches : statistics.batchCount = sizes.length
  executions : statistics.executionCount = sizes.sum
  bySize : ∀ size, (statistics.batchSizes.find? size).getD 0 = sizes.count size
  allSizes : statistics.batchSizes.total (fun _ => 1) = statistics.batchCount
  allExecutions : statistics.batchSizes.total id = statistics.executionCount
  listed : ∀ size ∈ statistics.batchSizes.keys, size ∈ sizes

namespace Statistics.Tallies

variable {statistics : Statistics}
variable {outcomes : List Outcome}
variable {sizes : List Nat}

/-- New counters stand for nothing. -/
theorem new :
    ({} : Statistics).Tallies [] [] :=
  ⟨rfl, rfl, fun _ => rfl, rfl, rfl, rfl, fun _ => rfl, rfl, rfl, fun _ listed => nomatch listed⟩

/-- An outcome is counted as a success, or as a failure under its code. -/
theorem countEnd
    (tallies : statistics.Tallies outcomes sizes)
    (outcome : Outcome) :
    (Service.countEnd statistics outcome).Tallies (outcomes ++ [outcome]) sizes := by
  cases outcome with
  | succeeded response =>
      refine { tallies with successes := ?_, failures := ?_, byCode := ?_ }
      · simp [Service.countEnd, countSuccess, tallies.successes, Outcome.code?]
      · simp [Service.countEnd, countSuccess, tallies.failures, Outcome.code?]
      · simp [Service.countEnd, countSuccess, tallies.byCode, Outcome.code?]
  | failed error =>
      refine { tallies with successes := ?_, failures := ?_, byCode := ?_, allCodes := ?_ }
      · simp [Service.countEnd, countFailure, tallies.successes, Outcome.code?]
      · simp [Service.countEnd, countFailure, tallies.failures, Outcome.code?]
      · intro code
        simp [Service.countEnd, countFailure, Directory.getD_find?_count, tallies.byCode,
          Outcome.code?, List.countP_singleton]
      · simp [Service.countEnd, countFailure, Directory.total_count, tallies.allCodes]

/-- A batch is counted under its size. -/
theorem countBatch
    (tallies : statistics.Tallies outcomes sizes)
    (size computed : Nat) :
    (statistics.countBatch size computed).Tallies outcomes (sizes ++ [size]) where
  successes := tallies.successes
  failures := tallies.failures
  byCode := tallies.byCode
  allCodes := tallies.allCodes
  batches := by simp [Statistics.countBatch, tallies.batches]
  executions := by simp [Statistics.countBatch, tallies.executions]
  bySize := by
    intro other
    simp [Statistics.countBatch, Directory.getD_find?_count, tallies.bySize, List.count_singleton]
  allSizes := by
    simp [Statistics.countBatch, Directory.total_count, tallies.allSizes]
  allExecutions := by
    simp [Statistics.countBatch, Directory.total_count, tallies.allExecutions]
  listed := by
    intro other isListed
    rcases Directory.mem_keys_count isListed with isNew | before
    · exact List.mem_append_right _ (List.mem_singleton.mpr isNew)
    · exact List.mem_append_left _ (tallies.listed other before)

/-- Everything counted has succeeded or failed. -/
theorem completed
    (tallies : statistics.Tallies outcomes sizes) :
    statistics.successCount + statistics.failureCount = outcomes.length := by
  rw [tallies.successes, tallies.failures]
  clear tallies
  induction outcomes with
  | nil => rfl
  | cons outcome outcomes inductionHypothesis =>
      cases outcome with
      | succeeded response =>
          simp only [List.countP_cons, Outcome.code?, List.length_cons, ← inductionHypothesis,
            Option.isNone_none, Option.isSome_none, if_true, if_false, Bool.false_eq_true]
          omega
      | failed error =>
          simp only [List.countP_cons, Outcome.code?, List.length_cons, ← inductionHypothesis,
            Option.isNone_some, Option.isSome_some, if_true, if_false, Bool.false_eq_true]
          omega

end Statistics.Tallies

end InferenceBatching
