import InferenceBatching.Proofs.Sequence.Marks
import InferenceBatching.Proofs.Sequence.Remark
import InferenceBatching.Proofs.Sequence.Settings

namespace InferenceBatching

/-!
# Retention of marks

A mark counts for the retention time, to the microsecond, although a batcher drops old
marks only now and then. Marks are asked about in one way, `isTimedOut`, and that
compares their age with the retention time itself. A mark that was dropped was too old
when it was dropped, and will be too old whenever it is asked about later.

So two batchers that differ in marks, but agree from an instant on about who is timed
out, go on agreeing, and `Agrees` is what every operation keeps. It does not matter
then when marks are dropped, by whom, or whether they are.
-/

/-- An operation, a formation that keeps all marks, or dropping the old marks on its own. -/
inductive Act where
  | operate (operation : Operation)
  | formKeeping (instanceIndex : Nat) (now : Nat)
  | forget (now : Nat)
  deriving Repr, DecidableEq

namespace Act

/-- The operation that an act stands for, when old marks are dropped as they should be. -/
def operation? :
    Act →
    Option Operation
  | .operate operation => some operation
  | .formKeeping instanceIndex now => some (.form instanceIndex now)
  | .forget _ => none

/-- The instant of an act, if it depends on one. -/
def instant? :
    Act →
    Option Nat
  | .operate operation => operation.instant?
  | .formKeeping _ now => some now
  | .forget now => some now

end Act

namespace SequenceBatcher

/-- The batcher after an act. -/
def act
    (batcher : SequenceBatcher) :
    Act →
    SequenceBatcher
  | .operate operation => batcher.perform operation
  | .formKeeping instanceIndex now => (batcher.formKeeping instanceIndex now).batcher
  | .forget now => batcher.forgetTimedOut now

/-- The batcher after several acts. -/
def afterActs
    (batcher : SequenceBatcher)
    (acts : List Act) :
    SequenceBatcher :=
  acts.foldl act batcher

section Questions

variable {batcher other : SequenceBatcher}
variable {sequence : CorrelationId}

theorem isTimedOut_congr
    (sameMark : other.timedOut.find? sequence = batcher.timedOut.find? sequence)
    (sameRetention : other.timedOutRetention = batcher.timedOutRetention)
    (now : Nat) :
    other.isTimedOut sequence now = batcher.isTimedOut sequence now := by
  simp only [isTimedOut, sameMark, sameRetention]

theorem isTimedOut_of_marked
    {instant : Nat}
    (marked : batcher.timedOut.find? sequence = some instant)
    (now : Nat) :
    batcher.isTimedOut sequence now =
      decide (elapsed instant now < batcher.timedOutRetention) := by
  simp only [isTimedOut, marked]

/-- Dropping old marks changes no answer from then on. -/
theorem isTimedOut_forgetTimedOut
    (batcher : SequenceBatcher)
    (sequence : CorrelationId)
    {dropped now : Nat}
    (inOrder : dropped ≤ now) :
    (batcher.forgetTimedOut dropped).isTimedOut sequence now =
      batcher.isTimedOut sequence now := by
  have filtered :
      (batcher.forgetTimedOut dropped).timedOut.find? sequence =
        (batcher.timedOut.find? sequence).filter (fun instant =>
          elapsed instant dropped < batcher.timedOutRetention) :=
    batcher.timedOut.find?_filter _ sequence
  cases marked : batcher.timedOut.find? sequence with
  | none => simp [isTimedOut, filtered, marked]
  | some instant =>
      rw [isTimedOut_of_marked marked now]
      by_cases recent : elapsed instant dropped < batcher.timedOutRetention
      · have kept :
            (batcher.forgetTimedOut dropped).timedOut.find? sequence = some instant := by
          simp [filtered, marked, Option.filter, recent]
        exact isTimedOut_of_marked kept now
      · have older : ¬ elapsed instant now < batcher.timedOutRetention := by
          simp only [elapsed] at recent ⊢
          omega
        simp [isTimedOut, filtered, marked, Option.filter, recent, older]

/-- Only a START with right inputs takes the mark off its sequence, let in or not. -/
theorem find?_enqueue
    (batcher : SequenceBatcher)
    (sequence : CorrelationId)
    (request : Request)
    (now : Nat) :
    (batcher.enqueue request now).batcher.timedOut.find? sequence =
      if request.sequence? = some sequence ∧
          request.starts = true ∧
          inputMismatch? batcher.inputs request = none then
        none
      else
        batcher.timedOut.find? sequence := by
  simp only [enqueue]
  cases belongs : request.sequence? with
  | none => simp [Answer.rejected]
  | some own =>
      cases starts : request.starts with
      | false =>
          simp only [Bool.false_eq_true, false_and, and_false, if_false]
          split
          · rfl
          · split
            · rfl
            · rw [(join_marks batcher own request now).1]
      | true =>
          simp only [Bool.not_true, Bool.false_and, Bool.false_eq_true, if_false, true_and,
            Option.some.injEq]
          cases fits : inputMismatch? batcher.inputs request with
          | some mismatch => simp [Answer.rejected]
          | none =>
              simp only [if_true, (join_marks _ own request now).1, Directory.find?_erase,
                and_true]
              simp only [eq_comm]

/-- Settling a report leaves all marks. -/
theorem timedOut_complete
    (batcher : SequenceBatcher)
    (instanceIndex : Nat)
    (records : List DispatchRecord)
    (now : Nat) :
    (batcher.complete instanceIndex records now).batcher.timedOut = batcher.timedOut := by
  have same :
      batcher.complete instanceIndex records now =
        (batcher.complete instanceIndex records now).mapState (fun settled =>
          settled.remark batcher.timedOut) :=
    complete_remark instanceIndex (fun _ => rfl) records
  rw [same]
  rfl

theorem timedOut_halt
    (batcher : SequenceBatcher)
    (instanceIndex : Nat) :
    (batcher.halt instanceIndex).batcher.timedOut = batcher.timedOut := by
  rw [halt_eq]

end Questions

section Marked

variable {batcher : SequenceBatcher}
variable {sequence : CorrelationId}
variable {now : Nat}

/--
An operation that neither marks a sequence nor takes its mark off leaves the answer
whether it is timed out, old marks dropped or not.
-/
theorem isTimedOut_perform
    (coherent : batcher.Coherent)
    {operation : Operation}
    (inOrder : ∀ instant ∈ operation.instant?, instant ≤ now)
    (unmarked :
      ∀ instanceIndex instant,
        operation = .form instanceIndex instant →
        (batcher.live? instanceIndex).isSome = true →
          sequence ∉ batcher.lapsed instant)
    (uncleared :
      ∀ request instant,
        operation = .enqueue request instant →
        request.sequence? = some sequence →
        request.starts = true →
          (inputMismatch? batcher.inputs request).isSome = true) :
    (batcher.perform operation).isTimedOut sequence now = batcher.isTimedOut sequence now := by
  have sameRetention := (SharesSettings.perform coherent operation).timedOutRetention
  cases operation with
  | enqueue request instant =>
      refine isTimedOut_congr ?_ sameRetention now
      rw [perform, find?_enqueue, if_neg]
      rintro ⟨belongs, starts, fits⟩
      have mismatches := uncleared request instant rfl belongs starts
      rw [fits] at mismatches
      contradiction
  | form instanceIndex instant =>
      cases isLive : batcher.live? instanceIndex with
      | none => simp only [perform, formBatch, isLive, Formation.idle]
      | some owner =>
          have live : (batcher.live? instanceIndex).isSome = true := by simp [isLive]
          refine (isTimedOut_congr ?_ ?_ now).trans
            (isTimedOut_forgetTimedOut batcher sequence (inOrder instant rfl))
          · rw [perform, timedOut_formBatch coherent live, timedOut_expire coherent,
              if_neg (unmarked instanceIndex instant rfl live)]
          · exact sameRetention
  | complete instanceIndex records instant =>
      refine isTimedOut_congr ?_ sameRetention now
      rw [perform, timedOut_complete]
  | halt instanceIndex =>
      refine isTimedOut_congr ?_ sameRetention now
      rw [perform, timedOut_halt]
  | drain => rfl

/-- So does a run of such operations. -/
theorem isTimedOut_after
    (coherent : batcher.Coherent)
    (operations : List Operation)
    (inOrder : ∀ instant ∈ operations.filterMap Operation.instant?, instant ≤ now)
    (unmarked :
      ∀ before instanceIndex instant rest,
        operations = before ++ .form instanceIndex instant :: rest →
        ((batcher.after before).live? instanceIndex).isSome = true →
          sequence ∉ (batcher.after before).lapsed instant)
    (uncleared :
      ∀ request instant,
        .enqueue request instant ∈ operations →
        request.sequence? = some sequence →
        request.starts = true →
          (inputMismatch? batcher.inputs request).isSome = true) :
    (batcher.after operations).isTimedOut sequence now = batcher.isTimedOut sequence now := by
  induction operations generalizing batcher with
  | nil => rfl
  | cons operation operations inductionHypothesis =>
      have sameInputs := (SharesSettings.perform coherent operation).inputs
      have first :
          (batcher.perform operation).isTimedOut sequence now =
            batcher.isTimedOut sequence now := by
        refine isTimedOut_perform coherent ?_ ?_ ?_
        · intro instant isInstant
          exact inOrder instant
            (List.mem_filterMap.mpr ⟨operation, List.mem_cons_self, isInstant⟩)
        · intro instanceIndex instant isForm
          exact unmarked [] instanceIndex instant operations (by rw [isForm]; rfl)
        · intro request instant isEnqueue
          exact uncleared request instant (isEnqueue ▸ List.mem_cons_self)
      refine (inductionHypothesis (coherent.perform operation) ?_ ?_ ?_).trans first
      · intro instant isInstant
        obtain ⟨later, member, isLater⟩ := List.mem_filterMap.mp isInstant
        exact inOrder instant
          (List.mem_filterMap.mpr ⟨later, List.mem_cons_of_mem operation member, isLater⟩)
      · intro before instanceIndex instant rest isSplit
        exact unmarked (operation :: before) instanceIndex instant rest (by rw [isSplit]; rfl)
      · intro request instant member
        rw [sameInputs]
        exact uncleared request instant (List.mem_cons_of_mem operation member)

end Marked

/--
Another batcher is the same but for marks, and from an instant on the marks of both tell
the same sequences timed out.
-/
structure Agrees
    (batcher other : SequenceBatcher)
    (since : Nat) :
    Prop where
  isRemark : other = batcher.remark other.timedOut
  timedOut :
    ∀ sequence now,
      since ≤ now → other.isTimedOut sequence now = batcher.isTimedOut sequence now

namespace Agrees

variable {batcher other : SequenceBatcher}
variable {since now : Nat}

theorem refl
    (batcher : SequenceBatcher)
    (since : Nat) :
    batcher.Agrees batcher since :=
  ⟨rfl, fun _ _ _ => rfl⟩

theorem symm
    (agrees : batcher.Agrees other since) :
    other.Agrees batcher since where
  isRemark := congrArg (fun held => held.remark batcher.timedOut) agrees.isRemark.symm
  timedOut := fun sequence now notBefore => (agrees.timedOut sequence now notBefore).symm

theorem later
    (agrees : batcher.Agrees other since)
    (inOrder : since ≤ now) :
    batcher.Agrees other now where
  isRemark := agrees.isRemark
  timedOut := fun sequence asked notBefore =>
    agrees.timedOut sequence asked (Nat.le_trans inOrder notBefore)

/-- Dropping old marks on one side does no harm. -/
theorem forget
    (agrees : batcher.Agrees other since)
    (inOrder : since ≤ now) :
    batcher.Agrees (other.forgetTimedOut now) now where
  isRemark :=
    congrArg (fun held => held.remark (other.forgetTimedOut now).timedOut) agrees.isRemark
  timedOut := fun sequence asked notBefore =>
    (isTimedOut_forgetTimedOut other sequence notBefore).trans
      (agrees.timedOut sequence asked (Nat.le_trans inOrder notBefore))

/-- The marks of both tell the same at an instant that comes no earlier. -/
theorem sameAnswers
    (agrees : batcher.Agrees other since)
    (inOrder : since ≤ now)
    (sequence : CorrelationId) :
    (batcher.remark other.timedOut).isTimedOut sequence now = batcher.isTimedOut sequence now := by
  rw [← agrees.isRemark]
  exact agrees.timedOut sequence now inOrder

/--
What the two come to agrees if it is the same but for marks, and every mark is the same
on both sides or is left as it was on both.
-/
private theorem carried
    (agrees : batcher.Agrees other since)
    {after otherAfter : SequenceBatcher}
    {left : Directory CorrelationId Nat}
    (sameRetention : after.timedOutRetention = batcher.timedOutRetention)
    (isRemark : otherAfter = after.remark left)
    (marks :
      ∀ sequence,
        otherAfter.timedOut.find? sequence = after.timedOut.find? sequence ∨
          after.timedOut.find? sequence = batcher.timedOut.find? sequence ∧
            otherAfter.timedOut.find? sequence = other.timedOut.find? sequence) :
    after.Agrees otherAfter since := by
  have otherRetention : otherAfter.timedOutRetention = other.timedOutRetention := by
    rw [isRemark, agrees.isRemark]
    exact sameRetention
  refine ⟨by rw [isRemark]; rfl, ?_⟩
  intro sequence now inOrder
  rcases marks sequence with same | ⟨kept, otherKept⟩
  · exact isTimedOut_congr same (by rw [isRemark]; rfl) now
  · calc
      otherAfter.isTimedOut sequence now = other.isTimedOut sequence now :=
        isTimedOut_congr otherKept otherRetention now
      _ = batcher.isTimedOut sequence now := agrees.timedOut sequence now inOrder
      _ = after.isTimedOut sequence now := (isTimedOut_congr kept sameRetention now).symm

/-- A request gets the same answer. -/
theorem enqueue
    (agrees : batcher.Agrees other since)
    (coherent : batcher.Coherent)
    (inOrder : since ≤ now)
    (request : Request) :
    (other.enqueue request now).rejection? = (batcher.enqueue request now).rejection? ∧
      (batcher.enqueue request now).batcher.Agrees (other.enqueue request now).batcher since := by
  obtain ⟨left, same⟩ := enqueue_remark request (agrees.sameAnswers inOrder)
  rw [← agrees.isRemark] at same
  have sameInputs : other.inputs = batcher.inputs := by
    rw [agrees.isRemark]
    rfl
  have isRemark :
      (other.enqueue request now).batcher =
        (batcher.enqueue request now).batcher.remark left := by
    rw [same]
    rfl
  refine ⟨by rw [same]; rfl, ?_⟩
  refine agrees.carried
    (SharesSettings.perform coherent (.enqueue request now)).timedOutRetention isRemark ?_
  intro sequence
  rw [find?_enqueue, find?_enqueue, sameInputs]
  split
  · exact Or.inl rfl
  · exact Or.inr ⟨rfl, rfl⟩

/-- A report comes to the same, and so do the errors of requests that are left over. -/
theorem complete
    (agrees : batcher.Agrees other since)
    (coherent : batcher.Coherent)
    (inOrder : since ≤ now)
    (instanceIndex : Nat)
    (records : List DispatchRecord) :
    (other.complete instanceIndex records now).verdict =
        (batcher.complete instanceIndex records now).verdict ∧
      (batcher.complete instanceIndex records now).batcher.Agrees
        (other.complete instanceIndex records now).batcher since := by
  have same := complete_remark instanceIndex (agrees.sameAnswers inOrder) records
  rw [← agrees.isRemark] at same
  have isRemark :
      (other.complete instanceIndex records now).batcher =
        (batcher.complete instanceIndex records now).batcher.remark other.timedOut := by
    rw [same]
    rfl
  refine ⟨by rw [same]; rfl, ?_⟩
  refine agrees.carried
    (SharesSettings.perform coherent (.complete instanceIndex records now)).timedOutRetention
    isRemark ?_
  intro sequence
  rw [timedOut_complete, timedOut_complete]
  exact Or.inr ⟨rfl, rfl⟩

/-- A formation that keeps marks goes as one that drops the old ones. -/
theorem formKeeping
    (agrees : batcher.Agrees other since)
    (coherent : batcher.Coherent)
    (inOrder : since ≤ now)
    (instanceIndex : Nat) :
    ∃ left,
      other.formKeeping instanceIndex now =
          (batcher.formBatch instanceIndex now).mapState (fun formed => formed.remark left) ∧
        (batcher.formBatch instanceIndex now).batcher.Agrees
          (other.formKeeping instanceIndex now).batcher now := by
  have retention :
      (batcher.formBatch instanceIndex now).batcher.timedOutRetention =
        batcher.timedOutRetention :=
    (SharesSettings.perform coherent (.form instanceIndex now)).timedOutRetention
  cases isLive : batcher.live? instanceIndex with
  | none =>
      have otherHalted : other.live? instanceIndex = none := by
        rw [agrees.isRemark]
        exact isLive
      simp only [SequenceBatcher.formBatch, SequenceBatcher.formKeeping, isLive, otherHalted]
      refine ⟨other.timedOut, ?_, agrees.later inOrder⟩
      exact congrArg (fun held => Formation.idle held [] none) agrees.isRemark
  | some owner =>
      obtain ⟨lapsing, same⟩ :=
        formKeeping_remark (batcher.forgetTimedOut now) instanceIndex now
      have forgotten : (batcher.forgetTimedOut now).Agrees other now :=
        (agrees.symm.forget inOrder).symm
      have isFormed := formBatch_eq_formKeeping batcher instanceIndex now (by simp [isLive])
      have onOther := same other.timedOut
      have onItself := same (batcher.forgetTimedOut now).timedOut
      rw [← forgotten.isRemark] at onOther
      rw [isFormed] at retention ⊢
      have isRemark :
          (other.formKeeping instanceIndex now).batcher =
            ((batcher.forgetTimedOut now).formKeeping instanceIndex now).batcher.remark
              (markAll lapsing now other.timedOut) := by
        rw [onOther]
        rfl
      have marks :
          ((batcher.forgetTimedOut now).formKeeping instanceIndex now).batcher.timedOut =
            markAll lapsing now (batcher.forgetTimedOut now).timedOut :=
        congrArg (fun formed => formed.batcher.timedOut) onItself
      have otherMarks :
          (other.formKeeping instanceIndex now).batcher.timedOut =
            markAll lapsing now other.timedOut :=
        congrArg SequenceBatcher.timedOut isRemark
      refine ⟨_, onOther, forgotten.carried retention isRemark ?_⟩
      intro sequence
      rw [marks, otherMarks, find?_markAll, find?_markAll]
      split
      · exact Or.inl rfl
      · exact Or.inr ⟨rfl, rfl⟩

/-- A formation goes the same. -/
theorem formBatch
    (agrees : batcher.Agrees other since)
    (coherent : batcher.Coherent)
    (inOrder : since ≤ now)
    (instanceIndex : Nat) :
    ∃ left,
      other.formBatch instanceIndex now =
          (batcher.formBatch instanceIndex now).mapState (fun formed => formed.remark left) ∧
        (batcher.formBatch instanceIndex now).batcher.Agrees
          (other.formBatch instanceIndex now).batcher now := by
  cases isLive : other.live? instanceIndex with
  | none =>
      rw [formBatch_of_halted other instanceIndex now isLive]
      exact agrees.formKeeping coherent inOrder instanceIndex
  | some owner =>
      rw [formBatch_eq_formKeeping other instanceIndex now (by simp [isLive])]
      exact (agrees.forget inOrder).formKeeping coherent (Nat.le_refl now) instanceIndex

/-- Every operation keeps the agreement, and moves it on to its instant. -/
theorem perform
    (agrees : batcher.Agrees other since)
    (coherent : batcher.Coherent)
    {operation : Operation}
    (inOrder : ∀ instant ∈ operation.instant?, since ≤ instant) :
    (batcher.perform operation).Agrees (other.perform operation)
      (operation.instant?.getD since) := by
  cases operation with
  | enqueue request now =>
      have notBefore := inOrder now rfl
      exact (agrees.enqueue coherent notBefore request).2.later notBefore
  | form instanceIndex now =>
      obtain ⟨left, _, formed⟩ := agrees.formBatch coherent (inOrder now rfl) instanceIndex
      exact formed
  | complete instanceIndex records now =>
      have notBefore := inOrder now rfl
      exact (agrees.complete coherent notBefore instanceIndex records).2.later notBefore
  | halt instanceIndex =>
      have isRemark :
          (other.halt instanceIndex).batcher =
            (batcher.halt instanceIndex).batcher.remark other.timedOut :=
        (congrArg (fun held => (held.halt instanceIndex).batcher) agrees.isRemark).trans
          (congrArg Handover.batcher (halt_remark batcher other.timedOut instanceIndex))
      refine agrees.carried (SharesSettings.halt batcher instanceIndex).timedOutRetention
        isRemark ?_
      intro sequence
      simp only [SequenceBatcher.perform, timedOut_halt, and_self, or_true]
  | drain =>
      have isRemark :
          other.drain.batcher = batcher.drain.batcher.remark other.timedOut :=
        (congrArg (fun held => held.drain.batcher) agrees.isRemark).trans
          (congrArg Handover.batcher (drain_remark batcher other.timedOut))
      exact agrees.carried (SharesSettings.drain batcher).timedOutRetention isRemark
        (fun sequence => Or.inr ⟨rfl, rfl⟩)

/-- So does every act on one side, with what it stands for on the other. -/
theorem act
    (agrees : batcher.Agrees other since)
    (coherent : batcher.Coherent)
    {act : Act}
    (inOrder : ∀ instant ∈ act.instant?, since ≤ instant) :
    (batcher.after act.operation?.toList).Agrees (other.act act) (act.instant?.getD since) := by
  cases act with
  | operate operation => exact agrees.perform coherent inOrder
  | formKeeping instanceIndex now =>
      obtain ⟨left, _, formed⟩ := agrees.formKeeping coherent (inOrder now rfl) instanceIndex
      exact formed
  | forget now => exact agrees.forget (inOrder now rfl)

/-- And so does every run of acts in the order of their instants. -/
theorem afterActs
    (agrees : batcher.Agrees other since)
    (coherent : batcher.Coherent)
    (acts : List Act)
    (inOrder : (since :: (acts.filterMap Act.instant? ++ [now])).Pairwise (· ≤ ·)) :
    (batcher.after (acts.filterMap Act.operation?)).Agrees (other.afterActs acts) now := by
  induction acts generalizing batcher other since with
  | nil => exact agrees.later (by simpa using inOrder)
  | cons act acts inductionHypothesis =>
      have isRun :
          batcher.after ((act :: acts).filterMap Act.operation?) =
            (batcher.after act.operation?.toList).after (acts.filterMap Act.operation?) := by
        cases act <;> rfl
      have first : ∀ instant ∈ act.instant?, since ≤ instant := by
        intro instant isInstant
        refine (List.pairwise_cons.mp inOrder).1 instant (List.mem_append_left _ ?_)
        exact List.mem_filterMap.mpr ⟨act, List.mem_cons_self, isInstant⟩
      rw [isRun]
      refine inductionHypothesis (agrees.act coherent first) (coherent.after _) ?_
      rw [List.filterMap_cons] at inOrder
      cases isInstant : act.instant? with
      | none => simpa [isInstant] using inOrder
      | some instant =>
          rw [isInstant] at inOrder
          exact (List.pairwise_cons.mp inOrder).2

end Agrees

section Runs

variable {batcher : SequenceBatcher}
variable {sequence : CorrelationId}

/-- A sequence that lapses at a formation is timed out from then on for the retention time. -/
theorem isTimedOut_of_lapsed
    (coherent : batcher.Coherent)
    {instanceIndex marked : Nat}
    (live : (batcher.live? instanceIndex).isSome = true)
    (lapses : sequence ∈ batcher.lapsed marked)
    (now : Nat) :
    (batcher.perform (.form instanceIndex marked)).isTimedOut sequence now =
      decide (now - marked < batcher.timedOutRetention) := by
  have isMarked :
      (batcher.perform (.form instanceIndex marked)).timedOut.find? sequence = some marked := by
    rw [perform, timedOut_formBatch coherent live, timedOut_expire coherent, if_pos lapses]
  rw [isTimedOut_of_marked isMarked,
    (SharesSettings.perform coherent (.form instanceIndex marked)).timedOutRetention]
  rfl

/-- It stays so through operations that neither mark the sequence again nor take its mark off. -/
theorem isTimedOut_since
    (coherent : batcher.Coherent)
    {instanceIndex marked now : Nat}
    (live : (batcher.live? instanceIndex).isSome = true)
    (lapses : sequence ∈ batcher.lapsed marked)
    (later : List Operation)
    (inOrder : ∀ instant ∈ later.filterMap Operation.instant?, instant ≤ now)
    (unmarked :
      ∀ before other instant rest,
        later = before ++ .form other instant :: rest →
          let since := batcher.after (.form instanceIndex marked :: before)
          (since.live? other).isSome = true → sequence ∉ since.lapsed instant)
    (uncleared :
      ∀ request instant,
        .enqueue request instant ∈ later →
        request.sequence? = some sequence →
        request.starts = true →
          (inputMismatch? batcher.inputs request).isSome = true) :
    (batcher.after (.form instanceIndex marked :: later)).isTimedOut sequence now =
      decide (now - marked < batcher.timedOutRetention) := by
  have sameInputs := (SharesSettings.perform coherent (.form instanceIndex marked)).inputs
  have unchanged :
      (batcher.after (.form instanceIndex marked :: later)).isTimedOut sequence now =
        (batcher.perform (.form instanceIndex marked)).isTimedOut sequence now :=
    isTimedOut_after (coherent.perform _) later inOrder unmarked
      (by simpa only [sameInputs] using uncleared)
  exact unchanged.trans (isTimedOut_of_lapsed coherent live lapses now)

/-- A request that does not start its sequence is told if the sequence is timed out. -/
theorem enqueue_of_isTimedOut
    {request : Request}
    (belongs : request.sequence? = some sequence)
    (continues : request.starts = false)
    {now : Nat}
    (timedOut : batcher.isTimedOut sequence now = true) :
    batcher.enqueue request now = .rejected batcher request (.sequenceTimeout sequence) := by
  simp [enqueue, belongs, continues, timedOut]

/--
A sequence that was last marked at an instant, with no START of it since that passed the
input check, is answered as timed out for exactly the retention time from that instant:
every request that does not start it is turned away for that reason within it, and none
is afterwards, whatever else happened in between.

Nothing of this depends on when old marks are dropped. If formations keep them, and if
they are dropped at any other time, in any run in order of time, the batcher is the same
but for its marks. Every later request gets the same answer, every report of requests
that are back the same outcome, errors of leftovers included, and every formation makes
the same batch and the same failures.
-/
theorem timed_out_for_retention
    (config : ModelConfig)
    (start : Nat) :
    let reached := (ofConfig config start).after
    let retention := (config.sequenceBatching?.getD .standard).timedOutRetention
    (∀ earlier instanceIndex marked later sequence,
        let since := fun before => reached (earlier ++ .form instanceIndex marked :: before)
        ((reached earlier).live? instanceIndex).isSome = true →
        sequence ∈ (reached earlier).lapsed marked →
        (∀ before other instant rest,
          later = before ++ .form other instant :: rest →
          ((since before).live? other).isSome = true →
            sequence ∉ (since before).lapsed instant) →
        (∀ request instant,
          .enqueue request instant ∈ later →
          request.sequence? = some sequence →
          request.starts = true →
            (inputMismatch? config.inputs request).isSome = true) →
          ∀ request now,
            (∀ instant ∈ later.filterMap Operation.instant?, instant ≤ now) →
            request.sequence? = some sequence →
            request.starts = false →
              (now - marked < retention →
                  (since later).enqueue request now =
                    .rejected (since later) request (.sequenceTimeout sequence)) ∧
                (retention ≤ now - marked →
                  ∀ rejection ∈ ((since later).enqueue request now).rejection?,
                    rejection.error ≠ .sequenceTimeout sequence)) ∧
      ∀ acts now,
        (acts.filterMap Act.instant? ++ [now]).Pairwise (· ≤ ·) →
          let plain := reached (acts.filterMap Act.operation?)
          let varied := (ofConfig config start).afterActs acts
          varied = { plain with timedOut := varied.timedOut } ∧
            (∀ request,
              (varied.enqueue request now).rejection? =
                (plain.enqueue request now).rejection?) ∧
            (∀ instanceIndex records,
              (varied.complete instanceIndex records now).verdict =
                (plain.complete instanceIndex records now).verdict) ∧
            ∀ instanceIndex,
              ∀ formation ∈
                [varied.formBatch instanceIndex now, varied.formKeeping instanceIndex now],
                formation.mapState (fun _ => ()) =
                  (plain.formBatch instanceIndex now).mapState (fun _ => ()) := by
  intro reached retention
  have coherent : ∀ operations, (reached operations).Coherent := fun operations =>
    (coherent_ofConfig config start).after operations
  have shares : ∀ operations, (ofConfig config start).SharesSettings (reached operations) :=
    fun operations => .after (coherent_ofConfig config start) operations
  constructor
  · intro earlier instanceIndex marked later sequence since live lapses unmarked uncleared
      request now inOrder belongs continues
    have isSince : ∀ before,
        since before = (reached earlier).after (.form instanceIndex marked :: before) :=
      fun before => List.foldl_append
    have answer :
        (since later).isTimedOut sequence now = decide (now - marked < retention) := by
      have sameInputs : (reached earlier).inputs = config.inputs := (shares earlier).inputs
      have sameRetention : (reached earlier).timedOutRetention = retention :=
        (shares earlier).timedOutRetention
      rw [isSince, ← sameRetention]
      refine isTimedOut_since (coherent earlier) live lapses later inOrder ?_ ?_
      · intro before other instant rest isSplit
        rw [← isSince]
        exact unmarked before other instant rest isSplit
      · rw [sameInputs]
        exact uncleared
    constructor
    · intro recent
      exact enqueue_of_isTimedOut belongs continues (by simp [answer, recent])
    · intro old rejection rejected isError
      have timedOut := (isTimedOut_of_rejected rejected isError).2.2
      rw [answer, decide_eq_true_eq] at timedOut
      omega
  · intro acts now inOrder plain varied
    have agrees : plain.Agrees varied now :=
      (Agrees.refl (ofConfig config start) 0).afterActs (coherent_ofConfig config start) acts
        (List.pairwise_cons.mpr ⟨fun instant _ => Nat.zero_le instant, inOrder⟩)
    have same := coherent (acts.filterMap Act.operation?)
    have nowLate := Nat.le_refl now
    refine ⟨agrees.isRemark, ?_, ?_, ?_⟩
    · intro request
      exact (agrees.enqueue same nowLate request).1
    · intro instanceIndex records
      exact (agrees.complete same nowLate instanceIndex records).1
    · intro instanceIndex
      obtain ⟨_, isFormed, _⟩ := agrees.formBatch same nowLate instanceIndex
      obtain ⟨_, isKept, _⟩ := agrees.formKeeping same nowLate instanceIndex
      simp only [List.forall_mem_cons, List.not_mem_nil, false_implies, implies_true, and_true]
      exact ⟨by rw [isFormed]; rfl, by rw [isKept]; rfl⟩

/--
A late follower gets its sequence marked at 200 for a time of 1000. At 1199 its next request is
told so, at 1200 no more, and it is the same when formations keep the mark.
-/
theorem timed_out_for_retention_of_follower :
    let config : ModelConfig :=
      { name := "model"
        sequenceBatching? := some
          { maxSequences := 1, timedOutRetention := 1000, policy := { allowsOverride := true } } }
    let earlier : List Operation :=
      [.enqueue { id := 1, sequence? := some 7, starts := true } 0,
        .form 0 0,
        .enqueue { id := 2, sequence? := some 7, timeout? := some 100 } 0]
    let batcher := (ofConfig config 0).after (earlier ++ [.form 0 200, .form 0 300])
    let varied := (ofConfig config 0).afterActs
      (earlier.map Act.operate ++ [.formKeeping 0 200, .formKeeping 0 300, .forget 1200])
    let request : Request := { id := 3, sequence? := some 7 }
    let record : DispatchRecord :=
      { request := 1, slot? := some 0, sequence? := some 7, ends := false }
    7 ∈ ((ofConfig config 0).after earlier).lapsed 200 ∧
      batcher.enqueue request 1199 = .rejected batcher request (.sequenceTimeout 7) ∧
      (∀ rejection ∈ (batcher.enqueue request 1200).rejection?,
        rejection.error ≠ .sequenceTimeout 7) ∧
      (varied.enqueue request 1200).rejection? = (batcher.enqueue request 1200).rejection? ∧
      (varied.complete 0 [record] 1200).verdict = (batcher.complete 0 [record] 1200).verdict := by
  intro config earlier batcher varied request record
  obtain ⟨retained, alike⟩ := timed_out_for_retention config 0
  have lapses : 7 ∈ ((ofConfig config 0).after earlier).lapsed 200 := by decide
  have unmarked :
      ∀ before other instant rest,
        [Operation.form 0 300] = before ++ .form other instant :: rest →
        let reached := (ofConfig config 0).after (earlier ++ .form 0 200 :: before)
        (reached.live? other).isSome = true → 7 ∉ reached.lapsed instant := by
    intro before other instant rest isSplit
    cases before with
    | nil =>
        cases isSplit
        decide
    | cons => simp at isSplit
  have answers := fun now => retained earlier 0 200 [.form 0 300] 7 (by decide) lapses unmarked
    (by simp) request now
  obtain ⟨_, sameAnswers, sameVerdicts, _⟩ := alike
    (earlier.map Act.operate ++ [.formKeeping 0 200, .formKeeping 0 300, .forget 1200]) 1200
    (by decide)
  exact ⟨lapses, (answers 1199 (by decide) rfl rfl).1 (by decide),
    (answers 1200 (by decide) rfl rfl).2 (by decide), sameAnswers request,
    sameVerdicts 0 [record]⟩

end Runs

end SequenceBatcher

end InferenceBatching
