import InferenceBatching.Backlog.Expiry
import InferenceBatching.Proofs.Backlog.Frame
import InferenceBatching.Proofs.Backlog.Lanes
import InferenceBatching.Proofs.Directory
import Mathlib.Data.List.Forall2
import Mathlib.Data.List.Nodup
import Mathlib.Data.List.Perm.Basic

namespace InferenceBatching

/-!
# The two loops over the backlog

The first loop fails the lanes whose first request has waited too long, in the order of
the queue. The second one finds the lanes left in which a request behind the first has,
in the order of the directory. So each lane that has expired is failed once, as a whole,
and no other; the batcher then mirrors the one with lanes after its timeouts.
-/

namespace Lane

/-- Whether the first request of a lane has waited too long. -/
def startsLate
    (lane : Lane)
    (now : Nat) :
    Bool :=
  lane.first.isRejectable now

/-- Whether a request behind the first of a lane has waited too long. -/
def followsLate
    (lane : Lane)
    (now : Nat) :
    Bool :=
  lane.followers.any (fun entry => entry.isRejectable now)

theorem isExpired_eq
    (lane : Lane)
    (now : Nat) :
    lane.isExpired now = (lane.startsLate now || lane.followsLate now) := by
  simp [isExpired, entries, startsLate, followsLate]

end Lane

/-- What is in another order than the images of some items is the images in another order. -/
theorem exists_map_eq_of_perm
    {Item Image : Type}
    {image : Item → Image}
    {images : List Image}
    {items : List Item}
    (isPerm : images.Perm (items.map image)) :
    ∃ others : List Item,
      images = others.map image ∧ others.Perm items := by
  have paired : List.Forall₂ (fun shown item => shown = image item) (items.map image) items :=
    List.forall₂_map_left_iff.mpr (List.forall₂_same.mpr (fun _ _ => rfl))
  obtain ⟨others, areShown, stillPerm⟩ := List.perm_comp_forall₂ isPerm paired
  refine ⟨others, ?_, stillPerm⟩
  have := List.forall₂_map_right_iff.mpr areShown
  rwa [List.forall₂_eq_eq_eq] at this

/-- Two sweeps are the same but for the order of failures, of batchers that mirror each other. -/
structure Sweep.Mirrors
    (sweep : Sweep Backlog)
    (other : Sweep) :
    Prop where
  batcher : BacklogBatcher.Mirrors sweep.batcher other.batcher
  failed : sweep.failed.Perm other.failed
  refusals : sweep.refusals = other.refusals

/-- Looking after the slots keeps two sweeps the same but for the order of failures. -/
theorem Sweep.Mirrors.expireSlots
    {sweep : Sweep Backlog}
    {other : Sweep}
    (mirrors : sweep.Mirrors other)
    (now : Nat) :
    (SequenceBatcher.expireSlots sweep now).Mirrors (SequenceBatcher.expireSlots other now) := by
  obtain ⟨⟨sameBatcher, holds⟩, sameFailed, sameRefusals⟩ := mirrors
  obtain ⟨sameBacklog, samePolicy, failures, isFailed, steps⟩ :=
    @Sweep.frames_expireSlots Backlog (List Lane) sweep now
  have isOther : other = sweep.withBacklog other.batcher.backlog other.failed := by
    cases other
    simp only [withBacklog, Sweep.mk.injEq, true_and]
    exact ⟨sameBatcher.symm, sameRefusals.symm⟩
  rw [isOther]
  refine (steps _ _) ▸ ⟨⟨rfl, ?_⟩, ?_, rfl⟩
  · rw [sameBacklog, samePolicy]
    exact holds
  · rw [isFailed]
    exact sameFailed.append_right failures

namespace BacklogBatcher

variable {now : Nat}

/-- What the first loop makes of a sweep, for the lanes whose first requests were taken out. -/
theorem foldl_failExpired
    (expired : List Lane)
    (sweep : Sweep Backlog)
    (known :
      ∀ lane ∈ expired,
        lane.first.request.sequence? = some lane.sequence ∧
          sweep.batcher.backlog.followers.find? lane.sequence = some lane.followers)
    (late : ∀ lane ∈ expired, lane.startsLate now = true)
    (distinct : (expired.map Lane.sequence).Nodup) :
    (expired.map Lane.first).foldl (failExpired now) sweep =
      { sweep with
        batcher := {
          sweep.batcher with
          backlog := {
            sweep.batcher.backlog with
            followers :=
              expired.foldl (fun held lane => held.erase lane.sequence)
                sweep.batcher.backlog.followers
          }
          timedOut :=
            expired.foldl (fun marks lane => marks.insert lane.sequence now)
              sweep.batcher.timedOut
        }
        failed := sweep.failed ++ expired.flatMap (fun lane => lane.failures now) } := by
  induction expired generalizing sweep with
  | nil => simp
  | cons lane expired inductionHypothesis =>
      obtain ⟨isNamed, isHeld⟩ := known lane List.mem_cons_self
      rw [List.map_cons, List.nodup_cons] at distinct
      have step :
          failExpired now sweep lane.first =
            { sweep with
              batcher := {
                sweep.batcher with
                backlog := {
                  sweep.batcher.backlog with
                  followers := sweep.batcher.backlog.followers.erase lane.sequence
                }
                timedOut := sweep.batcher.timedOut.insert lane.sequence now
              }
              failed := sweep.failed ++ lane.failures now } := by
        have isLate : lane.first.isRejectable now = true := late lane List.mem_cons_self
        simp [failExpired, failFollowers, Backlog.takeFollowers, isNamed, isHeld, Lane.failures,
          isLate, SequenceBatcher.markTimedOut]
      rw [List.map_cons, List.foldl_cons, step, inductionHypothesis]
      · simp [List.append_assoc]
      · intro other member
        obtain ⟨otherNamed, otherHeld⟩ := known other (List.mem_cons_of_mem lane member)
        refine ⟨otherNamed, ?_⟩
        have differs : other.sequence ≠ lane.sequence := by
          intro same
          exact distinct.1 (same ▸ List.mem_map_of_mem member)
        rw [Directory.find?_erase, if_neg differs]
        exact otherHeld
      · exact fun other member => late other (List.mem_cons_of_mem lane member)
      · exact distinct.2

/-- Some lanes of a batcher have been failed and marked, one after the other; others are kept. -/
structure Fails
    (now : Nat)
    (batcher : BacklogBatcher)
    (gone kept : List Lane)
    (sweep : Sweep Backlog) :
    Prop where
  same :
    sweep.batcher =
      { batcher with
        backlog := sweep.batcher.backlog
        timedOut :=
          gone.foldl (fun marks lane => marks.insert lane.sequence now) batcher.timedOut }
  holds : sweep.batcher.backlog.Holds batcher.policy kept
  failed : sweep.failed = gone.flatMap (fun lane => lane.failures now)
  refusals : sweep.refusals = []

section Loops

variable {batcher : BacklogBatcher}
variable {lanes gone kept : List Lane}
variable {sweep : Sweep Backlog}

/-- Lanes are told apart by their sequences, so to leave some out is to leave out these. -/
theorem filter_not_eq
    (distinct : (lanes.map Lane.sequence).Nodup)
    (test : Lane → Bool) :
    lanes.filter (fun lane => !test lane) =
      lanes.filter (fun lane =>
        lane.sequence ∉ (lanes.filter test).map Lane.sequence) := by
  refine List.filter_congr ?_
  intro lane member
  have isIn : lane.sequence ∈ (lanes.filter test).map Lane.sequence ↔ test lane = true := by
    constructor
    · intro inFailed
      obtain ⟨other, isOther, sameSequence⟩ := List.mem_map.mp inFailed
      obtain ⟨otherMember, passes⟩ := List.mem_filter.mp isOther
      rw [List.inj_on_of_nodup_map distinct otherMember member sameSequence] at passes
      exact passes
    · intro passes
      exact List.mem_map_of_mem (List.mem_filter.mpr ⟨member, passes⟩)
  simp only [isIn]
  cases test lane <;> rfl

/-- Without the lanes of some sequences, a look-up finds the lanes of the others. -/
theorem find?_filter_lanes
    (erased : List CorrelationId)
    (lanes : List Lane)
    (sequence : CorrelationId) :
    (lanes.filter (fun lane => lane.sequence ∉ erased)).find?
        (fun lane => lane.sequence = sequence) =
      if sequence ∈ erased then
        none
      else
        lanes.find? (fun lane => lane.sequence = sequence) := by
  rw [List.find?_filter]
  split
  · next isErased =>
      rw [List.find?_eq_none]
      intro lane _
      grind
  · next stays =>
      congr 1
      funext lane
      grind

/-- The first loop fails the lanes whose first request has waited too long. -/
theorem fails_expireStarts
    (holds : batcher.backlog.Holds batcher.policy lanes)
    (now : Nat) :
    Fails now batcher (lanes.filter (fun lane => lane.startsLate now))
      (lanes.filter (fun lane => !lane.startsLate now)) (batcher.expireStarts now) := by
  have taken :
      batcher.backlog.starts.takeExpired now =
        ((lanes.filter (fun lane => lane.startsLate now)).map Lane.first,
          .single batcher.policy
            ((lanes.filter (fun lane => !lane.startsLate now)).map Lane.first)) := by
    rw [holds.starts, PriorityQueue.takeExpired, PriorityQueue.removeWhere_single,
      List.filter_map, List.filter_map]
    rfl
  have fails :=
    @foldl_failExpired now (lanes.filter (fun lane => lane.startsLate now))
      { batcher := {
          batcher with
          backlog := {
            batcher.backlog with
            starts :=
              .single batcher.policy
                ((lanes.filter (fun lane => !lane.startsLate now)).map Lane.first)
          }
        }
        failed := [] }
      (fun lane member =>
        have isLane := (List.mem_filter.mp member).1
        ⟨holds.named lane isLane, holds.find?_followers isLane⟩)
      (fun lane member => (List.mem_filter.mp member).2)
      (holds.distinct.sublist (List.filter_sublist.map Lane.sequence))
  unfold expireStarts
  rw [taken]
  dsimp only
  rw [fails]
  refine ⟨rfl, ⟨rfl, ?_, ?_, ?_⟩, List.nil_append _, rfl⟩
  · intro sequence
    rw [filter_not_eq holds.distinct, find?_filter_lanes]
    simp only [Directory.find?_foldl_erase Lane.sequence, holds.followers]
    split <;> rfl
  · exact fun lane member => holds.named lane (List.mem_filter.mp member).1
  · exact holds.distinct.sublist (List.filter_sublist.map Lane.sequence)

/-- One lane only is of a sequence. -/
theorem filter_sequence_eq
    (distinct : (lanes.map Lane.sequence).Nodup)
    {lane : Lane}
    (member : lane ∈ lanes) :
    lanes.filter (fun other => other.sequence = lane.sequence) = [lane] := by
  induction lanes with
  | nil => contradiction
  | cons first lanes inductionHypothesis =>
      rw [List.map_cons, List.nodup_cons] at distinct
      rcases List.mem_cons.mp member with isFirst | behind
      · subst isFirst
        rw [List.filter_cons_of_pos (by simp), List.filter_eq_nil_iff.mpr]
        intro other isOther same
        exact distinct.1 (List.mem_map.mpr ⟨other, isOther, by simpa using same⟩)
      · have differs : first.sequence ≠ lane.sequence := by
          intro same
          exact distinct.1 (same ▸ List.mem_map_of_mem behind)
        rw [List.filter_cons_of_neg (by simpa using differs)]
        exact inductionHypothesis distinct.2 behind

/-- A lane that is kept so far is failed by a step of the second loop. -/
theorem Fails.failStalled
    (fails : Fails now batcher gone kept sweep)
    {lane : Lane}
    (member : lane ∈ kept)
    (inTime : lane.startsLate now = false) :
    Fails now batcher (gone ++ [lane])
      (kept.filter (fun other => other.sequence ∉ [lane.sequence]))
      (BacklogBatcher.failStalled now sweep lane.sequence) := by
  have holds := fails.holds
  have taken :
      (kept.map Lane.first).filter (fun entry =>
          entry.request.sequence? = some lane.sequence) =
        [lane.first] := by
    rw [List.filter_map, ← List.map_singleton, ← filter_sequence_eq holds.distinct member]
    congr 1
    refine List.filter_congr (fun other isOther => ?_)
    simp [holds.named other isOther]
  have left :
      (kept.map Lane.first).filter (fun entry =>
          !decide (entry.request.sequence? = some lane.sequence)) =
        (kept.filter (fun other => other.sequence ∉ [lane.sequence])).map Lane.first := by
    rw [List.filter_map]
    congr 1
    refine List.filter_congr (fun other isOther => ?_)
    simp [holds.named other isOther]
  have isFailed :
      lane.failures now =
        { request := lane.first.request, error := .sequenceTimeout lane.sequence } ::
          Failure.all (requestsOf lane.followers) (.sequenceTimeout lane.sequence) := by
    simp only [Lane.startsLate] at inTime
    simp [Lane.failures, inTime]
  have isStep :
      BacklogBatcher.failStalled now sweep lane.sequence =
        { sweep with
          batcher := {
            sweep.batcher with
            backlog := {
              starts :=
                .single batcher.policy
                  ((kept.filter (fun other => other.sequence ∉ [lane.sequence])).map Lane.first)
              followers := sweep.batcher.backlog.followers.erase lane.sequence
            }
            timedOut := sweep.batcher.timedOut.insert lane.sequence now
          }
          failed := sweep.failed ++ lane.failures now } := by
    simp only [BacklogBatcher.failStalled, holds.starts, PriorityQueue.removeWhere_single, taken,
      left, failFollowers, Backlog.takeFollowers, holds.find?_followers member,
      SequenceBatcher.markTimedOut, isFailed]
    simp [Failure.all, requestsOf]
  rw [isStep]
  refine ⟨?_, ⟨rfl, ?_, ?_, ?_⟩, ?_, fails.refusals⟩
  · simp only [List.foldl_append, List.foldl_cons, List.foldl_nil]
    rw [fails.same]
  · intro sequence
    rw [find?_filter_lanes, Directory.find?_erase, holds.followers]
    simp only [List.mem_singleton]
    split <;> rfl
  · exact fun other isOther => holds.named other (List.mem_filter.mp isOther).1
  · exact holds.distinct.sublist (List.filter_sublist.map Lane.sequence)
  · simp [fails.failed]

/-- The second loop fails the lanes that it has found, in the order in which it found them. -/
theorem Fails.foldl_failStalled
    (fails : Fails now batcher gone kept sweep)
    {stalled : List Lane}
    (members : ∀ lane ∈ stalled, lane ∈ kept ∧ lane.startsLate now = false)
    (distinct : (stalled.map Lane.sequence).Nodup) :
    Fails now batcher (gone ++ stalled)
      (kept.filter (fun lane => lane.sequence ∉ stalled.map Lane.sequence))
      ((stalled.map Lane.sequence).foldl (BacklogBatcher.failStalled now) sweep) := by
  induction stalled generalizing gone kept sweep with
  | nil => simpa using fails
  | cons lane stalled inductionHypothesis =>
      obtain ⟨member, inTime⟩ := members lane List.mem_cons_self
      rw [List.map_cons, List.nodup_cons] at distinct
      have later := inductionHypothesis (fails.failStalled member inTime) ?_ distinct.2
      · rw [List.append_assoc, List.filter_filter] at later
        have same :
            kept.filter (fun other => other.sequence ∉ (lane :: stalled).map Lane.sequence) =
              kept.filter (fun other =>
                decide (other.sequence ∉ stalled.map Lane.sequence) &&
                  decide (other.sequence ∉ [lane.sequence])) := by
          refine List.filter_congr (fun other _ => ?_)
          simp only [List.map_cons, List.mem_cons, not_or, Bool.decide_and, List.not_mem_nil,
            or_false, Bool.and_comm]
        rw [same]
        exact later
      · intro other isOther
        obtain ⟨otherMember, otherInTime⟩ := members other (List.mem_cons_of_mem lane isOther)
        refine ⟨List.mem_filter.mpr ⟨otherMember, ?_⟩, otherInTime⟩
        simp only [List.mem_singleton, decide_eq_true_eq]
        exact fun same => distinct.1 (same ▸ List.mem_map_of_mem isOther)

/-- The directory names the lanes in which a request behind the first has waited too long. -/
theorem mem_stalled
    {backlog : Backlog}
    {policy : QueuePolicy}
    (holds : backlog.Holds policy lanes)
    (now : Nat)
    (sequence : CorrelationId) :
    sequence ∈ backlog.stalled now ↔
      ∃ lane ∈ lanes, lane.followsLate now = true ∧ lane.sequence = sequence := by
  have inDirectory :
      sequence ∈ backlog.stalled now ↔
        ∃ followers,
          backlog.followers.find? sequence = some followers ∧
            followers.any (fun entry => entry.isRejectable now) = true := by
    simp [Backlog.stalled, Directory.keys, Directory.filter, Directory.find?_eq_some_iff]
  rw [inDirectory]
  constructor
  · rintro ⟨followers, isHeld, late⟩
    rw [holds.followers] at isHeld
    obtain ⟨lane, isFound, isFollowers⟩ := Option.map_eq_some_iff.mp isHeld
    refine ⟨lane, List.mem_of_find?_eq_some isFound, ?_, by simpa using List.find?_some isFound⟩
    rw [Lane.followsLate, isFollowers, late]
  · rintro ⟨lane, member, late, isSequence⟩
    exact ⟨lane.followers, isSequence ▸ holds.find?_followers member, late⟩

/-- In whatever order the second loop goes, it meets each of the lanes that it has to fail once. -/
theorem stalled_eq
    {backlog : Backlog}
    {policy : QueuePolicy}
    (holds : backlog.Holds policy lanes)
    (now : Nat)
    {order : List CorrelationId}
    (isOrder : order.Perm (backlog.stalled now)) :
    ∃ stalled : List Lane,
      order = stalled.map Lane.sequence ∧
        stalled.Perm (lanes.filter (fun lane => lane.followsLate now)) := by
  have nodupKeys : (backlog.stalled now).Nodup :=
    List.Pairwise.imp Nat.ne_of_lt (Directory.ascending _)
  have nodupLanes :
      ((lanes.filter (fun lane => lane.followsLate now)).map Lane.sequence).Nodup :=
    holds.distinct.sublist (List.filter_sublist.map Lane.sequence)
  have same :
      (backlog.stalled now).Perm
        ((lanes.filter (fun lane => lane.followsLate now)).map Lane.sequence) := by
    rw [List.perm_ext_iff_of_nodup nodupKeys nodupLanes]
    intro sequence
    rw [mem_stalled holds]
    simp [and_assoc]
  exact exists_map_eq_of_perm (isOrder.trans same)

/-- The two loops fail the lanes that have expired, each once, and keep the others. -/
theorem fails_inOrder
    (holds : batcher.backlog.Holds batcher.policy lanes)
    (now : Nat)
    {order : List CorrelationId}
    (isOrder : order.Perm ((batcher.expireStarts now).batcher.backlog.stalled now)) :
    ∃ gone,
      gone.Perm (lanes.filter (fun lane => lane.isExpired now)) ∧
        Fails now batcher gone (lanes.filter (fun lane => !lane.isExpired now))
          (order.foldl (BacklogBatcher.failStalled now) (batcher.expireStarts now)) := by
  have first := fails_expireStarts holds now
  obtain ⟨stalled, isStalled, isPerm⟩ := stalled_eq first.holds now isOrder
  have inKept :
      ∀ lane ∈ stalled,
        lane ∈ lanes.filter (fun lane => !lane.startsLate now) ∧
          lane.startsLate now = false := by
    intro lane member
    have isKept := (List.mem_filter.mp (isPerm.mem_iff.mp member)).1
    exact ⟨isKept, by simpa using (List.mem_filter.mp isKept).2⟩
  have distinct : (stalled.map Lane.sequence).Nodup :=
    (isPerm.map Lane.sequence).nodup_iff.mpr
      (first.holds.distinct.sublist (List.filter_sublist.map Lane.sequence))
  have fails := first.foldl_failStalled inKept distinct
  refine ⟨lanes.filter (fun lane => lane.startsLate now) ++ stalled, ?_, ?_⟩
  · have parts :=
      List.filter_append_perm (fun lane : Lane => lane.startsLate now)
        (lanes.filter (fun lane => lane.isExpired now))
    refine List.Perm.trans ?_ parts
    rw [List.filter_filter, List.filter_filter]
    refine List.Perm.append (List.Perm.of_eq ?_) (isPerm.trans (List.Perm.of_eq ?_))
    · exact List.filter_congr (fun lane _ => by
        rw [lane.isExpired_eq]; cases lane.startsLate now <;> rfl)
    · rw [List.filter_filter]
      exact List.filter_congr (fun lane _ => by
        rw [lane.isExpired_eq]; cases lane.startsLate now <;> simp)
  · have keeps :
        (lanes.filter (fun lane => !lane.startsLate now)).filter
            (fun lane => lane.sequence ∉ stalled.map Lane.sequence) =
          lanes.filter (fun lane => !lane.isExpired now) := by
      have sameSequences :=
        fun sequence => @List.Perm.mem_iff _ sequence _ _ (isPerm.map Lane.sequence)
      simp only [sameSequences]
      rw [← filter_not_eq first.holds.distinct, List.filter_filter]
      refine List.filter_congr (fun lane _ => ?_)
      rw [lane.isExpired_eq, Bool.not_or, Bool.and_comm]
    rw [isStalled, ← keeps]
    exact fails

/-- Marks made at one instant do not depend on the order in which they are made. -/
theorem foldl_insert_of_perm
    (isPerm : gone.Perm lanes)
    (marks : Directory CorrelationId Nat) :
    gone.foldl (fun marks lane => marks.insert lane.sequence now) marks =
      lanes.foldl (fun marks lane => marks.insert lane.sequence now) marks := by
  apply Directory.eq_of_find?
  intro sequence
  simp only [Directory.find?_foldl_insert Lane.sequence, (isPerm.map Lane.sequence).mem_iff]

end Loops

section Mirrors

variable {batcher : BacklogBatcher}
variable {lanes : List Lane}

/-- The timeouts of the backlog are those of its lanes, whatever the order of the second loop. -/
theorem foldl_failStalled_mirrors
    (holds : batcher.backlog.Holds batcher.policy lanes)
    (now : Nat)
    {order : List CorrelationId}
    (isOrder : order.Perm ((batcher.expireStarts now).batcher.backlog.stalled now)) :
    (order.foldl (failStalled now) (batcher.expireStarts now)).Mirrors
      ((batcher.withBacklog lanes).expireBacklog now) := by
  obtain ⟨gone, isPerm, fails⟩ := fails_inOrder holds now isOrder
  refine ⟨⟨?_, ?_⟩, ?_, fails.refusals⟩
  · rw [fails.same, foldl_insert_of_perm isPerm]
    rfl
  · rw [fails.same]
    exact fails.holds
  · rw [fails.failed]
    exact isPerm.flatMap_right _

/-- All timeouts are those of the batcher with the lanes, whatever the order of the second loop. -/
theorem expireSlots_mirrors
    (holds : batcher.backlog.Holds batcher.policy lanes)
    (now : Nat)
    {order : List CorrelationId}
    (isOrder :
      order.Perm
        ((expireStarts (batcher.forgetTimedOut now) now).batcher.backlog.stalled now)) :
    (SequenceBatcher.expireSlots
        (order.foldl (failStalled now) (expireStarts (batcher.forgetTimedOut now) now))
        now).Mirrors
      ((batcher.withBacklog lanes).expire now) := by
  have forgotten :
      (batcher.forgetTimedOut now).backlog.Holds (batcher.forgetTimedOut now).policy lanes :=
    holds
  exact (foldl_failStalled_mirrors forgotten now isOrder).expireSlots now

/-- All timeouts are those of the batcher with the lanes, in the order of the directory too. -/
theorem expire_mirrors
    (holds : batcher.backlog.Holds batcher.policy lanes)
    (now : Nat) :
    (batcher.expire now).Mirrors ((batcher.withBacklog lanes).expire now) :=
  expireSlots_mirrors holds now (List.Perm.refl _)

/--
The order in which the second loop goes through the sequences of the directory does not matter:
the timeouts leave the same batcher, and the same failures but for their order.
-/
theorem expire_inOrder
    (holds : batcher.backlog.Holds batcher.policy lanes)
    (now : Nat)
    {order : List CorrelationId}
    (isOrder :
      order.Perm
        ((expireStarts (batcher.forgetTimedOut now) now).batcher.backlog.stalled now)) :
    let sweep :=
      SequenceBatcher.expireSlots
        (order.foldl (failStalled now) (expireStarts (batcher.forgetTimedOut now) now)) now
    sweep.batcher = (batcher.expire now).batcher ∧
      sweep.failed.Perm (batcher.expire now).failed := by
  have mirrors := expireSlots_mirrors holds now isOrder
  have asListed := expire_mirrors holds now
  exact ⟨mirrors.batcher.unique asListed.batcher, mirrors.failed.trans asListed.failed.symm⟩

end Mirrors

end BacklogBatcher

end InferenceBatching
