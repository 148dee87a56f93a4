import InferenceBatching.Directory
import Mathlib.Data.List.Perm.Basic

namespace InferenceBatching

/-!
# Directories by their look-ups

A directory has one representation, so it is determined by what it holds under each
key. Several keys inserted or erased one after the other show in the look-ups like one.
-/

namespace Directory

variable {Key Value Item : Type}
variable [LT Key]
variable [DecidableEq Key]

section Determined

variable [Std.Irrefl (α := Key) (· < ·)]

omit [DecidableEq Key] in
private theorem nodup_entries
    (directory : Directory Key Value) :
    directory.entries.Nodup := by
  have ascending := List.pairwise_map.mp directory.ascending
  refine ascending.imp ?_
  intro first second before same
  rw [same] at before
  exact Std.Irrefl.irrefl (r := (· < ·)) _ before

variable [Trans (α := Key) (β := Key) (γ := Key) (· < ·) (· < ·) (· < ·)]

/-- Directories that hold the same under every key are the same. -/
theorem eq_of_find?
    {first second : Directory Key Value}
    (same : ∀ key, first.find? key = second.find? key) :
    first = second := by
  have sameEntries : first.entries = second.entries := by
    have firstAscending := List.pairwise_map.mp first.ascending
    have secondAscending := List.pairwise_map.mp second.ascending
    refine List.Perm.eq_of_pairwise ?_ firstAscending secondAscending ?_
    · intro one other _ _ before after
      exact absurd (Trans.trans before after) (Std.Irrefl.irrefl (r := (· < ·)) one.1)
    · rw [List.perm_ext_iff_of_nodup first.nodup_entries second.nodup_entries]
      intro pair
      rw [← first.find?_eq_some_iff, ← second.find?_eq_some_iff, same]
  cases first
  cases second
  congr

end Determined

/-- Keys that are erased one after the other are gone, and all others are as they were. -/
theorem find?_foldl_erase
    (key : Item → Key)
    (items : List Item)
    (directory : Directory Key Value)
    (looked : Key) :
    (items.foldl (fun held item => held.erase (key item)) directory).find? looked =
      if looked ∈ items.map key then none else directory.find? looked := by
  induction items generalizing directory with
  | nil => simp
  | cons item items inductionHypothesis =>
      rw [List.foldl_cons, inductionHypothesis, find?_erase]
      by_cases isFirst : looked = key item
      · simp [isFirst]
      · simp only [isFirst, if_false, List.map_cons, List.mem_cons, false_or]

section Insertion

variable [DecidableLT Key]
variable [Trans (α := Key) (β := Key) (γ := Key) (· < ·) (· < ·) (· < ·)]
variable [Std.Trichotomous (α := Key) (· < ·)]
variable [Std.Irrefl (α := Key) (· < ·)]

/-- Keys under which one value is put all hold it, and all others are as they were. -/
theorem find?_foldl_insert
    (key : Item → Key)
    (value : Value)
    (items : List Item)
    (directory : Directory Key Value)
    (looked : Key) :
    (items.foldl (fun held item => held.insert (key item) value) directory).find? looked =
      if looked ∈ items.map key then some value else directory.find? looked := by
  induction items generalizing directory with
  | nil => simp
  | cons item items inductionHypothesis =>
      rw [List.foldl_cons, inductionHypothesis, find?_insert]
      by_cases later : looked ∈ items.map key
      · simp only [List.map_cons, List.mem_cons, later, or_true, if_true]
      · simp only [List.map_cons, List.mem_cons, later, or_false, if_false]

end Insertion

end Directory

end InferenceBatching
