import InferenceBatching.Instances

namespace InferenceBatching

/-!
# Directories

A directory is a finite map held as a list of pairs in ascending key order. The
order is part of the type, so a directory has one representation: two
directories with the same pairs are equal, and listing one is listing it sorted.

`find?_insert` and `find?_erase` say what each change does to a look-up.
-/

/-- A finite map with its pairs in strictly ascending key order. -/
structure Directory (Key Value : Type) [LT Key] where
  entries : List (Key × Value)
  ascending : (entries.map Prod.fst).Pairwise (· < ·)
  deriving Repr, DecidableEq

namespace Directory

variable {Key Value : Type} [LT Key]

/-- The directory without any pair. -/
def empty : Directory Key Value where
  entries := []
  ascending := List.Pairwise.nil

instance : Inhabited (Directory Key Value) :=
  ⟨empty⟩

/-- The keys in ascending order. -/
def keys
    (directory : Directory Key Value) :
    List Key :=
  directory.entries.map Prod.fst

/-- The number of keys. -/
def size
    (directory : Directory Key Value) :
    Nat :=
  directory.entries.length

/-- The pairs whose key and value pass a test. -/
def filter
    (keep : Key → Value → Bool)
    (directory : Directory Key Value) :
    Directory Key Value where
  entries := directory.entries.filter (fun pair => keep pair.1 pair.2)
  ascending := directory.ascending.sublist (List.filter_sublist.map Prod.fst)

section Lookup

variable [DecidableEq Key]

/-- The value of the first pair with a key. -/
def lookUp
    (key : Key) :
    List (Key × Value) →
    Option Value
  | [] => none
  | pair :: rest =>
      if key = pair.1 then
        some pair.2
      else
        lookUp key rest

/-- The value held under a key. -/
def find?
    (directory : Directory Key Value)
    (key : Key) :
    Option Value :=
  lookUp key directory.entries

/-- Whether a key is held. -/
def contains
    (directory : Directory Key Value)
    (key : Key) :
    Bool :=
  (directory.find? key).isSome

/-- The directory without a key. -/
def erase
    (directory : Directory Key Value)
    (key : Key) :
    Directory Key Value :=
  directory.filter (fun held _ => held ≠ key)

theorem find?_empty
    (key : Key) :
    (empty : Directory Key Value).find? key = none :=
  rfl

omit [LT Key] in
private theorem lookUp_filter
    (pairs : List (Key × Value))
    (key erased : Key) :
    lookUp key (pairs.filter (fun pair => pair.1 ≠ erased)) =
      if key = erased then none else lookUp key pairs := by
  induction pairs with
  | nil => simp [lookUp]
  | cons pair rest inductionHypothesis =>
      by_cases isErased : pair.1 = erased
      · rw [List.filter_cons_of_neg (by simpa using isErased), inductionHypothesis]
        grind [lookUp]
      · rw [List.filter_cons_of_pos (by simpa using isErased)]
        grind [lookUp]

/-- Erasing a key removes it and leaves every other key as it was. -/
theorem find?_erase
    (directory : Directory Key Value)
    (key erased : Key) :
    (directory.erase erased).find? key =
      if key = erased then none else directory.find? key :=
  lookUp_filter directory.entries key erased

omit [LT Key] in
private theorem not_mem_of_lookUp
    {key : Key}
    {pairs : List (Key × Value)}
    (absent : lookUp key pairs = none) :
    ∀ pair ∈ pairs, pair.1 ≠ key := by
  induction pairs with
  | nil => simp
  | cons pair rest inductionHypothesis =>
      simp only [lookUp] at absent
      split at absent
      · contradiction
      · next differs =>
          intro other member
          rcases List.mem_cons.mp member with isFirst | inRest
          · rw [isFirst]
            exact Ne.symm differs
          · exact inductionHypothesis absent other inRest

/-- Erasing a key that is not held changes nothing. -/
theorem erase_of_absent
    {directory : Directory Key Value}
    {key : Key}
    (absent : directory.find? key = none) :
    directory.erase key = directory := by
  obtain ⟨pairs, ascending⟩ := directory
  have kept : pairs.filter (fun pair => pair.1 ≠ key) = pairs := by
    rw [List.filter_eq_self]
    simpa using not_mem_of_lookUp absent
  simp only [erase, filter, mk.injEq]
  exact kept

end Lookup

section Insertion

variable [DecidableLT Key]

/-- Put a pair at its place, replacing the pair with the same key. -/
def place
    (key : Key)
    (value : Value) :
    List (Key × Value) →
    List (Key × Value)
  | [] => [(key, value)]
  | pair :: rest =>
      if key < pair.1 then
        (key, value) :: pair :: rest
      else if pair.1 < key then
        pair :: place key value rest
      else
        (key, value) :: rest

private theorem fst_mem_place
    {key found : Key}
    {value : Value}
    {pairs : List (Key × Value)}
    (member : found ∈ (place key value pairs).map Prod.fst) :
    found = key ∨ found ∈ pairs.map Prod.fst := by
  induction pairs with
  | nil => simpa [place] using member
  | cons pair rest inductionHypothesis =>
      unfold place at member
      split at member
      · simpa using member
      · split at member
        · simp only [List.map_cons, List.mem_cons] at member ⊢
          rcases member with isFirst | inRest
          · exact Or.inr (Or.inl isFirst)
          · rcases inductionHypothesis inRest with isKey | inOld
            · exact Or.inl isKey
            · exact Or.inr (Or.inr inOld)
        · simp only [List.map_cons, List.mem_cons] at member ⊢
          rcases member with isKey | inRest
          · exact Or.inl isKey
          · exact Or.inr (Or.inr inRest)

variable
  [Trans (α := Key) (β := Key) (γ := Key) (· < ·) (· < ·) (· < ·)]
  [Std.Trichotomous (α := Key) (· < ·)]

private theorem place_ascending
    (key : Key)
    (value : Value)
    (pairs : List (Key × Value))
    (ascending : (pairs.map Prod.fst).Pairwise (· < ·)) :
    ((place key value pairs).map Prod.fst).Pairwise (· < ·) := by
  induction pairs with
  | nil => simp [place]
  | cons pair rest inductionHypothesis =>
      simp only [List.map_cons, List.pairwise_cons] at ascending
      unfold place
      split
      · next before =>
          simp only [List.map_cons, List.pairwise_cons, List.mem_cons]
          refine ⟨?_, ascending⟩
          rintro other (isFirst | inRest)
          · exact isFirst ▸ before
          · exact Trans.trans before (ascending.1 other inRest)
      · next notBefore =>
          split
          · next after =>
              simp only [List.map_cons, List.pairwise_cons]
              refine ⟨?_, inductionHypothesis ascending.2⟩
              intro other member
              rcases fst_mem_place member with isKey | inRest
              · exact isKey ▸ after
              · exact ascending.1 other inRest
          · next notAfter =>
              have same : key = pair.1 :=
                Std.Trichotomous.trichotomous (r := (· < ·)) key pair.1 notBefore notAfter
              simp only [List.map_cons, List.pairwise_cons]
              exact ⟨fun other inRest => same ▸ ascending.1 other inRest, ascending.2⟩

/-- The directory with a value put under a key, replacing what the key held. -/
def insert
    (directory : Directory Key Value)
    (key : Key)
    (value : Value) :
    Directory Key Value where
  entries := place key value directory.entries
  ascending := place_ascending key value directory.entries directory.ascending

/-- The directory of a list of pairs, of which the last one with a key counts. -/
def ofList
    (pairs : List (Key × Value)) :
    Directory Key Value :=
  pairs.foldl (fun directory pair => directory.insert pair.1 pair.2) empty

end Insertion

section Change

variable
  [DecidableEq Key]
  [DecidableLT Key]
  [Trans (α := Key) (β := Key) (γ := Key) (· < ·) (· < ·) (· < ·)]
  [Std.Trichotomous (α := Key) (· < ·)]
  [Std.Irrefl (α := Key) (· < ·)]

omit [Trans (α := Key) (β := Key) (γ := Key) (· < ·) (· < ·) (· < ·)] in
private theorem lookUp_place
    (key looked : Key)
    (value : Value)
    (pairs : List (Key × Value)) :
    lookUp looked (place key value pairs) =
      if looked = key then some value else lookUp looked pairs := by
  induction pairs with
  | nil => rfl
  | cons pair rest inductionHypothesis =>
      have irreflexive : ¬ key < key := Std.Irrefl.irrefl (r := (· < ·)) key
      unfold place
      split
      · rfl
      · next notBefore =>
          split
          · next after =>
              have distinct : key ≠ pair.1 := fun equal => irreflexive (equal ▸ after)
              grind [lookUp]
          · next notAfter =>
              have equal : key = pair.1 :=
                Std.Trichotomous.trichotomous (r := (· < ·)) key pair.1 notBefore notAfter
              grind [lookUp]

/-- Inserting sets the value of its key and leaves every other key as it was. -/
theorem find?_insert
    (directory : Directory Key Value)
    (key looked : Key)
    (value : Value) :
    (directory.insert key value).find? looked =
      if looked = key then some value else directory.find? looked :=
  lookUp_place key looked value directory.entries

omit [DecidableLT Key] [Trans (α := Key) (β := Key) (γ := Key) (· < ·) (· < ·) (· < ·)]
  [Std.Trichotomous (α := Key) (· < ·)] in
private theorem lookUp_eq_some_iff
    {pairs : List (Key × Value)}
    (ascending : (pairs.map Prod.fst).Pairwise (· < ·))
    {key : Key}
    {value : Value} :
    lookUp key pairs = some value ↔ (key, value) ∈ pairs := by
  induction pairs with
  | nil => simp [lookUp]
  | cons pair rest inductionHypothesis =>
      simp only [List.map_cons, List.pairwise_cons] at ascending
      unfold lookUp
      split
      · next isFirst =>
          have notInRest : (key, value) ∉ rest := by
            intro inRest
            have before := ascending.1 key (List.mem_map_of_mem inRest)
            exact Std.Irrefl.irrefl (r := (· < ·)) key (isFirst ▸ before)
          rw [List.mem_cons, or_iff_left notInRest]
          simp [Prod.ext_iff, isFirst, eq_comm]
      · next notFirst =>
          simp [inductionHypothesis ascending.2, Prod.ext_iff, notFirst]

omit [DecidableLT Key] [Trans (α := Key) (β := Key) (γ := Key) (· < ·) (· < ·) (· < ·)]
  [Std.Trichotomous (α := Key) (· < ·)] in
/-- A value is held under a key exactly when the pair of both is held. -/
theorem find?_eq_some_iff
    (directory : Directory Key Value)
    {key : Key}
    {value : Value} :
    directory.find? key = some value ↔ (key, value) ∈ directory.entries :=
  lookUp_eq_some_iff directory.ascending

omit [DecidableLT Key] [Trans (α := Key) (β := Key) (γ := Key) (· < ·) (· < ·) (· < ·)]
  [Std.Trichotomous (α := Key) (· < ·)] in
/-- Filtering keeps the value of a key exactly when the pair of both passes the test. -/
theorem find?_filter
    (directory : Directory Key Value)
    (keep : Key → Value → Bool)
    (key : Key) :
    (directory.filter keep).find? key = (directory.find? key).filter (keep key) := by
  apply Option.ext
  intro value
  rw [find?_eq_some_iff, Option.filter_eq_some_iff, find?_eq_some_iff]
  simp [filter]

/-- Change the value under a key, starting from `initial` when the key is new. -/
def update
    (directory : Directory Key Value)
    (key : Key)
    (initial : Value)
    (change : Value → Value) :
    Directory Key Value :=
  directory.insert key (change ((directory.find? key).getD initial))

end Change

end Directory

end InferenceBatching
