namespace InferenceBatching

/-!
# Instants and durations

An instant is a natural number, the microseconds since the start of a run, and a
duration is a number of microseconds. No operation reads a clock: every operation
that depends on time takes the instant at which it happens, so a run is
determined by its operations and their instants. Instants may be given out of
order; waiting times then stop at zero.
-/

/-- The time from `earlier` to `later`, zero when `later` comes first. -/
def elapsed
    (earlier : Nat)
    (later : Nat) :
    Nat :=
  later - earlier

/-- The first of some instants, if there is any. -/
def earliest?
    (instants : List Nat) :
    Option Nat :=
  instants.min?

/-- The earlier of two instants that may be absent. -/
def earlier? :
    Option Nat →
    Option Nat →
    Option Nat
  | none, second => second
  | first, none => first
  | some first, some second => some (min first second)

/-- Of two instants the earlier one is one of them, and not later than either. -/
theorem earlier?_some
    (first? : Option Nat)
    (second : Nat) :
    ∃ found,
      earlier? first? (some second) = some found ∧
        found ≤ second ∧
        (∀ first ∈ first?, found ≤ first) ∧
        (found = second ∨ found ∈ first?) := by
  cases first? with
  | none => exact ⟨second, rfl, Nat.le_refl _, by simp, Or.inl rfl⟩
  | some first =>
      refine ⟨min first second, rfl, Nat.min_le_right _ _, ?_, ?_⟩
      · intro other isFirst
        cases isFirst
        exact Nat.min_le_left first second
      · rcases Nat.le_total first second with before | after
        · exact Or.inr (by simp [Nat.min_eq_left before])
        · exact Or.inl (Nat.min_eq_right after)

/-- The first of some instants that lies strictly after `now`, if there is any. -/
def earliestAfter?
    (now : Nat)
    (instants : List Nat) :
    Option Nat :=
  earliest? (instants.filter (fun instant => now < instant))

/-- An instant found after `now` really lies after it, and is one of those given. -/
theorem earliestAfter?_mem
    {now instant : Nat}
    {instants : List Nat}
    (found : earliestAfter? now instants = some instant) :
    instant ∈ instants ∧ now < instant := by
  have member := List.min?_mem found
  simpa using member

/-- What is found after `now` comes no later than any instant given that lies after it. -/
theorem earliestAfter?_le
    {now instant : Nat}
    {instants : List Nat}
    (member : instant ∈ instants)
    (after : now < instant) :
    ∃ found, earliestAfter? now instants = some found ∧ found ≤ instant := by
  have listed : instant ∈ instants.filter (fun other => now < other) := by
    simp [member, after]
  cases isFound : earliestAfter? now instants with
  | none =>
      rw [List.min?_eq_none_iff.mp isFound] at listed
      contradiction
  | some found => exact ⟨found, rfl, (List.min?_eq_some_iff.mp isFound).2 instant listed⟩

end InferenceBatching
