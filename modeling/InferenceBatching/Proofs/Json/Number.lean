import InferenceBatching.Json.Number

namespace InferenceBatching.Json

/-!
# Integers read back

A natural number is written with its decimal digits, the first of which is no
zero unless it is the only one. Read digit by digit, they give the number again
as long as it fits into 64 bits, so no digit is moved into the exponent. What
stands behind a value in a document goes on neither with a digit nor with a point
or an exponent (`Ends`).
-/

/-- What may stand behind a value of a document: nothing, or a mark that ends the value. -/
def Ends
    (rest : List Char) :
    Prop :=
  ∀ char ∈ rest.head?, char ∈ [',', ']', '\x7d', '"']

/-- At the end of a text a value ends. -/
theorem ends_nil :
    Ends [] := by
  simp [Ends]

/-- In front of an ending mark a value ends. -/
theorem ends_cons
    {mark : Char}
    (isMark : mark ∈ [',', ']', '\x7d', '"'])
    (rest : List Char) :
    Ends (mark :: rest) := by
  simpa [Ends] using isMark

/-- Every written digit is a decimal digit. -/
theorem isDigit_of_mem_writeNatural
    {value : Nat}
    {char : Char}
    (member : char ∈ writeNatural value) :
    char.isDigit = true :=
  Nat.isDigit_of_mem_toDigits (by decide) (by decide) member

/-- A natural number is written with at least one digit. -/
theorem writeNatural_eq_cons
    (value : Nat) :
    ∃ (digit : Char) (digits : List Char),
      writeNatural value = digit :: digits ∧ digit.isDigit = true := by
  obtain ⟨digit, digits, shape⟩ :=
    List.exists_cons_of_ne_nil (Nat.toDigits_ne_nil (n := value) (b := 10))
  exact ⟨digit, digits, shape, isDigit_of_mem_writeNatural (shape ▸ List.mem_cons_self)⟩

/-- Induction along the digits of a number: a single one, or one more behind a positive number. -/
theorem writeNatural_induction
    {motive : Nat → List Char → Prop}
    (single : ∀ digit < 10, motive digit [digit.digitChar])
    (behind : ∀ value digit, 0 < value → digit < 10 →
      motive value (writeNatural value) →
        motive (value * 10 + digit) (writeNatural value ++ [digit.digitChar]))
    (value : Nat) :
    motive value (writeNatural value) := by
  induction value using Nat.strongRecOn with
  | ind value inductionHypothesis =>
      rcases Nat.lt_or_ge value 10 with isSingle | several
      · rw [writeNatural, Nat.toDigits_of_lt_base isSingle]
        exact single value isSingle
      · have extended :=
          behind (value / 10) (value % 10) (by omega) (Nat.mod_lt value (by decide))
            (inductionHypothesis (value / 10) (by omega))
        rw [Nat.div_add_mod'] at extended
        rw [writeNatural, Nat.toDigits_of_base_le (by decide) several]
        exact extended

/-- The first digit of a positive number is not zero. -/
theorem head?_writeNatural_ne_zero
    (value : Nat)
    (isPositive : 0 < value) :
    (writeNatural value).head? ≠ some '0' := by
  refine writeNatural_induction
    (motive := fun value digits => 0 < value → digits.head? ≠ some '0')
    ?single ?behind value isPositive
  case single =>
    intro digit _ isPositive
    simpa using Nat.ne_of_gt isPositive
  case behind =>
    intro value digit isPositive _ higher _
    obtain ⟨first, digits, shape, _⟩ := writeNatural_eq_cons value
    rw [shape] at higher ⊢
    exact higher isPositive

/-- No written number has a zero in front that other digits follow. -/
theorem hasLeadingZero_writeNatural
    (value : Nat) :
    hasLeadingZero (writeNatural value) = false := by
  rcases Nat.eq_zero_or_pos value with isZero | isPositive
  · subst isZero
    rfl
  · have first := head?_writeNatural_ne_zero value isPositive
    unfold hasLeadingZero
    split
    · next digits shape =>
        exact absurd (by rw [shape]; rfl) first
    · rfl

namespace Significand

/-- Appending a digit that fits extends the value. -/
theorem appendWhole_of_fits
    (value : Nat)
    {digit : Nat}
    (isDigit : digit < 10)
    (fits : value * 10 + digit < significandLimit) :
    appendWhole ⟨value, 0⟩ digit.digitChar = ⟨value * 10 + digit, 0⟩ := by
  have digitValue_eq : digitValue digit.digitChar = digit :=
    Nat.toNat_digitChar_sub_48_of_lt_ten isDigit
  simp [appendWhole, digitValue_eq, fits]

/-- The digits of a number below the limit have that number for their significand. -/
theorem ofWhole_writeNatural
    (value : Nat)
    (fits : value < significandLimit) :
    ofWhole (writeNatural value) = ⟨value, 0⟩ := by
  refine writeNatural_induction
    (motive := fun value digits => value < significandLimit → ofWhole digits = ⟨value, 0⟩)
    ?single ?behind value fits
  case single =>
    intro digit isDigit _
    simpa [ofWhole] using appendWhole_of_fits 0 isDigit (by omega)
  case behind =>
    intro value digit _ isDigit higher fits
    rw [ofWhole, List.foldl_append, ← ofWhole, higher (by omega), List.foldl_cons, List.foldl_nil]
    exact appendWhole_of_fits value isDigit fits

end Significand

/-- In front of an ending mark, the digits of a text are over. -/
theorem takeWhile_isDigit_of_ends
    {rest : List Char}
    (ends : Ends rest) :
    rest.takeWhile Char.isDigit = [] ∧ rest.dropWhile Char.isDigit = rest := by
  cases rest with
  | nil => exact ⟨rfl, rfl⟩
  | cons mark rest =>
      have notDigit : ¬ mark.isDigit = true := by
        have isMark := ends mark rfl
        simp only [List.mem_cons, List.not_mem_nil, or_false] at isMark
        rcases isMark with rfl | rfl | rfl | rfl <;> decide
      rw [List.takeWhile_cons_of_neg notDigit, List.dropWhile_cons_of_neg notDigit]
      exact ⟨rfl, rfl⟩

/-- Whole digits in front of an ending mark are a number without point and exponent. -/
theorem readUnsigned_writeNatural
    (negative : Bool)
    {value : Nat}
    (fits : value < significandLimit)
    {rest : List Char}
    (ends : Ends rest) :
    readUnsigned negative (writeNatural value ++ rest) =
      readWhole negative ⟨value, 0⟩ rest := by
  obtain ⟨noDigits, allLeft⟩ := takeWhile_isDigit_of_ends ends
  have digits : (writeNatural value ++ rest).takeWhile Char.isDigit = writeNatural value := by
    rw [List.takeWhile_append_of_pos (fun _ => isDigit_of_mem_writeNatural), noDigits,
      List.append_nil]
  have behind : (writeNatural value ++ rest).dropWhile Char.isDigit = rest := by
    rw [List.dropWhile_append_of_pos (fun _ => isDigit_of_mem_writeNatural), allLeft]
  have given : (writeNatural value).isEmpty = false := by
    simp [writeNatural]
  simp only [readUnsigned, digits, behind, given, hasLeadingZero_writeNatural,
    Significand.ofWhole_writeNatural value fits, Bool.false_eq_true, if_false]
  -- What ends a value is neither a point nor the mark of an exponent.
  split
  · exact absurd (ends '.' rfl) (by decide)
  · exact absurd (ends 'e' rfl) (by decide)
  · exact absurd (ends 'E' rfl) (by decide)
  · rfl

/-- A written natural number that fits into 64 bits is read as that integer. -/
theorem readNumber_writeNatural
    {value : Nat}
    (fits : value < significandLimit)
    {rest : List Char}
    (ends : Ends rest) :
    readNumber (writeNatural value ++ rest) = .ok (.integer value, rest) := by
  have read := readUnsigned_writeNatural false fits ends
  obtain ⟨digit, digits, shape, isDigit⟩ := writeNatural_eq_cons value
  rw [shape, List.cons_append] at read ⊢
  unfold readNumber
  split
  · next sign =>
      cases sign
      exact absurd isDigit (by decide)
  · rw [read]
    rfl

/-- A written integer that fits into 64 bits with its sign is read as that integer. -/
theorem readNumber_writeInteger
    {value : Int}
    (isAbove : -(2 ^ 63) ≤ value)
    (isBelow : value < 2 ^ 63)
    {rest : List Char}
    (ends : Ends rest) :
    readNumber (writeInteger value ++ rest) = .ok (.integer value, rest) := by
  have fits : value.natAbs < significandLimit := by
    unfold significandLimit
    omega
  rcases Int.lt_or_le value 0 with isNegative | isNatural
  · have read := readUnsigned_writeNatural true fits ends
    have kept : (decide (0 < value.natAbs) && decide (value.natAbs ≤ 2 ^ 63)) = true := by
      rw [Bool.and_eq_true, decide_eq_true_iff, decide_eq_true_iff]
      omega
    have negated : -(value.natAbs : Int) = value := by
      omega
    rw [writeInteger, if_pos isNegative, List.cons_append, readNumber, read, readWhole,
      if_neg (Int.lt_irrefl 0), if_neg (by decide), if_pos kept, negated]
  · have read := readNumber_writeNatural fits ends
    have same : (value.natAbs : Int) = value := by
      omega
    rw [writeInteger, if_neg (by omega), read, same]

end InferenceBatching.Json
