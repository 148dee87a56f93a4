import InferenceBatching.Json.Codec
import InferenceBatching.Proofs.Json.Items

namespace InferenceBatching

/-!
# Values read back

A codec restores a value when it reads the written value back, whatever ends it
within a document. Every codec built from others restores a value when they
restore its parts, with conditions only where the written form has limits: a
number has to fit, a constant needs a name of its own, and a value that may be
missing must not be written like a missing one.
-/

namespace Directory

variable {Value : Type}

private theorem place_of_last
    {pairs : List (Nat × Value)}
    {key : Nat}
    (value : Value)
    (isLast : ∀ pair ∈ pairs, pair.1 < key) :
    place key value pairs = pairs ++ [(key, value)] := by
  induction pairs with
  | nil => rfl
  | cons pair pairs inductionHypothesis =>
      have before := isLast pair List.mem_cons_self
      rw [place, if_neg (Nat.lt_asymm before), if_pos before,
        inductionHypothesis (fun other member => isLast other (List.mem_cons_of_mem pair member)),
        List.cons_append]

/-- A key larger than all those held goes behind them. -/
theorem insert_of_last
    {directory : Directory Nat Value}
    {key : Nat}
    (value : Value)
    (isLast : ∀ pair ∈ directory.entries, pair.1 < key) :
    (directory.insert key value).entries = directory.entries ++ [(key, value)] :=
  place_of_last value isLast

/-- In a directory, every pair has a smaller key than those behind it. -/
theorem lt_of_entries_append
    {directory : Directory Nat Value}
    {earlier later : List (Nat × Value)}
    (shape : directory.entries = earlier ++ later) :
    ∀ before ∈ earlier, ∀ behind ∈ later, before.1 < behind.1 := by
  have ascending := directory.ascending
  rw [shape, List.map_append, List.pairwise_append] at ascending
  intro before isEarlier behind isLater
  exact ascending.2.2 before.1 (List.mem_map_of_mem isEarlier) behind.1
    (List.mem_map_of_mem isLater)

end Directory

namespace Json

/-- No blank is skipped in front of a written value. -/
theorem skipBlanks_of_opens
    {written : List Char}
    (opens : Opens written)
    (rest : List Char) :
    skipBlanks (written ++ rest) = written ++ rest := by
  obtain ⟨char, tail, rfl, notBlank, -⟩ := opens
  exact skipBlanks_of_notBlank notBlank _

/-- Whether a written value is one that starts like a number. -/
def StartsNumber
    (written : List Char) :
    Prop :=
  ∃ (char : Char) (tail : List Char),
    written = char :: tail ∧ startsNumber char = true

/-- What starts like a number opens a value. -/
theorem StartsNumber.opens
    {written : List Char}
    (starts : StartsNumber written) :
    Opens written := by
  obtain ⟨char, tail, shape, isStart⟩ := starts
  refine ⟨char, tail, shape, ?_, ?_⟩
  · rw [isBlank, Bool.eq_false_iff]
    intro isBlank
    simp only [Bool.or_eq_true, decide_eq_true_eq] at isBlank
    rcases isBlank with ((rfl | rfl) | rfl) | rfl <;> exact absurd isStart (by decide)
  · rintro rfl
    exact absurd isStart (by decide)

/-- What starts like a number is recognized as one, whatever follows. -/
theorem StartsNumber.atNumber
    {written : List Char}
    (starts : StartsNumber written)
    (rest : List Char) :
    Codec.atNumber (written ++ rest) = true := by
  obtain ⟨char, tail, rfl, isStart⟩ := starts
  exact isStart

/-- A written natural number starts like a number. -/
theorem startsNumber_writeNatural
    (value : Nat) :
    StartsNumber (writeNatural value) := by
  obtain ⟨digit, digits, shape, isDigit⟩ := writeNatural_eq_cons value
  exact ⟨digit, digits, shape, by simp [startsNumber, isDigit]⟩

/-- A written integer starts like a number. -/
theorem startsNumber_writeInteger
    (value : Int) :
    StartsNumber (writeInteger value) := by
  unfold writeInteger
  split
  · exact ⟨'-', writeNatural value.natAbs, rfl, rfl⟩
  · exact startsNumber_writeNatural value.natAbs

/-- Digits are written in a string as they stand. -/
theorem flatMap_writeChar_writeNatural
    (value : Nat) :
    (writeNatural value).flatMap writeChar = writeNatural value := by
  have plain : ∀ digit < 10, writeChar digit.digitChar = [digit.digitChar] := by
    decide
  refine writeNatural_induction
    (motive := fun _ digits => digits.flatMap writeChar = digits)
    ?single ?behind value
  case single =>
    intro digit isDigit
    rw [List.flatMap_singleton, plain digit isDigit]
  case behind =>
    intro value digit _ isDigit higher
    rw [List.flatMap_append, higher, List.flatMap_singleton, plain digit isDigit]

namespace Codec

variable {Value : Type}

/-- A value whose written form is read back, and can be told from what may stand in its place. -/
structure Restores
    (codec : Codec Value)
    (value : Value) :
    Prop where
  reads : ∀ rest, Ends rest → codec.read (codec.write value ++ rest) = .ok (value, rest)
  opens : Opens (codec.write value)

/-- The text of a restored value is decoded to that value. -/
theorem Restores.decode_encode
    {codec : Codec Value}
    {value : Value}
    (restores : codec.Restores value) :
    codec.decode (codec.encode value) = .ok value := by
  have read := restores.reads [] ends_nil
  rw [List.append_nil] at read
  rw [decode, encode, String.toList_ofList, read]
  rfl

/-- Every string is restored. -/
theorem text_restores
    (value : String) :
    text.Restores value where
  reads := by
    intro rest _
    simp only [text, writeText_append, skipBlanks_of_notBlank (show isBlank '"' = false by rfl),
      readText_written]
  opens := ⟨'"', _, rfl, rfl, by decide⟩

/-- Both switches are restored. -/
theorem boolean_restores
    (value : Bool) :
    boolean.Restores value := by
  cases value with
  | true => exact ⟨fun rest _ => rfl, ⟨'t', _, rfl, rfl, by decide⟩⟩
  | false => exact ⟨fun rest _ => rfl, ⟨'f', _, rfl, rfl, by decide⟩⟩

/-- A written natural number below a limit of at most 64 bits is read within that limit. -/
theorem readBounded_writeNatural
    {limit value : Nat}
    (isRepresentable : limit ≤ significandLimit)
    (isBelow : value < limit)
    {rest : List Char}
    (ends : Ends rest) :
    readBounded 0 limit (writeNatural value ++ rest) = .ok ((value : Int), rest) := by
  have read := readNumber_writeNatural (Nat.lt_of_lt_of_le isBelow isRepresentable) ends
  have isWithin : Number.within 0 limit (.integer value) = .ok (value : Int) := by
    simp [Number.within, isBelow]
  rw [readBounded, read]
  simp only [isWithin]
  rfl

/-- Natural numbers below a limit of at most 64 bits are restored. -/
theorem natural_restores
    {limit value : Nat}
    (isRepresentable : limit ≤ significandLimit)
    (isBelow : value < limit) :
    (natural limit).Restores value := by
  have starts := startsNumber_writeNatural value
  refine ⟨?_, starts.opens⟩
  intro rest ends
  simp only [natural, skipBlanks_of_opens starts.opens, starts.atNumber,
    readBounded_writeNatural isRepresentable isBelow ends]
  rfl

/-- Sizes and durations that fit into 64 bits are restored. -/
theorem size_restores
    {value : Nat}
    (isBelow : value < 2 ^ 64) :
    size.Restores value :=
  natural_restores (Nat.le_refl significandLimit) isBelow

/-- Levels that fit into 32 bits are restored. -/
theorem level_restores
    {value : Nat}
    (isBelow : value < 2 ^ 32) :
    level.Restores value :=
  natural_restores (by decide) isBelow

/-- Integers that fit into 64 bits with their sign are restored. -/
theorem signed_restores
    {value : Int}
    (isAbove : -(2 ^ 63) ≤ value)
    (isBelow : value < 2 ^ 63) :
    signed.Restores value := by
  have starts := startsNumber_writeInteger value
  have isWithin : Number.within (-(2 ^ 63)) (2 ^ 63) (.integer value) = .ok value := by
    rw [Number.within, if_pos (by simpa using ⟨isAbove, isBelow⟩)]
  refine ⟨?_, starts.opens⟩
  intro rest ends
  simp only [signed, skipBlanks_of_opens starts.opens, starts.atNumber, readBounded,
    readNumber_writeInteger isAbove isBelow ends, isWithin]
  rfl

/-- A list is restored when its elements are. -/
theorem list_restores
    {item : Codec Value}
    {values : List Value}
    (each : ∀ value ∈ values, item.Restores value) :
    (list item).Restores values where
  reads := by
    intro rest _
    have read :=
      readList_written values
        (fun value member => (each value member).reads)
        (fun value member => (each value member).opens)
        rest
    simp only [list, writeList, List.cons_append, List.append_assoc, List.nil_append,
      skipBlanks_of_notBlank (show isBlank '[' = false by rfl), read]
  opens := ⟨'[', _, rfl, rfl, by decide⟩

/-- A value that may be missing is restored when it is, unless it is written like a missing one. -/
theorem optional_restores
    {item : Codec Value}
    {value? : Option Value}
    (given : ∀ value ∈ value?,
      item.Restores value ∧ (item.write value).head? ≠ some 'n') :
    (optional item).Restores value? := by
  cases value? with
  | none => exact ⟨fun rest _ => rfl, ⟨'n', _, rfl, rfl, by decide⟩⟩
  | some value =>
      obtain ⟨restores, notNull⟩ := given value rfl
      refine ⟨?_, restores.opens⟩
      intro rest ends
      obtain ⟨char, tail, shape, notBlank, -⟩ := restores.opens
      have read := restores.reads rest ends
      rw [shape] at notNull
      simp only [optional]
      rw [shape, List.cons_append] at read ⊢
      rw [skipBlanks_of_notBlank notBlank]
      split
      · next isNull =>
          cases isNull
          exact absurd rfl notNull
      · rw [read]
        rfl

/-- A constant is restored when it is the first one with its name. -/
theorem constant_restores
    {constants : List (String × Value)}
    {name : Value → String}
    {value : Value}
    (isNamed : constantNamed constants (name value) = .ok value) :
    (constant constants name).Restores value where
  reads := by
    intro rest _
    simp only [constant, writeText_append,
      skipBlanks_of_notBlank (show isBlank '"' = false by rfl), readConstant, readText_written,
      isNamed]
    rfl
  opens := ⟨'"', _, rfl, rfl, by decide⟩

/-- A number written as a key is read up to its value. -/
theorem readNumericKey_written
    {limit key : Nat}
    (isRepresentable : limit ≤ significandLimit)
    (isBelow : key < limit)
    (rest : List Char) :
    readNumericKey limit ((toString key).toList.flatMap writeChar ++ '"' :: ':' :: rest) =
      .ok (key, rest) := by
  have digits : (toString key).toList.flatMap writeChar = writeNatural key := by
    rw [Nat.toString_eq_repr, Nat.toList_repr]
    exact flatMap_writeChar_writeNatural key
  rw [digits, readNumericKey, (startsNumber_writeNatural key).atNumber,
    readBounded_writeNatural isRepresentable isBelow (ends_cons (by decide) _)]
  rfl

/-- The written entries of a map, put behind those with smaller keys, make up the map. -/
theorem takes_numericEntries
    {limit : Nat}
    (isRepresentable : limit ≤ significandLimit)
    {item : Codec Value}
    (start : Directory Nat Value)
    {final : Directory Nat Value}
    {entries : List (Nat × Value)}
    (shape : final.entries = start.entries ++ entries)
    (each : ∀ entry ∈ entries, entry.1 < limit ∧ item.Restores entry.2) :
    Takes (readNumericEntry limit item.read) start
      (entries.map (fun entry => (toString entry.1, item.write entry.2))) final := by
  -- Keys ascend, so each of them goes behind those that have been put in.
  induction entries generalizing start with
  | nil =>
      have same : start = final := by
        cases start
        cases final
        simpa using shape.symm
      exact same ▸ .nil start
  | cons entry entries inductionHypothesis =>
      obtain ⟨isBelow, restores⟩ := each entry List.mem_cons_self
      have isLast : ∀ pair ∈ start.entries, pair.1 < entry.1 :=
        fun pair member =>
          Directory.lt_of_entries_append shape pair member entry List.mem_cons_self
      have extended : final.entries = (start.insert entry.1 entry.2).entries ++ entries := by
        rw [Directory.insert_of_last entry.2 isLast, shape]
        simp
      refine .cons ?_
        (inductionHypothesis (start.insert entry.1 entry.2) extended
          (fun other member => each other (List.mem_cons_of_mem entry member)))
      intro rest ends
      simp only [readNumericEntry, readNumericKey_written isRepresentable isBelow,
        restores.reads rest ends]

/-- A map with numeric keys is restored when its keys are below the limit and its values are. -/
theorem numericMap_restores
    {limit : Nat}
    (isRepresentable : limit ≤ significandLimit)
    {item : Codec Value}
    {directory : Directory Nat Value}
    (each : ∀ entry ∈ directory.entries, entry.1 < limit ∧ item.Restores entry.2) :
    (numericMap limit item).Restores directory where
  reads := by
    intro rest _
    have taken :=
      readObject_written
        (takes_numericEntries isRepresentable .empty rfl each) rest
    simp only [numericMap, writeObject, List.cons_append, List.append_assoc, List.nil_append,
      skipBlanks_of_notBlank (show isBlank '\x7b' = false by rfl)]
    exact taken
  opens := ⟨'\x7b', _, rfl, rfl, by decide⟩

end Codec

end Json

end InferenceBatching
