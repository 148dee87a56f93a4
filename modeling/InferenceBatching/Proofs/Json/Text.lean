import InferenceBatching.Json.Text

namespace InferenceBatching.Json

/-!
# Strings read back

Every character of a written string is read back as itself: marks, blanks and
control characters through their escapes, all others as they stand. Reading a
string up to its closing quote then follows its characters one by one.
-/

/-- The written form of a hexadecimal digit is read as that digit. -/
theorem hexDigit?_hexChar :
    ∀ digit < 16, hexDigit? (hexChar digit) = some digit := by
  decide

/-- The two lower digits of a small unit, with zeros before them, stand for the unit. -/
theorem unit?_of_small
    {value : Nat}
    (isSmall : value < 256) :
    unit? '0' '0' (hexChar (value / 16)) (hexChar (value % 16)) = some value := by
  have zero : hexDigit? '0' = some 0 := hexDigit?_hexChar 0 (by decide)
  have upper := hexDigit?_hexChar (value / 16) (by omega)
  have lower := hexDigit?_hexChar (value % 16) (by omega)
  have rejoined : ((0 * 16 + 0) * 16 + value / 16) * 16 + value % 16 = value := by omega
  simp only [unit?, zero, upper, lower, Option.bind_eq_bind, Option.bind_some, rejoined]
  rfl

/-- A control character written as an escaped unit is read as itself. -/
theorem readChars_escapedUnit
    {char : Char}
    (control : isControl char = true)
    (reversed rest : List Char) :
    readChars reversed
        ('\\' :: 'u' :: '0' :: '0' ::
          hexChar (char.toNat / 16) :: hexChar (char.toNat % 16) :: rest) =
      readChars (char :: reversed) rest := by
  have isSmall : char.toNat < 0x20 := by
    simpa [isControl] using control
  have notTrailing : isTrailing char.toNat = false := by
    simp only [isTrailing, Bool.and_eq_false_iff, decide_eq_false_iff_not]
    omega
  have notLeading : isLeading char.toNat = false := by
    simp only [isLeading, Bool.and_eq_false_iff, decide_eq_false_iff_not]
    omega
  rw [readChars]
  simp [unit?_of_small (show char.toNat < 256 by omega), notTrailing, notLeading]

/-- A written character is read as itself, whatever follows. -/
theorem readChars_writeChar
    (char : Char)
    (reversed rest : List Char) :
    readChars reversed (writeChar char ++ rest) = readChars (char :: reversed) rest := by
  unfold writeChar
  split
  · next isQuote =>
      subst isQuote
      rfl
  split
  · next isBackslash =>
      subst isBackslash
      rfl
  split
  · next isBackspace =>
      subst isBackspace
      rfl
  split
  · next isFormFeed =>
      subst isFormFeed
      rfl
  split
  · next isLineFeed =>
      subst isLineFeed
      rfl
  split
  · next isReturn =>
      subst isReturn
      rfl
  split
  · next isTab =>
      subst isTab
      rfl
  split
  · next control =>
      exact readChars_escapedUnit control reversed rest
  · next notQuote notBackslash _ _ _ _ _ notControl =>
      rw [List.singleton_append, readChars.eq_def]
      simp [notQuote, notBackslash, notControl]

/-- Written characters are read one after the other up to the closing quote. -/
theorem readChars_written
    (chars reversed rest : List Char) :
    readChars reversed (chars.flatMap writeChar ++ '"' :: rest) =
      .ok (String.ofList (reversed.reverse ++ chars), rest) := by
  induction chars generalizing reversed with
  | nil =>
      rw [List.flatMap_nil, List.nil_append, readChars.eq_def]
      simp
  | cons char chars inductionHypothesis =>
      rw [List.flatMap_cons, List.append_assoc, readChars_writeChar, inductionHypothesis]
      simp

/-- A written string with more text behind it starts with its opening quote. -/
theorem writeText_append
    (text : String)
    (rest : List Char) :
    writeText text ++ rest = '"' :: (text.toList.flatMap writeChar ++ '"' :: rest) := by
  simp [writeText]

/-- From behind its opening quote, a written string is read back up to what follows. -/
theorem readText_written
    (text : String)
    (rest : List Char) :
    readText (text.toList.flatMap writeChar ++ '"' :: rest) = .ok (text, rest) := by
  rw [readText, readChars_written]
  simp

end InferenceBatching.Json
