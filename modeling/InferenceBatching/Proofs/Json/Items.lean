import InferenceBatching.Json.Items
import InferenceBatching.Proofs.Json.Number
import InferenceBatching.Proofs.Json.Text

namespace InferenceBatching.Json

/-!
# Items read back

Written items stand between commas without blanks. The elements of a list are
read back when each of them is, whatever ends it. The entries of an object are
read back when every entry is taken in the state that the ones before it have
led to (`Takes`).
-/

/-- No blank is skipped in front of a character that is not blank. -/
theorem skipBlanks_of_notBlank
    {char : Char}
    (notBlank : isBlank char = false)
    (text : List Char) :
    skipBlanks (char :: text) = char :: text :=
  List.dropWhile_cons_of_neg (by simp [notBlank])

/-- Whether a written value can be told from a blank and from the end of a list. -/
def Opens
    (written : List Char) :
    Prop :=
  ∃ (char : Char) (tail : List Char),
    written = char :: tail ∧ isBlank char = false ∧ char ≠ ']'

/-- The first written item has no comma in front; every other one has. -/
theorem separated_cons
    (item : List Char)
    (items : List (List Char)) :
    separated (item :: items) = item ++ items.flatMap (',' :: ·) := by
  induction items generalizing item with
  | nil => simp [separated]
  | cons next items inductionHypothesis =>
      rw [separated, inductionHypothesis, List.flatMap_cons, List.cons_append]
      exact List.cons_ne_nil next items

/-- Every item behind the first adds its comma to the text, so the text outlasts the items. -/
theorem length_lt_separated
    (item : List Char)
    (items : List (List Char))
    (closing : Char)
    (rest : List Char) :
    items.length < (item ++ (items.flatMap (',' :: ·) ++ closing :: rest)).length := by
  induction items with
  | nil =>
      simp only [List.length_nil, List.length_append, List.length_cons]
      omega
  | cons next items inductionHypothesis =>
      simp only [List.flatMap_cons, List.length_append, List.length_cons] at inductionHypothesis ⊢
      omega

/-- What stands behind an item, a comma or the closing mark, ends it. -/
theorem ends_behindCommas
    (closing : Char)
    (isMark : closing ∈ [',', ']', '\x7d', '"'])
    (items : List (List Char))
    (rest : List Char) :
    Ends (items.flatMap (',' :: ·) ++ closing :: rest) := by
  cases items with
  | nil => exact ends_cons isMark rest
  | cons item items => exact ends_cons (by decide) _

section Elements

variable
  {Value : Type}
  {element : List Char → Reading Value}
  {write : Value → List Char}

/-- Behind a comma there is one more element. -/
theorem nextElement_behindComma
    {written : List Char}
    (opens : Opens written)
    (text : List Char) :
    nextElement false (',' :: (written ++ text)) = .ok (.another (written ++ text)) := by
  obtain ⟨char, tail, rfl, notBlank, notClosing⟩ := opens
  simp [nextElement, skipBlanks_of_notBlank (show isBlank ',' = false by rfl),
    skipBlanks_of_notBlank notBlank, notClosing]

/-- The first element stands right behind the bracket. -/
theorem nextElement_first
    {written : List Char}
    (opens : Opens written)
    (text : List Char) :
    nextElement true (written ++ text) = .ok (.another (written ++ text)) := by
  obtain ⟨char, tail, rfl, notBlank, notClosing⟩ := opens
  simp [nextElement, skipBlanks_of_notBlank notBlank, notClosing]

/-- A closing bracket ends the list, before the first element and behind any. -/
theorem nextElement_closing
    (isFirst : Bool)
    (rest : List Char) :
    nextElement isFirst (']' :: rest) = .ok (.finished rest) := by
  simp [nextElement, skipBlanks_of_notBlank (show isBlank ']' = false by rfl)]

/-- Elements behind commas are read one after the other. -/
theorem readElements_behindCommas
    (values : List Value)
    (reads : ∀ value ∈ values, ∀ rest, Ends rest →
      element (write value ++ rest) = .ok (value, rest))
    (opens : ∀ value ∈ values, Opens (write value))
    {fuel : Nat}
    (enough : values.length < fuel)
    {reversed : List Value}
    (notFirst : reversed ≠ [])
    (rest : List Char) :
    readElements element fuel reversed
        ((values.map write).flatMap (',' :: ·) ++ ']' :: rest) =
      .ok (reversed.reverse ++ values, rest) := by
  have later : reversed.isEmpty = false := by
    simpa using notFirst
  -- Every element takes one comma of the text and one unit of the fuel.
  induction values generalizing fuel reversed with
  | nil =>
      obtain ⟨fuel, rfl⟩ := Nat.exists_eq_succ_of_ne_zero (Nat.ne_zero_of_lt enough)
      simp [readElements, nextElement_closing]
  | cons value values inductionHypothesis =>
      obtain ⟨fuel, rfl⟩ := Nat.exists_eq_succ_of_ne_zero (Nat.ne_zero_of_lt enough)
      have others :=
        inductionHypothesis
          (fun other member => reads other (List.mem_cons_of_mem value member))
          (fun other member => opens other (List.mem_cons_of_mem value member))
          (Nat.lt_of_succ_lt_succ enough)
          (List.cons_ne_nil value reversed)
          rfl
      rw [List.map_cons, List.flatMap_cons, List.append_assoc, List.cons_append, readElements,
        later, nextElement_behindComma (opens value List.mem_cons_self)]
      simp [reads value List.mem_cons_self _ (ends_behindCommas ']' (by decide) _ rest), others]

/-- A written list is read back from behind its bracket when its elements are. -/
theorem readList_written
    (values : List Value)
    (reads : ∀ value ∈ values, ∀ rest, Ends rest →
      element (write value ++ rest) = .ok (value, rest))
    (opens : ∀ value ∈ values, Opens (write value))
    (rest : List Char) :
    readList element (separated (values.map write) ++ ']' :: rest) = .ok (values, rest) := by
  cases values with
  | nil =>
      simp [readList, separated, readElements, nextElement_closing]
  | cons value values =>
      have enough := length_lt_separated (write value) (values.map write) ']' rest
      rw [List.length_map] at enough
      have others :=
        readElements_behindCommas values
          (fun other member => reads other (List.mem_cons_of_mem value member))
          (fun other member => opens other (List.mem_cons_of_mem value member))
          enough
          (List.cons_ne_nil value [])
          rest
      rw [List.map_cons, separated_cons, List.append_assoc, readList, readElements,
        List.isEmpty_nil, nextElement_first (opens value List.mem_cons_self)]
      simp only [reads value List.mem_cons_self _ (ends_behindCommas ']' (by decide) _ rest),
        others]
      rfl

end Elements

section Entries

variable
  {State : Type}
  {entry : State → List Char → Reading State}

/--
Entries that a reader takes one after the other, each from behind the opening
quote of its key, starting in one state and ending in another.
-/
inductive Takes (entry : State → List Char → Reading State) :
    State → List (String × List Char) → State → Prop where
  | nil (state : State) :
      Takes entry state [] state
  | cons
      {state next final : State}
      {key : String}
      {written : List Char}
      {entries : List (String × List Char)}
      (reads : ∀ rest, Ends rest →
        entry state (key.toList.flatMap writeChar ++ '"' :: ':' :: (written ++ rest)) =
          .ok (next, rest))
      (others : Takes entry next entries final) :
      Takes entry state ((key, written) :: entries) final

/-- An entry with its key and value. -/
def writeEntry
    (entry : String × List Char) :
    List Char :=
  writeText entry.1 ++ ':' :: entry.2

/-- A written entry with more text behind it starts with the quote of its key. -/
theorem writeEntry_append
    (key : String)
    (written rest : List Char) :
    writeEntry (key, written) ++ rest =
      '"' :: (key.toList.flatMap writeChar ++ '"' :: ':' :: (written ++ rest)) := by
  simp [writeEntry, writeText]

/-- A closing brace ends the object, before the first entry and behind any. -/
theorem nextKey_closing
    (isFirst : Bool)
    (rest : List Char) :
    nextKey isFirst ('\x7d' :: rest) = .ok (.finished rest) := by
  simp [nextKey, skipBlanks_of_notBlank (show isBlank '\x7d' = false by rfl)]

/-- Behind a comma there is the key of one more entry. -/
theorem nextKey_behindComma
    (key : List Char) :
    nextKey false (',' :: '"' :: key) = .ok (.another key) := by
  simp [nextKey, skipBlanks_of_notBlank (show isBlank ',' = false by rfl),
    skipBlanks_of_notBlank (show isBlank '"' = false by rfl)]

/-- The key of the first entry stands right behind the brace. -/
theorem nextKey_first
    (key : List Char) :
    nextKey true ('"' :: key) = .ok (.another key) := by
  simp [nextKey, skipBlanks_of_notBlank (show isBlank '"' = false by rfl)]

/-- Entries behind commas are taken one after the other. -/
theorem readEntries_behindCommas
    {state final : State}
    {entries : List (String × List Char)}
    (takes : Takes entry state entries final)
    {fuel : Nat}
    (enough : entries.length < fuel)
    (rest : List Char) :
    readEntries entry fuel false state
        ((entries.map writeEntry).flatMap (',' :: ·) ++ '\x7d' :: rest) =
      .ok (final, rest) := by
  induction takes generalizing fuel with
  | nil state =>
      obtain ⟨fuel, rfl⟩ := Nat.exists_eq_succ_of_ne_zero (Nat.ne_zero_of_lt enough)
      simp [readEntries, nextKey_closing]
  | cons reads others inductionHypothesis =>
      obtain ⟨fuel, rfl⟩ := Nat.exists_eq_succ_of_ne_zero (Nat.ne_zero_of_lt enough)
      have remaining := inductionHypothesis (Nat.lt_of_succ_lt_succ enough)
      rw [List.map_cons, List.flatMap_cons, List.append_assoc, List.cons_append,
        writeEntry_append, readEntries, nextKey_behindComma]
      simp only [reads _ (ends_behindCommas '\x7d' (by decide) _ rest), remaining]

/-- A written object is read back from behind its brace when its entries are taken. -/
theorem readObject_written
    {state final : State}
    {entries : List (String × List Char)}
    (takes : Takes entry state entries final)
    (rest : List Char) :
    readObject entry state (separated (entries.map writeEntry) ++ '\x7d' :: rest) =
      .ok (final, rest) := by
  cases takes with
  | nil =>
      simp [readObject, separated, readEntries, nextKey_closing]
  | @cons _ next _ key written entries reads others =>
      have enough :=
        length_lt_separated (writeEntry (key, written)) (entries.map writeEntry) '\x7d' rest
      rw [List.length_map] at enough
      have remaining := readEntries_behindCommas others enough rest
      rw [List.map_cons, separated_cons, List.append_assoc, readObject, readEntries]
      rw [writeEntry_append] at remaining ⊢
      rw [nextKey_first]
      simp only [reads _ (ends_behindCommas '\x7d' (by decide) _ rest), remaining]

end Entries

end InferenceBatching.Json
