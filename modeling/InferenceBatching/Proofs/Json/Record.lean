import InferenceBatching.Json.Record
import InferenceBatching.Proofs.Json.Codec

namespace InferenceBatching.Json

/-!
# Records read back

A written record names each of its fields once. Every key finds the field it was
written for, since no field answers to the name of a later one, and every field
that has to be given is given. So a record is restored when its fields, read one
after the other into the blank record, rebuild it (`Rebuilds`).
-/

variable {Record Value : Type}

namespace Field

/-- A field whose written value is read back, as a change that puts the value into a record. -/
def Restores
    (field : Field Record)
    (value : Record)
    (change : Record → Record) :
    Prop :=
  ∀ rest, Ends rest → field.read (field.write value ++ rest) = .ok (change, rest)

/-- A field puts its value back when the codec of the field restores that value. -/
theorem make_restores
    {name : String}
    {aliases : List String}
    {isRequired : Bool}
    {codec : Codec Value}
    {take : Record → Value}
    {put : Record → Value → Record}
    {value : Record}
    (restores : codec.Restores (take value)) :
    (make name aliases isRequired codec take put).Restores value
      (fun record => put record (take value)) := by
  intro rest ends
  simp only [make, restores.reads rest ends]
  rfl

/-- A further name changes nothing in how a field is read back. -/
theorem Restores.orNamed
    {field : Field Record}
    {value : Record}
    {change : Record → Record}
    (restores : field.Restores value change)
    (name : String) :
    (field.orNamed name).Restores value change :=
  restores

/-- Fields of which none answers to the name of a later one. -/
def Distinct
    (fields : List (Field Record)) :
    Prop :=
  fields.Pairwise (fun earlier later => earlier.answersTo later.name = false)

instance
    (fields : List (Field Record)) :
    Decidable (Distinct fields) :=
  inferInstanceAs (Decidable (List.Pairwise _ _))

/-- The name of a field finds the field, since none before it answers to that name. -/
theorem find?_of_distinct
    {earlier later : List (Field Record)}
    {field : Field Record}
    (distinct : Distinct (earlier ++ field :: later)) :
    (earlier ++ field :: later).find? (fun other => other.answersTo field.name) =
      some field := by
  have before := (List.pairwise_append.mp distinct).2.2
  have isAnswered : field.answersTo field.name = true := by
    simp [answersTo]
  have notEarlier : earlier.find? (fun other => other.answersTo field.name) = none := by
    rw [List.find?_eq_none]
    intro other isEarlier
    simpa using before other isEarlier field List.mem_cons_self
  rw [List.find?_append, notEarlier, Option.none_or]
  exact List.find?_cons_of_pos isAnswered

/-- A field has another name than every field before it. -/
theorem name_not_mem_of_distinct
    {earlier later : List (Field Record)}
    {field : Field Record}
    (distinct : Distinct (earlier ++ field :: later)) :
    field.name ∉ earlier.map Field.name := by
  have before := (List.pairwise_append.mp distinct).2.2
  intro member
  obtain ⟨other, isEarlier, sameName⟩ := List.mem_map.mp member
  have notAnswered := before other isEarlier field List.mem_cons_self
  simp [answersTo, sameName] at notAnswered

end Field

/--
Fields whose written values, put into a record one after the other, turn it into
the record they were written from.
-/
inductive Rebuilds (value : Record) :
    Record → List (Field Record) → Prop where
  | nil :
      Rebuilds value value []
  | cons
      {record : Record}
      {field : Field Record}
      {change : Record → Record}
      {fields : List (Field Record)}
      (restores : field.Restores value change)
      (others : Rebuilds value (change record) fields) :
      Rebuilds value record (field :: fields)

namespace Codec

/-- The draft of a record after the given fields have been read. -/
def draftAfter
    (record : Record)
    (fields : List (Field Record)) :
    Draft Record where
  record := record
  given := (fields.map Field.name).reverse

/-- A written field is taken into the draft that holds the fields before it. -/
theorem readRecordEntry_written
    {earlier later : List (Field Record)}
    {field : Field Record}
    (distinct : Field.Distinct (earlier ++ field :: later))
    {value : Record}
    {change : Record → Record}
    (restores : field.Restores value change)
    (record : Record)
    {rest : List Char}
    (ends : Ends rest) :
    readRecordEntry (earlier ++ field :: later) (draftAfter record earlier)
        (field.name.toList.flatMap writeChar ++ '"' :: ':' :: (field.write value ++ rest)) =
      .ok (draftAfter (change record) (earlier ++ [field]), rest) := by
  have notGiven : (draftAfter record earlier).given.contains field.name = false := by
    simpa [draftAfter] using Field.name_not_mem_of_distinct distinct
  have filled : (draftAfter record earlier).fill field change =
      draftAfter (change record) (earlier ++ [field]) := by
    simp [draftAfter, Draft.fill]
  simp only [readRecordEntry, readText_written, Field.find?_of_distinct distinct, notGiven,
    skipColon, skipBlanks_of_notBlank (show isBlank ':' = false by rfl), readField,
    restores rest ends, Except.map, filled]
  rfl

/-- The written fields of a record are taken one after the other until they rebuild it. -/
theorem takes_fields
    {fields later : List (Field Record)}
    {value record : Record}
    (rebuilds : Rebuilds value record later)
    {earlier : List (Field Record)}
    (shape : fields = earlier ++ later)
    (distinct : Field.Distinct fields) :
    Takes (readRecordEntry fields) (draftAfter record earlier)
      (later.map (fun field => (field.name, field.write value)))
      (draftAfter value fields) := by
  -- The draft holds the fields before those still to come, so none is given twice.
  induction rebuilds generalizing earlier with
  | nil =>
      rw [shape, List.append_nil]
      exact .nil _
  | @cons record field change later restores others inductionHypothesis =>
      have moved : fields = (earlier ++ [field]) ++ later := by
        rw [shape, List.append_assoc, List.singleton_append]
      refine .cons ?_ (inductionHypothesis moved)
      intro rest ends
      subst shape
      exact readRecordEntry_written distinct restores record ends

/-- A draft that holds every field is finished. -/
theorem finish_draftAfter
    (record : Record)
    (fields : List (Field Record)) :
    (draftAfter record fields).finish fields = .ok record := by
  have allGiven : fields.all (fun field =>
      !field.isRequired || (draftAfter record fields).given.contains field.name) = true := by
    rw [List.all_eq_true]
    intro field member
    have isGiven : field.name ∈ (draftAfter record fields).given :=
      List.mem_reverse.mpr (List.mem_map_of_mem member)
    simp [isGiven]
  rw [Draft.finish, if_pos allGiven]
  rfl

/-- A record is restored when its fields rebuild it from the blank one. -/
theorem record_restores
    {fields : List (Field Record)}
    {blank value : Record}
    (distinct : Field.Distinct fields)
    (rebuilds : Rebuilds value blank fields) :
    (record fields blank).Restores value where
  reads := by
    intro rest _
    have taken :=
      readObject_written (takes_fields rebuilds (List.nil_append fields).symm distinct) rest
    have read : readDraft fields blank ((record fields blank).write value ++ rest) =
        .ok (draftAfter value fields, rest) := by
      simp only [readDraft, record, writeObject, List.cons_append, List.append_assoc,
        List.nil_append, skipBlanks_of_notBlank (show isBlank '\x7b' = false by rfl)]
      exact taken
    simp only [record] at read ⊢
    rw [read]
    simp only [finish_draftAfter]
    rfl
  opens := ⟨'\x7b', _, rfl, rfl, by decide⟩

/-- A written record is told from a missing one by its brace. -/
theorem optional_record_restores
    {fields : List (Field Record)}
    {blank : Record}
    {value? : Option Record}
    (given : ∀ value ∈ value?, (record fields blank).Restores value) :
    (optional (record fields blank)).Restores value? :=
  optional_restores (fun value isGiven => ⟨given value isGiven, by simp [record, writeObject]⟩)

end Codec

end InferenceBatching.Json
