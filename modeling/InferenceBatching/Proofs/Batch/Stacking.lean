import InferenceBatching.Batch.Stacking
import InferenceBatching.Proofs.Batch.Shapes

namespace InferenceBatching

/-!
# Rows of a stacked input

Lawful operations stack tensors of one shape and element type, and what was stacked can
be read back row by row. So an input of a batch whose requests agree stacks if its tensors
share an element type, and has a row for each position: the tensor carried there, or zeros.
-/

/-- What can be seen of tensors: extents, element type, rows, and whether all is zero. -/
structure TensorView (Value Element : Type) where
  dims : Value → List Nat
  elementType : Value → Element
  row? : Value → Nat → Option Value
  IsZero : Value → Prop

/-- Zeros are like the tensor whose place they take, and tensors that are alike stack in order. -/
structure TensorOperations.Lawful
    {Value Element : Type}
    (tensors : TensorOperations Value)
    (view : TensorView Value Element) :
    Prop where
  zerosLike :
    ∀ tensor,
      view.dims (tensors.zerosLike tensor) = view.dims tensor ∧
        view.elementType (tensors.zerosLike tensor) = view.elementType tensor ∧
        view.IsZero (tensors.zerosLike tensor)
  stack? :
    ∀ rows dims elementType,
      rows ≠ [] →
        (∀ row ∈ rows, view.dims row = dims ∧ view.elementType row = elementType) →
          ∃ stacked,
            tensors.stack? rows = some stacked ∧
              view.dims stacked = rows.length :: dims ∧
              view.elementType stacked = elementType ∧
              ∀ index row, rows[index]? = some row → view.row? stacked index = some row

namespace Tensor

/-- What a tensor holds at a position of its leading axis, if the axis reaches that far. -/
def row?
    (tensor : Tensor)
    (index : Nat) :
    Option Tensor :=
  match isDims : tensor.dims with
  | [] => none
  | count :: dims =>
      if inside : index < count then
        some {
          dims := dims
          elementType := tensor.elementType
          elements :=
            (tensor.elements.drop (index * elementCount dims)).take (elementCount dims)
          elements_length := by
            have isCount : tensor.elements.length = count * elementCount dims := by
              rw [tensor.elements_length, isDims]
              rfl
            have within : (index + 1) * elementCount dims ≤ count * elementCount dims :=
              Nat.mul_le_mul_right _ inside
            rw [Nat.succ_mul] at within
            rw [List.length_take, List.length_drop]
            omega
        }
      else
        none

/-- In rows of one length that stand one after the other, each is where its index says. -/
theorem elements_of_row
    {rows : List Tensor}
    {size : Nat}
    (sameSize : ∀ row ∈ rows, row.elements.length = size)
    {index : Nat}
    {row : Tensor}
    (isRow : rows[index]? = some row) :
    ((rows.flatMap elements).drop (index * size)).take size = row.elements := by
  induction rows generalizing index with
  | nil => contradiction
  | cons first rows inductionHypothesis =>
      have isSize : first.elements.length = size := sameSize first List.mem_cons_self
      rw [List.flatMap_cons]
      cases index with
      | zero =>
          have same : first = row := Option.some.inj isRow
          subst same
          rw [Nat.zero_mul, List.drop_zero, ← isSize, List.take_left]
      | succ index =>
          have later :=
            inductionHypothesis (fun row member => sameSize row (List.mem_cons_of_mem _ member))
              isRow
          have behind : (index + 1) * size = first.elements.length + index * size := by
            rw [isSize, Nat.succ_mul, Nat.add_comm]
          rw [behind, ← List.drop_drop, List.drop_left]
          exact later

/-- Tensors that are alike stack, and the rows of the stack are those tensors. -/
theorem stack?_of_alike
    {rows : List Tensor}
    {dims : List Nat}
    {elementType : ElementType}
    (notEmpty : rows ≠ [])
    (alike : ∀ row ∈ rows, row.dims = dims ∧ row.elementType = elementType) :
    ∃ stacked,
      stack? rows = some stacked ∧
        stacked.dims = rows.length :: dims ∧
        stacked.elementType = elementType ∧
        ∀ index row, rows[index]? = some row → stacked.row? index = some row := by
  obtain ⟨first, rest, isRows⟩ := List.exists_cons_of_ne_nil notEmpty
  subst isRows
  obtain ⟨firstDims, firstType⟩ := alike first List.mem_cons_self
  have restAlike : rest.all first.isLike = true := by
    rw [List.all_eq_true]
    intro row member
    obtain ⟨isDims, isType⟩ := alike row (List.mem_cons_of_mem first member)
    simp [isLike, isDims, isType, firstDims, firstType]
  rw [stack?, dif_pos restAlike]
  refine ⟨_, rfl, congrArg (List.cons (rest.length + 1)) firstDims, firstType, ?_⟩
  intro index row isRow
  obtain ⟨inRange, _⟩ := List.getElem?_eq_some_iff.mp isRow
  obtain ⟨rowDims, rowType⟩ := alike row (List.mem_of_getElem? isRow)
  have sameSize :
      ∀ other ∈ first :: rest, other.elements.length = elementCount first.dims := by
    intro other member
    rw [other.elements_length, (alike other member).1, firstDims]
  have isElements := elements_of_row sameSize isRow
  rw [List.length_cons] at inRange
  simp only [row?, dif_pos inRange, Option.some.injEq]
  cases row
  simp only [Tensor.mk.injEq]
  exact ⟨firstDims.trans rowDims.symm, firstType.trans rowType.symm, isElements⟩

/-- What can be seen of tensors with integer elements. -/
def view :
    TensorView Tensor ElementType where
  dims := dims
  elementType := elementType
  row? := row?
  IsZero tensor := ∀ element ∈ tensor.elements, element = 0

theorem lawful_operations :
    operations.Lawful view where
  zerosLike _ := ⟨rfl, rfl, fun _ member => List.eq_of_mem_replicate member⟩
  stack? _ _ _ notEmpty alike := stack?_of_alike notEmpty alike

end Tensor

namespace Batch

variable {Value Element : Type}
variable {tensors : TensorOperations Value}
variable {view : TensorView Value Element}
variable {input? : Request → String → Option Value}
variable {batch : Batch}
variable {name : String}
variable {dims : List Nat}
variable {elementType : Element}

/-- Whoever carries a name in a batch has its tensor in this shape and with these elements. -/
def Carries
    (batch : Batch)
    (view : TensorView Value Element)
    (input? : Request → String → Option Value)
    (name : String)
    (dims : List Nat)
    (elementType : Element) :
    Prop :=
  ∀ request ∈ batch.requests, ∀ tensor ∈ input? request name,
    view.dims tensor = dims ∧ view.elementType tensor = elementType

/-- A position of a batch carries what its request does. -/
theorem mem_requests_of_carried
    {entry : BatchEntry}
    (member : entry ∈ batch.entries)
    {tensor : Value}
    (carried : carried? input? entry name = some tensor) :
    ∃ request ∈ batch.requests, input? request name = some tensor := by
  obtain ⟨request, isRequest, isInput⟩ := Option.bind_eq_some_iff.mp carried
  exact ⟨request, List.mem_filterMap.mpr ⟨entry, member, isRequest⟩, isInput⟩

/--
An input that some request carries, always in one shape and element type, stacks. There
is a row for each position: the tensor carried there, or zeros of that shape and type.
-/
theorem stackedWith_of_carries
    (lawful : tensors.Lawful view)
    (isCarried : ∃ request ∈ batch.requests, (input? request name).isSome = true)
    (carries : batch.Carries view input? name dims elementType) :
    ∃ stacked,
      batch.stackedWith tensors input? name = .ok stacked ∧
        view.dims stacked = batch.size :: dims ∧
        view.elementType stacked = elementType ∧
        ∀ index entry,
          batch.entries[index]? = some entry →
            ∃ row,
              view.row? stacked index = some row ∧
                view.dims row = dims ∧
                view.elementType row = elementType ∧
                (∀ tensor ∈ carried? input? entry name, row = tensor) ∧
                (carried? input? entry name = none → view.IsZero row) := by
  obtain ⟨carrier, isCarrier, carried⟩ := isCarried
  have found : (batch.requests.findSome? (fun request => input? request name)).isSome = true :=
    List.findSome?_isSome_iff.mpr ⟨carrier, isCarrier, carried⟩
  obtain ⟨template, isTemplate⟩ := Option.isSome_iff_exists.mp found
  obtain ⟨origin, isOrigin, fromOrigin⟩ := List.exists_of_findSome?_eq_some isTemplate
  obtain ⟨templateDims, templateType⟩ := carries origin isOrigin template fromOrigin
  obtain ⟨zerosDims, zerosType, areZeros⟩ := lawful.zerosLike template
  let rowOf := fun (entry : BatchEntry) =>
    (carried? input? entry name).getD (tensors.zerosLike template)
  have alike :
      ∀ entry ∈ batch.entries,
        view.dims (rowOf entry) = dims ∧ view.elementType (rowOf entry) = elementType := by
    intro entry member
    cases isTensor : carried? input? entry name with
    | none =>
        simp only [rowOf, isTensor, Option.getD_none]
        exact ⟨zerosDims.trans templateDims, zerosType.trans templateType⟩
    | some tensor =>
        obtain ⟨request, isRequest, isInput⟩ := mem_requests_of_carried member isTensor
        simp only [rowOf, isTensor, Option.getD_some]
        exact carries request isRequest tensor isInput
  have notEmpty : batch.entries.map rowOf ≠ [] := by
    obtain ⟨entry, member, _⟩ := List.mem_filterMap.mp isCarrier
    exact List.ne_nil_of_mem (List.mem_map_of_mem member)
  have rowsAlike :
      ∀ row ∈ batch.entries.map rowOf,
        view.dims row = dims ∧ view.elementType row = elementType := by
    intro row member
    obtain ⟨entry, inBatch, isRow⟩ := List.mem_map.mp member
    exact isRow ▸ alike entry inBatch
  obtain ⟨stacked, isStacked, stackedDims, stackedType, rows⟩ :=
    lawful.stack? _ _ _ notEmpty rowsAlike
  refine ⟨stacked, ?_, ?_, stackedType, ?_⟩
  · simp only [stackedWith, isTemplate]
    rw [isStacked]
  · rw [stackedDims, List.length_map]
    rfl
  · intro index entry isEntry
    obtain ⟨rowDims, rowType⟩ := alike entry (List.mem_of_getElem? isEntry)
    refine ⟨rowOf entry, rows index (rowOf entry) (by simp [isEntry]), rowDims, rowType, ?_, ?_⟩
    · intro tensor isTensor
      simp only [rowOf, Option.mem_def.mp isTensor, Option.getD_some]
    · intro carriesNone
      simp only [rowOf, carriesNone, Option.getD_none]
      exact areZeros

end Batch

end InferenceBatching
