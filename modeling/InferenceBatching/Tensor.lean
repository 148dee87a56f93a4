import InferenceBatching.Number.Rounding

namespace InferenceBatching

/-!
# Tensors

A tensor has extents, an element type, and its elements in row-major order. The
elements are integers; single-precision elements are the integers that single
precision can hold.
-/

/-- The type of a tensor's elements. -/
inductive ElementType where
  | int64
  | float32
  deriving Repr, DecidableEq

/-- The element that stands for an integer in an element type. -/
def ElementType.represent :
    ElementType →
    Int →
    Int
  | .int64, value => value
  | .float32, value => Number.roundSignedBits Number.singlePrecision value

/-- How many elements a tensor with the given extents has. -/
def elementCount
    (dims : List Nat) :
    Nat :=
  dims.foldr (· * ·) 1

/-- A rectangular array of numbers in row-major order. -/
structure Tensor where
  dims : List Nat
  elementType : ElementType
  elements : List Int
  elements_length : elements.length = elementCount dims
  deriving Repr, DecidableEq

namespace Tensor

/-- The tensor of some elements, cut to or filled with zeros up to the extents. -/
def ofElements
    (dims : List Nat)
    (elementType : ElementType)
    (elements : List Int) :
    Tensor where
  dims := dims
  elementType := elementType
  elements :=
    let given := (elements.take (elementCount dims)).map elementType.represent
    given ++ List.replicate (elementCount dims - given.length) 0
  elements_length := by
    simp only [List.length_append, List.length_map, List.length_take, List.length_replicate]
    omega

/-- The tensor of zeros with the extents and element type of another. -/
def zerosLike
    (tensor : Tensor) :
    Tensor where
  dims := tensor.dims
  elementType := tensor.elementType
  elements := List.replicate (elementCount tensor.dims) 0
  elements_length := List.length_replicate

/-- The elements in signed 64 bits; one that lies beyond them gives the nearest that does not. -/
def integers
    (tensor : Tensor) :
    List Int :=
  tensor.elements.map (fun element => max (-(2 ^ 63)) (min element (2 ^ 63 - 1)))

/-- Whether a tensor has the extents and the element type of another. -/
def isLike
    (template : Tensor)
    (tensor : Tensor) :
    Bool :=
  tensor.dims = template.dims && tensor.elementType = template.elementType

/-- Rows of one shape have as many elements together as the rows times the shape. -/
private theorem flatMap_elements_length
    (template : Tensor)
    (rows : List Tensor)
    (alike : rows.all template.isLike = true) :
    (rows.flatMap Tensor.elements).length = rows.length * elementCount template.dims := by
  induction rows with
  | nil => simp
  | cons row rows inductionHypothesis =>
      simp only [List.all_cons, Bool.and_eq_true, isLike, decide_eq_true_eq] at alike
      have remaining := inductionHypothesis alike.2
      simp only [List.flatMap_cons, List.length_append, row.elements_length, alike.1.1,
        remaining, List.length_cons, Nat.succ_mul]
      omega

/--
Join tensors along a new leading axis. Only tensors with the same extents and
the same element type stack, and there has to be at least one.
-/
def stack? :
    List Tensor →
    Option Tensor
  | [] => none
  | first :: rest =>
      if alike : rest.all first.isLike = true then
        some {
          dims := (rest.length + 1) :: first.dims
          elementType := first.elementType
          elements := first.elements ++ rest.flatMap Tensor.elements
          elements_length := by
            rw [List.length_append, first.elements_length,
              flatMap_elements_length first rest alike]
            simp only [elementCount, List.foldr_cons, Nat.succ_mul]
            omega
        }
      else
        none

end Tensor

/-- A tensor under the name of a model's input or output. -/
structure NamedTensor where
  name : String
  tensor : Tensor
  deriving Repr, DecidableEq

/-- The first tensor with a name. -/
def findTensor?
    (tensors : List NamedTensor)
    (name : String) :
    Option Tensor :=
  (tensors.find? (fun named => named.name = name)).map NamedTensor.tensor

end InferenceBatching
